import Sams.Lib.Upserts
import Sams.School.Applying

/-!
# The ordinals of imported grades

An import plans an ordinal for each spelling of a new grade before it reads the first row,
and takes it from the plan when a row creates the grade. A place in the plan goes
unused where the rows of its spelling are skipped, where the row that creates the grade has
an ordinal of its own, and where another spelling of the grade has created it; and the plan
does not look at the ordinals of the file.

**`fileOrder_iff`**: the grades that an import creates for rows without an ordinal are
numbered without a gap in the order of the file, above the ordinals of before and apart from
those of the file, if and only if the places that their rows take in the plan are in that
order with none unused between them, no ordinal of the file is the number of such a place, and
no row gives one to such a grade.
-/

namespace Sams.School

open Programs Rows Upserts TenantRepository

section Imports

variable [Unicode]

/-! ## Names and ordinals -/

/-- The name of a level, all but the case of its letters. -/
def levelName (l : LevelRow) : String := Unicode.sqlLower l.name

/-- What a row makes of the level of its grade. -/
def levelPatch (row : ImportRow) : Patch levelName where
  target := nameKey row.grade
  patch l :=
    { l with
      name := Text.strip row.grade
      iscedLevel := (number row.gradeIscedLevel).or l.iscedLevel
      ageBandMin := (number row.gradeAgeMin).or l.ageBandMin
      ageBandMax := (number row.gradeAgeMax).or l.ageBandMax
      ordinal := (number row.gradeOrdinal).or l.ordinal
      isActive := parseImportBool row.gradeActive true }
  key_patch _ _ := rfl

/-- The level of the row, in the tables `t`. -/
def levelUpsert (row : ImportRow) (ordinals : List (String × Int)) (t : Tables) :
    Upsert levelName where
  toPatch := levelPatch row
  fresh :=
    { levelId := t.seq.level, name := row.grade
      iscedLevel := some ((number row.gradeIscedLevel).getD 1)
      ageBandMin := some ((number row.gradeAgeMin).getD 6)
      ageBandMax := some ((number row.gradeAgeMax).getD 7)
      ordinal := some ((row.fields t ordinals).ordinal.getD 1)
      isActive := parseImportBool row.gradeActive true }
  key_fresh := (nameKey_grade row).symm

/-- What is followed here of a level. -/
def graded (l : LevelRow) : String × Option Int := (levelName l, l.ordinal)

/-- The ordinal with which a row creates a grade. -/
def firstOrdinal (ordinals : List (String × Int)) (row : ImportRow) : Int :=
  ((number row.gradeOrdinal).or (ordinals.lookup row.grade)).getD 1

/-- What a row makes of the name and the ordinal of its grade. -/
def gradeUpsert (ordinals : List (String × Int)) (row : ImportRow) :
    Upsert (Prod.fst : String × Option Int → String) where
  target := nameKey row.grade
  patch p := (p.1, (number row.gradeOrdinal).or p.2)
  key_patch _ h := h
  fresh := (nameKey row.grade, some (firstOrdinal ordinals row))
  key_fresh := rfl

section Row

variable {row : ImportRow} {ordinals : List (String × Int)} {t : Tables} {d d' : Db}

theorem levelUpsert_withGrade (hkeyed : Keyed LevelRow.levelId t.levels) :
    (row.withGrade ordinals t).levels = (levelUpsert row ordinals t).apply t.levels := by
  have hfind : t.levels.find? (fun l => levelName l = (levelUpsert row ordinals t).target) =
      gradeNamed t row.grade := rfl
  unfold ImportRow.withGrade gradeWritten
  cases hg : gradeNamed t row.grade with
  | none =>
    rw [Upsert.apply_of_none (hfind.trans hg)]
    rfl
  | some current =>
    rw [Upsert.apply_of_some hkeyed (hfind.trans hg)]
    have hordinal : (row.fields t ordinals).ordinal = number row.gradeOrdinal := by
      unfold ImportRow.fields
      simp [hg]
    refine List.map_congr_left fun l hl => ?_
    by_cases hid : l.levelId = current.levelId
    · obtain rfl : l = current := hkeyed.eq_of_key_eq hl (List.mem_of_find?_eq_some hg) hid
      simp only [decide_true, if_true]
      rw [hordinal]
      rfl
    · simp [hid]

theorem graded_withGrade : (row.withGrade ordinals d.val).levels.map graded =
    (gradeUpsert ordinals row).apply (d.val.levels.map graded) := by
  rw [levelUpsert_withGrade d.ok.keys.levels]
  refine Upsert.apply_map (fun _ => rfl) rfl (fun l hl => ?_) fun hnew => ?_
  · exact Prod.ext (((levelPatch row).key_patch l hl).trans hl.symm) rfl
  · have hnone : gradeNamed d.val row.grade = none := by
      rw [← Option.not_isSome_iff_eq_none, gradeNamed_isSome, List.map_map]
      exact hnew
    refine Prod.ext (levelUpsert row ordinals d.val).key_fresh ?_
    show some ((row.fields d.val ordinals).ordinal.getD 1) = some (firstOrdinal ordinals row)
    unfold ImportRow.fields firstOrdinal
    cases number row.gradeOrdinal with
    | none => simp [hnone]
    | some n => simp

/-- **One row** writes its grade if its cells can be read. -/
theorem graded_row {n : Nat} {r : RowResult}
    (h : resolveImportRow ordinals true n row d = .ok r d') :
    d'.val.levels.map graded =
      upserts (if row.Whole then [gradeUpsert ordinals row] else []) (d.val.levels.map graded) := by
  have hwritten : (row.written ordinals d.val).levels = (row.withGrade ordinals d.val).levels := by
    unfold ImportRow.written
    split
    · exact (classWritten_rest _ _ _).1
    · rfl
  rcases import_cases row ordinals d n with
    ⟨-, e, d₁, he⟩ | ⟨-, hnot, r', hr', -⟩ | ⟨-, hwhole, -, r', d₁, hr', -, hval⟩ |
    ⟨-, hwhole, -, r', d₁, hr', -, hval⟩
  · rw [h] at he
    cases he
  · rw [h] at hr'
    cases hr'
    rw [if_neg hnot]
    rfl
  · rw [h] at hr'
    cases hr'
    rw [if_pos hwhole, hval, graded_withGrade]
    rfl
  · rw [h] at hr'
    cases hr'
    rw [if_pos hwhole, hval, hwritten, graded_withGrade]
    rfl

/-- **A run** of rows. -/
theorem graded_importing {rows : List (ImportRow × Nat)} {results : List RowResult}
    (h : importing ordinals rows d = .ok results d') :
    d'.val.levels.map graded =
      upserts (((rows.map Prod.fst).filter (·.Whole)).map (gradeUpsert ordinals))
        (d.val.levels.map graded) := by
  induction rows generalizing d results with
  | nil =>
    obtain ⟨-, rfl⟩ := pure_eq_ok.1 h
    rfl
  | cons p rows ih =>
    unfold importing at h
    rw [List.mapM_cons] at h
    obtain ⟨r, d₁, hr, h⟩ := bind_eq_ok.1 h
    obtain ⟨rs, d₂, hrs, h⟩ := bind_eq_ok.1 h
    obtain ⟨-, rfl⟩ := pure_eq_ok.1 h
    rw [ih hrs, graded_row hr, ← upserts_append]
    refine congrArg (fun us => upserts us (d.val.levels.map graded)) ?_
    rw [List.map_cons, List.filter_cons]
    by_cases hwhole : p.1.Whole
    · rw [if_pos hwhole, if_pos (decide_eq_true hwhole)]
      rfl
    · rw [if_neg hwhole, if_neg (by simpa using hwhole)]
      rfl

/-- The levels of before stay first, each under its name. -/
theorem levelKeys_importing {rows : List (ImportRow × Nat)} {results : List RowResult}
    (h : importing ordinals rows d = .ok results d') :
    ∃ later, d'.val.levels.map levelKey = d.val.levels.map levelKey ++ later := by
  induction rows generalizing d results with
  | nil =>
    obtain ⟨-, rfl⟩ := pure_eq_ok.1 h
    exact ⟨[], (List.append_nil _).symm⟩
  | cons p rows ih =>
    unfold importing at h
    rw [List.mapM_cons] at h
    obtain ⟨r, d₁, hr, h⟩ := bind_eq_ok.1 h
    obtain ⟨rs, d₂, hrs, h⟩ := bind_eq_ok.1 h
    obtain ⟨-, rfl⟩ := pure_eq_ok.1 h
    have hrow : ∃ first, d₁.val.levels.map levelKey = d.val.levels.map levelKey ++ first := by
      rcases import_cases p.1 ordinals d (p.2 + 2) with
        ⟨-, e, d₂, he⟩ | ⟨-, -, r', hr', -⟩ | ⟨-, -, -, r', d₂, hr', -, hval⟩ | ⟨-, -, -, r', d₂,
          hr', -, hval⟩
      · rw [hr] at he
        cases he
      all_goals
        rw [hr] at hr'
        cases hr'
      · exact ⟨[], (List.append_nil _).symm⟩
      · exact ⟨_, hval ▸ levels_withGrade d.ok.keys.levels p.1 ordinals⟩
      · exact ⟨_, hval ▸ (levels_written p.1 ordinals d).1⟩
    obtain ⟨first, hfirst⟩ := hrow
    obtain ⟨later, hlater⟩ := ih hrs
    exact ⟨first ++ later, by rw [hlater, hfirst, List.append_assoc]⟩

/-! ## Grades that are created -/

/-- The row that creates the grade of that name, if the import creates it. -/
def firstRow (rows : List ImportRow) (name : String) : Option ImportRow :=
  rows.find? fun r => r.Whole ∧ nameKey r.grade = name

/-- The ordinal that rows leave of the one that is there. -/
def lastOrdinal (rows : List ImportRow) (o : Option Int) : Option Int :=
  rows.foldl (fun o r => (number r.gradeOrdinal).or o) o

/-- Rows without an ordinal leave the one that is there. -/
theorem lastOrdinal_of_none {rows : List ImportRow} (h : ∀ r ∈ rows, number r.gradeOrdinal = none)
    (o : Option Int) : lastOrdinal rows o = o := by
  induction rows generalizing o with
  | nil => rfl
  | cons r rows ih =>
    have hr : (number r.gradeOrdinal).or o = o := by
      rw [h r List.mem_cons_self]
      rfl
    show lastOrdinal rows ((number r.gradeOrdinal).or o) = o
    rw [hr]
    exact ih (fun x hx => h x (List.mem_cons_of_mem r hx)) o

/-- A row with an ordinal makes it one of the rows'. -/
theorem lastOrdinal_of_some {rows : List ImportRow} {row : ImportRow} (hrow : row ∈ rows)
    (hsome : number row.gradeOrdinal ≠ none) (o : Option Int) :
    ∃ r ∈ rows, number r.gradeOrdinal ≠ none ∧ lastOrdinal rows o = number r.gradeOrdinal := by
  induction rows generalizing o row with
  | nil => cases hrow
  | cons r rows ih =>
    by_cases hlater : ∃ x ∈ rows, number x.gradeOrdinal ≠ none
    · obtain ⟨x, hx, hxsome⟩ := hlater
      obtain ⟨y, hy, hysome, hlast⟩ := ih hx hxsome ((number r.gradeOrdinal).or o)
      exact ⟨y, List.mem_cons_of_mem r hy, hysome, hlast⟩
    · have hnone : ∀ x ∈ rows, number x.gradeOrdinal = none := fun x hx =>
        not_not.1 fun hxsome => hlater ⟨x, hx, hxsome⟩
      have hr : row = r := (List.mem_cons.1 hrow).resolve_right fun hin => hsome (hnone row hin)
      subst hr
      refine ⟨row, List.mem_cons_self, hsome, ?_⟩
      show lastOrdinal rows ((number row.gradeOrdinal).or o) = _
      rw [lastOrdinal_of_none hnone]
      obtain ⟨n, hn⟩ := Option.ne_none_iff_exists'.1 hsome
      rw [hn]
      rfl

/-- The patches of a grade write its ordinal. -/
theorem patched_ordinal (ordinals : List (String × Int)) {rows : List ImportRow}
    {p : String × Option Int} (h : ∀ r ∈ rows, nameKey r.grade = p.1) :
    patched ((rows.map (gradeUpsert ordinals)).map Upsert.toPatch) p =
      (p.1, lastOrdinal rows p.2) := by
  induction rows generalizing p with
  | nil => rfl
  | cons r rows ih =>
    have hon : (gradeUpsert ordinals r).toPatch.on p = (p.1, (number r.gradeOrdinal).or p.2) :=
      if_pos (h r List.mem_cons_self).symm
    rw [List.map_cons, List.map_cons, patched_cons, hon,
      ih (p := (p.1, (number r.gradeOrdinal).or p.2)) fun x hx => h x (List.mem_cons_of_mem r hx)]
    rfl

/-- A level that the import created. -/
def NewLevel (d d' : Db) (l : LevelRow) : Prop :=
  l ∈ d'.val.levels ∧ l.levelId ∉ d.val.levels.map LevelRow.levelId

section Import

variable {rows : List ImportRow} {results : List RowResult} {l l' : LevelRow} {name : String}

theorem graded_import (h : importAcademicRows rows d = .ok results d') :
    d'.val.levels.map graded =
      upserts ((rows.filter (·.Whole)).map (gradeUpsert (plannedOrdinals rows d)))
      (d.val.levels.map graded) := by
  have himport : importing (plannedOrdinals rows d) rows.zipIdx d = .ok results d' := h
  have hrows : rows.zipIdx.map Prod.fst = rows := by simp
  rw [graded_importing himport, hrows]

/-- The levels of before come first, each under its name, and then others, each
with a name of its own. -/
theorem levels_import (h : importAcademicRows rows d = .ok results d') :
    ∃ old new, d'.val.levels = old ++ new ∧ old.map levelKey = d.val.levels.map levelKey ∧
      (∀ l ∈ new, levelName l ∉ d.val.levels.map levelName) ∧ Keyed levelName new := by
  have himport : importing (plannedOrdinals rows d) rows.zipIdx d = .ok results d' := h
  obtain ⟨later, hlater⟩ := levelKeys_importing himport
  obtain ⟨old, new, hsplit, hold, -⟩ := List.map_eq_append_iff.1 hlater
  obtain ⟨more, hkeys, hother, hnodup⟩ :=
    keys_upserts ((rows.filter (·.Whole)).map (gradeUpsert (plannedOrdinals rows d)))
      (d.val.levels.map graded)
  rw [← graded_import h, List.map_map, List.map_map, hsplit, List.map_append] at hkeys
  rw [List.map_map] at hother
  have holdNames : old.map levelName = d.val.levels.map levelName := by
    have hnames := congrArg (List.map Prod.snd) hold
    rwa [List.map_map, List.map_map] at hnames
  have hnew : new.map levelName = more := by
    rw [← List.append_cancel_left_eq (d.val.levels.map levelName), ← holdNames]
    exact hkeys.trans (by rw [holdNames]; rfl)
  refine ⟨old, new, hsplit, hold, fun l hl => ?_, ?_⟩
  · exact hother _ (hnew ▸ List.mem_map_of_mem hl)
  · unfold Keyed
    rw [hnew]
    exact hnodup

/-- A level was created if and only if no level of before had its name. -/
theorem created_iff (h : importAcademicRows rows d = .ok results d') (hl : l ∈ d'.val.levels) :
    NewLevel d d' l ↔ levelName l ∉ d.val.levels.map levelName := by
  obtain ⟨old, new, hsplit, hold, hnew, -⟩ := levels_import h
  have holdIds : old.map LevelRow.levelId = d.val.levels.map LevelRow.levelId := by
    have hids := congrArg (List.map Prod.fst) hold
    rwa [List.map_map, List.map_map] at hids
  have hids : (old.map LevelRow.levelId ++ new.map LevelRow.levelId).Nodup := by
    rw [← List.map_append, ← hsplit]
    exact d'.ok.keys.levels
  unfold NewLevel
  rw [← holdIds]
  rcases List.mem_append.1 (hsplit ▸ hl) with hin | hin
  · refine iff_of_false (fun hcreated => hcreated.2 (List.mem_map_of_mem hin)) fun hname => hname ?_
    have hkey : levelKey l ∈ d.val.levels.map levelKey := hold ▸ List.mem_map_of_mem hin
    obtain ⟨l₀, hl₀, hsame⟩ := List.mem_map.1 hkey
    exact List.mem_map.2 ⟨l₀, hl₀, congrArg Prod.snd hsame⟩
  · refine iff_of_true ⟨hl, fun hid => ?_⟩ (hnew l hin)
    exact (List.nodup_append.1 hids).2.2 _ hid _ (List.mem_map_of_mem hin) rfl

/-- Of each name one level was created. -/
theorem created_unique (h : importAcademicRows rows d = .ok results d') (hl : NewLevel d d' l)
    (hl' : NewLevel d d' l') (hname : levelName l = levelName l') : l = l' := by
  obtain ⟨old, new, hsplit, hold, -, hkeyed⟩ := levels_import h
  have hin : ∀ {x}, NewLevel d d' x → x ∈ new := by
    intro x hx
    refine (List.mem_append.1 (hsplit ▸ hx.1)).resolve_left fun hxold => ?_
    have hkey : levelKey x ∈ d.val.levels.map levelKey := hold ▸ List.mem_map_of_mem hxold
    obtain ⟨l₀, hl₀, hsame⟩ := List.mem_map.1 hkey
    exact hx.2 (List.mem_map.2 ⟨l₀, hl₀, congrArg Prod.fst hsame⟩)
  exact hkeyed.eq_of_key_eq (hin hl) (hin hl') hname

/-- **The ordinal of a level that was created**: the last one that a later row has, or the one of
the row that created it. -/
theorem created_ordinal (h : importAcademicRows rows d = .ok results d') (hl : NewLevel d d' l) :
    ∃ row rest, (rows.filter fun r => r.Whole ∧ nameKey r.grade = levelName l) = row :: rest ∧
      gradeNamed d.val row.grade = none ∧
      l.ordinal = lastOrdinal rest (some (firstOrdinal (plannedOrdinals rows d) row)) := by
  have hnew := (created_iff h hl.1).1 hl
  have hnone : (d.val.levels.map graded).filter (fun p => p.1 = levelName l) = [] := by
    rw [List.filter_eq_nil_iff]
    intro p hp hkey
    obtain ⟨l₀, hl₀, rfl⟩ := List.mem_map.1 hp
    exact hnew (List.mem_map.2 ⟨l₀, hl₀, of_decide_eq_true hkey⟩)
  have hmine : graded l ∈ (d'.val.levels.map graded).filter fun p => p.1 = levelName l :=
    List.mem_filter.2 ⟨List.mem_map_of_mem hl.1, by simp [graded]⟩
  have htargets : ((rows.filter (·.Whole)).map (gradeUpsert (plannedOrdinals rows d))).filter
      (fun u => u.target = levelName l) = (rows.filter fun r => r.Whole ∧
        nameKey r.grade = levelName l).map
        (gradeUpsert (plannedOrdinals rows d)) := by
    rw [List.filter_map, List.filter_filter]
    refine congrArg _ (List.filter_congr fun r _ => ?_)
    rw [Bool.eq_iff_iff, Bool.and_eq_true, decide_eq_true_iff, decide_eq_true_iff]
    exact (and_congr decide_eq_true_iff Iff.rfl).trans and_comm
  rw [graded_import h] at hmine
  cases hrows : rows.filter fun r => r.Whole ∧ nameKey r.grade = levelName l with
  | nil =>
    rw [hrows] at htargets
    rw [filter_upserts_of_ne htargets, hnone] at hmine
    cases hmine
  | cons row rest =>
    rw [hrows, List.map_cons] at htargets
    rw [filter_upserts_of_none hnone htargets, List.mem_singleton] at hmine
    have hname : ∀ r ∈ row :: rest, nameKey r.grade = levelName l := by
      intro r hr
      rw [← hrows] at hr
      exact (of_decide_eq_true (List.mem_filter.1 hr).2).2
    have hrow := hname row List.mem_cons_self
    refine ⟨row, rest, rfl, ?_, ?_⟩
    · rw [← Option.not_isSome_iff_eq_none, gradeNamed_isSome, List.map_map, hrow]
      exact hnew
    · have hrest : ∀ r ∈ rest, nameKey r.grade =
          (gradeUpsert (plannedOrdinals rows d) row).fresh.1 :=
        fun r hr => (hname r (List.mem_cons_of_mem row hr)).trans hrow.symm
      have hpatched := patched_ordinal (plannedOrdinals rows d) hrest
      rw [hpatched] at hmine
      exact congrArg Prod.snd hmine

/-- The first written row of a grade that was not there has a level that was created. -/
theorem created_exists (h : importAcademicRows rows d = .ok results d') {row : ImportRow}
    (hfirst : firstRow rows name = some row) (hnew : gradeNamed d.val row.grade = none) :
    ∃ l, NewLevel d d' l ∧ levelName l = name := by
  obtain ⟨hwhole, hname⟩ : row.Whole ∧ nameKey row.grade = name := by
    simpa using List.find?_some hfirst
  have hrow : row ∈ rows.filter (·.Whole) :=
    List.mem_filter.2 ⟨List.mem_of_find?_eq_some hfirst, decide_eq_true hwhole⟩
  have hkey :=
    key_mem_upserts (List.mem_map_of_mem (f := gradeUpsert (plannedOrdinals rows d)) hrow)
    (d.val.levels.map graded)
  rw [← graded_import h, List.map_map] at hkey
  obtain ⟨l, hl, hkey⟩ := List.mem_map.1 hkey
  have hlname : levelName l = name := hkey.trans hname
  refine ⟨l, (created_iff h hl).2 fun hin => ?_, hlname⟩
  rw [← Option.not_isSome_iff_eq_none, gradeNamed_isSome, List.map_map, hname, ← hlname] at hnew
  exact hnew hin

end Import

end Row

/-! ## The plan -/

/-- A planned ordinal is above those of all levels. -/
theorem planned_above {rows : List ImportRow} {d : Db} {p : String × Int}
    (hp : p ∈ plannedOrdinals rows d)
    {l : LevelRow} (hl : l ∈ d.val.levels) {o : Int} (ho : l.ordinal = some o) : o < p.2 := by
  have hmax : o ≤ (d.val.levels.filterMap LevelRow.ordinal).max?.getD 0 := by
    have hmem : o ∈ d.val.levels.filterMap LevelRow.ordinal := List.mem_filterMap.2 ⟨l, hl, ho⟩
    cases hmax : (d.val.levels.filterMap LevelRow.ordinal).max? with
    | none =>
      rw [List.max?_eq_none_iff.1 hmax] at hmem
      cases hmem
    | some m => exact (List.max?_eq_some_iff.1 hmax).2 o hmem
  generalize hm : (d.val.levels.filterMap LevelRow.ordinal).max?.getD 0 = m at hmax
  have hplan : ∀ (rows : List ImportRow) (plan : List (String × Int)), (∀ q ∈ plan, m < q.2) →
      ∀ q ∈ rows.foldl (fun plan row =>
        if cleanCell row.gradeName = "" ∨
            Unicode.lower (cleanCell row.gradeName) ∈ d.val.levels.map
              (fun l => Unicode.lower (Text.strip l.name)) ∨
            cleanCell row.gradeName ∈ plan.map Prod.fst then plan
        else plan ++ [(cleanCell row.gradeName, m + plan.length + 1)]) plan, m < q.2 := by
    intro rows
    induction rows with
    | nil => exact fun _ h => h
    | cons row rows ih =>
      intro plan hplan
      refine ih _ fun q hq => ?_
      dsimp only at hq
      split_ifs at hq
      · exact hplan q hq
      · rcases List.mem_append.1 hq with hq | hq
        · exact hplan q hq
        · rw [List.mem_singleton.1 hq]
          show m < m + plan.length + 1
          omega
  have habove := hplan rows [] (by simp) p (by rw [← hm]; exact hp)
  omega

/-! ## The order of the file -/

section Order

variable (rows : List ImportRow) (d d' : Db)

/-- A level that the import created for a row without an ordinal. -/
structure CreatedFor (l : LevelRow) (row : ImportRow) : Prop where
  created : NewLevel d d' l
  first : firstRow rows (levelName l) = some row
  unnumbered : number row.gradeOrdinal = none

/-- Where a grade first appears in the file, in a row that is written or not. -/
def appearance (name : String) : Nat := rows.findIdx fun r => nameKey r.grade = name

/-- The levels that were created for rows without an ordinal have ordinals in the order of the file,
above those of before, apart from those of the file, and consecutive. -/
structure FileOrder : Prop where
  distinct : ∀ l r l' r', CreatedFor rows d d' l r → CreatedFor rows d d' l' r' →
    l.ordinal = l'.ordinal → l = l'
  increasing : ∀ l r l' r', CreatedFor rows d d' l r → CreatedFor rows d d' l' r' →
    appearance rows (levelName l) < appearance rows (levelName l') →
      ∃ o o', l.ordinal = some o ∧ l'.ordinal = some o' ∧ o < o'
  above : ∀ l r, CreatedFor rows d d' l r →
    ∀ o ∈ l.ordinal, ∀ l₀ ∈ d.val.levels, ∀ o₀ ∈ l₀.ordinal, o₀ < o
  apart : ∀ l r, CreatedFor rows d d' l r →
    ∀ x ∈ rows, ∀ n ∈ number x.gradeOrdinal, l.ordinal ≠ some n
  consecutive : ∀ l r l' r', CreatedFor rows d d' l r → CreatedFor rows d d' l' r' →
    ∀ o ∈ l.ordinal, ∀ o' ∈ l'.ordinal, ∀ x, o < x → x < o' →
      ∃ l'' r'', CreatedFor rows d d' l'' r'' ∧ l''.ordinal = some x

/-- The row comes first of the rows that are written of its grade, the grade is new, and the
row has no ordinal. -/
structure Creates (row : ImportRow) : Prop where
  first : firstRow rows (nameKey row.grade) = some row
  new : gradeNamed d.val row.grade = none
  unnumbered : number row.gradeOrdinal = none

/-- The ordinal that is planned for the spelling of the row. Where a level has that name for Python
and not for the database none is planned, and the default is 1. -/
def place (row : ImportRow) : Int := ((plannedOrdinals rows d).lookup row.grade).getD 1

/-- The places of the rows that create a grade without an ordinal are in the order of the file, with
none unused between them, and nothing of the file takes them. -/
structure InPlace : Prop where
  spared : ∀ r, Creates rows d r → ∀ x ∈ rows, x.Whole → nameKey x.grade = nameKey r.grade →
    number x.gradeOrdinal = none
  ordered : ∀ r r', Creates rows d r → Creates rows d r' →
    appearance rows (nameKey r.grade) < appearance rows (nameKey r'.grade) →
      place rows d r < place rows d r'
  unbroken : ∀ r r', Creates rows d r → Creates rows d r' → ∀ x, place rows d r < x →
    x < place rows d r' → ∃ r'', Creates rows d r'' ∧ place rows d r'' = x
  free : ∀ r, Creates rows d r → ∀ x ∈ rows, number x.gradeOrdinal ≠ some (place rows d r)
  alike : ∀ r, Creates rows d r → (plannedOrdinals rows d).lookup r.grade = none →
    ∀ l ∈ d.val.levels, ∀ o ∈ l.ordinal, o < 1

variable {rows d d'} {results : List RowResult} {l : LevelRow} {row : ImportRow}

theorem firstRow_of_filter {name : String} {rest : List ImportRow}
    (h : (rows.filter fun r => r.Whole ∧ nameKey r.grade = name) = row :: rest) :
    firstRow rows name = some row := by
  unfold firstRow
  rw [← List.head?_filter, h]
  rfl

/-- The row of a level that was created creates it, and either no row of the grade has an ordinal
and the level has that of its place, or its ordinal is that of a row. -/
theorem CreatedFor.cases (h : importAcademicRows rows d = .ok results d')
    (hl : CreatedFor rows d d' l row) :
    Creates rows d row ∧ nameKey row.grade = levelName l ∧
      ((∀ x ∈ rows, x.Whole → nameKey x.grade = levelName l → number x.gradeOrdinal = none) ∧
          l.ordinal = some (place rows d row) ∨
        ∃ x ∈ rows, x.Whole ∧ nameKey x.grade = levelName l ∧ number x.gradeOrdinal ≠ none ∧
          l.ordinal = number x.gradeOrdinal) := by
  obtain ⟨first, rest, hrows, hnew, hordinal⟩ := created_ordinal h hl.created
  obtain rfl : first = row := Option.some.inj ((firstRow_of_filter hrows).symm.trans hl.first)
  have hmem : ∀ x, x ∈ first :: rest ↔ x ∈ rows ∧ x.Whole ∧ nameKey x.grade = levelName l := by
    intro x
    rw [← hrows, List.mem_filter, decide_eq_true_iff]
  obtain ⟨-, -, hname⟩ := (hmem first).1 List.mem_cons_self
  have hplace : firstOrdinal (plannedOrdinals rows d) first = place rows d first := by
    unfold firstOrdinal place
    rw [hl.unnumbered, Option.none_or]
  refine ⟨⟨hname ▸ hl.first, hnew, hl.unnumbered⟩, hname, ?_⟩
  by_cases hnone : ∀ x ∈ rest, number x.gradeOrdinal = none
  · refine .inl ⟨fun x hx hwhole hxname => ?_, ?_⟩
    · rcases List.mem_cons.1 ((hmem x).2 ⟨hx, hwhole, hxname⟩) with rfl | hin
      · exact hl.unnumbered
      · exact hnone x hin
    · rw [hordinal, lastOrdinal_of_none hnone, hplace]
  · push Not at hnone
    obtain ⟨x, hx, hsome⟩ := hnone
    obtain ⟨y, hy, hysome, hlast⟩ := lastOrdinal_of_some hx hsome
      (some (firstOrdinal (plannedOrdinals rows d) first))
    obtain ⟨hyrows, hwhole, hyname⟩ := (hmem y).1 (List.mem_cons_of_mem first hy)
    exact .inr ⟨y, hyrows, hwhole, hyname, hysome, hordinal.trans hlast⟩

/-- A row that creates a grade has a level that was created for it. -/
theorem Creates.level (h : importAcademicRows rows d = .ok results d') (hrow : Creates rows d row) :
    ∃ l, CreatedFor rows d d' l row ∧ levelName l = nameKey row.grade := by
  obtain ⟨l, hl, hname⟩ := created_exists h hrow.first hrow.new
  exact ⟨l, ⟨hl, hname ▸ hrow.first, hrow.unnumbered⟩, hname⟩

theorem CreatedFor.place (h : importAcademicRows rows d = .ok results d') (hin : InPlace rows d)
    (hl : CreatedFor rows d d' l row) :
    Creates rows d row ∧ nameKey row.grade = levelName l ∧ l.ordinal = some (place rows d row) := by
  obtain ⟨hrow, hname, ⟨-, hordinal⟩ | ⟨x, hx, hwhole, hxname, hsome, -⟩⟩ := hl.cases h
  · exact ⟨hrow, hname, hordinal⟩
  · exact absurd (hin.spared row hrow x hx hwhole (hxname.trans hname.symm)) hsome

/-- Grades that first appear in the same row are one. -/
theorem eq_of_appearance {name name' : String} (hrow : ∃ r ∈ rows, nameKey r.grade = name)
    (hsame : appearance rows name = appearance rows name') : name = name' := by
  obtain ⟨r, hr, hname⟩ := hrow
  have hlt : appearance rows name < rows.length :=
    List.findIdx_lt_length_of_exists ⟨r, hr, by simpa using hname⟩
  have hfirst : nameKey (rows[appearance rows name]).grade = name :=
    of_decide_eq_true (List.findIdx_getElem (w := hlt))
  have hlt' : appearance rows name' < rows.length := hsame ▸ hlt
  have hfirst' : nameKey (rows[appearance rows name']).grade = name' :=
    of_decide_eq_true (List.findIdx_getElem (w := hlt'))
  rw [← hfirst, ← hfirst']
  simp only [hsame]

theorem Creates.appears (hrow : Creates rows d row) :
    ∃ r ∈ rows, nameKey r.grade = nameKey row.grade :=
  ⟨row, List.mem_of_find?_eq_some hrow.first, rfl⟩

/-- Rows in place number their grades in the order of the file. -/
theorem fileOrder_of_inPlace (h : importAcademicRows rows d = .ok results d')
    (hin : InPlace rows d) :
    FileOrder rows d d' where
  distinct l r l' r' hl hl' hsame := by
    obtain ⟨hr, hname, hordinal⟩ := hl.place h hin
    obtain ⟨hr', hname', hordinal'⟩ := hl'.place h hin
    have hplace : place rows d r = place rows d r' :=
      Option.some.inj (hordinal.symm.trans (hsame.trans hordinal'))
    refine created_unique h hl.created hl'.created ?_
    rw [← hname, ← hname']
    refine eq_of_appearance hr.appears ?_
    rcases lt_trichotomy (appearance rows (nameKey r.grade))
      (appearance rows (nameKey r'.grade)) with
      hlt | heq | hgt
    · exact absurd hplace (hin.ordered r r' hr hr' hlt).ne
    · exact heq
    · exact absurd hplace.symm (hin.ordered r' r hr' hr hgt).ne
  increasing l r l' r' hl hl' hlt := by
    obtain ⟨hr, hname, hordinal⟩ := hl.place h hin
    obtain ⟨hr', hname', hordinal'⟩ := hl'.place h hin
    rw [← hname, ← hname'] at hlt
    exact ⟨_, _, hordinal, hordinal', hin.ordered r r' hr hr' hlt⟩
  above l r hl o ho l₀ hl₀ o₀ ho₀ := by
    obtain ⟨hr, -, hordinal⟩ := hl.place h hin
    obtain rfl : place rows d r = o := Option.some.inj (hordinal.symm.trans ho)
    unfold place
    cases hplanned : (plannedOrdinals rows d).lookup r.grade with
    | none => exact hin.alike r hr hplanned l₀ hl₀ o₀ ho₀
    | some x =>
      obtain ⟨before, after, hplan, -⟩ := List.lookup_eq_some_iff.1 hplanned
      have hin : (r.grade, x) ∈ plannedOrdinals rows d := by simp [hplan]
      exact planned_above hin hl₀ ho₀
  apart l r hl x hx n hn hsame := by
    obtain ⟨hr, -, hordinal⟩ := hl.place h hin
    exact hin.free r hr x hx (hn.trans (hsame.symm.trans hordinal))
  consecutive l r l' r' hl hl' o ho o' ho' x hx hx' := by
    obtain ⟨hr, -, hordinal⟩ := hl.place h hin
    obtain ⟨hr', -, hordinal'⟩ := hl'.place h hin
    obtain rfl : place rows d r = o := Option.some.inj (hordinal.symm.trans ho)
    obtain rfl : place rows d r' = o' := Option.some.inj (hordinal'.symm.trans ho')
    obtain ⟨r'', hr'', rfl⟩ := hin.unbroken r r' hr hr' x hx hx'
    obtain ⟨l'', hl'', -⟩ := hr''.level h
    exact ⟨l'', r'', hl'', (hl''.place h hin).2.2⟩

/-- Grades that are numbered in the order of the file have rows in place. -/
theorem inPlace_of_fileOrder (h : importAcademicRows rows d = .ok results d')
    (horder : FileOrder rows d d') :
    InPlace rows d := by
  have hplaced : ∀ {l r}, CreatedFor rows d d' l r →
      (∀ x ∈ rows, x.Whole → nameKey x.grade = levelName l → number x.gradeOrdinal = none) ∧
        l.ordinal = some (place rows d r) := by
    intro l r hl
    refine (hl.cases h).2.2.resolve_right ?_
    rintro ⟨x, hx, -, -, hsome, hordinal⟩
    obtain ⟨n, hn⟩ := Option.ne_none_iff_exists'.1 hsome
    exact horder.apart l r hl x hx n hn (hordinal.trans hn)
  constructor
  case spared =>
    intro r hr x hx hwhole hname
    obtain ⟨l, hl, hlname⟩ := hr.level h
    exact (hplaced hl).1 x hx hwhole (hname.trans hlname.symm)
  case ordered =>
    intro r r' hr hr' hlt
    obtain ⟨l, hl, hname⟩ := hr.level h
    obtain ⟨l', hl', hname'⟩ := hr'.level h
    rw [← hname, ← hname'] at hlt
    obtain ⟨o, o', ho, ho', hless⟩ := horder.increasing l r l' r' hl hl' hlt
    rw [(hplaced hl).2] at ho
    rw [(hplaced hl').2] at ho'
    rwa [Option.some.inj ho, Option.some.inj ho']
  case unbroken =>
    intro r r' hr hr' x hx hx'
    obtain ⟨l, hl, -⟩ := hr.level h
    obtain ⟨l', hl', -⟩ := hr'.level h
    obtain ⟨l'', r'', hl'', hordinal⟩ :=
      horder.consecutive l r l' r' hl hl' _ (hplaced hl).2 _ (hplaced hl').2 x hx hx'
    exact ⟨r'', (hl''.cases h).1, Option.some.inj ((hplaced hl'').2.symm.trans hordinal)⟩
  case free =>
    intro r hr x hx hsame
    obtain ⟨l, hl, -⟩ := hr.level h
    exact horder.apart l r hl x hx _ hsame (hplaced hl).2
  case alike =>
    intro r hr hplanned l₀ hl₀ o₀ ho₀
    obtain ⟨l, hl, -⟩ := hr.level h
    have habove := horder.above l r hl _ (hplaced hl).2 l₀ hl₀ o₀ ho₀
    unfold place at habove
    rwa [hplanned] at habove

/-- **Imported grades keep the order of the file** if and only if their rows are in place. -/
theorem fileOrder_iff (h : importAcademicRows rows d = .ok results d') :
    FileOrder rows d d' ↔ InPlace rows d :=
  ⟨inPlace_of_fileOrder h, fileOrder_of_inPlace h⟩

end Order

end Imports

/-! ## Two grades out of order, and a grade in two spellings -/

section Example

attribute [local instance] ascii

/-- Two new grades, and one that is there. -/
def newGrades : List ImportRow := [gradeRow "G10", gradeRow "G1", gradeRow "G9"]

theorem newGrades_run : returns (importAcademicRows newGrades) smallSchool = true ∧
    (gradeNamed smallSchool.val (gradeRow "G1").grade).isSome = true ∧
    (∀ x ∈ newGrades, number x.gradeOrdinal = none) ∧
    place newGrades smallSchool (gradeRow "G10") = 3 ∧
    place newGrades smallSchool (gradeRow "G9") = 4 ∧
    ¬appearance newGrades (nameKey (gradeRow "G9").grade) <
      appearance newGrades (nameKey (gradeRow "G10").grade) ∧
    ∀ r ∈ [gradeRow "G10", gradeRow "G9"], (plannedOrdinals newGrades smallSchool).lookup
      r.grade ≠ none := by
  decide +kernel

theorem creates_newGrades {r : ImportRow} (h : Creates newGrades smallSchool r) :
    r = gradeRow "G10" ∨ r = gradeRow "G9" := by
  obtain ⟨-, hthere, -⟩ := newGrades_run
  have hin := List.mem_of_find?_eq_some h.first
  simp only [newGrades, List.mem_cons, List.not_mem_nil, or_false] at hin
  rcases hin with rfl | rfl | rfl
  · exact .inl rfl
  · rw [h.new] at hthere
    cases hthere
  · exact .inr rfl

theorem newGrades_inPlace : InPlace newGrades smallSchool := by
  obtain ⟨-, -, hnone, hten, hnine, hfirst, hplan⟩ := newGrades_run
  constructor
  case spared => exact fun r _ x hx _ _ => hnone x hx
  case ordered =>
    intro r r' hr hr' hlt
    rcases creates_newGrades hr with rfl | rfl <;> rcases creates_newGrades hr' with rfl | rfl
    · exact absurd hlt (lt_irrefl _)
    · omega
    · exact absurd hlt hfirst
    · exact absurd hlt (lt_irrefl _)
  case unbroken =>
    intro r r' hr hr' x hx hx'
    rcases creates_newGrades hr with rfl | rfl <;> rcases creates_newGrades hr' with rfl |
      rfl <;> omega
  case free =>
    intro r _ x hx hsome
    rw [hnone x hx] at hsome
    cases hsome
  case alike =>
    intro r hr hplanned
    rcases creates_newGrades hr with rfl | rfl
    · exact absurd hplanned (hplan _ (by simp))
    · exact absurd hplanned (hplan _ (by simp))

theorem newGrades_ordered :
    ∃ results d', importAcademicRows newGrades smallSchool = .ok results d' ∧
    FileOrder newGrades smallSchool d' := by
  obtain ⟨results, d', hok⟩ := returns_iff.1 newGrades_run.1
  exact ⟨results, d', hok, (fileOrder_iff hok).2 newGrades_inPlace⟩

/-- A new grade in two spellings, and another after it. -/
def twiceSpelled : List ImportRow := [gradeRow "G9", gradeRow "g9", gradeRow "G10"]

theorem twiceSpelled_run : returns (importAcademicRows twiceSpelled) smallSchool = true ∧
    (∀ r ∈ [gradeRow "G9", gradeRow "G10"], firstRow twiceSpelled (nameKey r.grade) = some r ∧
      gradeNamed smallSchool.val r.grade = none ∧ number r.gradeOrdinal = none) ∧
    (∀ r ∈ twiceSpelled,
      firstRow twiceSpelled (nameKey r.grade) = some r → place twiceSpelled smallSchool r ≠ 4) ∧
    place twiceSpelled smallSchool (gradeRow "G9") < 4 ∧
    4 < place twiceSpelled smallSchool (gradeRow "G10") := by
  decide +kernel

/-- The second spelling has a place in the plan, and no grade of its own. -/
theorem twiceSpelled_gap : ¬InPlace twiceSpelled smallSchool := by
  intro h
  obtain ⟨-, hcreates, hplaces, hbelow, habove⟩ := twiceSpelled_run
  have hcreated : ∀ r ∈ [gradeRow "G9", gradeRow "G10"], Creates twiceSpelled smallSchool r :=
    fun r hr =>
    let ⟨hfirst, hnew, hnone⟩ := hcreates r hr
    ⟨hfirst, hnew, hnone⟩
  obtain ⟨r, hr, hfour⟩ := h.unbroken (gradeRow "G9") (gradeRow "G10") (hcreated _ (by simp))
    (hcreated _ (by simp)) 4 hbelow habove
  exact hplaces r (List.mem_of_find?_eq_some hr.first) hr.first hfour

theorem twiceSpelled_not_consecutive :
    ¬∀ rows d results d', importAcademicRows rows d = .ok results d' → FileOrder rows d d' := by
  intro h
  obtain ⟨results, d', hok⟩ := returns_iff.1 twiceSpelled_run.1
  exact twiceSpelled_gap (inPlace_of_fileOrder hok (h twiceSpelled smallSchool results d' hok))

end Example

end Sams.School
