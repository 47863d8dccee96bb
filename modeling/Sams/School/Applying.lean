import Sams.School.Importing

/-!
# What an import applies

Each row of an import is written, passed over, or refused. It is passed over where its cells are no
numbers, and where its class has no year to be in: its grade has been written by then. The database
refuses a row with an error that the import does not catch.

* **`partial_success_iff`** — the import returns, applies what it reports as valid and nothing else,
  exactly when no row is refused and no grade is written of a row that is reported as an error.
* **`import_report`** — what the report counts are the levels and the classes that were inserted.
-/

namespace Sams.School

open Programs Rows Runs Layouts TenantRepository

section Imports

variable [Unicode]

/-! ## Names

A grade is found by its name and a class by its level, its name and its year, all but the
case of the letters. -/

def levelKey (l : LevelRow) : Nat × String := (l.levelId, Unicode.sqlLower l.name)

/-- The key of a name that a row gives. -/
def nameKey (name : String) : String := Unicode.sqlLower (Text.strip name)

section Names

variable {t : Tables}

theorem gradeNamed_isSome (name : String) : (gradeNamed t name).isSome ↔
    nameKey name ∈ (t.levels.map levelKey).map Prod.snd := by
  unfold gradeNamed
  rw [List.find?_isSome, List.map_map]
  simp [sameName, levelKey, nameKey]

theorem nameKey_grade (row : ImportRow) : nameKey row.grade = Unicode.sqlLower row.grade := by
  unfold nameKey
  rw [row.strip_grade]

/-- The grade of a row is there, or is added last. -/
theorem levels_withGrade (hkeyed : Keyed LevelRow.levelId t.levels) (row : ImportRow)
    (ordinals : List (String × Int)) :
    (row.withGrade ordinals t).levels.map levelKey = t.levels.map levelKey ++
      if (gradeNamed t row.grade).isSome then [] else [(t.seq.level, nameKey row.grade)] := by
  unfold ImportRow.withGrade gradeWritten
  cases hg : gradeNamed t row.grade with
  | none =>
    simp only [List.map_append, List.map_cons, List.map_nil, Option.isSome_none]
    rw [nameKey_grade]
    rfl
  | some l =>
    have hl : l ∈ t.levels := List.mem_of_find?_eq_some hg
    have hname : sameName l.name (Text.strip row.grade) = true := by
      unfold gradeNamed at hg
      simpa using List.find?_some hg
    simp only [Option.isSome_some, if_true, List.append_nil]
    refine map_updateWhere fun x hx hid => ?_
    have hsame : x = l := hkeyed.eq_of_key_eq hx hl (of_decide_eq_true hid)
    rw [hsame]
    exact congrArg (l.levelId, ·) (of_decide_eq_true hname).symm

theorem classWritten_rest (c : ClassPlan) (levelId y : Nat) :
    (classWritten c levelId y t).levels = t.levels ∧
      (classWritten c levelId y t).years = t.years := by
  unfold classWritten
  cases classNamed t c.name levelId <;> exact ⟨rfl, rfl⟩

end Names

/-- What a row adds to the tables. -/
theorem levels_written (row : ImportRow) (ordinals : List (String × Int)) (d : Db) :
    (row.written ordinals d.val).levels.map levelKey = d.val.levels.map levelKey ++
      (if (gradeNamed d.val row.grade).isSome then [] else [(d.val.seq.level, nameKey row.grade)]) ∧
    (row.written ordinals d.val).years = d.val.years := by
  have hgrade := levels_withGrade d.ok.keys.levels row ordinals
  have hyears := (classes_withGrade d.val row ordinals).2
  unfold ImportRow.written
  split
  · rw [(classWritten_rest _ _ _).1, (classWritten_rest _ _ _).2]
    exact ⟨hgrade, hyears⟩
  · exact ⟨hgrade, hyears⟩

/-! ## One row -/

namespace TenantRepository

/-- Where the result stands in the report, and whose it is. -/
def RowResult.place (r : RowResult) : Nat × String × Option String :=
  (r.rowNumber, r.gradeName, r.className)

end TenantRepository

section Row

variable {row : ImportRow} {ordinals : List (String × Int)} {d : Db}

/-- Every result stands in its place. -/
theorem resolve_place {n : Nat} {apply : Bool} {r : RowResult} {d' : Db}
    (h : resolveImportRow ordinals apply n row d = .ok r d') :
    r.place = (n, row.grade, row.class?) := by
  have hplace : ∀ action valid errors warnings, RowResult.place
      ⟨n, cleanCell row.gradeName, Text.nonEmpty (some (cleanCell row.className)), action,
        valid, errors, warnings⟩ = (n, row.grade, row.class?) := fun _ _ _ _ => by
    simp only [RowResult.place, ImportRow.grade, ImportRow.class?]
  unfold resolveImportRow at h
  by_cases hblank : cleanCell row.gradeName = ""
  · rw [if_pos hblank] at h
    obtain ⟨rfl, -⟩ := pure_eq_ok.1 h
    exact hplace _ _ _ _
  · rw [if_neg hblank] at h
    obtain ⟨⟨_, e₁⟩, _, -, h⟩ := bind_eq_ok.1 h
    obtain ⟨⟨_, e₂⟩, _, -, h⟩ := bind_eq_ok.1 h
    obtain ⟨⟨_, e₃⟩, _, -, h⟩ := bind_eq_ok.1 h
    obtain ⟨⟨_, e₄⟩, _, -, h⟩ := bind_eq_ok.1 h
    obtain ⟨existing, _, -, h⟩ := bind_eq_ok.1 h
    obtain ⟨plan, _, -, h⟩ := bind_eq_ok.1 h
    dsimp only at h
    by_cases herrors : e₁ ++ e₂ ++ e₃ ++ e₄ ++ (plan.map ClassPlan.errors).getD [] ≠ []
    · rw [if_pos herrors] at h
      obtain ⟨rfl, -⟩ := pure_eq_ok.1 h
      exact hplace _ _ _ _
    · rw [if_neg herrors] at h
      cases apply with
      | false =>
        obtain ⟨rfl, -⟩ := pure_eq_ok.1 h
        exact hplace _ _ _ _
      | true =>
        obtain ⟨outcome, _, -, h⟩ := bind_eq_ok.1 h
        cases outcome with
        | none =>
          obtain ⟨rfl, -⟩ := pure_eq_ok.1 h
          exact hplace _ _ _ _
        | some msg =>
          obtain ⟨rfl, -⟩ := pure_eq_ok.1 h
          exact hplace _ _ _ _

/-- The row is refused, or the database refuses what it writes. -/
def Raising (row : ImportRow) (ordinals : List (String × Int)) (d : Db) : Prop :=
  row.Refused d.val ∨ row.Whole ∧ ¬row.Writable ordinals d ∧ ¬row.Yearless ordinals d

/-- **One row**: it is refused, passed over, left with its grade alone, or written. -/
theorem import_cases (row : ImportRow) (ordinals : List (String × Int)) (d : Db) (n : Nat) :
    (Raising row ordinals d ∧ ∃ e d', resolveImportRow ordinals true n row d = .error e d') ∨
    (¬row.Refused d.val ∧ ¬row.Whole ∧ ∃ r, resolveImportRow ordinals true n row d = .ok r d ∧
      r.verdict = skippedVerdict) ∨
    (¬row.Refused d.val ∧ row.Whole ∧ row.Yearless ordinals d ∧
      ∃ r d', resolveImportRow ordinals true n row d = .ok r d' ∧ r.verdict = skippedVerdict ∧
        d'.val = row.withGrade ordinals d.val) ∨
    (¬row.Refused d.val ∧ row.Whole ∧ row.Writable ordinals d ∧
      ∃ r d', resolveImportRow ordinals true n row d = .ok r d' ∧
        r.verdict = (true, row.action d.val) ∧ d'.val = row.written ordinals d.val) := by
  rcases resolve_cases ordinals n row d with ⟨hrefused, h⟩ | ⟨hquiet, hnot, r, hr, h⟩ |
    ⟨hquiet, hwhole, r, skipped, -, hskipped, -, h⟩
  · obtain ⟨e, he⟩ := h true
    exact .inl ⟨.inl hrefused, e, d, he⟩
  · exact .inr (.inl ⟨hquiet, hnot, r, h true, hr⟩)
  · have hgrade := ImportRow.storable_grade hwhole hquiet
    by_cases hwritable : row.Writable ordinals d
    · exact .inr
        (.inr (.inr ⟨hquiet, hwhole, hwritable, resolve_writable n hquiet hwhole hwritable⟩))
    · by_cases hyearless : row.Yearless ordinals d
      · obtain ⟨msg, d', hwrites, hval⟩ := writes_of_yearless hgrade hyearless
        have hcaught : catchValueError (row.writes d.val ordinals) d = .ok (some msg) d' := by
          unfold catchValueError
          rw [rescue_of_error (bind_of_error hwrites)]
          rfl
        exact .inr (.inr (.inl ⟨hquiet, hwhole, hyearless, _, d', h.trans (bind_of_ok hcaught),
          hskipped msg, hval⟩))
      · obtain ⟨d', hwrites⟩ := writes_of_not hgrade hwritable hyearless
        have hraised : catchValueError (row.writes d.val ordinals) d =
            .error .databaseError d' := by
          unfold catchValueError
          rw [rescue_of_error (bind_of_error hwrites)]
          rfl
        exact .inl ⟨.inr ⟨hwhole, hwritable, hyearless⟩, _, d', h.trans (bind_of_error hraised)⟩

end Row

/-! ## A partial success -/

/-- The ordinals of the grades that are new in the file. -/
def plannedOrdinals (rows : List ImportRow) (d : Db) : List (String × Int) :=
  (returned (planNewGradeOrdinals rows) d).getD []

/-- The school that the first rows of the import leave. -/
def left (lying : Nat → Lying) (rows : List ImportRow) (d : Db) (n : Nat) : Db :=
  run (importStep lying (plannedOrdinals rows d)) d (rows.zipIdx.take n)

/-- The school as it lies when the import comes to the `n`th row. -/
def turn (lying : Nat → Lying) (rows : List ImportRow) (d : Db) (n : Nat) : Db :=
  (left lying rows d n).laid (lying n)

/-- The tables once numbered rows are applied, in their order. -/
def applying (lying : Nat → Lying) (ordinals : List (String × Int)) (t : Tables)
    (rows : List (ImportRow × Nat)) : Tables :=
  rows.foldl (fun t p => p.1.written ordinals (t.laid (lying p.2))) t

/-- The rows that are reported as valid. -/
def reported (rows : List (ImportRow × Nat)) (results : List RowResult) : List (ImportRow × Nat) :=
  ((rows.zip results).filter fun p => p.2.valid).map Prod.fst

/-- The import returns one result for each row, in order; the levels and the classes are
those that the rows reported as valid make, in order; and a row that is reported as an
error changed nothing. -/
def PartialSuccess (lying : Nat → Lying) (rows : List ImportRow) (d : Db) : Prop :=
  ∃ results d', importAcademicRowsLying lying rows d = .ok results d' ∧
    results.map RowResult.place = rows.zipIdx.map (fun p => (p.2 + 2, p.1.grade, p.1.class?)) ∧
    d'.val.levels.Perm
      (applying lying (plannedOrdinals rows d) d.val (reported rows.zipIdx results)).levels ∧
    d'.val.classes.Perm
      (applying lying (plannedOrdinals rows d) d.val (reported rows.zipIdx results)).classes ∧
    ∀ n r, results[n]? = some r → r.valid = false → left lying rows d (n + 1) = turn lying rows d n

/-- In the tables as they lie at its turn the row raises nothing, and its grade is not
written without its class. -/
structure Clean (lying : Nat → Lying) (ordinals : List (String × Int)) (d : Db)
    (p : ImportRow × Nat) :
    Prop where
  quiet : ¬Raising p.1 ordinals (d.laid (lying p.2))
  whole : p.1.Whole → p.1.Yearless ordinals (d.laid (lying p.2)) →
    p.1.withGrade ordinals (d.laid (lying p.2)).val = (d.laid (lying p.2)).val

section Rows

variable {lying : Nat → Lying} {ordinals : List (String × Int)} {d : Db}

/-- What a partial success is of numbered rows. -/
def Succeeds (lying : Nat → Lying) (ordinals : List (String × Int))
    (rows : List (ImportRow × Nat)) (d : Db) (results : List RowResult) (d' : Db) : Prop :=
  importingLying lying ordinals rows d = .ok results d' ∧
    ∀ n p r, rows[n]? = some p → results[n]? = some r → r.valid = false →
      run (importStep lying ordinals) d (rows.take (n + 1)) =
        (run (importStep lying ordinals) d (rows.take n)).laid (lying p.2)

/-- A success is one of the first row, and of the others after it. -/
theorem succeeds_cons {p : ImportRow × Nat} {rows : List (ImportRow × Nat)}
    {results : List RowResult} {d' : Db} : Succeeds lying ordinals (p :: rows) d results d' ↔
      ∃ r rs d₁, resolveImportRow ordinals true (p.2 + 2) p.1 (d.laid (lying p.2)) = .ok r d₁ ∧
        importStep lying ordinals d p = d₁ ∧ (r.valid = false → d₁ = d.laid (lying p.2)) ∧
        Succeeds lying ordinals rows d₁ rs d' ∧ results = r :: rs := by
  unfold Succeeds
  rw [importingLying_cons]
  constructor
  · rintro ⟨⟨r, rs, d₁, hr, hstep, hrs, rfl⟩, hunchanged⟩
    refine ⟨r, rs, d₁, hr, hstep, fun hvalid => ?_, ⟨hrs, fun n q r' hq hr' hvalid => ?_⟩, rfl⟩
    · have hfirst := hunchanged 0 p r rfl rfl hvalid
      rwa [List.take_succ_cons, List.take_zero, run_cons, run_nil, hstep, List.take_zero,
        run_nil] at hfirst
    · have hsame := hunchanged (n + 1) q r' hq hr' hvalid
      rwa [List.take_succ_cons, List.take_succ_cons, run_cons, run_cons, hstep] at hsame
  · rintro ⟨r, rs, d₁, hr, hstep, hfirst, ⟨hrs, hunchanged⟩, rfl⟩
    refine ⟨⟨r, rs, d₁, hr, hstep, hrs, rfl⟩, fun n q r' hq hr' hvalid => ?_⟩
    cases n with
    | zero =>
      cases hq
      cases hr'
      rw [List.take_succ_cons, List.take_zero, run_cons, run_nil, hstep, List.take_zero, run_nil]
      exact hfirst hvalid
    | succ n =>
      rw [List.take_succ_cons, List.take_succ_cons, run_cons, run_cons, hstep]
      exact hunchanged n q r' hq hr' hvalid

/-- Each answer is in its place, and the rows reported as valid make the tables, wherever they
lie. -/
theorem succeeds_tables {rows : List (ImportRow × Nat)} {results : List RowResult} {d' : Db}
    {t : Tables}
    (h : Succeeds lying ordinals rows d results d') (ht : ∀ ℓ, d.val.laid ℓ = t.laid ℓ) :
    results.map RowResult.place = rows.map (fun p => (p.2 + 2, p.1.grade, p.1.class?)) ∧
      ∀ ℓ, d'.val.laid ℓ = (applying lying ordinals t (reported rows results)).laid ℓ := by
  induction rows generalizing d t results with
  | nil =>
    obtain ⟨rfl, rfl⟩ := pure_eq_ok.1 h.1
    exact ⟨rfl, ht⟩
  | cons p rows ih =>
    obtain ⟨r, rs, d₁, hr, -, hsame, hrest, rfl⟩ := succeeds_cons.1 h
    have hnext : ∀ ℓ, d₁.val.laid ℓ =
        (if r.valid then p.1.written ordinals (t.laid (lying p.2)) else t).laid ℓ := by
      intro ℓ
      cases hvalid : r.valid with
      | false =>
        rw [hsame hvalid]
        exact (congrArg Checked.val (laid_laid d (lying p.2) ℓ)).trans (ht ℓ)
      | true =>
        rcases import_cases p.1 ordinals (d.laid (lying p.2)) (p.2 + 2) with
          ⟨-, e, d₃, he⟩ | ⟨-, -, r', hr', hverdict⟩ | ⟨-, -, -, r', d₃, hr', hverdict, -⟩ |
          ⟨-, -, -, r', d₃, hr', -, hval⟩
        · rw [hr] at he
          cases he
        · rw [hr] at hr'
          cases hr'
          exact absurd (congrArg Prod.fst hverdict)
            (by simp [RowResult.verdict, skippedVerdict, hvalid])
        · rw [hr] at hr'
          cases hr'
          exact absurd (congrArg Prod.fst hverdict)
            (by simp [RowResult.verdict, skippedVerdict, hvalid])
        · rw [hr] at hr'
          cases hr'
          rw [hval, val_laid, ht]
          rfl
    obtain ⟨hplaces, htables⟩ := ih hrest hnext
    refine ⟨by rw [List.map_cons, List.map_cons, resolve_place hr, hplaces],
      fun ℓ => (htables ℓ).trans ?_⟩
    unfold reported applying
    cases hvalid : r.valid <;> simp [hvalid]

/-- **The import of numbered rows.** -/
theorem applies_iff {rows : List (ImportRow × Nat)} :
    (∃ results d', Succeeds lying ordinals rows d results d') ↔
      EachStep (importStep lying ordinals) (Clean lying ordinals) d rows := by
  induction rows generalizing d with
  | nil => exact ⟨fun _ => trivial, fun _ => ⟨[], d, rfl, by simp⟩⟩
  | cons p rows ih =>
    constructor
    · rintro ⟨results, d', h⟩
      obtain ⟨r, rs, d₁, hr, hstep, hsame, hrest, rfl⟩ := succeeds_cons.1 h
      refine ⟨?_, hstep ▸ ih.1 ⟨rs, d', hrest⟩⟩
      rcases import_cases p.1 ordinals (d.laid (lying p.2)) (p.2 + 2) with
        ⟨-, e, d₃, he⟩ | ⟨hquiet, hnot, -⟩ | ⟨hquiet, -, hyearless, r', d₃, hr', hverdict, hval⟩ |
        ⟨hquiet, -, hwritable, -⟩
      · rw [hr] at he
        cases he
      · exact ⟨fun h => h.elim hquiet fun h => hnot h.1, fun h => absurd h hnot⟩
      · rw [hr] at hr'
        cases hr'
        refine ⟨fun h => h.elim hquiet fun h => h.2.2 hyearless, fun _ _ => ?_⟩
        rw [← hval, hsame (congrArg Prod.fst hverdict)]
      · refine ⟨fun h => h.elim hquiet fun h => h.2.1 hwritable, fun _ hyearless => ?_⟩
        have hyear := hwritable.year hyearless.named
        rw [hyearless.year] at hyear
        cases hyear
    · rintro ⟨hclean, hrest⟩
      have hone : ∃ r d₁, resolveImportRow ordinals true (p.2 + 2) p.1
          (d.laid (lying p.2)) = .ok r d₁ ∧ (r.valid = false → d₁ = d.laid (lying p.2)) := by
        rcases import_cases p.1 ordinals (d.laid (lying p.2)) (p.2 + 2) with
          ⟨hraising, -⟩ | ⟨-, -, r, hr, -⟩ | ⟨-, hwhole, hyearless, r, d₁, hr, -, hval⟩ |
          ⟨-, -, -, r, d₁, hr, hverdict, -⟩
        · exact absurd hraising hclean.quiet
        · exact ⟨r, _, hr, fun _ => rfl⟩
        · exact ⟨r, d₁, hr, fun _ => Checked.ext (hval.trans (hclean.whole hwhole hyearless))⟩
        · refine ⟨r, d₁, hr, fun hvalid => ?_⟩
          have htrue : r.valid = true := congrArg Prod.fst hverdict
          rw [hvalid] at htrue
          cases htrue
      obtain ⟨r, d₁, hr, hsame⟩ := hone
      have hstep : importStep lying ordinals d p = d₁ := after_ok hr
      obtain ⟨rs, d', h⟩ := ih.2 (hstep ▸ hrest)
      exact ⟨r :: rs, d', succeeds_cons.2 ⟨r, rs, d₁, hr, hstep, hsame, h, rfl⟩⟩

/-- **The import is a partial success** exactly when no row raises and no grade is
written without its class. -/
theorem partial_success_iff (lying : Nat → Lying) (rows : List ImportRow) (d : Db) :
    PartialSuccess lying rows d ↔
      EachStep (importStep lying (plannedOrdinals rows d)) (Clean lying (plannedOrdinals rows d)) d
        rows.zipIdx := by
  have himport : importAcademicRowsLying lying rows d =
      importingLying lying (plannedOrdinals rows d) rows.zipIdx d := rfl
  rw [← applies_iff]
  unfold PartialSuccess left turn left
  rw [himport]
  constructor
  · rintro ⟨results, d', hok, -, -, -, hunchanged⟩
    refine ⟨results, d', hok, fun n p r hp hr hvalid => (hunchanged n r hr hvalid).trans ?_⟩
    rw [List.getElem?_zipIdx] at hp
    obtain ⟨row, -, rfl⟩ := Option.map_eq_some_iff.1 hp
    rw [Nat.zero_add]
  · rintro ⟨results, d', h⟩
    obtain ⟨hplaces, htables⟩ := succeeds_tables h fun _ => rfl
    obtain ⟨hok, hunchanged⟩ := h
    have hlevels := congrArg Tables.levels (htables .asInserted)
    have hclasses := congrArg Tables.classes (htables .asInserted)
    refine ⟨results, d', hok, hplaces, ?_, ?_, fun n r hr hvalid => ?_⟩
    · exact (lay_perm _ _ _).symm.trans ((List.Perm.of_eq hlevels).trans (lay_perm _ _ _))
    · exact (lay_perm _ _ _).symm.trans ((List.Perm.of_eq hclasses).trans (lay_perm _ _ _))
    · have hlength : results.length = rows.zipIdx.length := by
        have hlen := congrArg List.length hplaces
        rwa [List.length_map, List.length_map] at hlen
      obtain ⟨p, hp⟩ : ∃ p, rows.zipIdx[n]? = some p := by
        obtain ⟨hn, -⟩ := List.getElem?_eq_some_iff.1 hr
        exact ⟨_, List.getElem?_eq_getElem (hlength ▸ hn)⟩
      refine (hunchanged n p r hp hr hvalid).trans ?_
      rw [List.getElem?_zipIdx] at hp
      obtain ⟨row, -, rfl⟩ := Option.map_eq_some_iff.1 hp
      rw [Nat.zero_add]

/-! ## The report -/

/-- The class is looked for in the grade of the row, as before its grade is written. -/
theorem classNamed_withGrade {row : ImportRow} (h : (row.withGrade ordinals d.val).Ok)
    (name : String) :
    classNamed (row.withGrade ordinals d.val) name (gradeId d.val row.grade) =
      (gradeNamed d.val row.grade).bind fun l => classNamed d.val name l.levelId := by
  have hsame : ∀ levelId, classNamed (row.withGrade ordinals d.val) name levelId =
      classNamed d.val name levelId := by
    intro levelId
    unfold classNamed
    rw [(classes_withGrade d.val row ordinals).1, activeYear_withGrade]
  rw [hsame]
  unfold gradeId
  cases hgrade : gradeNamed d.val row.grade with
  | some l => rfl
  | none =>
    -- the grade's identifier is fresh, and every class has a level
    have hkeys := (levels_withGrade d.ok.keys.levels row ordinals).symm
    rw [hgrade, Option.isSome_none, if_neg Bool.false_ne_true] at hkeys
    have hfresh : d.val.seq.level ∉ d.val.levels.map LevelRow.levelId := by
      have hnodup : ((row.withGrade ordinals d.val).levels.map LevelRow.levelId).Nodup :=
        h.keys.levels
      have hids : (row.withGrade ordinals d.val).levels.map LevelRow.levelId =
          d.val.levels.map LevelRow.levelId ++ [d.val.seq.level] := by
        have hfst := congrArg (List.map Prod.fst) hkeys
        rw [List.map_append, List.map_map, List.map_map] at hfst
        exact hfst.symm
      rw [hids, List.nodup_append] at hnodup
      exact fun hmem => hnodup.2.2 _ hmem _ (List.mem_singleton_self _) rfl
    refine List.find?_eq_none.2 fun c hc hfound => hfresh ?_
    have hlevel : c.levelId = d.val.seq.level := by
      simp only [decide_eq_true_eq] at hfound
      exact hfound.2.1
    rw [← hlevel]
    exact d.ok.placements.class_level c hc _ rfl

/-- The identifiers that a row adds to the levels. -/
def addedLevels (row : ImportRow) (t : Tables) : List Nat :=
  if (gradeNamed t row.grade).isSome then [] else [t.seq.level]

/-- The identifiers that a row adds to the classes. -/
def addedClasses (row : ImportRow) (t : Tables) : List Nat :=
  match row.class? with
  | none => []
  | some name =>
    if ((gradeNamed t row.grade).bind fun l => classNamed t name l.levelId).isSome then []
    else [t.seq.class_]

theorem ids_classWritten (c : ClassPlan) (levelId yearId : Nat) (t : Tables) :
    (classWritten c levelId yearId t).classes.map ClassRow.id = t.classes.map ClassRow.id ++
      if (classNamed t c.name levelId).isSome then [] else [t.seq.class_] := by
  unfold classWritten
  cases classNamed t c.name levelId with
  | none => exact List.map_append
  | some current =>
    have hids : ∀ f : ClassRow → ClassRow, (∀ x, (f x).id = x.id) →
        (t.setClasses (fun x => x.id = current.id) f).classes.map ClassRow.id =
          t.classes.map ClassRow.id := fun f hf => map_updateWhere fun x _ _ => hf x
    refine (hids _ ?_).trans (by simp)
    intro x
    rfl

theorem ids_written {row : ImportRow} (h : row.Writable ordinals d) :
    (row.written ordinals d.val).levels.map LevelRow.levelId =
      d.val.levels.map LevelRow.levelId ++ addedLevels row d.val ∧
    (row.written ordinals d.val).classes.map ClassRow.id =
      d.val.classes.map ClassRow.id ++ addedClasses row d.val := by
  refine ⟨?_, ?_⟩
  · have hfst := congrArg (List.map Prod.fst) (levels_written row ordinals d).1
    rw [List.map_append, List.map_map, List.map_map] at hfst
    refine hfst.trans (congrArg _ ?_)
    unfold addedLevels
    split_ifs <;> rfl
  · unfold ImportRow.written addedClasses
    cases hname : row.class? with
    | none => simp [(classes_withGrade d.val row ordinals).1]
    | some name =>
      obtain ⟨y, hyear⟩ := Option.isSome_iff_exists.1 (h.year (by simp [hname]))
      rw [hyear]
      dsimp only
      rw [← classNamed_withGrade h.grade]
      have hseq : (row.withGrade ordinals d.val).seq.class_ = d.val.seq.class_ := by
        unfold ImportRow.withGrade gradeWritten
        cases gradeNamed d.val row.grade <;> rfl
      rw [ids_classWritten, (classes_withGrade d.val row ordinals).1, hseq]
      rfl

omit [Unicode] in
/-- What the report reads off an action. -/
theorem actions_read (g c : Bool) :
    let grade := if g then "update_grade" else "create_grade"
    let both := grade ++ "+" ++ if c then "update_class" else "create_class"
    (Text.startsWith grade "create_grade" = !g ∧ Text.startsWith grade "update_grade" = g ∧
      Text.endsWith grade "create_class" = false) ∧
    Text.startsWith both "create_grade" = !g ∧ Text.startsWith both "update_grade" = g ∧
      Text.endsWith both "create_class" = !c := by
  revert g c
  decide

theorem action_read (row : ImportRow) (t : Tables) :
    Text.startsWith (row.action t) "create_grade" = !(gradeNamed t row.grade).isSome ∧
      Text.startsWith (row.action t) "update_grade" = (gradeNamed t row.grade).isSome ∧
      (addedClasses row t).length = (Text.endsWith (row.action t) "create_class").toNat := by
  have hg : row.gradeAction t =
      if (gradeNamed t row.grade).isSome then "update_grade" else "create_grade" := rfl
  unfold ImportRow.action addedClasses
  cases hname : row.class? with
  | none =>
    obtain ⟨⟨hcreate, hupdate, hclass⟩, -⟩ := actions_read (gradeNamed t row.grade).isSome true
    dsimp only
    rw [hg]
    exact ⟨hcreate, hupdate, by rw [hclass]; rfl⟩
  | some name =>
    dsimp only
    have hc : row.classAction t name =
        if ((gradeNamed t row.grade).bind fun l => classNamed t name l.levelId).isSome then
          "update_class"
        else "create_class" := rfl
    rw [hg, hc]
    obtain ⟨-, hcreate, hupdate, hclass⟩ := actions_read (gradeNamed t row.grade).isSome
      ((gradeNamed t row.grade).bind fun l => classNamed t name l.levelId).isSome
    refine ⟨hcreate, hupdate, ?_⟩
    rw [hclass]
    cases ((gradeNamed t row.grade).bind fun l => classNamed t name l.levelId).isSome <;> rfl

/-- Levels and classes with these identifiers have come. -/
structure Inserted (levels classes : List Nat) (d d' : Db) : Prop where
  levels : d'.val.levels.map LevelRow.levelId = d.val.levels.map LevelRow.levelId ++ levels
  classes : d'.val.classes.map ClassRow.id = d.val.classes.map ClassRow.id ++ classes

omit [Unicode] in
theorem Inserted.trans {levels levels' classes classes' : List Nat} {d d' d'' : Db}
    (h : Inserted levels classes d d') (h' : Inserted levels' classes' d' d'') :
    Inserted (levels ++ levels') (classes ++ classes') d d'' where
  levels := by rw [h'.levels, h.levels, List.append_assoc]
  classes := by rw [h'.classes, h.classes, List.append_assoc]

/-- What the results count is what has come. -/
structure Counted (results : List RowResult) (levels classes : List Nat) : Prop where
  createdGrades : (importReport results).createdGrades = levels.length
  createdClasses : (importReport results).createdClasses = classes.length
  applied : (importReport results).createdGrades + (importReport results).updatedGrades =
    (importReport results).appliedRows

omit [Unicode] in
theorem counted_nil : Counted [] [] [] := ⟨rfl, rfl, rfl⟩

omit [Unicode] in
/-- A row that was passed over counts for nothing. -/
theorem Counted.skip {r : RowResult} {results : List RowResult} {levels classes : List Nat}
    (hr : r.verdict = skippedVerdict) (h : Counted results levels classes) :
    Counted (r :: results) levels classes := by
  have hvalid : r.valid = false := congrArg Prod.fst hr
  have hsame : (r :: results).filter RowResult.valid = results.filter RowResult.valid :=
    List.filter_cons_of_neg (by simp [hvalid])
  obtain ⟨hgrades, hclasses, happlied⟩ := h
  simp only [importReport] at hgrades hclasses happlied
  constructor <;> simp only [importReport, hsame] <;> assumption

/-- A row that was written counts for what it added. -/
theorem Counted.write {row : ImportRow} {t : Tables} {r : RowResult} {results : List RowResult}
    {levels classes : List Nat} (hr : r.verdict = (true, row.action t))
    (h : Counted results levels classes) :
    Counted (r :: results) (addedLevels row t ++ levels) (addedClasses row t ++ classes) := by
  have hvalid : r.valid = true := congrArg Prod.fst hr
  have haction : r.action = row.action t := congrArg Prod.snd hr
  have hkept : (r :: results).filter RowResult.valid = r :: results.filter RowResult.valid :=
    List.filter_cons_of_pos hvalid
  obtain ⟨hcreate, hupdate, hclass⟩ := action_read row t
  obtain ⟨hgrades, hclasses, happlied⟩ := h
  simp only [importReport] at hgrades hclasses happlied
  have hlevels : (addedLevels row t).length =
      (Text.startsWith (row.action t) "create_grade").toNat := by
    rw [hcreate]
    unfold addedLevels
    cases (gradeNamed t row.grade).isSome <;> rfl
  constructor
  · simp only [importReport, hkept, List.countP_cons, haction, List.length_append, hlevels, hgrades]
    cases Text.startsWith (row.action t) "create_grade" <;> simp [Nat.add_comm]
  · simp only [importReport, hkept, List.countP_cons, haction, List.length_append, hclass, hclasses]
    cases Text.endsWith (row.action t) "create_class" <;> simp [Nat.add_comm]
  · simp only [importReport, hkept, List.countP_cons, haction, List.length_cons, hcreate, hupdate]
    cases (gradeNamed t row.grade).isSome <;> simp <;> omega

theorem inserted_of_row {row : ImportRow} {n : Nat} {r : RowResult} {d' : Db}
    (hyear : (activeYear d.val).isSome) (h : resolveImportRow ordinals true n row d = .ok r d') :
    (r.verdict = skippedVerdict ∧ d' = d) ∨
    r.verdict = (true, row.action d.val) ∧ activeYear d'.val = activeYear d.val ∧
      Inserted (addedLevels row d.val) (addedClasses row d.val) d d' := by
  rcases import_cases row ordinals d n with
    ⟨-, e, d₁, he⟩ | ⟨-, -, r', hr', hverdict⟩ | ⟨-, -, hyearless, -⟩ |
    ⟨-, -, hwritable, r', d₁, hr', hverdict, hval⟩
  · rw [h] at he
    cases he
  · rw [h] at hr'
    cases hr'
    exact .inl ⟨hverdict, rfl⟩
  · rw [hyearless.year] at hyear
    cases hyear
  · rw [h] at hr'
    cases hr'
    obtain ⟨hlevels, hclasses⟩ := ids_written hwritable
    refine .inr ⟨hverdict, ?_, ?_, ?_⟩
    · unfold activeYear
      rw [hval, (levels_written row ordinals d).2]
    · rw [hval, hlevels]
    · rw [hval, hclasses]

/-- The import of numbered rows, under an active year. -/
theorem counted_importing {rows : List (ImportRow × Nat)} {results : List RowResult} {d' : Db}
    (hyear : (activeYear d.val).isSome) (h : importing ordinals rows d = .ok results d') :
    ∃ levels classes, Inserted levels classes d d' ∧ Counted results levels classes := by
  induction rows generalizing d results with
  | nil =>
    obtain ⟨rfl, rfl⟩ := pure_eq_ok.1 h
    exact ⟨[], [], ⟨(List.append_nil _).symm, (List.append_nil _).symm⟩, counted_nil⟩
  | cons p rows ih =>
    unfold importing at h
    rw [List.mapM_cons] at h
    obtain ⟨r, d₁, hr, h⟩ := bind_eq_ok.1 h
    obtain ⟨rs, d₂, hrs, h⟩ := bind_eq_ok.1 h
    obtain ⟨rfl, rfl⟩ := pure_eq_ok.1 h
    rcases inserted_of_row hyear hr with ⟨hverdict, rfl⟩ | ⟨hverdict, hsame, hone⟩
    · obtain ⟨levels, classes, hinserted, hcounted⟩ := ih hyear hrs
      exact ⟨levels, classes, hinserted, hcounted.skip hverdict⟩
    · obtain ⟨levels, classes, hinserted, hcounted⟩ := ih (hsame ▸ hyear) hrs
      exact ⟨_, _, hone.trans hinserted, hcounted.write hverdict⟩

/-- **The report counts what the import did.** -/
theorem import_report {rows : List ImportRow} {results : List RowResult} {d' : Db}
    (hyear : (activeYear d.val).isSome) (h : importAcademicRows rows d = .ok results d') :
    ∃ levels classes, Inserted levels classes d d' ∧
      (importReport results).createdGrades = levels.length ∧
      (importReport results).createdClasses = classes.length ∧
      (importReport results).createdGrades + (importReport results).updatedGrades =
        (importReport results).appliedRows ∧
      (importReport results).appliedRows + (importReport results).skippedRows =
        (importReport results).totalRows ∧
      (importReport results).totalRows = rows.length := by
  have himport : importing (plannedOrdinals rows d) rows.zipIdx d = .ok results d' := h
  obtain ⟨levels, classes, hinserted, hcounted⟩ := counted_importing hyear himport
  refine ⟨levels, classes, hinserted, hcounted.createdGrades, hcounted.createdClasses,
    hcounted.applied, ?_, ?_⟩
  · have hle : (results.filter RowResult.valid).length ≤ results.length := List.length_filter_le _ _
    simp only [importReport]
    omega
  · have hlength := (length_of_mapM himport).trans List.length_zipIdx
    exact hlength

end Rows

end Imports

/-! ## A refused capacity, and a grade in two spellings -/

/-- A row that names a grade and no more. -/
def gradeRow (name : String) : ImportRow where
  gradeName := some name
  gradeOrdinal := none
  gradeIscedLevel := none
  gradeAgeMin := none
  gradeAgeMax := none
  gradeActive := none
  className := none
  classCapacity := none
  classActive := none
  headTeacherEmail := none

section Example

attribute [local instance] ascii

/-- A row of a class with this capacity. -/
def classRow (grade name capacity : String) : ImportRow :=
  { gradeRow grade with className := some name, classCapacity := some capacity }

theorem negative_capacity_raises :
    returned (importAcademicRowsLying (fun _ => .asInserted) [classRow "G9" "A" "-5"])
      smallSchool = none := by
  decide +kernel

/-- The database's error for one row's capacity ends the import. -/
theorem negative_capacity_not_partial :
    ¬PartialSuccess (fun _ => .asInserted) [classRow "G9" "A" "-5"] smallSchool := by
  rintro ⟨results, d', hok, -⟩
  have hreturned := negative_capacity_raises
  unfold returned at hreturned
  rw [hok] at hreturned
  cases hreturned

/-- A grade in two spellings, a class in two, and a row that is no grade's. -/
def respelled : List ImportRow :=
  [classRow "G9" "A" "20", classRow "g9" "a" "30", gradeRow "", gradeRow "G1"]

theorem respelled_imported :
    (returned (importAcademicRows respelled) smallSchool).map importReport =
    some { totalRows := 4, appliedRows := 3, skippedRows := 1, createdGrades := 1,
           updatedGrades := 2, createdClasses := 1, updatedClasses := 1 } := by
  decide +kernel

theorem respelled_counted :
    ∃ results d', importAcademicRows respelled smallSchool = .ok results d' ∧
    ∃ levels classes, Inserted levels classes smallSchool d' ∧ levels.length = 1 ∧
      classes.length = 1 := by
  obtain ⟨results, hresults, hreport⟩ := Option.map_eq_some_iff.1 respelled_imported
  obtain ⟨d', hok⟩ := returned_eq_some.1 hresults
  obtain ⟨levels, classes, hinserted, hgrades, hclasses, -⟩ := import_report (by decide +kernel) hok
  rw [hreport] at hgrades hclasses
  exact ⟨results, d', hok, levels, classes, hinserted, hgrades.symm, hclasses.symm⟩

end Example

end Sams.School
