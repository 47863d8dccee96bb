import Sams.Lib.Slots
import Sams.School.Applying

/-!
# What the rows of an import find

Names of levels and of classes need not be unique but for the case of their letters, so where the
rows of a table lie decides which level and which class a row of the import writes. It does not
decide more: as the import goes on, a name that was there at its start is found among the levels and
the classes of the start, and a name that was not is found where a row before has added it.

* **`imported`** — what an import has written of the levels and of the classes, by where its rows
  would have found them in the school of the start.
-/

namespace Sams.School

open Programs Rows Runs Layouts Slots TenantRepository

section Imports

variable [Unicode]

/-! ## Levels and classes by their names -/

/-- A level by its number and its name; an import writes all but the number. -/
def levelShape : Shape LevelRow String Nat LevelRow where
  id := LevelRow.levelId
  name l := Unicode.sqlLower l.name
  core := LevelRow.levelId
  content l := { l with levelId := 0 }
  id_of_core h := h
  ext {x y} hcore hcontent := by
    cases x
    cases y
    simp_all

/-- The level of a class, its name and its year. -/
abbrev ClassName := (Nat ⊕ String) × String × Nat

/-- A class by its number and its name, where `level` says what level a number is of. -/
def classShape (level : Nat → Nat ⊕ String) :
    Shape ClassRow ClassName (Nat × Nat × Nat) ClassRow where
  id := ClassRow.id
  name c := (level c.levelId, Unicode.sqlLower c.name, c.academicYearId)
  core c := (c.id, c.levelId, c.academicYearId)
  content c := { c with id := 0, levelId := 0, academicYearId := 0 }
  id_of_core h := congrArg Prod.fst h
  ext {x y} hcore hcontent := by
    cases x
    cases y
    simp_all

/-! ## Where a row writes, in the school of the start -/

section Entries

variable (ℓ : Lying) (d : Db) (row : ImportRow)

/-- The level of the row: one of the start, or one of its name. -/
def levelTarget : Nat ⊕ String := levelShape.target ℓ.levels d.val.levels (nameKey row.grade)

/-- The class of the row: one of the start, or one of its name in its level. -/
def classTarget (name : String) (yearId : Nat) : Nat ⊕ ClassName :=
  (classShape .inl).target ℓ.classes d.val.classes (levelTarget ℓ d row, nameKey name, yearId)

/-- What the row writes of its level. -/
def levelEntry (ordinals : List (String × Int)) : Entry String LevelRow where
  target := levelTarget ℓ d row
  fresh :=
    { levelId := 0, name := row.grade
      iscedLevel := some ((number row.gradeIscedLevel).getD 1)
      ageBandMin := some ((number row.gradeAgeMin).getD 6)
      ageBandMax := some ((number row.gradeAgeMax).getD 7)
      ordinal := some (((number row.gradeOrdinal).or (ordinals.lookup row.grade)).getD 1)
      isActive := parseImportBool row.gradeActive true }
  patch l :=
    { l with
      name := Text.strip row.grade
      iscedLevel := (number row.gradeIscedLevel).or l.iscedLevel
      ageBandMin := (number row.gradeAgeMin).or l.ageBandMin
      ageBandMax := (number row.gradeAgeMax).or l.ageBandMax
      ordinal := (number row.gradeOrdinal).or l.ordinal
      isActive := parseImportBool row.gradeActive true }

/-- What the row writes of its class. -/
def classEntry (name : String) (yearId : Nat) : Entry ClassName ClassRow where
  target := classTarget ℓ d row name yearId
  fresh :=
    { id := 0, name := Text.strip name, levelId := 0
      headTeacherId :=
        Text.nonZero ((headTeacherOf (d.laid ℓ).val (cleanCell row.headTeacherEmail)).1.getD none)
      capacity :=
        if (number row.classCapacity).getD 25 = 0 then 25 else (number row.classCapacity).getD 25
      isActive := parseImportBool row.classActive true, academicYearId := 0
      sectionLabel := deriveSectionLabel (Text.strip name) }
  patch c :=
    { c with
      name := Text.strip name
      headTeacherId :=
        (headTeacherOf (d.laid ℓ).val (cleanCell row.headTeacherEmail)).1.getD c.headTeacherId
      capacity := (number row.classCapacity).getD c.capacity
      isActive := parseImportBool row.classActive true
      sectionLabel := deriveSectionLabel (Text.strip name) }

/-- The class of the row is written where a year is active. -/
def classEntry? : List (Entry ClassName ClassRow) :=
  match row.class?, activeYear d.val with
  | some name, some y => [classEntry ℓ d row name y]
  | _, _ => []

end Entries

/-- What the rows write of the levels, each where the levels lie at its turn. -/
def levelEntries (lying : Nat → Lying) (ordinals : List (String × Int))
    (rows : List (ImportRow × Nat)) (d : Db) :
    List (Entry String LevelRow) :=
  (rows.filter (·.1.Whole)).map fun p => levelEntry (lying p.2) d p.1 ordinals

/-- What the rows write of the classes. -/
def classEntries (lying : Nat → Lying) (rows : List (ImportRow × Nat)) (d : Db) :
    List (Entry ClassName ClassRow) :=
  (rows.filter (·.1.Whole)).flatMap fun p => classEntry? (lying p.2) d p.1

/-! ## What an import leaves -/

/-- Nothing is written but the levels and the classes. -/
structure Spared (d e : Db) : Prop where
  rest : e.val = { d.val with
    levels := e.val.levels, classes := e.val.classes, teachers := e.val.teachers, seq := e.val.seq }
  teachers : e.val.teachers.Perm d.val.teachers

section Spared

variable {d e e' : Db}

omit [Unicode] in
theorem spared_refl (d : Db) : Spared d d := ⟨rfl, .refl _⟩

omit [Unicode] in
theorem Spared.trans (h : Spared d e) (h' : Spared e e') : Spared d e' := by
  refine ⟨?_, h'.teachers.trans h.teachers⟩
  rw [h'.rest, h.rest]

omit [Unicode] in
theorem spared_laid (d : Db) (ℓ : Lying) : Spared d (d.laid ℓ) := ⟨rfl, lay_perm _ _ _⟩

omit [Unicode] in
theorem Spared.activeYear (h : Spared d e) : activeYear e.val = activeYear d.val := by
  have hyears : e.val.years = d.val.years := by rw [h.rest]
  unfold School.activeYear
  rw [hyears]

theorem Spared.headTeacherOf (h : Spared d e) (ℓ : Lying) (email : String) :
    headTeacherOf (e.laid ℓ).val email = headTeacherOf (d.laid ℓ).val email := by
  have husers : (e.laid ℓ).val.users = (d.laid ℓ).val.users := by
    show e.val.users = d.val.users
    rw [h.rest]
  have hteachers : (e.laid ℓ).val.teachers = (d.laid ℓ).val.teachers :=
    lay_congr e.ok.keys.teachers h.teachers
  unfold School.headTeacherOf teacherOf
  rw [husers, hteachers]

theorem spared_withGrade {row : ImportRow} {ordinals : List (String × Int)}
    (hval : e.val = row.withGrade ordinals d.val) : Spared d e := by
  unfold ImportRow.withGrade gradeWritten at hval
  constructor <;> rw [hval] <;> cases gradeNamed d.val row.grade <;> rfl

theorem spared_written {row : ImportRow} {ordinals : List (String × Int)}
    (hval : e.val = row.written ordinals d.val) : Spared d e := by
  unfold ImportRow.written classWritten ImportRow.withGrade gradeWritten at hval
  constructor <;> rw [hval] <;> cases gradeNamed d.val row.grade <;> dsimp only <;> split <;>
    first | rfl | (split <;> rfl)

/-- **A row** writes nothing but its grade and its class. -/
theorem spared_row {row : ImportRow} {ordinals : List (String × Int)} {n : Nat} {r : RowResult}
    (h : resolveImportRow ordinals true n row d = .ok r e) : Spared d e := by
  rcases import_cases row ordinals d n with
    ⟨-, e', d₁, he⟩ | ⟨-, -, r', hr', -⟩ | ⟨-, -, -, r', d₁, hr', -, hval⟩ |
      ⟨-, -, -, r', d₁, hr', -, hval⟩
  · rw [h] at he
    cases he
  all_goals
    rw [h] at hr'
    cases hr'
  · exact spared_refl d
  · exact spared_withGrade hval
  · exact spared_written hval

end Spared

/-! ## The levels -/

section Levels

variable {row : ImportRow} {ordinals : List (String × Int)} {ℓ : Lying} {d e e' : Db}

theorem gradeNamed_laid (name : String) : gradeNamed (e.laid ℓ).val name =
    levelShape.named ℓ.levels e.val.levels (nameKey name) := rfl

/-- The grade is upserted: `y` is the row that is written. -/
theorem upserted_withGrade
    (hkeyed : Keyed LevelRow.levelId (row.withGrade ordinals (e.laid ℓ).val).levels) :
    ∃ y, Upserted levelShape ℓ.levels (nameKey row.grade) (levelEntry ℓ d row ordinals).fresh
      (levelEntry ℓ d row ordinals).patch e.val.levels
        (row.withGrade ordinals (e.laid ℓ).val).levels y ∧
      gradeId (e.laid ℓ).val row.grade = y.levelId := by
  have hnamed := gradeNamed_laid (e := e) (ℓ := ℓ) row.grade
  have hlaid : (e.laid ℓ).val.levels.Perm e.val.levels := lay_perm _ _ _
  unfold ImportRow.withGrade gradeWritten at hkeyed ⊢
  unfold gradeId
  cases hg : gradeNamed (e.laid ℓ).val row.grade with
  | none =>
    rw [hg] at hkeyed
    have hordinal : (row.fields (e.laid ℓ).val ordinals).ordinal.getD 1 =
        ((number row.gradeOrdinal).or (ordinals.lookup row.grade)).getD 1 := by
      unfold ImportRow.fields
      dsimp only
      rw [hg]
      cases number row.gradeOrdinal <;> rfl
    refine ⟨_, upserted_append hlaid hkeyed (hnamed.symm.trans hg) (nameKey_grade row).symm ?_, rfl⟩
    simp only [levelShape, levelEntry, hordinal]
    rfl
  | some x =>
    have hordinal : (row.fields (e.laid ℓ).val ordinals).ordinal = number row.gradeOrdinal := by
      unfold ImportRow.fields
      dsimp only
      rw [hg]
      exact if_neg fun h => by cases h.2
    refine ⟨_, upserted_updateWhere hlaid e.ok.keys.levels (hnamed.symm.trans hg) rfl rfl ?_, rfl⟩
    simp only [levelShape, levelEntry, hordinal]
    rfl

/-- **The level of a row.** -/
theorem levels_row {n : Nat} {r : RowResult}
    (h : resolveImportRow ordinals true n row (e.laid ℓ) = .ok r e')
    (hgrown : Grown levelShape d.val.levels e.val.levels) :
    Written levelShape d.val.levels (if row.Whole then [levelEntry ℓ d row ordinals] else [])
      e.val.levels e'.val.levels := by
  have hwrote : row.Whole → e'.val.levels = (row.withGrade ordinals (e.laid ℓ).val).levels →
      Written levelShape d.val.levels (if row.Whole then [levelEntry ℓ d row ordinals] else [])
        e.val.levels e'.val.levels := by
    intro hwhole hval
    have hkeyed : Keyed LevelRow.levelId e'.val.levels := e'.ok.keys.levels
    rw [hval] at hkeyed ⊢
    obtain ⟨y, hy, -⟩ := upserted_withGrade (d := d) hkeyed
    rw [if_pos hwhole]
    exact hy.written hgrown hkeyed
  rcases import_cases row ordinals (e.laid ℓ) n with
    ⟨-, e', d₁, he⟩ | ⟨-, hnot, r', hr', -⟩ | ⟨-, hwhole, -, r', d₁, hr', -, hval⟩ |
    ⟨-, hwhole, -, r', d₁, hr', -, hval⟩
  · rw [h] at he
    cases he
  all_goals
    rw [h] at hr'
    cases hr'
  · rw [if_neg hnot]
    exact written_perm hgrown (lay_perm _ _ _)
  · exact hwrote hwhole (by rw [hval])
  · refine hwrote hwhole ?_
    rw [hval]
    unfold ImportRow.written
    split
    · exact (classWritten_rest _ _ _).1
    · rfl

theorem levelEntries_cons (lying : Nat → Lying) (ordinals : List (String × Int))
    (p : ImportRow × Nat)
    (rows : List (ImportRow × Nat)) (d : Db) : levelEntries lying ordinals (p :: rows) d =
      (if p.1.Whole then [levelEntry (lying p.2) d p.1 ordinals] else []) ++
        levelEntries lying ordinals rows d := by
  unfold levelEntries
  rw [List.filter_cons]
  by_cases hwhole : p.1.Whole
  · rw [if_pos (decide_eq_true hwhole), if_pos hwhole]
    rfl
  · rw [if_neg (by simpa using hwhole), if_neg hwhole]
    rfl

/-- **The levels of an import.** -/
theorem levels_importing {lying : Nat → Lying} {rows : List (ImportRow × Nat)}
    {results : List RowResult} (h : importingLying lying ordinals rows e = .ok results e')
    (hgrown : Grown levelShape d.val.levels e.val.levels) :
    Written levelShape d.val.levels (levelEntries lying ordinals rows d) e.val.levels
      e'.val.levels := by
  induction rows generalizing e results with
  | nil =>
    obtain ⟨-, rfl⟩ := pure_eq_ok.1 h
    exact written_perm hgrown (.refl _)
  | cons p rows ih =>
    obtain ⟨r, rs, d₁, hr, -, hrs, -⟩ := importingLying_cons.1 h
    have hfirst := levels_row (d := d) hr hgrown
    rw [levelEntries_cons]
    exact hfirst.append (ih hrs hfirst.grown)

end Levels

/-! ## The classes -/

/-- It is known which levels the levels of the tables are. -/
def Knows (level : Nat → Nat ⊕ String) (d e : Db) : Prop :=
  ∀ l ∈ e.val.levels, level l.levelId = levelShape.slot d.val.levels l

section Classes

variable {level : Nat → Nat ⊕ String} {row : ImportRow} {ordinals : List (String × Int)} {ℓ : Lying}
  {d e e' : Db} {name : String} {y : Nat}

/-- What is known of a level is known of it before. -/
theorem Knows.before {us : List (Entry String LevelRow)} (h : Knows level d e')
    (hlevels : Written levelShape d.val.levels us e.val.levels e'.val.levels) :
    Knows level d e := by
  intro l hl
  obtain ⟨l', hl', hcore, hslot⟩ := hlevels.exists_row hl
  have hid : l'.levelId = l.levelId := hcore
  rw [← hid, h l' hl', hslot]

/-- A level is known by its number. -/
theorem Knows.levelId_eq (h : Knows level d e) (hgrown : Grown levelShape d.val.levels e.val.levels)
    {i j : Nat} (hi : i ∈ e.val.levels.map LevelRow.levelId)
    (hj : j ∈ e.val.levels.map LevelRow.levelId) (hsame : level i = level j) : i = j := by
  obtain ⟨l, hl, rfl⟩ := List.mem_map.1 hi
  obtain ⟨l', hl', rfl⟩ := List.mem_map.1 hj
  rw [h l hl, h l' hl'] at hsame
  rw [hgrown.slot_injective hl hl' hsame]

/-- At the start the levels are known. -/
theorem knows_inl (d : Db) : Knows .inl d d := fun _ hl => (if_pos (List.mem_map_of_mem hl)).symm

/-- Of what is known, the classes of the start are known alike. -/
theorem target_known (h : Knows level d d) (k : ClassName) (ℓ : Layout Nat) :
    (classShape level).target ℓ d.val.classes k = (classShape .inl).target ℓ d.val.classes k := by
  have hnamed : (classShape level).named ℓ d.val.classes k =
      (classShape .inl).named ℓ d.val.classes k := by
    refine Option.ext fun c => ?_
    rw [named_eq_some (T := classShape level) d.ok.keys.classes,
      named_eq_some (T := classShape .inl) d.ok.keys.classes]
    have hname : ∀ c ∈ d.val.classes, (classShape level).name c = (classShape .inl).name c := by
      intro c hc
      obtain ⟨l, hl, hid⟩ := d.ok.placements.class_level.exists_row hc rfl
      have hlevel : level c.levelId = .inl c.levelId := by
        rw [← hid, h l hl, knows_inl d l hl]
      unfold classShape
      dsimp only
      rw [hlevel]
    refine and_congr (and_congr_right fun hc => by rw [hname c hc]) ?_
    exact forall₂_congr fun c hc => by rw [hname c hc]; rfl
  unfold Shape.target
  rw [hnamed]
  rfl

/-- The class of a level is looked for under the name of the level. -/
theorem classNamed_laid (hknows : Knows level d e')
    (hgrown : Grown levelShape d.val.levels e'.val.levels)
    (hkept : ∀ l ∈ e.val.levels, l.levelId ∈ e'.val.levels.map LevelRow.levelId) {i : Nat}
    (hi : i ∈ e'.val.levels.map LevelRow.levelId) (hyear : activeYear e.val = some y) :
    classNamed (e.laid ℓ).val name i =
      (classShape level).named ℓ.classes e.val.classes (level i, nameKey name, y) := by
  have hfits : ∀ c ∈ e.val.classes, (sameName c.name (Text.strip name) ∧ c.levelId = i ∧
      some c.academicYearId = activeYear (e.laid ℓ).val) ↔
        (classShape level).name c = (level i, nameKey name, y) := by
    intro c hc
    obtain ⟨l, hl, hid⟩ := e.ok.placements.class_level.exists_row hc rfl
    have hyear' : activeYear (e.laid ℓ).val = some y := hyear
    rw [hyear', Option.some.injEq]
    unfold classShape sameName nameKey
    rw [Prod.mk.injEq, Prod.mk.injEq, decide_eq_true_eq]
    constructor
    · rintro ⟨hname, rfl, hyear⟩
      exact ⟨rfl, hname, hyear⟩
    · rintro ⟨hlevel, hname, hyear⟩
      exact ⟨hname, hknows.levelId_eq hgrown (hid ▸ hkept l hl) hi hlevel, hyear⟩
  refine Option.ext fun c => ?_
  rw [named_eq_some (T := classShape level) e.ok.keys.classes]
  have hfind := find?_lay (ℓ := ℓ.classes) (l := e.val.classes) e.ok.keys.classes
    (p := fun c => decide (sameName c.name (Text.strip name) ∧ c.levelId = i ∧
      some c.academicYearId = activeYear (e.laid ℓ).val)) (x := c)
  refine hfind.trans (and_congr (and_congr_right fun hc => ?_) (forall₂_congr fun c' hc' => ?_))
  · rw [decide_eq_true_eq, hfits c hc]
  · rw [decide_eq_true_eq, hfits c' hc']
    rfl

variable (name) in
/-- Once its grade is written, a row finds the slot of its level, and its class there. -/
theorem classNamed_written
    (hlevels : e'.val.levels = (row.withGrade ordinals (e.laid ℓ).val).levels)
    (hknows : Knows level d e') (hgrown : Grown levelShape d.val.levels e.val.levels)
    (hyear : activeYear e.val = some y) :
    level (gradeId (e.laid ℓ).val row.grade) = levelTarget ℓ d row ∧
      classNamed (row.withGrade ordinals (e.laid ℓ).val) name (gradeId (e.laid ℓ).val row.grade) =
        (classShape level).named ℓ.classes e.val.classes
          (levelTarget ℓ d row, nameKey name, y) := by
  let t := (e.laid ℓ).val
  have hkeyed : Keyed LevelRow.levelId (row.withGrade ordinals t).levels :=
    hlevels ▸ e'.ok.keys.levels
  obtain ⟨x, hx, hid⟩ := upserted_withGrade (d := d) hkeyed
  rw [← hlevels] at hx
  have hwrote := hx.written hgrown e'.ok.keys.levels
  have hmem : x ∈ e'.val.levels := (hx.mem x).2 (.inl rfl)
  have hlevel : level (gradeId t row.grade) = levelTarget ℓ d row := by
    rw [hid, hknows x hmem]
    exact hx.slot hgrown
  have hi : gradeId t row.grade ∈ e'.val.levels.map LevelRow.levelId := by
    rw [hid]
    exact List.mem_map_of_mem hmem
  have hsame : classNamed (row.withGrade ordinals t) name (gradeId t row.grade) =
      classNamed t name (gradeId t row.grade) := by
    unfold classNamed
    rw [(classes_withGrade t row ordinals).1, activeYear_withGrade]
  refine ⟨hlevel, ?_⟩
  rw [hsame, ← hlevel]
  refine classNamed_laid hknows hwrote.grown (fun l hl => ?_) hi hyear
  obtain ⟨l', hl', hcore, -⟩ := hwrote.exists_row hl
  exact List.mem_map.2 ⟨l', hl', hcore⟩

/-- The class is upserted: `z` is the row that is written. -/
theorem upserted_class (hname : row.class? = some name) (hyear : activeYear e.val = some y)
    (hval : e'.val = row.written ordinals (e.laid ℓ).val) (hknows : Knows level d e')
    (hgrown : Grown levelShape d.val.levels e.val.levels) (hspared : Spared d e) :
    ∃ z, Upserted (classShape level) ℓ.classes (levelTarget ℓ d row, nameKey name, y)
      (classEntry ℓ d row name y).fresh (classEntry ℓ d row name y).patch e.val.classes
        e'.val.classes z := by
  let t := (e.laid ℓ).val
  have hyear' : activeYear t = some y := hyear
  have hwritten : row.written ordinals t =
      classWritten (row.classPlan t name []) (gradeId t row.grade) y
        (row.withGrade ordinals t) := by
    unfold ImportRow.written
    rw [hname, hyear']
  have hclasses : (row.withGrade ordinals t).classes = t.classes :=
    (classes_withGrade t row ordinals).1
  have hlevels : e'.val.levels = (row.withGrade ordinals t).levels := by
    rw [hval]
    exact (congrArg Tables.levels hwritten).trans (classWritten_rest _ _ _).1
  obtain ⟨hlevel, hfound⟩ := classNamed_written name hlevels hknows hgrown hyear
  -- the plan of the class is that of the start
  have hplan : (row.classPlan t name []).name = name := rfl
  have hhead : (row.classPlan t name []).headTeacher =
      (headTeacherOf (d.laid ℓ).val (cleanCell row.headTeacherEmail)).1 :=
    congrArg Prod.fst (hspared.headTeacherOf ℓ (cleanCell row.headTeacherEmail))
  have hcapacity : (row.classPlan t name []).capacity = number row.classCapacity := rfl
  have hactive : (row.classPlan t name []).active = parseImportBool row.classActive true := rfl
  have hlaid : (row.withGrade ordinals t).classes.Perm e.val.classes := by
    rw [hclasses]
    exact lay_perm _ _ _
  have hkeyed' : Keyed ClassRow.id e'.val.classes := e'.ok.keys.classes
  rw [hval, hwritten] at hkeyed' ⊢
  unfold classWritten at hkeyed' ⊢
  simp only [hplan, hhead, hcapacity, hactive] at hkeyed' ⊢
  cases hc : classNamed (row.withGrade ordinals t) name (gradeId t row.grade) with
  | none =>
    rw [hc] at hkeyed'
    refine ⟨_, upserted_append hlaid hkeyed' (hfound.symm.trans hc) (Prod.ext hlevel rfl) ?_⟩
    simp only [classShape, classEntry]
  | some c =>
    obtain ⟨⟨-, hcname⟩, -⟩ :=
      (named_eq_some (T := classShape level) e.ok.keys.classes).1 (hfound.symm.trans hc)
    have hcyear : c.academicYearId = y :=
      congrArg (fun k : ClassName => k.2.2) (show (classShape level).name c = _ from hcname)
    have hclevel : c.levelId = gradeId t row.grade := by
      unfold classNamed at hc
      have hfits := List.find?_some hc
      rw [decide_eq_true_eq] at hfits
      exact hfits.2.1
    refine ⟨_, upserted_updateWhere hlaid e.ok.keys.classes (hfound.symm.trans hc)
      (Prod.ext hlevel (Prod.ext rfl hcyear)) ?_ ?_⟩
    · simp only [classShape, hclevel]
    · simp only [classShape, classEntry]

/-- **The class of a row.** -/
theorem classes_row {n : Nat} {r : RowResult}
    (h : resolveImportRow ordinals true n row (e.laid ℓ) = .ok r e')
    (hknows : Knows level d e') (hknown : Knows level d d)
    (hlevels : Grown levelShape d.val.levels e.val.levels)
    (hgrown : Grown (classShape level) d.val.classes e.val.classes) (hspared : Spared d e) :
    Written (classShape level) d.val.classes (if row.Whole then classEntry? ℓ d row else [])
      e.val.classes e'.val.classes := by
  have hidle : ∀ t : Tables, t = e'.val → t.classes = (e.laid ℓ).val.classes →
      Written (classShape level) d.val.classes [] e.val.classes e'.val.classes := by
    rintro t rfl hval
    rw [hval]
    exact written_perm hgrown (lay_perm _ _ _)
  have hyears : activeYear (e.laid ℓ).val = activeYear d.val := hspared.activeYear
  rcases import_cases row ordinals (e.laid ℓ) n with
    ⟨-, e', d₁, he⟩ | ⟨-, hnot, r', hr', -⟩ | ⟨-, hwhole, hyearless, r', d₁, hr', -, hval⟩ |
    ⟨-, hwhole, hwritable, r', d₁, hr', -, hval⟩
  · rw [h] at he
    cases he
  all_goals
    rw [h] at hr'
    cases hr'
  · rw [if_neg hnot]
    exact hidle _ rfl rfl
  · have hnone : classEntry? ℓ d row = [] := by
      unfold classEntry?
      rw [← hyears, hyearless.year]
      cases row.class? <;> rfl
    rw [if_pos hwhole, hnone]
    exact hidle _ hval.symm (classes_withGrade (e.laid ℓ).val row ordinals).1
  · rw [if_pos hwhole]
    cases hname : row.class? with
    | none =>
      have hnone : classEntry? ℓ d row = [] := by
        unfold classEntry?
        rw [hname]
      rw [hnone]
      refine hidle _ hval.symm ?_
      unfold ImportRow.written
      rw [hname]
      exact (classes_withGrade (e.laid ℓ).val row ordinals).1
    | some name =>
      obtain ⟨y, hyear⟩ := Option.isSome_iff_exists.1 (hwritable.year (by simp [hname]))
      have hone : classEntry? ℓ d row = [classEntry ℓ d row name y] := by
        unfold classEntry?
        rw [hname, ← hyears, hyear]
      rw [hone]
      have hyear' : activeYear e.val = some y := hyear
      obtain ⟨z, hz⟩ := upserted_class hname hyear' hval hknows hlevels hspared
      have hwritten := hz.written hgrown e'.ok.keys.classes
      rw [target_known hknown] at hwritten
      exact hwritten

theorem classEntries_cons (lying : Nat → Lying) (p : ImportRow × Nat)
    (rows : List (ImportRow × Nat)) (d : Db) :
    classEntries lying (p :: rows) d =
      (if p.1.Whole then classEntry? (lying p.2) d p.1 else []) ++ classEntries lying rows d := by
  unfold classEntries
  rw [List.filter_cons]
  by_cases hwhole : p.1.Whole
  · rw [if_pos (decide_eq_true hwhole), if_pos hwhole]
    rfl
  · rw [if_neg (by simpa using hwhole), if_neg hwhole]
    rfl

/-- **The classes of an import.** -/
theorem classes_importing {lying : Nat → Lying} {rows : List (ImportRow × Nat)}
    {results : List RowResult}
    (h : importingLying lying ordinals rows e = .ok results e') (hknows : Knows level d e')
    (hknown : Knows level d d) (hlevels : Grown levelShape d.val.levels e.val.levels)
    (hgrown : Grown (classShape level) d.val.classes e.val.classes) (hspared : Spared d e) :
    Written (classShape level) d.val.classes (classEntries lying rows d) e.val.classes
      e'.val.classes ∧ Spared d e' := by
  induction rows generalizing e results with
  | nil =>
    obtain ⟨-, rfl⟩ := pure_eq_ok.1 h
    exact ⟨written_perm hgrown (.refl _), hspared⟩
  | cons p rows ih =>
    obtain ⟨r, rs, d₁, hr, -, hrs, -⟩ := importingLying_cons.1 h
    have hlevel := levels_row (d := d) hr hlevels
    have hfirst :=
      classes_row hr (hknows.before (levels_importing hrs hlevel.grown)) hknown hlevels hgrown
      hspared
    have hspared' := hspared.trans ((spared_laid e (lying p.2)).trans (spared_row hr))
    obtain ⟨hrest, hspared''⟩ := ih hrs hlevel.grown hfirst.grown hspared'
    rw [classEntries_cons]
    exact ⟨hfirst.append hrest, hspared''⟩

end Classes

/-! ## From the start -/

/-- The levels by what they are, once the import has added them. -/
def levelOf (d e : Db) (i : Nat) : Nat ⊕ String :=
  ((e.val.level? i).map (levelShape.slot d.val.levels)).getD (.inl i)

theorem knows_levelOf (d e : Db) : Knows (levelOf d e) d e := by
  intro l hl
  have hfound : e.val.level? l.levelId = some l := e.ok.keys.levels.find?_eq_some.2 ⟨hl, rfl⟩
  unfold levelOf
  rw [hfound]
  rfl

/-- The import of the rows has written the levels and the classes of the start,
and spared the rest. -/
structure Imported (lying : Nat → Lying) (ordinals : List (String × Int))
    (rows : List (ImportRow × Nat)) (level : Nat → Nat ⊕ String) (d e : Db) : Prop where
  knows : Knows level d e
  levels : Written levelShape d.val.levels (levelEntries lying ordinals rows d) d.val.levels
    e.val.levels
  classes : Written (classShape level) d.val.classes (classEntries lying rows d) d.val.classes
    e.val.classes
  spared : Spared d e

/-- **An import.** -/
theorem imported {lying : Nat → Lying} {ordinals : List (String × Int)}
    {rows : List (ImportRow × Nat)}
    {level : Nat → Nat ⊕ String} {results : List RowResult} {d e : Db}
    (h : importingLying lying ordinals rows d = .ok results e) (hknows : Knows level d e) :
    Imported lying ordinals rows level d e := by
  have hlevels := levels_importing h (grown_refl (T := levelShape) d.ok.keys.levels)
  obtain ⟨hclasses, hspared⟩ := classes_importing h hknows (hknows.before hlevels)
    (grown_refl d.ok.keys.levels) (grown_refl d.ok.keys.classes) (spared_refl d)
  exact ⟨hknows, hlevels, hclasses, hspared⟩

end Imports

end Sams.School
