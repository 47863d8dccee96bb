import Sams.Lib.Twins
import Sams.School.System

/-!
# The rows of an import

How `_resolve_import_row` answers a row, with and without its writes: a row is refused in any
school, or it is skipped in any school, or its writes decide. The writes are those of the two
upserts, and they are given here as functions on the tables.

**`importing_iff`**: the import answers its rows as they would be answered in some tables exactly
when each row finds at its turn what it would find there, and is written.
-/

namespace Sams.School

open Programs Rows Runs TenantRepository

variable [Unicode]

/-! ## The cells of a row -/

/-- `int(float(cell))`, of a cell that is not empty. -/
def cellNumber (value : Option String) : Except PyError (Option Int) :=
  match Text.nonEmpty (value.map Text.strip) with
  | none => .ok none
  | some raw => (FloatText.intOfFloat raw).map some

/-- The number that is read where the cell is one. -/
def number (value : Option String) : Option Int := ((cellNumber value).toOption).join

/-- The cell is empty or a whole number. -/
def IsWhole (value : Option String) : Prop := ∃ n, cellNumber value = .ok n

/-- The cell is an infinity, at which the parser raises. -/
def IsInfinite (value : Option String) : Prop :=
  ∃ msg, cellNumber value = .error (.overflowError msg)

theorem parseImportInt_infinite {value : Option String} (h : IsInfinite value) (label : String) :
    ∃ e, parseImportInt value label = throw e := by
  obtain ⟨msg, h⟩ := h
  unfold cellNumber at h
  unfold parseImportInt
  cases hraw : Text.nonEmpty (value.map Text.strip) with
  | none =>
    rw [hraw] at h
    cases h
  | some raw =>
    rw [hraw] at h
    dsimp only at h ⊢
    cases hint : FloatText.intOfFloat raw with
    | ok n =>
      rw [hint] at h
      cases h
    | error e =>
      rw [hint] at h
      cases h
      exact ⟨_, rfl⟩

theorem parseImportInt_finite {value : Option String} (h : ¬IsInfinite value) (label : String) :
    ∃ errors, parseImportInt value label = pure (number value, errors) ∧
      (errors = [] ↔ IsWhole value) := by
  unfold IsInfinite cellNumber at h
  unfold parseImportInt number IsWhole cellNumber
  cases hraw : Text.nonEmpty (value.map Text.strip) with
  | none => exact ⟨[], rfl, by simp⟩
  | some raw =>
    rw [hraw] at h
    dsimp only at h ⊢
    cases hint : FloatText.intOfFloat raw with
    | ok n => exact ⟨[], by simp [Except.map, Except.toOption], by simp [Except.map]⟩
    | error e =>
      rw [hint] at h
      cases e with
      | overflowError msg => exact absurd ⟨msg, rfl⟩ h
      | _ => exact ⟨_, rfl, by simp [Except.map]⟩

namespace TenantRepository.ImportRow

variable (row : ImportRow)

def grade : String := cleanCell row.gradeName

/-- The class that the row names, if any. -/
def class? : Option String := Text.nonEmpty (some (cleanCell row.className))

/-- The cells that are to be whole numbers. -/
def integers : List (Option String) :=
  [row.gradeIscedLevel, row.gradeAgeMin, row.gradeAgeMax, row.gradeOrdinal] ++
    if row.class?.isSome then [row.classCapacity] else []

/-- The row names a grade, and its numbers are whole. -/
structure Whole : Prop where
  named : row.grade ≠ ""
  numbers : ∀ cell ∈ row.integers, IsWhole cell

omit [Unicode] in
theorem strip_grade : Text.strip row.grade = row.grade := Text.strip_strip _

variable {row}

omit [Unicode] in
theorem strip_class {name : String} (h : row.class? = some name) : Text.strip name = name := by
  unfold ImportRow.class? Text.nonEmpty at h
  obtain ⟨hcell, -⟩ := Option.filter_eq_some_iff.1 h
  obtain rfl := Option.some.inj hcell
  exact Text.strip_strip _

end TenantRepository.ImportRow

theorem IsWhole.finite {value : Option String} (h : IsWhole value) : ¬IsInfinite value := by
  rintro ⟨msg, hinf⟩
  obtain ⟨n, hn⟩ := h
  rw [hn] at hinf
  cases hinf

instance (value : Option String) : Decidable (IsWhole value) :=
  match h : cellNumber value with
  | .ok n => .isTrue ⟨n, h⟩
  | .error _ => .isFalse fun ⟨n, hn⟩ => by rw [hn] at h; cases h

instance (row : ImportRow) : Decidable row.Whole :=
  decidable_of_iff (row.grade ≠ "" ∧ ∀ cell ∈ row.integers, IsWhole cell)
    ⟨fun h => ⟨h.1, h.2⟩, fun h => ⟨h.named, h.numbers⟩⟩

/-! ## What a row finds -/

def activeYear (t : Tables) : Option Nat :=
  (t.years.find? fun y => y.status = .active).map YearRow.id

/-- The level of that name. -/
def gradeNamed (t : Tables) (name : String) : Option LevelRow :=
  t.levels.find? fun l => sameName l.name (Text.strip name)

/-- The class of that name and level in the active year. -/
def classNamed (t : Tables) (name : String) (levelId : Nat) : Option ClassRow :=
  t.classes.find? fun c =>
    sameName c.name (Text.strip name) ∧ c.levelId = levelId ∧ some c.academicYearId = activeYear t

/-- The teacher with that email. -/
def teacherOf (t : Tables) (email : String) : Option TeacherRow :=
  t.teachers.find? fun x => (t.users.find? fun u => u.id = x.id).any fun u =>
    sameEmail u.email (Text.strip email)

/-- The head teacher by their email, and what is to be warned of. -/
def headTeacherOf (t : Tables) (email : String) : HeadTeacher × List String :=
  if email = "" then (.unset, [])
  else match teacherOf t email with
    | some teacher => (.value (some teacher.id), [])
    | none => (.unset,
        ["No teacher found for head_teacher_email " ++ Text.repr email ++
         " -- class will have no head teacher"])

namespace TenantRepository.ImportRow

variable (row : ImportRow) (t : Tables)

def gradeAction : String :=
  if (gradeNamed t row.grade).isSome then "update_grade" else "create_grade"

def classAction (name : String) : String :=
  if ((gradeNamed t row.grade).bind fun l => classNamed t name l.levelId).isSome then "update_class"
  else "create_class"

/-- What is done for the row. -/
def action : String :=
  match row.class? with
  | none => row.gradeAction t
  | some name => row.gradeAction t ++ "+" ++ row.classAction t name

/-- The columns of the grade. -/
def fields (ordinals : List (String × Int)) : LevelFields where
  iscedLevel := number row.gradeIscedLevel
  ageBandMin := number row.gradeAgeMin
  ageBandMax := number row.gradeAgeMax
  ordinal :=
    if (number row.gradeOrdinal).isNone ∧ (gradeNamed t row.grade).isNone then
      ordinals.lookup row.grade
    else number row.gradeOrdinal

/-- What is to be written of the class. -/
def classPlan (name : String) (errors : List String) : ClassPlan where
  name
  capacity := number row.classCapacity
  active := parseImportBool row.classActive true
  headTeacher := (headTeacherOf t (cleanCell row.headTeacherEmail)).1
  action := row.classAction t name
  errors
  warnings := (headTeacherOf t (cleanCell row.headTeacherEmail)).2

/-- The texts of the row that are looked up in the tables: that of its grade, and with a class that
of the head teacher, and that of the class where its grade is there. -/
def lookups : List String :=
  row.grade :: match row.class? with
    | none => []
    | some name =>
      cleanCell row.headTeacherEmail :: if (gradeNamed t row.grade).isSome then [name] else []

/-- One of the numbers of the row is an infinity, or one of its texts is none of the database's. -/
structure Refused : Prop where
  named : row.grade ≠ ""
  cause : (∃ cell ∈ row.integers, IsInfinite cell) ∨ ∃ text ∈ row.lookups t, ¬Text.storable text

variable {row t} in
theorem storable_grade (hwhole : row.Whole) (h : ¬row.Refused t) : Text.storable row.grade := by
  by_contra hnot
  exact h ⟨hwhole.named, .inr ⟨row.grade, List.mem_cons_self, hnot⟩⟩

/-- The writes of the row. -/
def writes (ordinals : List (String × Int)) : Prog Unit :=
  applyRow row.grade (row.fields t ordinals) (parseImportBool row.gradeActive true)
    (row.class?.map fun name => row.classPlan t name [])

end TenantRepository.ImportRow

section Lookups

variable {d : Db}

omit [Unicode] in
theorem sendText_bind {α : Type} (text : String) (k : Unit → Prog α) : (sendText text >>= k) d =
    if Text.storable text then k () d else .error .databaseError d := by
  rw [raiseIf_bind, ite_not]

theorem getLevelByName_seq (name : String) : getLevelByName name d =
    if Text.storable (Text.strip name) then .ok (gradeNamed d.val name) d
      else .error .databaseError d :=
  sendText_bind _ _

theorem getClassByNameAndLevel_seq (name : String) (levelId : Nat) :
    getClassByNameAndLevel name levelId none d =
    if Text.storable (Text.strip name) then .ok (classNamed d.val name levelId) d
    else .error .databaseError d := by
  unfold getClassByNameAndLevel
  rw [query_bind]
  exact sendText_bind _ _

theorem getTeacherByEmail_seq (email : String) : getTeacherByEmail email d =
    if Text.storable (Text.strip email) then .ok (teacherOf d.val email) d
      else .error .databaseError d :=
  sendText_bind _ _

theorem resolveHeadTeacher_seq {email : String} (h : Text.storable (Text.strip email)) :
    resolveHeadTeacher email d = .ok (headTeacherOf d.val email) d := by
  unfold resolveHeadTeacher headTeacherOf
  split_ifs
  · rfl
  · rw [bind_of_ok ((getTeacherByEmail_seq email).trans (if_pos h))]
    cases teacherOf d.val email <;> rfl

theorem existingClass_seq {name : String} {level : Option LevelRow}
    (h : level.isSome → Text.storable (Text.strip name)) :
    existingClass name level d = .ok (level.bind fun l => classNamed d.val name l.levelId) d := by
  unfold existingClass
  cases level with
  | none => rfl
  | some l => exact (getClassByNameAndLevel_seq name l.levelId).trans (if_pos (h rfl))

end Lookups

section Class

variable {row : ImportRow} {d : Db}

/-- The part of a row about its class. -/
theorem resolveClass?_finite (h : row.class?.isSome = true → ¬IsInfinite row.classCapacity)
    (htexts : ∀ text ∈ row.lookups d.val, Text.storable text) :
    ∃ errors, (errors = [] ↔ (row.class?.isSome = true → IsWhole row.classCapacity)) ∧
      resolveClass? row row.class? (gradeNamed d.val row.grade) d =
        .ok (row.class?.map fun name => row.classPlan d.val name errors) d := by
  unfold resolveClass?
  unfold ImportRow.lookups at htexts
  cases hname : row.class? with
  | none => exact ⟨[], by simp, rfl⟩
  | some name =>
    rw [hname] at htexts
    obtain ⟨errors, hparse, herrors⟩ := parseImportInt_finite (h (by simp [hname])) "class_capacity"
    refine ⟨errors, by simpa using herrors, ?_⟩
    refine map_eq_ok.2 ⟨row.classPlan d.val name errors, ?_, rfl⟩
    have hemail : Text.storable (Text.strip (cleanCell row.headTeacherEmail)) := by
      unfold cleanCell
      rw [Text.strip_strip]
      exact htexts _ (by simp [cleanCell])
    have hclass : (gradeNamed d.val row.grade).isSome → Text.storable (Text.strip name) :=
      fun hgrade => by
      rw [ImportRow.strip_class hname]
      exact htexts _ (by simp [hgrade])
    unfold resolveClass
    rw [hparse, pure_bind]
    dsimp only
    rw [bind_of_ok (resolveHeadTeacher_seq hemail), bind_of_ok (existingClass_seq hclass)]
    rfl

theorem resolveClass?_refused {name : String} (hname : row.class? = some name)
    (hgrade : Text.storable row.grade)
    (h : IsInfinite row.classCapacity ∨ ∃ text ∈ row.lookups d.val, ¬Text.storable text) :
    ∃ e, resolveClass? row row.class? (gradeNamed d.val row.grade) d = .error e d := by
  unfold resolveClass? resolveClass
  rw [hname]
  simp only [map_eq_error]
  by_cases hinf : IsInfinite row.classCapacity
  · obtain ⟨e, hparse⟩ := parseImportInt_infinite hinf "class_capacity"
    exact ⟨e, by rw [hparse]; rfl⟩
  · obtain ⟨text, htext, hnot⟩ := h.resolve_left hinf
    obtain ⟨errors, hparse, -⟩ := parseImportInt_finite hinf "class_capacity"
    rw [hparse, pure_bind]
    dsimp only
    by_cases hemail : Text.storable (Text.strip (cleanCell row.headTeacherEmail))
    · rw [bind_of_ok (resolveHeadTeacher_seq hemail)]
      unfold ImportRow.lookups at htext
      rw [hname, List.mem_cons, List.mem_cons] at htext
      unfold cleanCell at hemail htext
      rw [Text.strip_strip] at hemail
      rcases htext with rfl | rfl | htext
      · exact absurd hgrade hnot
      · exact absurd hemail hnot
      · split_ifs at htext with hfound
        · obtain rfl := List.mem_singleton.1 htext
          obtain ⟨l, hl⟩ := Option.isSome_iff_exists.1 hfound
          rw [hl]
          refine ⟨.databaseError, bind_of_error ?_⟩
          have hstrip := ImportRow.strip_class hname
          exact (getClassByNameAndLevel_seq _ _).trans (if_neg (by rwa [hstrip]))
        · cases htext
    · refine ⟨.databaseError, bind_of_error ?_⟩
      have hne : cleanCell row.headTeacherEmail ≠ "" := by
        rintro hblank
        rw [hblank] at hemail
        exact hemail (by decide +kernel)
      unfold resolveHeadTeacher
      rw [if_neg hne]
      exact bind_of_error ((getTeacherByEmail_seq _).trans (if_neg hemail))

end Class

/-! ## Resolving a row -/

/-- The action of the row, by what is planned for its class. -/
def TenantRepository.ImportRow.actionOf (row : ImportRow) (t : Tables) : Option ClassPlan → String
  | none => row.gradeAction t
  | some c => row.gradeAction t ++ "+" ++ c.action

/-- What is compared of the answers to a row: the status and the action. -/
def TenantRepository.RowResult.verdict (r : RowResult) : Bool × String := (r.valid, r.action)

/-- The answer to a row that is not applied. -/
def skippedVerdict : Bool × String := (false, "skipped")

/-- The numbers of its grade. -/
def TenantRepository.ImportRow.gradeIntegers (row : ImportRow) : List (Option String) :=
  [row.gradeIscedLevel, row.gradeAgeMin, row.gradeAgeMax, row.gradeOrdinal]

/-- The answer to a row that is read: `errors` are those of its numbers, and `plan` is what is to be
written of its class. -/
def TenantRepository.ImportRow.answer (row : ImportRow) (ordinals : List (String × Int))
    (apply : Bool) (n : Nat) (t : Tables) (errors : List String) (plan : Option ClassPlan) :
    Prog RowResult :=
  let warnings := (plan.map ClassPlan.warnings).getD []
  let skipped := fun errors => ⟨n, row.grade, row.class?, "skipped", false, errors, warnings⟩
  let result := ⟨n, row.grade, row.class?, row.actionOf t plan, true, [], warnings⟩
  if errors ≠ [] then pure (skipped errors)
  else if apply then
    catchValueError (applyRow row.grade (row.fields t ordinals)
      (parseImportBool row.gradeActive true) plan) >>= fun caught =>
        caught.elim (pure result) fun msg => pure (skipped [msg])
  else pure result

section Resolving

variable {row : ImportRow} {ordinals : List (String × Int)} {n : Nat} {d : Db}

omit [Unicode] in
theorem mem_integers {cell : Option String} : cell ∈ row.integers ↔
    cell ∈ row.gradeIntegers ∨
      row.class?.isSome = true ∧ cell = row.classCapacity := by
  unfold ImportRow.integers
  rw [List.mem_append, List.mem_ite_nil_right, List.mem_singleton]
  rfl

theorem resolve_blank (hblank : row.grade = "") : ∃ r : RowResult, r.verdict = skippedVerdict ∧
    ∀ apply, resolveImportRow ordinals apply n row d = .ok r d := by
  refine ⟨⟨n, row.grade, row.class?, "skipped", false, ["grade_name is required"], []⟩, rfl, ?_⟩
  intro apply
  have hcell : cleanCell row.gradeName = "" := hblank
  unfold resolveImportRow
  rw [if_pos hcell]
  rfl

/-- The numbers of the grade are read before anything is looked up. -/
theorem resolve_infinite (hnamed : row.grade ≠ "") {cell : Option String}
    (hcell : cell ∈ row.gradeIntegers)
    (hinf : IsInfinite cell) (apply : Bool) :
    ∃ e, resolveImportRow ordinals apply n row d = .error e d := by
  have hnamed' : ¬cleanCell row.gradeName = "" := hnamed
  unfold resolveImportRow
  rw [if_neg hnamed']
  by_cases h₁ : IsInfinite row.gradeIscedLevel
  · obtain ⟨e, he⟩ := parseImportInt_infinite h₁ "grade_isced_level"
    exact ⟨e, by rw [he]; rfl⟩
  obtain ⟨e₁, hp₁, -⟩ := parseImportInt_finite h₁ "grade_isced_level"
  rw [hp₁]
  by_cases h₂ : IsInfinite row.gradeAgeMin
  · obtain ⟨e, he⟩ := parseImportInt_infinite h₂ "grade_age_min"
    exact ⟨e, by rw [he]; rfl⟩
  obtain ⟨e₂, hp₂, -⟩ := parseImportInt_finite h₂ "grade_age_min"
  rw [hp₂]
  by_cases h₃ : IsInfinite row.gradeAgeMax
  · obtain ⟨e, he⟩ := parseImportInt_infinite h₃ "grade_age_max"
    exact ⟨e, by rw [he]; rfl⟩
  obtain ⟨e₃, hp₃, -⟩ := parseImportInt_finite h₃ "grade_age_max"
  rw [hp₃]
  have h₄ : IsInfinite row.gradeOrdinal := by
    simp only [ImportRow.gradeIntegers, List.mem_cons, List.not_mem_nil, or_false] at hcell
    rcases hcell with rfl | rfl | rfl | rfl
    · exact absurd hinf h₁
    · exact absurd hinf h₂
    · exact absurd hinf h₃
    · exact hinf
  obtain ⟨e, he⟩ := parseImportInt_infinite h₄ "grade_ordinal"
  exact ⟨e, by rw [he]; rfl⟩

variable (ordinals n d) in
/-- Of a row whose grade has its numbers, the grade is looked up, and then the class. -/
theorem resolve_finite (hnamed : row.grade ≠ "")
    (hfinite : ∀ cell ∈ row.gradeIntegers, ¬IsInfinite cell) :
    ∃ errors, (errors = [] ↔ ∀ cell ∈ row.gradeIntegers, IsWhole cell) ∧
    ∀ apply, (¬Text.storable row.grade →
        resolveImportRow ordinals apply n row d = .error .databaseError d) ∧
      (Text.storable row.grade →
        resolveImportRow ordinals apply n row d =
          (resolveClass? row row.class? (gradeNamed d.val row.grade) >>= fun plan =>
            row.answer ordinals apply n d.val (errors ++ (plan.map ClassPlan.errors).getD [])
              plan) d) := by
  have hnamed' : ¬cleanCell row.gradeName = "" := hnamed
  simp only [ImportRow.gradeIntegers, List.forall_mem_cons, List.not_mem_nil, false_imp_iff,
    implies_true, and_true] at hfinite ⊢
  obtain ⟨h₁, h₂, h₃, h₄⟩ := hfinite
  obtain ⟨e₁, hp₁, hw₁⟩ := parseImportInt_finite h₁ "grade_isced_level"
  obtain ⟨e₂, hp₂, hw₂⟩ := parseImportInt_finite h₂ "grade_age_min"
  obtain ⟨e₃, hp₃, hw₃⟩ := parseImportInt_finite h₃ "grade_age_max"
  obtain ⟨e₄, hp₄, hw₄⟩ := parseImportInt_finite h₄ "grade_ordinal"
  refine ⟨e₁ ++ e₂ ++ e₃ ++ e₄, ?_, fun apply => ?_⟩
  · rw [← hw₁, ← hw₂, ← hw₃, ← hw₄]
    simp only [List.append_eq_nil_iff, and_assoc]
  have hlevel : getLevelByName (cleanCell row.gradeName) d = _ := getLevelByName_seq row.grade
  rw [row.strip_grade] at hlevel
  unfold resolveImportRow
  rw [if_neg hnamed', hp₁, hp₂, hp₃, hp₄]
  simp only [pure_bind]
  constructor
  · intro hgrade
    rw [if_neg hgrade] at hlevel
    exact bind_of_error hlevel
  · intro hgrade
    rw [if_pos hgrade] at hlevel
    rw [bind_of_ok hlevel]
    refine congrFun (bind_congr fun plan => ?_) d
    unfold ImportRow.answer
    by_cases herrors : e₁ ++ e₂ ++ e₃ ++ e₄ ++ (plan.map ClassPlan.errors).getD [] ≠ []
    · rw [if_pos herrors, if_pos herrors]
      rfl
    rw [if_neg herrors, if_neg herrors]
    cases apply with
    | false => cases plan <;> rfl
    | true => exact bind_congr fun caught => by cases plan <;> cases caught <;> rfl

/-- A row that is refused stops the import. -/
theorem resolve_stops (h : row.Refused d.val) (apply : Bool) :
    ∃ e, resolveImportRow ordinals apply n row d = .error e d := by
  by_cases hfinite : ∀ cell ∈ row.gradeIntegers, ¬IsInfinite cell
  swap
  · push Not at hfinite
    obtain ⟨cell, hcell, hinf⟩ := hfinite
    exact resolve_infinite h.named hcell hinf apply
  obtain ⟨errors, -, hresolve⟩ := resolve_finite ordinals n d h.named hfinite
  by_cases hgrade : Text.storable row.grade
  swap
  · exact ⟨_, (hresolve apply).1 hgrade⟩
  rw [(hresolve apply).2 hgrade]
  have hcause : row.class?.isSome = true ∧
      (IsInfinite row.classCapacity ∨ ∃ text ∈ row.lookups d.val, ¬Text.storable text) := by
    rcases h.cause with ⟨cell, hcell, hinf⟩ | ⟨text, htext, hnot⟩
    · rcases mem_integers.1 hcell with hcell | ⟨hclass, rfl⟩
      · exact absurd hinf (hfinite cell hcell)
      · exact ⟨hclass, .inl hinf⟩
    · refine ⟨?_, .inr ⟨text, htext, hnot⟩⟩
      by_contra hnone
      unfold ImportRow.lookups at htext
      rw [Option.not_isSome_iff_eq_none.1 hnone, List.mem_singleton] at htext
      exact hnot (htext ▸ hgrade)
  obtain ⟨name, hname⟩ := Option.isSome_iff_exists.1 hcause.1
  obtain ⟨e, he⟩ := resolveClass?_refused hname hgrade hcause.2
  exact ⟨e, bind_of_error he⟩

variable (ordinals n) in
/-- Any other row that names a grade is read. -/
theorem resolve_read (hnamed : row.grade ≠ "") (h : ¬row.Refused d.val) :
    ∃ errors classErrors, (errors = [] ↔ row.Whole) ∧ (row.Whole → classErrors = []) ∧
      ∀ apply, resolveImportRow ordinals apply n row d = row.answer ordinals apply n d.val errors
        (row.class?.map fun name => row.classPlan d.val name classErrors) d := by
  have hfinite : ∀ cell ∈ row.integers, ¬IsInfinite cell := fun cell hcell hinf =>
    h ⟨hnamed, .inl ⟨cell, hcell, hinf⟩⟩
  have htexts : ∀ text ∈ row.lookups d.val, Text.storable text := fun text htext => by
    by_contra hnot
    exact h ⟨hnamed, .inr ⟨text, htext, hnot⟩⟩
  obtain ⟨errors, hwhole, hresolve⟩ := resolve_finite ordinals n d hnamed
    fun cell hcell => hfinite cell (mem_integers.2 (.inl hcell))
  obtain ⟨classErrors, hclassWhole, hclass⟩ := resolveClass?_finite (d := d)
    (fun hname => hfinite _ (mem_integers.2 (.inr ⟨hname, rfl⟩))) htexts
  have hwhole : row.Whole ↔ errors = [] ∧ classErrors = [] := by
    rw [hwhole, hclassWhole]
    constructor
    · exact fun hrow => ⟨fun cell hcell => hrow.numbers cell (mem_integers.2 (.inl hcell)),
        fun hname => hrow.numbers _ (mem_integers.2 (.inr ⟨hname, rfl⟩))⟩
    · rintro ⟨hgrade, hclass⟩
      refine ⟨hnamed, fun cell hcell => ?_⟩
      rcases mem_integers.1 hcell with hcell | ⟨hname, rfl⟩
      · exact hgrade cell hcell
      · exact hclass hname
  refine ⟨errors ++ classErrors, classErrors, ?_, fun hrow => (hwhole.1 hrow).2, fun apply => ?_⟩
  · rw [hwhole, List.append_eq_nil_iff]
  · have herrors : ((row.class?.map fun name => row.classPlan d.val name classErrors).map
        ClassPlan.errors).getD [] = classErrors := by
      cases hname : row.class? with
      | none => exact (hclassWhole.2 (by simp [hname])).symm
      | some name => rfl
    rw [(hresolve apply).2 (htexts _ List.mem_cons_self), bind_of_ok hclass, herrors]

end Resolving

/-- A row is refused, or is skipped, or its writes decide. -/
theorem resolve_cases (ordinals : List (String × Int)) (n : Nat) (row : ImportRow) (d : Db) :
    (row.Refused d.val ∧ ∀ apply, ∃ e, resolveImportRow ordinals apply n row d = .error e d) ∨
    (¬row.Refused d.val ∧ ¬row.Whole ∧ ∃ r : RowResult, r.verdict = skippedVerdict ∧
      ∀ apply, resolveImportRow ordinals apply n row d = .ok r d) ∨
    (¬row.Refused d.val ∧ row.Whole ∧ ∃ (r : RowResult) (skipped : String → RowResult),
      r.verdict = (true, row.action d.val) ∧ (∀ msg, (skipped msg).verdict = skippedVerdict) ∧
      resolveImportRow ordinals false n row d = .ok r d ∧
      resolveImportRow ordinals true n row d =
        (catchValueError (row.writes d.val ordinals) >>= fun caught =>
          caught.elim (pure r) fun msg => pure (skipped msg)) d) := by
  by_cases hnamed : row.grade = ""
  · exact .inr (.inl ⟨fun h => h.named hnamed, fun h => h.named hnamed, resolve_blank hnamed⟩)
  by_cases hrefused : row.Refused d.val
  · exact .inl ⟨hrefused, resolve_stops hrefused⟩
  obtain ⟨errors, classErrors, herrors, hclass, hresolve⟩ :=
    resolve_read ordinals n hnamed hrefused
  refine .inr ?_
  by_cases hwhole : row.Whole
  · obtain rfl := herrors.2 hwhole
    obtain rfl := hclass hwhole
    refine .inr ⟨hrefused, hwhole, ?_⟩
    let plan := row.class?.map fun name => row.classPlan d.val name []
    let warnings := (plan.map ClassPlan.warnings).getD []
    have haction : row.actionOf d.val plan = row.action d.val := by
      unfold ImportRow.action ImportRow.actionOf plan
      cases row.class? <;> rfl
    exact ⟨⟨n, row.grade, row.class?, row.actionOf d.val plan, true, [], warnings⟩,
      fun msg => ⟨n, row.grade, row.class?, "skipped", false, [msg], warnings⟩,
      by rw [RowResult.verdict, haction], fun _ => rfl, hresolve false, hresolve true⟩
  · refine .inl ⟨hrefused, hwhole, ?_⟩
    have hsome : errors ≠ [] := fun hnone => hwhole (herrors.1 hnone)
    let plan := row.class?.map fun name => row.classPlan d.val name classErrors
    let warnings := (plan.map ClassPlan.warnings).getD []
    refine ⟨⟨n, row.grade, row.class?, "skipped", false, errors, warnings⟩, rfl, fun apply => ?_⟩
    rw [hresolve apply]
    unfold ImportRow.answer
    rw [if_pos hsome]
    rfl

/-! ## The writes of a row -/

/-- The grade of that name, once it is written. -/
def gradeId (t : Tables) (name : String) : Nat :=
  ((gradeNamed t name).map LevelRow.levelId).getD t.seq.level

/-- The tables with the grade. -/
def gradeWritten (name : String) (f : LevelFields) (active : Bool) (t : Tables) : Tables :=
  match gradeNamed t name with
  | some current => t.setLevels (fun l => l.levelId = current.levelId) fun l =>
      { l with
        name := Text.strip name
        iscedLevel := f.iscedLevel.or current.iscedLevel
        ageBandMin := f.ageBandMin.or current.ageBandMin
        ageBandMax := f.ageBandMax.or current.ageBandMax
        ordinal := f.ordinal.or current.ordinal
        isActive := active }
  | none =>
      { t with
        levels := t.levels ++
          [{ levelId := t.seq.level, name, iscedLevel := some (f.iscedLevel.getD 1)
             ageBandMin := some (f.ageBandMin.getD 6), ageBandMax := some (f.ageBandMax.getD 7)
             ordinal := some (f.ordinal.getD 1), isActive := active }]
        seq := { t.seq with level := t.seq.level + 1 } }

/-- The tables with the class, in the active year. -/
def classWritten (c : ClassPlan) (levelId yearId : Nat) (t : Tables) : Tables :=
  match classNamed t c.name levelId with
  | some current => t.setClasses (fun x => x.id = current.id) fun x =>
      { x with
        name := Text.strip c.name
        levelId
        headTeacherId := c.headTeacher.getD current.headTeacherId
        capacity := c.capacity.getD current.capacity
        isActive := c.active
        sectionLabel := deriveSectionLabel (Text.strip c.name) }
  | none => t.insertClass
      { id := t.seq.class_, name := Text.strip c.name, levelId
        headTeacherId := Text.nonZero (c.headTeacher.getD none)
        capacity := if c.capacity.getD 25 = 0 then 25 else c.capacity.getD 25
        isActive := c.active, academicYearId := yearId
        sectionLabel := deriveSectionLabel (Text.strip c.name) }

section Upserts

variable {d : Db}

omit [Unicode] in
/-- A statement that writes the tables `t`, and what follows where they are accepted. -/
theorem stmt_bind_cases {α β : Type} {f : Tables → Tables} {t : Tables} {k : Unit → Prog α}
    {g : β → α} (hf : f d.val = t) (hk : ∀ d' : Db, ∃ u, k () d' = .ok (g u) d') :
    (∃ d' u, t.Ok ∧ d'.val = t ∧ (stmt f >>= k) d = .ok (g u) d') ∨
      ¬t.Ok ∧ (stmt f >>= k) d = .error .databaseError d := by
  subst hf
  by_cases hok : (f d.val).Ok
  · obtain ⟨u, hk⟩ := hk ⟨f d.val, hok⟩
    exact .inl ⟨⟨f d.val, hok⟩, u, hok, rfl, (bind_of_ok (exec_of hok)).trans hk⟩
  · exact .inr ⟨hok, bind_of_error (exec_of_not hok)⟩

theorem upsertLevel_cases {name : String} (hname : Text.storable (Text.strip name))
    (f : LevelFields) (active : Bool) :
    (∃ d' u, (gradeWritten name f active d.val).Ok ∧ d'.val = gradeWritten name f active d.val ∧
      upsertLevelByName name f active d = .ok (gradeId d.val name, u) d') ∨
    ¬(gradeWritten name f active d.val).Ok ∧
      upsertLevelByName name f active d = .error .databaseError d := by
  unfold upsertLevelByName gradeId gradeWritten
  rw [bind_of_ok ((getLevelByName_seq name).trans (if_pos hname))]
  cases hg : gradeNamed d.val name with
  | none =>
    unfold createLevel
    simp only [bind_assoc, query_bind, pure_bind]
    exact stmt_bind_cases rfl fun _ => ⟨_, rfl⟩
  | some l =>
    have hfound : d.val.level? l.levelId = some l :=
      d.ok.keys.levels.find?_eq_some.2 ⟨List.mem_of_find?_eq_some hg, rfl⟩
    unfold updateLevel
    simp only [bind_assoc, query_bind, hfound]
    exact stmt_bind_cases rfl fun _ => ⟨_, rfl⟩

omit [Unicode] in
theorem active_or (o : Option Nat) {y : Nat} (ho : o = none ∨ o = some y) :
    (Text.nonZero o).or (some y) = some y := by
  rcases ho with rfl | rfl
  · rfl
  · by_cases h0 : y = 0 <;> simp [Text.nonZero, Option.filter, h0]

theorem upsertClass_none (c : ClassPlan) (levelId : Nat) (hyear : activeYear d.val = none) :
    ∃ msg, upsertClassByNameAndLevel c.name levelId c.headTeacher c.capacity c.active none d =
      .error (.valueError msg) d := by
  unfold activeYear at hyear
  unfold upsertClassByNameAndLevel
  rw [query_bind]
  dsimp only
  rw [hyear]
  exact ⟨_, rfl⟩

/-- The database takes the name of a class, and its index has room for it. -/
def TakesName (name : String) : Prop :=
  Text.storable (Text.strip name) = true ∧ Unicode.indexed (Text.strip name) = true

theorem upsertClass_cases (c : ClassPlan) (levelId : Nat) {y : Nat}
    (hyear : activeYear d.val = some y) :
    (∃ d' u, TakesName c.name ∧ (classWritten c levelId y d.val).Ok ∧
      d'.val = classWritten c levelId y d.val ∧
      upsertClassByNameAndLevel c.name levelId c.headTeacher c.capacity c.active none
        d = .ok u d') ∨
    ¬(TakesName c.name ∧ (classWritten c levelId y d.val).Ok) ∧
      upsertClassByNameAndLevel c.name levelId c.headTeacher c.capacity c.active none d =
        .error .databaseError d := by
  have hactive := hyear
  unfold activeYear at hactive
  unfold upsertClassByNameAndLevel getClassByNameAndLevel classWritten classNamed TakesName
  rw [hyear]
  simp only [bind_assoc, query_bind, hactive, active_or none (.inl rfl), active_or _ (.inr rfl)]
  rw [sendText_bind]
  by_cases hstorable : Text.storable (Text.strip c.name) = true
  swap
  · rw [if_neg hstorable]
    exact .inr ⟨fun h => hstorable h.1.1, rfl⟩
  rw [if_pos hstorable]
  dsimp only [query_bind]
  by_cases hindexed : Unicode.indexed (Text.strip c.name) = true
  swap
  · refine .inr ⟨fun h => hindexed h.1.2, ?_⟩
    cases hg : d.val.classes.find? fun x => sameName x.name (Text.strip c.name) ∧
        x.levelId = levelId ∧ some x.academicYearId = some y with
    | none =>
      unfold createClass
      simp only [bind_assoc, query_bind, hactive, active_or _ (.inr rfl)]
      rw [raiseIf_bind, if_pos hindexed]
    | some x =>
      have hfound : d.val.class? x.id = some x :=
        d.ok.keys.classes.find?_eq_some.2 ⟨List.mem_of_find?_eq_some hg, rfl⟩
      unfold updateClass
      simp only [bind_assoc, query_bind, hfound, Option.map_some, Option.getD_some]
      rw [raiseIf_bind, if_pos hindexed]
  have htakes : ∀ {α : Type} {t : Tables} {m : Prog α},
      (∃ d' u, t.Ok ∧ d'.val = t ∧ m d = .ok u d') ∨ ¬t.Ok ∧ m d = .error .databaseError d →
      (∃ d' u, (Text.storable (Text.strip c.name) = true ∧
        Unicode.indexed (Text.strip c.name) = true) ∧ t.Ok ∧ d'.val = t ∧ m d = .ok u d') ∨
      ¬((Text.storable (Text.strip c.name) = true ∧ Unicode.indexed (Text.strip c.name) = true) ∧
        t.Ok) ∧ m d = .error .databaseError d := by
    rintro α t m (⟨d', u, hok, hrest⟩ | ⟨hnot, hrun⟩)
    · exact .inl ⟨d', u, ⟨hstorable, hindexed⟩, hok, hrest⟩
    · exact .inr ⟨fun h => hnot h.2, hrun⟩
  cases hg : d.val.classes.find? fun x => sameName x.name (Text.strip c.name) ∧
      x.levelId = levelId ∧ some x.academicYearId = some y with
  | none =>
    unfold createClass
    simp only [bind_assoc, query_bind, hactive, active_or _ (.inr rfl)]
    rw [raiseIf_bind, if_neg (not_not.2 hindexed)]
    refine htakes ?_
    exact stmt_bind_cases rfl fun _ => ⟨_, rfl⟩
  | some x =>
    have hfound : d.val.class? x.id = some x :=
      d.ok.keys.classes.find?_eq_some.2 ⟨List.mem_of_find?_eq_some hg, rfl⟩
    unfold updateClass
    simp only [bind_assoc, query_bind, hfound, Option.map_some, Option.getD_some]
    rw [raiseIf_bind, if_neg (not_not.2 hindexed)]
    refine htakes ?_
    exact stmt_bind_cases rfl fun _ => ⟨_, rfl⟩

end Upserts

namespace TenantRepository.ImportRow

variable (row : ImportRow) (ordinals : List (String × Int))

/-- The tables with the grade of the row. -/
def withGrade (t : Tables) : Tables :=
  gradeWritten row.grade (row.fields t ordinals) (parseImportBool row.gradeActive true) t

/-- The tables with the grade and the class of the row. -/
def written (t : Tables) : Tables :=
  match row.class?, activeYear t with
  | some name, some y =>
    classWritten (row.classPlan t name []) (gradeId t row.grade) y (row.withGrade ordinals t)
  | _, _ => row.withGrade ordinals t

/-- The database takes the grade of the row, and its class in the active year. -/
structure Writable (d : Db) : Prop where
  grade : (row.withGrade ordinals d.val).Ok
  year : row.class?.isSome → (activeYear d.val).isSome
  named : ∀ name ∈ row.class?, TakesName name
  class_ : (row.written ordinals d.val).Ok

/-- The row names a class, its grade is taken, and no year is active. -/
structure Yearless (d : Db) : Prop where
  grade : (row.withGrade ordinals d.val).Ok
  named : row.class?.isSome
  year : activeYear d.val = none

end TenantRepository.ImportRow

section Row

variable {row : ImportRow} {ordinals : List (String × Int)} {d : Db}

/-- The grade is written to the levels. -/
theorem classes_withGrade (t : Tables) (row : ImportRow) (ordinals : List (String × Int)) :
    (row.withGrade ordinals t).classes = t.classes ∧
      (row.withGrade ordinals t).years = t.years := by
  unfold ImportRow.withGrade gradeWritten
  cases gradeNamed t row.grade <;> exact ⟨rfl, rfl⟩

theorem activeYear_withGrade (t : Tables) :
    activeYear (row.withGrade ordinals t) = activeYear t := by
  unfold activeYear
  rw [(classes_withGrade t row ordinals).2]

theorem writes_of_writable (hgrade : Text.storable row.grade) (h : row.Writable ordinals d) :
    ∃ d', row.writes d.val ordinals d = .ok () d' ∧ d'.val = row.written ordinals d.val := by
  unfold ImportRow.writes applyRow
  rcases upsertLevel_cases (d := d) (row.strip_grade.symm ▸ hgrade) (row.fields d.val ordinals)
    (parseImportBool row.gradeActive true) with ⟨d₁, u, -, hval, hlevel⟩ | ⟨hnot, -⟩
  · rw [bind_of_ok hlevel]
    have hwritten := h.class_
    unfold ImportRow.written at hwritten ⊢
    cases hname : row.class? with
    | none => exact ⟨d₁, rfl, hval⟩
    | some name =>
      obtain ⟨y, hyear⟩ := Option.isSome_iff_exists.1 (h.year (by simp [hname]))
      rw [hname, hyear] at hwritten
      rw [hyear]
      have hyear₁ : activeYear d₁.val = some y := by
        rw [hval]
        exact (activeYear_withGrade d.val).trans hyear
      rcases upsertClass_cases (row.classPlan d.val name []) (gradeId d.val row.grade) hyear₁ with
        ⟨d₂, u', -, -, hval₂, hclass⟩ | ⟨hnot, -⟩
      · refine ⟨d₂, bind_of_ok hclass, ?_⟩
        rw [hval₂, hval]
        rfl
      · rw [hval] at hnot
        exact absurd ⟨h.named name hname, hwritten⟩ hnot
  · exact absurd h.grade hnot

/-- The grade stays written where the class has no year. -/
theorem writes_of_yearless (hgrade : Text.storable row.grade) (h : row.Yearless ordinals d) :
    ∃ msg d', row.writes d.val ordinals d = .error (.valueError msg) d' ∧
      d'.val = row.withGrade ordinals d.val := by
  unfold ImportRow.writes applyRow
  rcases upsertLevel_cases (d := d) (row.strip_grade.symm ▸ hgrade) (row.fields d.val ordinals)
    (parseImportBool row.gradeActive true) with ⟨d₁, u, -, hval, hlevel⟩ | ⟨hnot, -⟩
  · obtain ⟨name, hname⟩ := Option.isSome_iff_exists.1 h.named
    have hyear : activeYear d₁.val = none := by
      rw [hval]
      exact (activeYear_withGrade d.val).trans h.year
    obtain ⟨msg, hclass⟩ :=
      upsertClass_none (row.classPlan d.val name []) (gradeId d.val row.grade) hyear
    refine ⟨msg, d₁, ?_, hval⟩
    rw [bind_of_ok hlevel, hname]
    exact bind_of_error hclass
  · exact absurd h.grade hnot

/-- Else a row that is not taken is refused by the database. -/
theorem writes_of_not (hstorable : Text.storable row.grade) (h : ¬row.Writable ordinals d)
    (hyearless : ¬row.Yearless ordinals d) :
    ∃ d', row.writes d.val ordinals d = .error .databaseError d' := by
  unfold ImportRow.writes applyRow
  rcases upsertLevel_cases (d := d) (row.strip_grade.symm ▸ hstorable) (row.fields d.val ordinals)
    (parseImportBool row.gradeActive true) with ⟨d₁, u, hgrade, hval, hlevel⟩ | ⟨-, hlevel⟩
  · rw [bind_of_ok hlevel]
    cases hname : row.class? with
    | none =>
      refine absurd ⟨hgrade, by simp [hname], by simp [hname], ?_⟩ h
      unfold ImportRow.written
      rw [hname]
      exact hgrade
    | some name =>
      cases hyear : activeYear d.val with
      | none => exact absurd ⟨hgrade, by simp [hname], hyear⟩ hyearless
      | some y =>
        have hyear₁ : activeYear d₁.val = some y := by
          rw [hval]
          exact (activeYear_withGrade d.val).trans hyear
        rcases upsertClass_cases (row.classPlan d.val name []) (gradeId d.val row.grade) hyear₁ with
          ⟨d₂, u', htakes, hclass, hval₂, -⟩ | ⟨-, hclass⟩
        · rw [hval] at hclass
          refine absurd ⟨hgrade, by simp [hyear], ?_, ?_⟩ h
          · rintro name' hname'
            rw [hname, Option.mem_some_iff] at hname'
            exact hname' ▸ htakes
          unfold ImportRow.written
          rw [hname, hyear]
          exact hclass
        · exact ⟨_, bind_of_error hclass⟩
  · exact ⟨_, bind_of_error hlevel⟩

theorem writes_refused (hgrade : Text.storable row.grade) (h : ¬row.Writable ordinals d) :
    ∃ e d', row.writes d.val ordinals d = .error e d' := by
  by_cases hyearless : row.Yearless ordinals d
  · obtain ⟨msg, d', hwrites, -⟩ := writes_of_yearless hgrade hyearless
    exact ⟨_, d', hwrites⟩
  · obtain ⟨d', hwrites⟩ := writes_of_not hgrade h hyearless
    exact ⟨_, d', hwrites⟩

omit [Unicode] in
theorem catchValueError_ok {m : Prog Unit} {d' : Db} (h : m d = .ok () d') :
    catchValueError m d = .ok none d' := by
  unfold catchValueError
  exact rescue_of_ok (bind_of_ok h)

omit [Unicode] in
theorem catchValueError_error {m : Prog Unit} {e : PyError} {d' : Db} (h : m d = .error e d') :
    (∃ msg, catchValueError m d = .ok (some msg) d') ∨ ∃ e, catchValueError m d = .error e d' := by
  unfold catchValueError
  rw [rescue_of_error (bind_of_error h)]
  cases e with
  | valueError msg => exact .inl ⟨msg, rfl⟩
  | _ => exact .inr ⟨_, rfl⟩

/-- A row whose writes are taken is answered by its action. -/
theorem resolve_writable (n : Nat) (hquiet : ¬row.Refused d.val) (hwhole : row.Whole)
    (h : row.Writable ordinals d) :
    ∃ r d', resolveImportRow ordinals true n row d = .ok r d' ∧
      r.verdict = (true, row.action d.val) ∧ d'.val = row.written ordinals d.val := by
  rcases resolve_cases ordinals n row d with ⟨hinf, -⟩ | ⟨-, hnot, -⟩ |
    ⟨-, -, r, skipped, hr, -, -, h'⟩
  · exact absurd hinf hquiet
  · exact absurd hwhole hnot
  · obtain ⟨d', hwrites, hval⟩ := writes_of_writable (ImportRow.storable_grade hwhole hquiet) h
    exact ⟨r, d', h'.trans (bind_of_ok (catchValueError_ok hwrites)), hr, hval⟩

/-- A row whose writes are refused is not. -/
theorem resolve_refused (n : Nat) (hwhole : row.Whole) (h : ¬row.Writable ordinals d) :
    (∃ e d', resolveImportRow ordinals true n row d = .error e d') ∨
      ∃ r d', resolveImportRow ordinals true n row d = .ok r d' ∧ r.verdict = skippedVerdict := by
  rcases resolve_cases ordinals n row d with
    ⟨-, h'⟩ | ⟨-, hnot, -⟩ | ⟨hquiet, -, r, skipped, -, hskipped, -, h'⟩
  · obtain ⟨e, he⟩ := h' true
    exact .inl ⟨e, d, he⟩
  · exact absurd hwhole hnot
  · obtain ⟨e, d', hwrites⟩ := writes_refused (ImportRow.storable_grade hwhole hquiet) h
    rcases catchValueError_error hwrites with ⟨msg, hcaught⟩ | ⟨e, hraised⟩
    · exact .inr ⟨_, d', h'.trans (bind_of_ok hcaught), hskipped msg⟩
    · exact .inl ⟨e, d', h'.trans (bind_of_error hraised)⟩

end Row

/-! ## Both go through the rows -/

/-- The answer to the row in these tables, where nothing is refused. -/
def TenantRepository.ImportRow.verdictIn (row : ImportRow) (t : Tables) : Bool × String :=
  if row.Whole then (true, row.action t) else skippedVerdict

section Rows

variable {ordinals : List (String × Int)} {d : Db}

/-- The preview of numbered rows. -/
abbrev previewing (ordinals : List (String × Int)) (rows : List (ImportRow × Nat)) :
    Prog (List RowResult) :=
  rows.mapM fun p => resolveImportRow ordinals false (p.2 + 2) p.1

/-- The import of numbered rows. -/
abbrev importing (ordinals : List (String × Int)) (rows : List (ImportRow × Nat)) :
    Prog (List RowResult) :=
  rows.mapM fun p => resolveImportRow ordinals true (p.2 + 2) p.1

/-- The same, where the tables lie as `lying` says at the turn of each row. -/
abbrev importingLying (lying : Nat → Lying) (ordinals : List (String × Int))
    (rows : List (ImportRow × Nat)) :
    Prog (List RowResult) :=
  rows.mapM fun p => do
    lay (lying p.2)
    resolveImportRow ordinals true (p.2 + 2) p.1

theorem previewing_ok {rows : List (ImportRow × Nat)} {results : List RowResult} {d' : Db}
    (h : previewing ordinals rows d = .ok results d') :
    d' = d ∧ (∀ p ∈ rows, ¬p.1.Refused d.val) ∧
      results.map RowResult.verdict = rows.map fun p => p.1.verdictIn d.val := by
  induction rows generalizing results with
  | nil =>
    obtain ⟨rfl, rfl⟩ := pure_eq_ok.1 h
    exact ⟨rfl, by simp, rfl⟩
  | cons p rows ih =>
    unfold previewing at h
    rw [List.mapM_cons] at h
    obtain ⟨r, d₁, hr, h⟩ := bind_eq_ok.1 h
    obtain ⟨rs, d₂, hrs, h⟩ := bind_eq_ok.1 h
    obtain ⟨rfl, rfl⟩ := pure_eq_ok.1 h
    obtain ⟨hd, hquiet, hverdict⟩ :
        d₁ = d ∧ ¬p.1.Refused d.val ∧ r.verdict = p.1.verdictIn d.val := by
      unfold ImportRow.verdictIn
      rcases resolve_cases ordinals (p.2 + 2) p.1 d with ⟨-, h'⟩ | ⟨hquiet, hnot, r', hr', h'⟩ |
        ⟨hquiet, hwhole, r', skipped, hr', -, h', -⟩
      · obtain ⟨e, he⟩ := h' false
        rw [he] at hr
        cases hr
      · rw [h' false] at hr
        cases hr
        exact ⟨rfl, hquiet, by rw [if_neg hnot, hr']⟩
      · rw [h'] at hr
        cases hr
        exact ⟨rfl, hquiet, by rw [if_pos hwhole, hr']⟩
    subst hd
    obtain ⟨hd, hrest, hverdicts⟩ := ih hrs
    refine ⟨hd, ?_, by rw [List.map_cons, List.map_cons, hverdict, hverdicts]⟩
    intro q hq
    rcases List.mem_cons.1 hq with rfl | hq
    · exact hquiet
    · exact hrest q hq

/-- Where no row is refused there is a preview. -/
theorem previewing_returns {rows : List (ImportRow × Nat)} (h : ∀ p ∈ rows, ¬p.1.Refused d.val) :
    ∃ results, previewing ordinals rows d = .ok results d := by
  induction rows with
  | nil => exact ⟨[], rfl⟩
  | cons p rows ih =>
    obtain ⟨rs, hrs⟩ := ih fun q hq => h q (List.mem_cons_of_mem p hq)
    have hrow : ∃ r, resolveImportRow ordinals false (p.2 + 2) p.1 d = .ok r d := by
      rcases resolve_cases ordinals (p.2 + 2) p.1 d with ⟨hrefused, -⟩ | ⟨-, -, r, -, h'⟩ |
        ⟨-, -, r, -, -, -, h', -⟩
      · exact absurd hrefused (h p List.mem_cons_self)
      · exact ⟨r, h' false⟩
      · exact ⟨r, h'⟩
    obtain ⟨r, hr⟩ := hrow
    unfold previewing
    rw [List.mapM_cons]
    exact ⟨r :: rs, (bind_of_ok hr).trans (bind_of_ok hrs)⟩

/-- The school after a row of the import. -/
def importStep (lying : Nat → Lying) (ordinals : List (String × Int)) (d : Db)
    (p : ImportRow × Nat) : Db :=
  after (resolveImportRow ordinals true (p.2 + 2) p.1) (d.laid (lying p.2))

/-- An import of rows is that of the first, and of the others after it. -/
theorem importingLying_cons {lying : Nat → Lying} {p : ImportRow × Nat}
    {rows : List (ImportRow × Nat)} {results : List RowResult} {d' : Db} :
    importingLying lying ordinals (p :: rows) d = .ok results d' ↔
      ∃ r rs d₁, resolveImportRow ordinals true (p.2 + 2) p.1 (d.laid (lying p.2)) = .ok r d₁ ∧
        importStep lying ordinals d p = d₁ ∧ importingLying lying ordinals rows d₁ = .ok rs d' ∧
        results = r :: rs := by
  unfold importingLying
  rw [List.mapM_cons]
  simp only [bind_assoc]
  rw [lay_bind]
  constructor
  · intro h
    obtain ⟨r, d₁, hr, h⟩ := bind_eq_ok.1 h
    obtain ⟨rs, d₂, hrs, h⟩ := bind_eq_ok.1 h
    obtain ⟨rfl, rfl⟩ := pure_eq_ok.1 h
    exact ⟨r, rs, d₁, hr, after_ok hr, hrs, rfl⟩
  · rintro ⟨r, rs, d₁, hr, -, hrs, rfl⟩
    exact (bind_of_ok hr).trans (bind_of_ok hrs)

/-- The row is not refused in the tables as they lie at its turn, and finds there what it finds in
the tables `t`, and is written. -/
structure Steady (lying : Nat → Lying) (ordinals : List (String × Int)) (t : Tables) (d : Db)
    (p : ImportRow × Nat) : Prop where
  quiet : ¬p.1.Refused (d.laid (lying p.2)).val
  written : p.1.Whole → p.1.action (d.laid (lying p.2)).val = p.1.action t ∧
    p.1.Writable ordinals (d.laid (lying p.2))

/-- **The import row by row.** -/
theorem importing_iff {lying : Nat → Lying} {rows : List (ImportRow × Nat)} (t : Tables) :
    (∃ results d', importingLying lying ordinals rows d = .ok results d' ∧
      results.map RowResult.verdict = rows.map fun p => p.1.verdictIn t) ↔
    EachStep (importStep lying ordinals) (Steady lying ordinals t) d rows := by
  induction rows generalizing d with
  | nil => exact ⟨fun _ => trivial, fun _ => ⟨[], d, rfl, rfl⟩⟩
  | cons p rows ih =>
    -- the answer to the first row decides the first step
    have hhead :
        (∃ r d₁, resolveImportRow ordinals true (p.2 + 2) p.1 (d.laid (lying p.2)) = .ok r d₁ ∧
        r.verdict = p.1.verdictIn t) ↔ Steady lying ordinals t d p := by
      unfold ImportRow.verdictIn
      rcases resolve_cases ordinals (p.2 + 2) p.1 (d.laid (lying p.2)) with
        ⟨hrefused, h'⟩ | ⟨hquiet, hnot, r, hr, h'⟩ | ⟨hquiet, hwhole, -⟩
      · refine iff_of_false ?_ fun h => h.quiet hrefused
        rintro ⟨r, d₁, hr, -⟩
        obtain ⟨e, he⟩ := h' true
        rw [he] at hr
        cases hr
      · rw [if_neg hnot]
        exact iff_of_true ⟨r, _, h' true, hr⟩ ⟨hquiet, fun h => absurd h hnot⟩
      · rw [if_pos hwhole]
        by_cases hwritable : p.1.Writable ordinals (d.laid (lying p.2))
        · obtain ⟨r, d₁, hr, hverdict, -⟩ := resolve_writable (p.2 + 2) hquiet hwhole hwritable
          constructor
          · rintro ⟨r', d₁', hr', hverdict'⟩
            rw [hr] at hr'
            cases hr'
            rw [hverdict] at hverdict'
            exact ⟨hquiet, fun _ => ⟨congrArg Prod.snd hverdict', hwritable⟩⟩
          · intro h
            exact ⟨r, d₁, hr, by rw [hverdict, (h.written hwhole).1]⟩
        · refine iff_of_false ?_ fun h => hwritable (h.written hwhole).2
          rintro ⟨r', d₁', hr', hverdict'⟩
          rcases resolve_refused (p.2 + 2) hwhole hwritable with ⟨e, d', he⟩ | ⟨r, d', hr, hverdict⟩
          · rw [he] at hr'
            cases hr'
          · rw [hr] at hr'
            cases hr'
            rw [hverdict] at hverdict'
            cases hverdict'
    constructor
    · rintro ⟨results, d', h, hverdicts⟩
      obtain ⟨r, rs, d₁, hr, hstep, hrs, rfl⟩ := importingLying_cons.1 h
      rw [List.map_cons, List.map_cons, List.cons.injEq] at hverdicts
      refine ⟨hhead.1 ⟨r, d₁, hr, hverdicts.1⟩, ?_⟩
      rw [hstep]
      exact ih.1 ⟨rs, d', hrs, hverdicts.2⟩
    · rintro ⟨hfirst, hrest⟩
      obtain ⟨r, d₁, hr, hverdict⟩ := hhead.2 hfirst
      have hstep : importStep lying ordinals d p = d₁ := after_ok hr
      rw [hstep] at hrest
      obtain ⟨rs, d₂, hrs, hverdicts⟩ := ih.2 hrest
      refine ⟨r :: rs, d₂, importingLying_cons.2 ⟨r, rs, d₁, hr, hstep, hrs, rfl⟩, ?_⟩
      rw [List.map_cons, List.map_cons, hverdict, hverdicts]

end Rows

end Sams.School
