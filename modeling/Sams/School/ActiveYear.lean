import Sams.School.Years

/-!
# There is always one active year

The partial unique index allows one active year at most, and no operation takes the last one away:
only a commit writes a status, and it activates `to_year` after it has closed `from_year`
(**`exactly_one_active_year`**). So what needs an active year finds one: creating a class, saving
the structure and importing it never raise or report `missingYear`.

The second half follows each of these programs with the rules of `Meets`: an active year is the
invariant, and every `ValueError` other than that one has a message that starts differently.
-/

namespace Sams.School

open Programs Rows Runs TenantRepository TenantService

/-- The years with status `active`. -/
def activeYears (d : Db) : List YearRow := d.val.years.filter fun y => y.status = .active

/-- Some year is active. -/
def HasActive (d : Db) : Prop := ∃ y, d.val.YearIs y .active

theorem activeYears_eq_one_iff {d : Db} : (activeYears d).length = 1 ↔ HasActive d := by
  have hle : (activeYears d).length ≤ 1 := d.ok.unique.one_active_academic_year
  have hpos : 0 < (activeYears d).length ↔ HasActive d := by
    rw [List.length_pos_iff_exists_mem]
    constructor
    · rintro ⟨y, hy⟩
      obtain ⟨hm, hst⟩ := List.mem_filter.1 hy
      exact ⟨y.id, Db.yearIs_iff.2 ⟨y, hm, rfl, of_decide_eq_true hst⟩⟩
    · rintro ⟨i, hi⟩
      obtain ⟨y, hm, -, hst⟩ := Db.yearIs_iff.1 hi
      exact ⟨y, List.mem_filter.2 ⟨hm, decide_eq_true hst⟩⟩
  rw [← hpos]
  omega

/-- A commit leaves its `to_year` active, whatever the statuses were. -/
theorem Committed.to_active {d d' : Db} {r : RolloverRow} (h : Committed d r d')
    (hr : r ∈ d.val.rollovers) : d'.val.YearIs r.toYearId .active := by
  obtain ⟨-, st, ht⟩ := Db.rollover_years hr
  have hto := flipped_yearIs h.years ht
  rwa [if_pos rfl] at hto

/-! ## The messages of other errors -/

/-- What is raised when no year is active. -/
def missingYear : String := "No active academic year is set for this tenant"

/-- The message starts with another letter. -/
def Other (msg : String) : Prop := ∃ c, msg.toList.head? = some c ∧ c ≠ 'N'

theorem Other.ne {msg : String} (h : Other msg) : msg ≠ missingYear := by
  rintro rfl
  obtain ⟨c, hc, hne⟩ := h
  exact hne (Option.some.inj (hc.symm.trans rfl))

theorem Other.append {a : String} (h : Other a) (b : String) : Other (a ++ b) := by
  obtain ⟨c, hc, hne⟩ := h
  exact ⟨c, by rw [String.toList_append, List.head?_append, hc]; rfl, hne⟩

/-- A `ValueError` is about something else than the active year. -/
def Elsewhere : PyError → Prop
  | .valueError msg => Other msg
  | _ => True

/-- The program finds the year it needs. -/
abbrev Finds {α : Type} (Q : α → Prop) (m : Prog α) : Prop := Meets HasActive Elsewhere Q m

/-- The program finds the year it needs, whatever it returns. -/
abbrev FindsAny {α : Type} (m : Prog α) : Prop := Finds (fun _ => True) m

theorem finds_read {α : Type} (f : Tables → α) : FindsAny (read f) :=
  meets_query fun _ _ => trivial

/-- A statement that does not write years. -/
theorem finds_stmt {f : Tables → Tables} (h : ∀ t, (f t).years = t.years) : FindsAny (stmt f) :=
  meets_exec trivial trivial fun s s' hs hv => by
    obtain ⟨y, hy⟩ := hs
    exact ⟨y, by rwa [Tables.YearIs, Tables.year?, hv, h]⟩

theorem finds_throw {α : Type} {Q : α → Prop} {msg : String} (h : Other msg) :
    Finds Q (throw (.valueError msg)) :=
  meets_throw (E := Elsewhere) h

theorem finds_raiseIf {c : Prop} [Decidable c] {msg : String} (h : Other msg) :
    FindsAny (raiseIf c (.valueError msg)) :=
  meets_raiseIf (E := Elsewhere) h trivial

/-- That the database refuses a text is no `ValueError`. -/
theorem finds_refused {c : Prop} [Decidable c] : FindsAny (raiseIf c .databaseError) :=
  meets_raiseIf trivial trivial

/-- The active year that is read is there. -/
theorem finds_active {α : Type} {Q : α → Prop} {k : Option Nat → Prog α}
    (h : ∀ ay, Finds Q (k (some ay))) : Finds Q (getActiveAcademicYearId >>= k) := by
  refine meets_query_bind fun d hd => ?_
  obtain ⟨i, hi⟩ := hd
  obtain ⟨row, hm, -, hst⟩ := Db.yearIs_iff.1 hi
  have hfound : (d.val.years.find? fun y => y.status = .active).isSome :=
    List.find?_isSome.2 ⟨row, hm, by simpa using hst⟩
  obtain ⟨ay, hay⟩ := Option.isSome_iff_exists.1 hfound
  dsimp only
  rw [hay]
  exact h ay.id

/-- So the year that is given, or else the active one, is there. -/
theorem or_active (y : Option Nat) (ay : Nat) :
    ∃ ayId, (Text.nonZero y).or (some ay) = some ayId := by
  cases Text.nonZero y with
  | none => exact ⟨ay, rfl⟩
  | some z => exact ⟨z, rfl⟩

theorem finds_gated {α : Type} {Q : α → Prop} {u a : List String} {msg : String} {m : Prog α}
    (h : Finds Q m) : Finds Q (gate u a msg >>= fun _ => m) :=
  meets_bind (Q := fun _ => True) (meets_raiseIf trivial trivial) fun _ _ => h

/-! ## Levels and classes -/

theorem finds_createLevel (n : String) (f : LevelFields) (a : Bool) :
    FindsAny (TenantRepository.createLevel n f a) :=
  meets_query_bind fun _ _ => meets_bind (finds_stmt fun _ => rfl) fun _ _ => meets_pure trivial

theorem other_level (n : Nat) : Other s!"Level {n} not found" :=
  ((show Other "Level " from ⟨'L', rfl, by decide⟩).append _).append _

theorem other_class (n : Nat) : Other s!"Class {n} not found" :=
  ((show Other "Class " from ⟨'C', rfl, by decide⟩).append _).append _

theorem finds_updateLevel (l : Nat) (n : Option String) (f : LevelFields) (a : Option Bool) :
    FindsAny (TenantRepository.updateLevel l n f a) := by
  unfold TenantRepository.updateLevel
  refine meets_bind (finds_read _) fun r _ => ?_
  cases r with
  | none => exact finds_throw (other_level l)
  | some current => exact meets_bind (finds_stmt fun _ => rfl) fun _ _ => finds_read _

section Programs

variable [Unicode]

theorem finds_getLevelByName (n : String) : FindsAny (getLevelByName n) :=
  meets_bind finds_refused fun _ _ => finds_read _

theorem finds_upsertLevelByName (n : String) (f : LevelFields) (a : Bool) :
    FindsAny (upsertLevelByName n f a) := by
  unfold upsertLevelByName
  refine meets_bind (finds_getLevelByName _) fun r _ => ?_
  cases r with
  | none => exact meets_bind (finds_createLevel _ _ _) fun _ _ => meets_pure trivial
  | some existing => exact meets_bind (finds_updateLevel _ _ _ _) fun _ _ => meets_pure trivial

/-- The year is the one that is given, or the active one. -/
theorem finds_createClass (n : String) (l : Nat) (h : Option Nat) (cap : Option Int) (a : Bool)
    (y : Option Nat) : FindsAny (TenantRepository.createClass n l h cap a y) := by
  unfold TenantRepository.createClass
  refine finds_active fun ay => ?_
  obtain ⟨ayId, hyear⟩ := or_active y ay
  rw [hyear]
  refine meets_bind (finds_read _) fun _ _ => meets_bind finds_refused fun _ _ => ?_
  exact meets_bind (finds_stmt fun _ => rfl) fun _ _ => meets_pure trivial

theorem finds_updateClass (i : Nat) (n : Option String) (l : Option Nat) (h : HeadTeacher)
    (cap : Option Int) (a : Option Bool) :
    FindsAny (TenantRepository.updateClass i n l h cap a) := by
  unfold TenantRepository.updateClass
  refine meets_bind (finds_read _) fun r _ => ?_
  cases r with
  | none => exact finds_throw (other_class i)
  | some current =>
    refine meets_bind finds_refused fun _ _ => ?_
    exact meets_bind (finds_stmt fun _ => rfl) fun _ _ => finds_read _

theorem finds_getClassByNameAndLevel (n : String) (l : Nat) (y : Option Nat) :
    FindsAny (getClassByNameAndLevel n l y) :=
  meets_bind (finds_read _) fun _ _ => meets_bind finds_refused fun _ _ => finds_read _

theorem finds_upsertClassByNameAndLevel (n : String) (l : Nat) (h : HeadTeacher)
    (cap : Option Int) (a : Bool) (y : Option Nat) :
    FindsAny (upsertClassByNameAndLevel n l h cap a y) := by
  unfold upsertClassByNameAndLevel
  refine finds_active fun ay => ?_
  obtain ⟨ayId, hyear⟩ := or_active y ay
  rw [hyear]
  refine meets_bind (finds_getClassByNameAndLevel _ _ _) fun r _ => ?_
  cases r with
  | none => exact meets_bind (finds_createClass _ _ _ _ _ _) fun _ _ => meets_pure trivial
  | some existing =>
    exact meets_bind (finds_updateClass _ _ _ _ _ _) fun _ _ => meets_pure trivial

theorem finds_serviceCreateClass (u : List String) (n : String) (l : Nat) (h : Option Nat)
    (cap : Int) (a : Bool) : FindsAny (TenantService.createClass u n l h cap a) := by
  refine finds_gated (meets_bind (finds_read _) fun r _ => ?_)
  cases r with
  | none => exact finds_throw (other_level l)
  | some level =>
    have hmsg : Other ("Cannot add a section to a deactivated level: " ++ level.name) :=
      Other.append ⟨'C', rfl, by decide⟩ _
    refine meets_bind (finds_raiseIf hmsg) fun _ _ => ?_
    exact meets_bind (finds_upsertClassByNameAndLevel _ _ _ _ _ _) fun _ _ => meets_pure trivial

/-! ## The structure editor -/

omit [Unicode] in
theorem finds_saveSettings (p : StructureIn) : FindsAny (saveSettings p) := by
  unfold saveSettings
  refine meets_bind (finds_read _) fun r _ => ?_
  cases r with
  | none => exact finds_stmt fun _ => rfl
  | some row => exact finds_stmt fun _ => rfl

theorem finds_saveBlackout (existing : List BlackoutRow) (incoming : List Date) (bd : BlackoutIn) :
    FindsAny (saveBlackout existing incoming bd) := by
  unfold saveBlackout
  cases Text.nonEmpty bd.date with
  | none => exact meets_pure trivial
  | some text =>
    dsimp only
    cases strptimeDate text with
    | none => exact finds_throw ((Other.append ⟨'t', rfl, by decide⟩ _).append _)
    | some date =>
      dsimp only
      cases existing.reverse.find? fun b => b.date = date with
      | none => exact meets_bind (finds_stmt fun _ => rfl) fun _ _ => meets_pure trivial
      | some row => exact meets_bind (finds_stmt fun _ => rfl) fun _ _ => meets_pure trivial

theorem finds_saveBlackouts (p : StructureIn) : FindsAny (saveBlackouts p) := by
  unfold saveBlackouts
  refine meets_bind (finds_read _) fun existing _ => ?_
  refine meets_bind (meets_foldlM trivial fun _ _ _ _ => finds_saveBlackout _ _ _) fun _ _ => ?_
  exact finds_stmt fun _ => rfl

theorem finds_saveLevel (l : LevelIn) : FindsAny (saveLevel l) := by
  unfold saveLevel
  refine meets_bind (finds_read _) fun r _ => ?_
  cases Text.nonZero r with
  | none => exact finds_createLevel _ _ _
  | some lvlId => exact meets_bind (finds_stmt fun _ => rfl) fun _ _ => meets_pure trivial

/-- The year of new sections was read at the start of the transaction. -/
theorem finds_saveSection {ctx : SaveContext} (hctx : ctx.activeYearId.isSome) (lvlId : Nat)
    (l : LevelIn) (incoming : List Nat) (s : SectionIn) :
    FindsAny (saveSection ctx lvlId l incoming s) := by
  unfold saveSection
  refine meets_bind (finds_read _) fun r _ => ?_
  cases Text.nonZero r with
  | some cid => exact meets_bind (finds_stmt fun _ => rfl) fun _ _ => meets_pure trivial
  | none =>
    refine meets_ite (fun _ => meets_pure trivial) fun _ => ?_
    obtain ⟨yearId, hyear⟩ := Option.isSome_iff_exists.1 hctx
    rw [hyear]
    refine meets_bind (finds_read _) fun _ _ => ?_
    exact meets_bind (finds_stmt fun _ => rfl) fun _ _ => meets_pure trivial

omit [Unicode] in
theorem finds_recordClassChange (sid : Nat) (o n c : Option Nat) :
    FindsAny (recordClassChange sid o n c) := by
  unfold recordClassChange
  exact finds_stmt fun _ => rfl

omit [Unicode] in
theorem finds_removeClasses (ids : List Nat) (c : Option Nat) : FindsAny (removeClasses ids c) := by
  unfold removeClasses blockIfClassesHaveEnrollmentHistory
  refine meets_bind (Q := fun _ => True) ?_ fun _ _ => ?_
  · refine meets_bind (finds_read _) fun count _ => finds_raiseIf ?_
    exact (((Other.append ⟨'C', rfl, by decide⟩ _).append _).append _).append _
  refine meets_bind (finds_read _) fun affected _ => ?_
  refine meets_bind (finds_stmt fun _ => rfl) fun _ _ => ?_
  refine meets_bind (meets_forM fun _ _ => finds_recordClassChange _ _ _ _) fun _ _ => ?_
  exact meets_bind (finds_stmt fun _ => rfl) fun _ _ => finds_stmt fun _ => rfl

theorem finds_saveLevelAndSections {ctx : SaveContext} (hctx : ctx.activeYearId.isSome)
    (l : LevelIn) : FindsAny (saveLevelAndSections ctx l) := by
  unfold saveLevelAndSections
  refine meets_bind (finds_saveLevel l) fun lvlId _ => ?_
  refine meets_bind (meets_foldlM trivial fun _ _ _ _ => finds_saveSection hctx _ _ _ _) ?_
  refine fun incoming _ => meets_bind (finds_read _) fun stale _ => ?_
  exact meets_onlyIf (finds_removeClasses _ _) trivial

theorem finds_saveAcademicStructure (u : List String) (p : StructureIn) (c : Option Nat) :
    FindsAny (TenantService.saveAcademicStructure u p c) := by
  refine finds_gated (meets_bind (finds_read _) fun _ _ => meets_bind (finds_read _) fun _ _ => ?_)
  refine meets_bind (Q := fun _ => True) (meets_raiseIf trivial trivial) fun _ _ => ?_
  unfold TenantRepository.saveAcademicStructure
  refine meets_transaction (finds_active fun ay => ?_)
  refine meets_bind (finds_saveSettings p) fun _ _ => ?_
  refine meets_bind (finds_saveBlackouts p) fun _ _ => meets_bind (finds_read _) fun _ _ => ?_
  exact meets_forM fun l _ => finds_saveLevelAndSections rfl l

/-! ## The structure import -/

/-- Every error that is reported is about something else. -/
def AllOther (errors : List String) : Prop := ∀ msg ∈ errors, Other msg

omit [Unicode] in
theorem AllOther.append {a b : List String} (ha : AllOther a) (hb : AllOther b) :
    AllOther (a ++ b) := by
  intro msg hm
  rcases List.mem_append.1 hm with hm | hm
  · exact ha msg hm
  · exact hb msg hm

theorem finds_parseImportInt (v : Option String) {label : String} (hl : Other label) :
    Finds (fun r => AllOther r.2) (parseImportInt v label) := by
  have hnone : AllOther [] := by simp [AllOther]
  unfold parseImportInt
  cases Text.nonEmpty (v.map Text.strip) with
  | none => exact meets_pure hnone
  | some raw =>
    dsimp only
    split
    · exact meets_pure hnone
    · exact meets_throw (E := Elsewhere) trivial
    · refine meets_pure fun msg hm => ?_
      rw [List.mem_singleton.1 hm]
      exact (hl.append _).append _

theorem finds_getTeacherByEmail (email : String) : FindsAny (getTeacherByEmail email) :=
  meets_bind finds_refused fun _ _ => finds_read _

theorem finds_resolveHeadTeacher (email : String) : FindsAny (resolveHeadTeacher email) := by
  unfold resolveHeadTeacher
  refine meets_ite (fun _ => meets_pure trivial) fun _ => ?_
  refine meets_bind (finds_getTeacherByEmail _) fun teacher _ => ?_
  cases teacher with
  | none => exact meets_pure trivial
  | some x => exact meets_pure trivial

theorem finds_existingClass (name : String) (level : Option LevelRow) :
    FindsAny (existingClass name level) := by
  unfold existingClass
  cases level with
  | none => exact meets_pure trivial
  | some l => exact finds_getClassByNameAndLevel _ _ _

theorem finds_resolveClass? (row : ImportRow) (name : Option String) (level : Option LevelRow) :
    Finds (fun plan => AllOther ((plan.map ClassPlan.errors).getD []))
      (resolveClass? row name level) := by
  unfold resolveClass?
  cases name with
  | none => exact meets_pure (by simp [AllOther])
  | some name =>
    refine meets_map ?_
    unfold resolveClass
    refine meets_bind (finds_parseImportInt _ ⟨'c', rfl, by decide⟩) fun r hr => ?_
    refine meets_bind (finds_resolveHeadTeacher _) fun _ _ => ?_
    exact meets_bind (finds_existingClass _ _) fun _ _ => meets_pure hr

theorem finds_applyRow (n : String) (f : LevelFields) (a : Bool) (plan : Option ClassPlan) :
    FindsAny (applyRow n f a plan) := by
  unfold applyRow
  refine meets_bind (finds_upsertLevelByName _ _ _) fun _ _ => ?_
  cases plan with
  | none => exact meets_pure trivial
  | some c =>
    exact meets_bind (finds_upsertClassByNameAndLevel _ _ _ _ _ _) fun _ _ => meets_pure trivial

omit [Unicode] in
/-- A caught error is one that may be raised. -/
theorem finds_catchValueError {m : Prog Unit} (h : FindsAny m) :
    Finds (fun r => ∀ msg ∈ r, Other msg) (catchValueError m) := by
  refine meets_rescue (meets_bind h fun _ _ => meets_pure (by simp)) fun e he => ?_
  cases e with
  | valueError msg =>
    refine meets_pure fun msg' hm => ?_
    obtain rfl := Option.some.inj hm
    exact he
  | _ => exact meets_throw he

theorem finds_resolveImportRow (ordinals : List (String × Int)) (apply : Bool) (i : Nat)
    (row : ImportRow) :
    Finds (fun r => AllOther r.errors) (resolveImportRow ordinals apply i row) := by
  have hone : ∀ {msg : String}, Other msg → AllOther [msg] := by
    intro msg h m hm
    rwa [List.mem_singleton.1 hm]
  unfold resolveImportRow
  refine meets_ite (fun _ => meets_pure (hone ⟨'g', rfl, by decide⟩)) fun _ => ?_
  refine meets_bind (finds_parseImportInt _ ⟨'g', rfl, by decide⟩) fun r₁ h₁ => ?_
  refine meets_bind (finds_parseImportInt _ ⟨'g', rfl, by decide⟩) fun r₂ h₂ => ?_
  refine meets_bind (finds_parseImportInt _ ⟨'g', rfl, by decide⟩) fun r₃ h₃ => ?_
  refine meets_bind (finds_parseImportInt _ ⟨'g', rfl, by decide⟩) fun r₄ h₄ => ?_
  refine meets_bind (finds_getLevelByName _) fun level _ => ?_
  refine meets_bind (finds_resolveClass? _ _ _) fun plan hplan => ?_
  have herrors := (((h₁.append h₂).append h₃).append h₄).append hplan
  refine meets_ite (fun _ => meets_pure herrors) fun _ => ?_
  refine meets_ite (fun _ => meets_pure (by simp [AllOther])) fun _ => ?_
  refine meets_bind (finds_catchValueError (finds_applyRow _ _ _ _)) fun r hr => ?_
  cases r with
  | none => exact meets_pure (by simp [AllOther])
  | some msg => exact meets_pure (hone (hr msg rfl))

theorem finds_commitStructureImport (u : List String) (rows : List ImportRow) :
    Finds (fun results => ∀ r ∈ results, AllOther r.errors)
      (TenantService.commitStructureImport u rows) := by
  refine finds_gated (meets_bind (finds_read _) fun plan _ => ?_)
  exact meets_mapM fun p _ => finds_resolveImportRow _ _ _ _

/-! ## Every run -/

theorem hasActive_step (d : Db) (op : Op) (h : HasActive d) : HasActive (step d op) := by
  obtain ⟨y, hy⟩ := h
  rcases step_plans_or_commits d op with hp | ⟨r, hr, -, hc⟩
  · exact ⟨y, hp.statuses y _ hy⟩
  · exact ⟨_, hc.to_active hr⟩

/-- The operations that work on the active year. -/
def Op.onActiveYear : Op → Bool
  | .createClass .. | .createClassIn .. | .saveAcademicStructure .. => true
  | .commitStructureImport .. => true
  | _ => false

theorem finds_program {op : Op} (h : op.onActiveYear) : FindsAny op.program := by
  cases op with
  | createClass u n l hd cap a => exact meets_map (finds_serviceCreateClass u n l hd cap a)
  | createClassIn n l hd cap a y => exact meets_map (finds_createClass n l hd cap a y)
  | saveAcademicStructure u p c => exact finds_saveAcademicStructure u p c
  | commitStructureImport u rows =>
    exact meets_map ((finds_commitStructureImport u rows).mono fun _ _ => trivial)
  | _ => cases h

/-- No class creation, structure save or import fails, or skips a row, for lack of an active
year. -/
structure YearIsFound (d : Db) : Prop where
  raises : ∀ op : Op, op.onActiveYear → ∀ d', op.program d ≠ .error (.valueError missingYear) d'
  reports : ∀ u rows results d', TenantService.commitStructureImport u rows d = .ok results d' →
    ∀ r ∈ results, missingYear ∉ r.errors

theorem HasActive.yearIsFound {d : Db} (h : HasActive d) : YearIsFound d where
  raises _ hop _ he := ((finds_program hop).error h he).2.ne rfl
  reports u rows _ _ hok r hr hm :=
    ((finds_commitStructureImport u rows).ok h hok).2 r hr missingYear hm |>.ne rfl

/-- **There is always exactly one active year, and it is found**, in every state of every run of
the operations, those that raise included. -/
theorem exactly_one_active_year {d : Db} (h : (activeYears d).length = 1) (ops : List Op) :
    Throughout step (fun d => (activeYears d).length = 1 ∧ YearIsFound d) d ops := by
  have hrun : Throughout step HasActive d ops :=
    run_throughout (fun d op hd _ => hasActive_step d op hd) (activeYears_eq_one_iff.1 h)
      (eachStep_true d ops)
  exact hrun.mono fun d hd => ⟨activeYears_eq_one_iff.2 hd, hd.yearIsFound⟩

end Programs

theorem exactly_one_active_year_smallSchool :
    Throughout (@step ascii) (fun d => (activeYears d).length = 1 ∧ @YearIsFound ascii d)
      smallSchool (twoFromOneYear ++ [committed 101]) :=
  @exactly_one_active_year ascii smallSchool (by decide +kernel) _

end Sams.School
