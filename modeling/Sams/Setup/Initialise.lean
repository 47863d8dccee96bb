import Sams.School.Backfill
import Sams.School.Cascades
import Sams.Setup.Currency
import Sams.Trips.Priced

/-!
# The initialiser on a live school

Every process runs the initialiser of a tenant's schema when it first touches the tenant, so it runs
on live data. Its statements on rows are guarded: they seed a first academic year and a
profile where there is none, and fill in what a column that was added later left without a value.

* **`after_initializeTenantTables`** — on a school that has been initialised before, all it
  writes are section labels.
* **`changesNothing_run_iff`** — it changes nothing, and takes from every name the label that the
  program derives, throughout exactly the runs in which every name on file is one on which the two
  patterns are aligned, and every class that stands without a label has a name that shows none.
-/

namespace Sams.Setup

open School Programs Rows Runs SchoolRepository

/-! ## The initialiser -/

namespace Database

/-- `UPDATE class SET capacity = 25 WHERE capacity IS NULL OR capacity <= 0`. The
column is required. -/
def fillCapacities (t : School.Tables) : School.Tables :=
  t.setClasses (fun c => c.capacity ≤ 0) fun c => { c with capacity := 25 }

/-- `SELECT academic_year FROM academic_settings ORDER BY id DESC LIMIT 1`. -/
def settingsYear (t : School.Tables) : Option String :=
  (t.settings.map SettingsRow.id).max?.bind fun i =>
    (t.settings.find? fun s => s.id = i).map SettingsRow.academicYear

/-- Insert an active academic year where there is no year. -/
def seedAcademicYear (t : School.Tables) : School.Tables :=
  if t.years = [] then
    { t with
      years := [{ id := t.seq.year, name := (settingsYear t).getD "2026-2027", status := .active
                  startDate := none, endDate := none, rolledFromId := none }]
      seq := { t.seq with year := t.seq.year + 1 } }
  else t

/-- The backfill of the section labels. That of the academic years finds none missing: the column is
required. -/
def fillSectionLabels [SqlLocale] (t : School.Tables) : School.Tables :=
  t.setClasses (fun c => c.sectionLabel = none ∧ (sqlSubstring c.name).isSome)
    fun c => { c with sectionLabel := sqlSectionLabel c.name }

/-- Insert a profile where there is none; the currency is the default. -/
def seedProfile (t : Tables) : Tables :=
  { t with profile := t.profile.or (some { currency := "JOD" }) }

/-- The payments without a currency get the school's. -/
def fillCurrencies (t : Tables) : Tables :=
  { t with school := { t.school with
    payments := updateWhere (fun p => p.currency = none)
      (fun p => { p with currency := some ((t.profile.map ProfileRow.currency).getD "USD") })
      t.school.payments } }

/-- The statements on rows, in their order. Those of one command are one statement here. -/
def initializeTenantTables [SqlLocale] : Program Unit := do
  stmt fun t => { t with school := fillCapacities t.school }
  stmt fun t => { t with school := fillSectionLabels (seedAcademicYear t.school) }
  stmt seedProfile
  stmt fillCurrencies

end Database

open Database

/-- The schema has been initialised: there is an academic year, and the profile has its row. -/
structure Seated (s : State) : Prop where
  years : s.val.school.years ≠ []
  profile : s.val.profile.isSome

/-- The rows of six tables are the same. -/
structure SameRows (t t' : Tables) : Prop where
  levels : t'.school.levels = t.school.levels
  classes : t'.school.classes = t.school.classes
  students : t'.school.students = t.school.students
  years : t'.school.years = t.school.years
  payments : t'.school.payments = t.school.payments
  profile : t'.profile = t.profile

/-- Another run of the initialiser changes no row, and its label of every name on file is the one
that the program derives. -/
structure ChangesNothing [Unicode] [SqlLocale] (s : State) : Prop where
  rows : SameRows s.val (after initializeTenantTables s).val
  labels : ∀ c ∈ s.val.school.classes, sqlSectionLabel c.name = deriveSectionLabel c.name

/-- The two patterns are aligned on every name on file, and a class without a label has a name that
shows none. -/
def Settled [Unicode] [SqlLocale] (s : State) : Prop :=
  ∀ c ∈ s.val.school.classes, Alike c.name ∧ (c.sectionLabel = none → c.Labelled)

instance [Unicode] [SqlLocale] : DecidablePred Settled := fun s =>
  inferInstanceAs (Decidable (∀ c ∈ s.val.school.classes, _))

/-! ## What it writes on an initialised schema -/

/-- A statement that gives the tables back. -/
theorem stmt_idle {f : Tables → Tables} {s : State} (h : f s.val = s.val) : stmt f s = .ok () s :=
  exec_eq_ok.2 h.symm

theorem ok_fillSectionLabels [SqlLocale] {t : School.Tables} (h : t.Ok) :
    (fillSectionLabels t).Ok := by
  obtain ⟨hkeys, hunique, hchecks, hplacements, hrollovers, hevents, hcontacts⟩ := h
  have hid : ∀ c : ClassRow, ({ c with sectionLabel := sqlSectionLabel c.name } : ClassRow).id =
      c.id :=
    fun _ => rfl
  exact ⟨{ hkeys with classes := hkeys.classes.updateWhere hid },
    { hunique with
      class_name_academic_year := hunique.class_name_academic_year.updateWhere fun _ => rfl },
    { hchecks with
      class_capacity_positive := fun c hc => by
        rcases cases_of_mem_updateWhere hc with ⟨hm, -⟩ | ⟨c₀, hm, -, rfl⟩
        · exact hchecks.class_capacity_positive c hm
        · exact hchecks.class_capacity_positive c₀ hm },
    { hplacements with
      class_level := hplacements.class_level.updateWhere fun _ => rfl
      class_head_teacher := hplacements.class_head_teacher.updateWhere fun _ => rfl
      class_year := hplacements.class_year.updateWhere fun _ => rfl
      student_class := hplacements.student_class.updateWhere_right hid
      history_old_class := hplacements.history_old_class.updateWhere_right hid
      history_new_class := hplacements.history_new_class.updateWhere_right hid },
    { hrollovers with
      line_from_class := hrollovers.line_from_class.updateWhere_right hid
      line_to_class := hrollovers.line_to_class.updateWhere_right hid
      event_class_class := hrollovers.event_class_class.updateWhere_right hid },
    { hevents with }, { hcontacts with }⟩

theorem fillCapacities_idle {t : School.Tables} (h : t.Ok) : fillCapacities t = t := by
  have hclasses : updateWhere (fun c : ClassRow => decide (c.capacity ≤ 0))
      (fun c => { c with capacity := 25 }) t.classes = t.classes := by
    refine updateWhere_eq_self fun c hc hp => ?_
    have := (h.checks.class_capacity_positive c hc).1
    have := of_decide_eq_true hp
    omega
  unfold fillCapacities School.Tables.setClasses
  rw [hclasses]

theorem seedProfile_idle {t : Tables} (h : t.profile.isSome) : seedProfile t = t := by
  obtain ⟨p, hp⟩ := Option.isSome_iff_exists.1 h
  have hor : t.profile.or (some { currency := "JOD" }) = t.profile := by rw [hp]; rfl
  unfold seedProfile
  rw [hor]

theorem fillCurrencies_idle {t : Tables} (h : t.Ok) : fillCurrencies t = t := by
  unfold fillCurrencies
  rw [updateWhere_eq_self]
  intro p hp hnone
  have hsome := h.school.checks.payment_currency p hp
  rw [of_decide_eq_true hnone] at hsome
  cases hsome

/-- **What the initialiser writes** on a schema that has been initialised: section labels. -/
theorem after_initializeTenantTables [SqlLocale] {s : State} (h : Seated s) :
    (after initializeTenantTables s).val =
      { s.val with school := fillSectionLabels s.val.school } := by
  obtain ⟨hyears, hprofile⟩ := h
  have hcapacities : stmt (fun t => { t with school := fillCapacities t.school }) s = .ok () s :=
    stmt_idle (by rw [fillCapacities_idle s.ok.school])
  have hseed : seedAcademicYear s.val.school = s.val.school := if_neg hyears
  have hok : ({ s.val with school := fillSectionLabels s.val.school } : Tables).Ok :=
    { s.ok with school := ok_fillSectionLabels s.ok.school }
  have hlabels : stmt (fun t => { t with
      school := fillSectionLabels (seedAcademicYear t.school) }) s =
      .ok () ⟨_, hok⟩ := exec_eq_ok.2 (by rw [hseed])
  have hprofiles : stmt seedProfile (⟨_, hok⟩ : State) = .ok () ⟨_, hok⟩ :=
    stmt_idle (seedProfile_idle hprofile)
  have hcurrencies : stmt fillCurrencies (⟨_, hok⟩ : State) = .ok () ⟨_, hok⟩ :=
    stmt_idle (fillCurrencies_idle hok)
  unfold initializeTenantTables
  rw [after_bind_ok hcapacities, after_bind_ok hlabels, after_bind_ok hprofiles,
    after_ok hcurrencies]

/-- The backfill finds nothing to fill in exactly when no class without a label has a name that
its pattern matches. -/
theorem fillSectionLabels_classes [SqlLocale] {t : School.Tables} :
    (fillSectionLabels t).classes = t.classes ↔
      ∀ c ∈ t.classes, c.sectionLabel = none → sqlSubstring c.name = none := by
  constructor
  · intro h c hc hnone
    by_contra hsome
    have hrow := eq_of_updateWhere_eq_self h hc
      (decide_eq_true ⟨hnone, Option.isSome_iff_ne_none.2 hsome⟩)
    have hlabel := congrArg ClassRow.sectionLabel hrow
    dsimp only at hlabel
    rw [sqlSectionLabel_eq, hnone] at hlabel
    exact hsome hlabel
  · intro h
    refine updateWhere_eq_self fun c hc hp => ?_
    obtain ⟨hnone, hsome⟩ := of_decide_eq_true hp
    rw [h c hc hnone] at hsome
    cases hsome

/-- **The initialiser changes nothing** on an initialised schema if and only if
the names are settled. -/
theorem changesNothing_iff [Unicode] [SqlLocale] {s : State} (h : Seated s) :
    ChangesNothing s ↔ Settled s := by
  have hval := after_initializeTenantTables h
  constructor
  · intro hsame c hc
    have halike := hsame.labels c hc
    refine ⟨(sqlSectionLabel_eq_iff c.name).1 halike, fun hnone => ?_⟩
    have hclasses := hsame.rows.classes
    rw [hval] at hclasses
    unfold ClassRow.Labelled
    rw [hnone, ← halike, sqlSectionLabel_eq, fillSectionLabels_classes.1 hclasses c hc hnone]
  · intro hsettled
    have hlabels : ∀ c ∈ s.val.school.classes, sqlSectionLabel c.name = deriveSectionLabel c.name :=
      fun c hc => (sqlSectionLabel_eq_iff c.name).2 (hsettled c hc).1
    have hclasses : (fillSectionLabels s.val.school).classes = s.val.school.classes := by
      refine fillSectionLabels_classes.2 fun c hc hnone => ?_
      have hlabelled : c.sectionLabel = deriveSectionLabel c.name := (hsettled c hc).2 hnone
      rw [← sqlSectionLabel_eq, hlabels c hc, ← hlabelled, hnone]
    refine ⟨?_, hlabels⟩
    rw [hval]
    exact ⟨rfl, hclasses, rfl, rfl, rfl, rfl⟩

/-! ## What keeps a schema initialised -/

/-- There is an academic year. -/
def HasYear (d : Db) : Prop := d.val.years ≠ []

section Unicode

variable [Unicode]

theorem hasYear_step (d : Db) (op : School.Op) (h : HasYear d) : HasYear (School.step d op) := by
  rcases step_plans_or_commits d op with hplans | ⟨r, -, -, hcommit⟩
  · obtain ⟨y, hy⟩ := List.exists_mem_of_ne_nil _ h
    have hfound : d.val.YearIs y.id y.status := by
      unfold School.Tables.YearIs
      rw [show d.val.year? y.id = some y from d.ok.keys.years.find?_eq_some.2 ⟨hy, rfl⟩]
      rfl
    intro hnone
    have hkept := hplans.statuses y.id y.status hfound
    unfold School.Tables.YearIs School.Tables.year? at hkept
    rw [hnone] at hkept
    cases hkept
  · intro hnone
    rw [hcommit.years] at hnone
    simp only [flipped, updateWhere, List.map_eq_nil_iff] at hnone
    exact h hnone

/-- The profile is not lost. -/
def HasProfile (s : State) : Prop := s.val.profile.isSome

omit [Unicode] in
theorem moves_ensureProfileRow : Moves (Keeps HasProfile) ensureProfileRow := by
  unfold ensureProfileRow
  refine moves_bind (moves_query _) fun row => ?_
  cases row with
  | some row => exact moves_pure _
  | none => exact moves_bind (moves_exec fun _ _ _ => rfl) fun _ => moves_pure _

omit [Unicode] in
theorem moves_writeProfile (f : ProfileRow → ProfileRow) :
    Moves (Keeps HasProfile) (writeProfile f) := by
  unfold writeProfile
  refine moves_exec fun s _ h => ?_
  unfold HasProfile at h ⊢
  rwa [Option.isSome_map]

omit [Unicode] in
/-- A statement on other tables. -/
theorem moves_stmt {f : Tables → Tables} (h : ∀ t, (f t).profile = t.profile) :
    Moves (Keeps HasProfile) (stmt f) := by
  refine moves_exec fun s _ hs => ?_
  unfold HasProfile at hs ⊢
  rwa [h]

omit [Unicode] in
theorem moves_onSchool {α : Type} (m : Prog α) : Moves (Keeps HasProfile) (onSchool m) :=
  moves_onPart fun _ _ h => h

omit [Unicode] in
theorem moves_requireTenantLive (user : Authz.CurrentUser) (now : Timestamp) :
    Moves (Keeps HasProfile) (requireTenantLive user now) := by
  refine moves_ite (moves_pure _) (moves_bind (moves_query _) fun activatedAt => ?_)
  refine moves_bind (moves_query _) fun structured =>
    moves_bind (moves_onlyIf fun _ => ?_) fun _ => ?_
  · exact moves_writeProfile _
  · exact moves_raiseIf _ _

/-- **No call loses the profile.** -/
theorem hasProfile_call (c : Call) : Moves (Keeps HasProfile) c.program := by
  have hadmin : ∀ u, Moves (Keeps HasProfile) (SchoolService.requireAdmin u) :=
    fun u => moves_raiseIf _ _
  cases c with
  | getSetupState now =>
    refine moves_map (moves_bind moves_ensureProfileRow fun p => moves_bind (moves_query _)
      fun _ => ?_)
    exact moves_bind (moves_onlyIf fun _ => moves_writeProfile _) fun _ => moves_query _
  | getProfileBundle => exact moves_map moves_ensureProfileRow
  | updateProfile fields u =>
    refine moves_map (moves_bind (hadmin u) fun _ => moves_bind moves_ensureProfileRow fun p => ?_)
    refine moves_bind (moves_onlyIf fun _ => ?_) fun _ => ?_
    · refine moves_bind (moves_raiseIf _ _) fun _ => moves_bind (moves_raiseIf _ _) fun _ => ?_
      exact moves_bind (moves_query _) fun _ => moves_raiseIf _ _
    · refine moves_ite (moves_pure _) (moves_bind moves_ensureProfileRow fun row => ?_)
      exact moves_bind (moves_writeProfile _) fun _ => moves_pure _
  | upsertCampus fields u =>
    refine moves_bind (hadmin u) fun _ => moves_bind (moves_query _) fun primary => ?_
    cases Text.nonZero primary with
    | some id => exact moves_stmt fun _ => rfl
    | none => exact moves_bind (moves_raiseIf _ _) fun _ => moves_stmt fun _ => rfl
  | createContact fields u =>
    refine moves_bind (hadmin u) fun _ => ?_
    unfold SchoolRepository.createContact
    exact moves_stmt fun _ => rfl
  | updateContact id fields u =>
    refine moves_bind (hadmin u) fun _ => moves_bind ?_ fun _ => moves_raiseIf _ _
    exact moves_bind (moves_stmt fun _ => rfl) fun _ => moves_query _
  | deleteContact id u =>
    refine moves_bind (hadmin u) fun _ => moves_bind (moves_query _) fun _ => ?_
    exact moves_bind (moves_stmt fun _ => rfl) fun _ => moves_raiseIf _ _
  | commitProfile u now =>
    refine moves_bind (hadmin u) fun _ => moves_bind moves_ensureProfileRow fun p => ?_
    refine moves_bind (moves_raiseIf _ _) fun _ => moves_bind (moves_raiseIf _ _) fun _ => ?_
    refine moves_bind (moves_query _) fun _ => moves_bind (moves_raiseIf _ _) fun _ => ?_
    exact moves_bind (moves_query _) fun _ => moves_bind (moves_raiseIf _ _) fun _ =>
      moves_writeProfile _
  | activate u now =>
    refine moves_bind (hadmin u) fun _ => moves_bind moves_ensureProfileRow fun p => ?_
    refine moves_bind (moves_raiseIf _ _) fun _ => moves_bind (moves_raiseIf _ _) fun _ => ?_
    refine moves_bind (moves_query _) fun _ => moves_bind (moves_raiseIf _ _) fun _ =>
      moves_writeProfile _
  | saveAcademicStructure u p by_ => exact moves_onSchool _
  | commitStructureImport u rows => exact moves_onSchool _
  | pass user now => exact moves_requireTenantLive user now

theorem hasYear_call (s : State) (c : Call) (h : s.val.school.years ≠ []) :
    (c.step s).val.school.years ≠ [] := by
  have hschool : ∀ op : School.Op,
      (putSchool (School.step (schoolOf s) op) s).val.school.years ≠ [] :=
    fun op => hasYear_step (schoolOf s) op h
  cases step_effect s c with
  | idle hidle => rwa [hidle.school]
  | updated _ _ _ hp => rwa [hp.school]
  | committed _ _ _ hp => rwa [hp.school]
  | activated _ _ _ hp => rwa [hp.school]
  | grandfathered _ _ hp => rwa [hp.school]
  | campus _ hval => rwa [hval]
  | contactCreated hval => rwa [hval]
  | contactUpdated _ hval => rwa [hval]
  | contactDeleted _ hval => rwa [hval]
  | structured hput =>
    rw [hput]
    exact hschool (.saveAcademicStructure ..)
  | imported hput =>
    rw [hput, ← after_discard]
    exact hschool (.commitStructureImport ..)

/-- **A call of the setup** leaves an initialised schema initialised. -/
theorem seated_call {s : State} (h : Seated s) (c : Call) : Seated (c.step s) where
  years := hasYear_call s c h.years
  profile := hasProfile_call c s h.profile

/-- So does a request whose work does not lose the academic years. -/
theorem seated_request {s : State} (h : Seated s) (user : Authz.CurrentUser) (now : Timestamp)
    {work : Prog Unit} (hwork : Moves (Keeps HasYear) work) :
    Seated (step s (.request user now work)) := by
  have hgate := seated_call h (.pass user now)
  rcases ok_or_error (requireTenantLive user now) s with ⟨⟨⟩, hok⟩ | ⟨e, herr⟩
  · have hpass : (Call.pass user now).step s = after (requireTenantLive user now) s := rfl
    have hstep : step s (.request user now work) =
        putSchool (after work (schoolOf ((Call.pass user now).step s)))
          ((Call.pass user now).step s) :=
      (after_bind_ok hok).trans (after_onPart _)
    rw [hstep]
    exact ⟨hwork _ hgate.years, hgate.profile⟩
  · rw [show step s (.request user now work) =
      (Call.pass user now).step s from after_bind_error herr]
    exact hgate

/-! ## Runs -/

omit [Unicode] in
theorem hasYear_enroll (call : Trips.EnrollCall) : Moves (Keeps HasYear) call.program.seq := by
  intro d h
  rcases Trips.enrollStudent_cases call.by_ call.studentId call.eventClassMapId call.state
    call.teacherId
    call.parentId d with ⟨m, n, -, hseq⟩ | ⟨m, t, p, d₁, -, -, -, hval, hseq⟩ | ⟨-, -, e, hseq⟩
  · rwa [show after call.program.seq d = d from after_ok hseq]
  · have hafter : after call.program.seq d = d₁ := by
      split_ifs at hseq
      · exact after_error hseq
      · exact after_ok hseq
    rw [hafter, HasYear, hval]
    exact h
  · rwa [show after call.program.seq d = d from after_error hseq]

omit [Unicode] in
theorem hasYear_decide (actor : Trips.Actor) (enrollmentId : Nat)
    (requested : Trips.StudentsRouter.StateName) :
    Moves (Keeps HasYear)
      (Trips.StudentsRouter.updateEnrollmentApproval actor enrollmentId requested).seq := by
  refine Trips.moves_updateEnrollmentApproval requested fun st t p => ?_
  unfold Trips.TenantRepository.updateEnrollmentState
  exact moves_exec fun _ _ h => h

omit [Unicode] in
theorem hasYear_pay (actor : Trips.Actor) (enrollmentId : Nat) :
    Moves (Keeps HasYear) (Trips.EventsRouter.payEnrollment actor enrollmentId).seq := by
  refine Trips.moves_payEnrollment ?_
  unfold Trips.TenantRepository.setPaid
  exact moves_exec fun _ _ h => h

omit [Unicode] in
theorem hasYear_cancel (actor : Trips.Actor) (enrollmentId : Nat) :
    Moves (Keeps HasYear) (Trips.StudentsRouter.cancelEnrollment actor enrollmentId).seq := by
  refine Trips.moves_cancelEnrollment (fun e u t => ?_) ?_
  · unfold Trips.TenantRepository.createNotification
    exact moves_exec fun _ _ h => h
  · unfold Trips.TenantRepository.deleteEnrollment
    exact moves_exec fun _ _ h => h

end Unicode

/-- An operation of the application on a tenant: a call of the setup, or a request that passes the
gate and works on the school's tables. No statement of the application deletes an academic year. -/
inductive TenantOp where
  | call (c : Call)
  | school (user : Authz.CurrentUser) (now : Timestamp) (op : School.Op)
  | enroll (now : Timestamp) (call : Trips.EnrollCall)
  | decide (now : Timestamp) (actor : Trips.Actor) (enrollmentId : Nat)
      (requested : Trips.StudentsRouter.StateName)
  | pay (now : Timestamp) (actor : Trips.Actor) (enrollmentId : Nat)
  | cancel (now : Timestamp) (actor : Trips.Actor) (enrollmentId : Nat)
  | other (user : Authz.CurrentUser) (now : Timestamp) (work : Prog Unit)
      (keepsYears : Moves (Keeps HasYear) work)

section Run

variable [Unicode]

def TenantOp.step (s : State) : TenantOp → State
  | .call c => c.step s
  | .school user now op => Setup.step s (.request user now op.program)
  | .enroll now enrolling =>
    Setup.step s (.request enrolling.by_ now (discard enrolling.program.seq))
  | .decide now actor i requested =>
    Setup.step s (.request actor.user now
      (discard (Trips.StudentsRouter.updateEnrollmentApproval actor i requested).seq))
  | .pay now actor i =>
    Setup.step s (.request actor.user now (discard (Trips.EventsRouter.payEnrollment actor i).seq))
  | .cancel now actor i =>
    Setup.step s
      (.request actor.user now (discard (Trips.StudentsRouter.cancelEnrollment actor i).seq))
  | .other user now work _ => Setup.step s (.request user now work)

/-- **Every operation** leaves an initialised schema initialised. -/
theorem seated_step (s : State) (op : TenantOp) (h : Seated s) : Seated (op.step s) := by
  cases op with
  | call c => exact seated_call h c
  | school user now op => exact seated_request h user now fun d hd => hasYear_step d op hd
  | enroll now call => exact seated_request h call.by_ now (moves_map (hasYear_enroll call))
  | decide now actor i requested =>
    exact seated_request h actor.user now (moves_map (hasYear_decide actor i requested))
  | pay now actor i => exact seated_request h actor.user now (moves_map (hasYear_pay actor i))
  | cancel now actor i => exact seated_request h actor.user now (moves_map (hasYear_cancel actor i))
  | other user now work hwork => exact seated_request h user now hwork

variable [SqlLocale]

/-- **The initialiser is a no-op on the data** of every state that a run on an initialised schema
passes, and takes from every name on file the label that the program derives, exactly in the runs in
which the names stay settled. -/
theorem changesNothing_run_iff {s : State} (h : Seated s) (ops : List TenantOp) :
    Throughout TenantOp.step ChangesNothing s ops ↔ Throughout TenantOp.step Settled s ops := by
  constructor
  · exact Throughout.with_inv seated_step (fun s hs => (changesNothing_iff hs).1) h
  · exact Throughout.with_inv seated_step (fun s hs => (changesNothing_iff hs).2) h

end Run

/-! ## A name that the two patterns read differently -/

section Example

attribute [local instance] ascii cLocale

/-- A class is created in a school that is being set up. -/
def classCreated (name : String) : List TenantOp :=
  [.school superAdmin 0 (.createLevel ["super_admin"] "G1" ⟨none, none, none, none⟩ true),
   .school superAdmin 0 (.createClass ["super_admin"] name 100 none 25 true)]

theorem seated_freshTenant : Seated freshTenant where
  years := by decide
  profile := rfl

theorem settled_classCreated :
    Throughout TenantOp.step Settled freshTenant (classCreated "Grade 1 - A") := by
  refine ⟨?_, ?_, show Settled _ from ?_⟩
  · decide +kernel
  · decide +kernel
  · decide +kernel

theorem changesNothing_classCreated : Seated freshTenant ∧
    Throughout TenantOp.step ChangesNothing freshTenant (classCreated "Grade 1 - A") :=
  ⟨seated_freshTenant, (changesNothing_run_iff seated_freshTenant _).2 settled_classCreated⟩

/-- The class stands without a label, and the initialiser writes one. -/
theorem subsection_filled_in :
    (run TenantOp.step freshTenant (classCreated "Subsection A")).val.school.classes.map
      ClassRow.sectionLabel =
        [none] ∧
      (after Database.initializeTenantTables
          (run TenantOp.step freshTenant (classCreated "Subsection A"))).val.school.classes.map
        ClassRow.sectionLabel = [some "A"] := by
  decide +kernel

theorem initialiser_changes_label : ¬∀ (s : State) (ops : List TenantOp), Seated s →
    Throughout TenantOp.step ChangesNothing s ops := by
  intro h
  have hlast := (h freshTenant (classCreated "Subsection A") seated_freshTenant).last
  have hlabels := congrArg (List.map ClassRow.sectionLabel) hlast.rows.classes
  rw [subsection_filled_in.1, subsection_filled_in.2] at hlabels
  cases hlabels

end Example

end Sams.Setup
