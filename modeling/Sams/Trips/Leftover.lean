import Sams.Lib.Resuming
import Sams.Trips.Stamps

/-!
# Statuses that are left over

Three statuses of an event are reached by no transition any more. A script takes the events that are
left in them to the statuses of the workflow, school by school, in two statements for each school;
it counts them first, where it is only to say what it would do. A school that fails is passed over.

* **`leftovers_cleared`** — the script may run while the school works: whatever requests are
  answered in between, no event is in such a status once both statements have been run, and no other
  event was touched by them.
* **`migration_resumed`** — schools that failed are put right by running the script again, however
  often and wherever it has failed before, and a run without failures leaves none behind.
-/

namespace Sams.Trips

open School Programs Rows Runs Interleaving Resuming

/-! ## The statements -/

/-- Where the script takes a status. -/
def collapsed : EventStatus → EventStatus
  | .resourcePlanning => .proposed
  | .financeApproval | .finalReview => .approved
  | st => st

/-- No transition reaches the status. -/
def Leftover (st : EventStatus) : Prop :=
  st ∈ [EventStatus.resourcePlanning, .financeApproval, .finalReview]

instance (st : EventStatus) : Decidable (Leftover st) := inferInstanceAs (Decidable (_ ∈ _))

/-- No transition leads to it. -/
theorem not_leftover_of_transition {st next : EventStatus} {action : EventAction} {role : String}
    (h : transitions st action = some (next, role)) : ¬Leftover next := by
  unfold transitions at h
  split at h <;> simp_all [Leftover]
  all_goals obtain ⟨rfl, -⟩ := h; decide

namespace LiveDataMigration

/-- `count(*) FILTER (WHERE status IN …)`. -/
def countOf (t : Tables) (statuses : List EventStatus) : Nat :=
  t.events.countP fun e => e.status ∈ statuses

def rewrite (statuses : List EventStatus) (next : EventStatus) (t : Tables) : Tables :=
  { t with events := updateWhere (fun e => e.status ∈ statuses) (fun e => { e with
    status := next }) t.events }

/-- `UPDATE event SET status = … WHERE status IN …`, and how many rows it says it has updated. -/
def update (statuses : List EventStatus) (next : EventStatus) : Prog Nat := do
  let n ← read fun t => countOf t statuses
  stmt (rewrite statuses next)
  return n

def toProposed : Prog Nat := update [.resourcePlanning] .proposed

def toApproved : Prog Nat := update [.financeApproval, .finalReview] .approved

/-- What the two statements say of a school. -/
abbrev Counts := Nat × Nat

/-- The counts of a dry run. -/
def wouldUpdate (t : Tables) : Counts :=
  (countOf t [.resourcePlanning], countOf t [.financeApproval, .finalReview])

/-- The two statements of a school. -/
def apply : Task Counts := do
  let proposed ← Proc.once toProposed
  let approved ← Proc.once toApproved
  return (proposed, approved)

end LiveDataMigration

open LiveDataMigration

/-! ## What a statement does -/

section Statements

variable {statuses : List EventStatus} {next : EventStatus}

/-- No constraint looks at the status. -/
theorem ok_rewrite (statuses : List EventStatus) (next : EventStatus) {t : Tables} (h : t.Ok) :
    (rewrite statuses next t).Ok := by
  let write : EventRow → EventRow :=
    fun e => if decide (e.status ∈ statuses) then { e with status := next } else e
  have hid : ∀ e, (write e).id = e.id := fun e => by dsimp only [write]; split_ifs <;> rfl
  have hcreator : ∀ e, (write e).createdBy = e.createdBy := fun e => by
    dsimp only [write]; split_ifs <;> rfl
  have hmanager : ∀ e, (write e).managerReviewerId = e.managerReviewerId := fun e => by
    dsimp only [write]; split_ifs <;> rfl
  have hfinance : ∀ e, (write e).financeReviewerId = e.financeReviewerId := fun e => by
    dsimp only [write]; split_ifs <;> rfl
  have hamounts : ∀ e, (write e).amounts = e.amounts := fun e => by
    dsimp only [write]; split_ifs <;> rfl
  have hattendance : ∀ e, (write e).predictedAttendance = e.predictedAttendance := fun e => by
    dsimp only [write]; split_ifs <;> rfl
  obtain ⟨hkeys, hunique, hchecks, hplacements, hrollovers, hevents, hcontacts⟩ := h
  refine ⟨{ hkeys with events := hkeys.events.map hid }, { hunique with },
    { hchecks with event_amounts := ?_, event_predicted_attendance := ?_ }, { hplacements with },
    { hrollovers with },
    { hevents with
      event_created_by := hevents.event_created_by.map_same fun e => congrArg some (hcreator e)
      event_manager_reviewer := hevents.event_manager_reviewer.map_same hmanager
      event_finance_reviewer := hevents.event_finance_reviewer.map_same hfinance
      event_class_event := hevents.event_class_event.map_right hid
      resource_event := hevents.resource_event.map_right hid
      cost_event := hevents.cost_event.map_right hid },
    { hcontacts with notification_event := hcontacts.notification_event.map_right hid }⟩
  · intro e he
    obtain ⟨x, hx, rfl⟩ := List.mem_map.1 he
    exact (hamounts x).symm ▸ hchecks.event_amounts x hx
  · intro e he
    obtain ⟨x, hx, rfl⟩ := List.mem_map.1 he
    exact (hattendance x).symm ▸ hchecks.event_predicted_attendance x hx

/-- The database after the statement. -/
def rewritten (statuses : List EventStatus) (next : EventStatus) (d : Db) : Db :=
  ⟨rewrite statuses next d.val, ok_rewrite statuses next d.ok⟩

/-- The statement is never refused. -/
theorem update_eq (d : Db) :
    update statuses next d = .ok (countOf d.val statuses) (rewritten statuses next d) := by
  have hwrite : stmt (rewrite statuses next) d = .ok () (rewritten statuses next d) :=
    exec_of (ok_rewrite _ _ d.ok)
  unfold update
  rw [query_bind, bind_of_ok hwrite]
  rfl

/-- The event is as it was, or was taken to where the script takes its status. -/
def Collapses (e e' : EventRow) : Prop :=
  e' = e ∨ Leftover e.status ∧ e' = { e with status := collapsed e.status }

/-- The statement takes the events where the script takes them. -/
def Agrees (statuses : List EventStatus) (next : EventStatus) : Prop :=
  ∀ st ∈ statuses, Leftover st ∧ collapsed st = next

instance : Decidable (Agrees statuses next) := inferInstanceAs (Decidable (∀ st ∈ _, _))

/-- Nothing but the statuses of events was touched, and these where the script takes them. -/
def CollapsesOnly (d d' : Db) : Prop :=
  ∃ f, (∀ e, Collapses e (f e)) ∧ d'.val = { d.val with events := d.val.events.map f }

theorem collapsesOnly_refl (d : Db) : CollapsesOnly d d :=
  ⟨id, fun _ => .inl rfl, by rw [List.map_id]⟩

theorem agrees_toProposed : Agrees [.resourcePlanning] .proposed := by decide

theorem agrees_toApproved : Agrees [.financeApproval, .finalReview] .approved := by decide

theorem collapsesOnly_rewritten (h : Agrees statuses next) (d : Db) :
    CollapsesOnly d (rewritten statuses next d) := by
  refine ⟨_, fun e => ?_, rfl⟩
  by_cases hin : e.status ∈ statuses
  · obtain ⟨hleft, hnext⟩ := h e.status hin
    rw [if_pos (by simpa using hin), ← hnext]
    exact .inr ⟨hleft, rfl⟩
  · rw [if_neg (by simpa using hin)]
    exact .inl rfl

/-- No event has one of the statuses. -/
def NoneLeft (statuses : List EventStatus) (d : Db) : Prop :=
  ∀ e ∈ d.val.events, e.status ∉ statuses

theorem noneLeft_rewritten (hnext : next ∉ statuses) (d : Db) :
    NoneLeft statuses (rewritten statuses next d) := by
  intro e he
  rcases cases_of_mem_updateWhere he with ⟨-, hstatus⟩ | ⟨x, -, -, rfl⟩
  · simpa using hstatus
  · exact hnext

end Statements

/-! ## While the school works -/

/-- An event that is left over was so before. -/
def Fades (d d' : Db) : Prop :=
  ∀ e' ∈ d'.val.events, Leftover e'.status → ∃ e ∈ d.val.events, e.status = e'.status

instance : IsPreorder Db Fades where
  refl _ e he _ := ⟨e, he, rfl⟩
  trans _ _ _ h h' e he hleft := by
    obtain ⟨e', he', hstatus⟩ := h' e he hleft
    obtain ⟨e'', he'', hstatus'⟩ := h e' he' (hstatus ▸ hleft)
    exact ⟨e'', he'', hstatus'.trans hstatus⟩

theorem Inherits.fades {d d' : Db} (h : Inherits d d') : Fades d d' := by
  intro e' he' _
  obtain ⟨e, he, hstamps⟩ := h e' he'
  exact ⟨e, he, (congrArg Prod.fst hstamps).symm⟩

/-- The script takes no event to a status that is left over. -/
theorem not_leftover_collapsed (st : EventStatus) : ¬Leftover (collapsed st) := by
  cases st <;> decide

theorem CollapsesOnly.fades {d d' : Db} (h : CollapsesOnly d d') : Fades d d' := by
  obtain ⟨f, hf, hval⟩ := h
  intro e' he' hleft
  rw [hval] at he'
  obtain ⟨e, he, rfl⟩ := List.mem_map.1 he'
  rcases hf e with hsame | ⟨-, hmoved⟩
  · exact ⟨e, he, by rw [hsame]⟩
  · rw [hmoved] at hleft
    exact absurd hleft (not_leftover_collapsed e.status)

/-- No event that is left over appears. -/
theorem NoneLeft.fades {statuses : List EventStatus} (hleft : ∀ st ∈ statuses, Leftover st) :
    Proc.Stable Fades (NoneLeft statuses) := by
  intro d d' hd h e' he' hstatus
  obtain ⟨e, he, hsame⟩ := h e' he' (hleft _ hstatus)
  exact hd e he (hsame ▸ hstatus)

/-! ### The requests -/

theorem fades_of_inherits {α : Type} {m : Prog α} (h : Moves Inherits m) : Moves Fades m :=
  Moves.mono h fun _ _ h => Inherits.fades h

/-- A status that is written is where a transition leads. -/
theorem fades_updateEventStatus {found next : EventStatus} {action : EventAction} {role : String}
    {fields : UpdateFields} (eventId : Nat) (h : transitions found action = some (next, role))
    (hstatus : fields.status = next) :
    Moves Fades (TenantRepository.updateEventStatus eventId fields) := by
  rcases updateEventStatus_cases eventId fields with ⟨reviewer, hcase⟩ | hcase
  · rw [hcase]
    unfold TenantRepository.writeEventStatus
    refine moves_exec fun d _ => ?_
    intro e' he' hleft
    rcases cases_of_mem_updateWhere he' with ⟨he, -⟩ | ⟨e, he, -, rfl⟩
    · exact ⟨e', he, rfl⟩
    · subst hstatus
      exact absurd hleft (not_leftover_of_transition h)
  · rw [hcase]
    exact fun d => refl_of Fades d

/-- A new event is a draft. -/
theorem fades_insertWithClasses (fields : EventFields) (createdBy : Nat)
    (mappings : List ClassMappingRequest)
    (now : Timestamp) :
    Moves Fades (TenantRepository.insertWithClasses fields createdBy mappings now) := by
  unfold TenantRepository.insertWithClasses TenantRepository.insertEvent
  refine moves_transaction (moves_bind (moves_bind (moves_query _) fun id =>
    moves_bind (moves_exec fun d _ => ?_) fun _ => moves_pure _) fun _ => ?_)
  · intro e he hleft
    rcases List.mem_append.1 he with he | he
    · exact ⟨e, he, rfl⟩
    · rw [List.mem_singleton] at he
      subst he
      have hdraft : ¬Leftover .draft := by decide
      exact absurd hleft hdraft
  · refine moves_bind (moves_forM fun m _ => ?_) fun _ => moves_pure _
    unfold TenantRepository.insertEventClass
    exact moves_exec fun _ _ => (inherits_of_eq rfl).fades

/-- No request takes an event to a status that is left over. -/
theorem writable_fades : Writable Fades where
  status eventId := fades_updateEventStatus eventId
  set _ _ _ := fades_of_inherits (inherits_setFieldsAndClasses _ _ _)
  patch _ _ := fades_of_inherits (inherits_updateEvent _ _)
  subsidy _ _ := fades_of_inherits (inherits_updateSubsidy _ _)
  insert _ _ _ _ := fades_insertWithClasses _ _ _ _
  notify _ _ _ := fades_of_inherits (inherits_createNotification _ _ _)
  clear _ := by
    unfold TenantRepository.deleteResourcesForEvent
    exact moves_exec fun _ _ => (inherits_of_eq rfl).fades
  resource _ _ := by
    unfold TenantRepository.createResource
    exact moves_exec fun _ _ => (inherits_of_eq rfl).fades
  deleteEvent _ _ := fades_of_inherits (inherits_deleteEvent _ _)
  deleteUser _ _ := fades_of_inherits (inherits_deleteUser _ _)

/-! ### The script among the requests -/

section Among

variable {ι : Type} [DecidableEq ι]

/-- How far the script has come with the school. -/
def stage : Nat → Task Unit
  | 0 => (fun _ => ()) <$> apply
  | 1 => (fun _ => ()) <$> Proc.once toApproved
  | _ => return ()

/-- The script and requests of all kinds, any number of them. -/
def amongRequests (d : Db) (requests : ι → Request) : Pool (Option ι) Mark PyError Db Unit :=
  .start d fun
    | none => stage 0
    | some i => (requests i).program

/-- What the script may do and what the requests may. -/
def ScriptGuarantee : Option ι → Option Mark → Db → Db → Prop
  | none, _, d, d' => CollapsesOnly d d'
  | some _, _, d, d' => Fades d d'

/-- No event is left in any of the statuses. -/
def Cleared (d : Db) : Prop := NoneLeft [.resourcePlanning, .financeApproval, .finalReview] d

theorem cleared_rewritten {d : Db} (h : NoneLeft [.resourcePlanning] d) :
    Cleared (rewritten [.financeApproval, .finalReview] .approved d) := by
  intro e he hstatus
  rcases cases_of_mem_updateWhere he with ⟨he, hother⟩ | ⟨x, -, -, rfl⟩
  · have hsplit : e.status ∈ [.resourcePlanning] ++ [.financeApproval, .finalReview] := hstatus
    rcases List.mem_append.1 hsplit with hstatus | hstatus
    · exact h e he hstatus
    · exact of_decide_eq_false hother hstatus
  · have happroved : EventStatus.approved ∉ [EventStatus.resourcePlanning, .financeApproval,
        .finalReview] := by decide
    exact happroved hstatus

/-- The script keeps to its guarantee, and no event is left over when it returns. -/
theorem valid_stage :
    (stage 0).Valid Anything Fades (fun _ => CollapsesOnly) (fun _ => Cleared) fun _ => True := by
  intro d _ _
  rw [show toProposed d = _ from update_eq d]
  refine ⟨collapsesOnly_rewritten agrees_toProposed d, NoneLeft [.resourcePlanning],
    NoneLeft.fades (by decide),
    noneLeft_rewritten (by decide) d, fun d' hd' _ => ?_⟩
  rw [show toApproved d' = _ from update_eq d']
  exact ⟨collapsesOnly_rewritten agrees_toApproved d', Cleared, NoneLeft.fades (by decide),
    cleared_rewritten hd',
    fun _ h => h⟩

omit [DecidableEq ι] in
theorem scriptGuarantee_fades {i : Option ι} {mark : Option Mark} {d d' : Db}
    (h : ScriptGuarantee i mark d d') :
    Fades d d' := by
  cases i with
  | none => exact CollapsesOnly.fades h
  | some i => exact h

omit [DecidableEq ι] in
theorem scriptGuarantee_refl (i : Option ι) (d : Db) : ScriptGuarantee i none d d := by
  cases i with
  | none => exact collapsesOnly_refl d
  | some i => exact refl_of Fades d

/-- Where the script has returned, no event is left over. -/
def Afterwards : Option ι → Unit → Db → Prop
  | none, _, d => Cleared d
  | some _, _, _ => True

omit [DecidableEq ι] in
theorem sound_amongRequests (d : Db) (requests : ι → Request) :
    (amongRequests d requests).Sound (fun _ => Anything) Fades ScriptGuarantee Afterwards := by
  refine Pool.sound_start fun i => ?_
  cases i with
  | none => exact valid_stage
  | some i => exact (writable_fades.request (requests i)).valid Fades _

/-- The statements of the script are never refused. -/
theorem stage_run {P : Pool (Option ι) Mark PyError Db Unit} {k : Nat}
    (h : P.threads none = stage k)
    (is : List (Option ι)) : (run Pool.step P is).threads none = stage (k + is.count none) := by
  induction is generalizing P k with
  | nil => exact h
  | cons i is ih =>
    rw [run_cons]
    cases i with
    | some i =>
      rw [List.count_cons_of_ne (by simp)]
      exact ih ((Pool.threads_step_of_ne (by simp)).trans h)
    | none =>
      have hnext : (P.step none).threads none = stage (k + 1) := by
        match k, h with
        | 0, h => exact Pool.threads_step_of_ok h (update_eq P.state)
        | 1, h => exact Pool.threads_step_of_ok h (update_eq P.state)
        | k + 2, h =>
          have hret : P.threads none = .ret () := h
          unfold Pool.step
          rw [hret]
          exact hret
      rw [ih hnext, List.count_cons_self]
      congr 1
      omega

theorem eachStep_undisturbed (P : Pool (Option ι) Mark PyError Db Unit) (is : List (Option ι)) :
    EachStep Pool.step (fun P i => P.Undisturbed (fun _ => Anything) i) P is :=
  (eachStep_true P is).mono fun _ _ _ _ _ => trivial

/-- **Leftovers are cleared while the school works.** The script and requests of all kinds run in
any order: what the script does to an event is to take it from a status that is left over, and after
its two statements no event is in such a status, whatever the requests go on to do. -/
theorem leftovers_cleared (d : Db) (requests : ι → Request) (is : List (Option ι)) :
    EachStep Pool.step (fun P i => i = none → CollapsesOnly P.state (P.step i).state)
      (amongRequests d requests) is ∧
    (2 ≤ is.count none → ∀ e ∈ (run Pool.step (amongRequests d requests) is).state.val.events,
      ¬Leftover e.status) := by
  have hstart := sound_amongRequests d requests
  constructor
  · refine run_each (I := fun P => P.Sound (fun _ => Anything) Fades ScriptGuarantee Afterwards)
      (fun P i hP hi => (hP.step scriptGuarantee_refl (fun _ _ _ _ => scriptGuarantee_fades) hi).1)
      (fun P i hP hi hnone => ?_) hstart (eachStep_undisturbed _ _)
    subst hnone
    exact (hP.step scriptGuarantee_refl (fun _ _ _ _ => scriptGuarantee_fades) hi).2
  · intro htwice
    have hrun :=
      hstart.run scriptGuarantee_refl (fun _ _ _ _ => scriptGuarantee_fades)
      (eachStep_undisturbed _ is)
    have hstage := stage_run (P := amongRequests d requests) (k := 0) rfl is
    obtain ⟨k, hk⟩ := Nat.exists_eq_add_of_le htwice
    rw [Nat.zero_add, hk, Nat.add_comm] at hstage
    exact hrun.returned (i := none) (a := ()) hstage

end Among

/-! ## School by school -/

namespace LiveDataMigration

/-- Where something is raised at a school: at its pool, at the counts or at a statement,
which is then not run. -/
inductive Step where
  | pool
  | counts
  | toProposed
  | toApproved
  deriving DecidableEq, Repr

abbrev Outage := Step → Bool

/-- The line that is printed of a school. -/
inductive Report where
  | failed
  | wouldUpdate (counts : Counts)
  | updated (counts : Counts)
  deriving DecidableEq, Repr

/-- What the script does at one school. -/
def school (apply : Bool) (outage : Outage) : Prog Report := do
  raiseIf (outage .pool) .databaseError
  if apply then
    raiseIf (outage .toProposed) .databaseError
    let proposed ← toProposed
    raiseIf (outage .toApproved) .databaseError
    let approved ← toApproved
    return .updated (proposed, approved)
  else
    raiseIf (outage .counts) .databaseError
    let counts ← read wouldUpdate
    return .wouldUpdate counts

/-- `except Exception`: the school has failed, and what it has written stays. -/
def trySchool (apply : Bool) (outage : Outage) (d : Db) : Report × Db :=
  match school apply outage d with
  | .ok report d' => (report, d')
  | .error _ d' => (.failed, d')

/-- The databases of the schools, by their tenant ids. -/
abbrev Plane := String → Db

/-- The script over the schools. -/
def migrate (apply : Bool) (outage : String → Outage) :
    List String → Plane → List (String × Report) × Plane
  | [], plane => ([], plane)
  | t :: ts, plane =>
    let school := trySchool apply (outage t) (plane t)
    let rest := migrate apply outage ts (Function.update plane t school.2)
    ((t, school.1) :: rest.1, rest.2)

def exitCode (reports : List (String × Report)) : Nat :=
  if reports.any fun r => r.2 = .failed then 1 else 0

end LiveDataMigration

/-- The schools are independent of each other. -/
theorem migrate_eq (apply : Bool) (outage : String → Outage) {tenants : List String}
    (hnodup : tenants.Nodup) (plane : Plane) :
    (migrate apply outage tenants plane).1 =
      tenants.map (fun t => (t, (trySchool apply (outage t) (plane t)).1)) ∧
    ∀ t, (migrate apply outage tenants plane).2 t =
      if t ∈ tenants then (trySchool apply (outage t) (plane t)).2 else plane t := by
  induction tenants generalizing plane with
  | nil => exact ⟨rfl, fun t => rfl⟩
  | cons t ts ih =>
    obtain ⟨ht, hts⟩ := List.nodup_cons.1 hnodup
    obtain ⟨hreports, hplane⟩ :=
      ih hts (Function.update plane t (trySchool apply (outage t) (plane t)).2)
    constructor
    · show (_, _) :: _ = _
      rw [hreports, List.map_cons]
      congr 1
      refine List.map_congr_left fun t' ht' => ?_
      have hother : t' ≠ t := fun h => ht (h ▸ ht')
      rw [Function.update_of_ne hother]
    · intro t'
      show (migrate apply outage ts _).2 t' = _
      rw [hplane]
      by_cases hsame : t' = t
      · subst hsame
        rw [if_neg ht, if_pos List.mem_cons_self, Function.update_self]
      · rw [Function.update_of_ne hsame]
        by_cases hin : t' ∈ ts
        · rw [if_pos hin, if_pos (List.mem_cons_of_mem t hin)]
        · rw [if_neg hin, if_neg (by simp [hsame, hin])]

/-! ### One school -/

/-- The statement, as one that is run again. -/
def statement (statuses : List EventStatus) (next : EventStatus) : Statement Db PyError Unit :=
  fun _ d => .ok (rewritten statuses next d)

/-- The two statements of a school. -/
def statements : List (Statement Db PyError Unit) :=
  [statement [.resourcePlanning] .proposed] ++
    [statement [.financeApproval, .finalReview] .approved]

section OneSchool

variable {statuses : List EventStatus} {next : EventStatus}

theorem rewritten_eq_self {d : Db} (h : NoneLeft statuses d) : rewritten statuses next d = d := by
  have hevents : updateWhere (fun e : EventRow => e.status ∈ statuses) (fun e => { e with
      status := next })
      d.val.events = d.val.events :=
    updateWhere_eq_self fun e he hin => absurd (of_decide_eq_true hin) (h e he)
  apply Checked.ext
  show rewrite statuses next d.val = d.val
  unfold rewrite
  rw [hevents]

theorem settled_statement (hnext : next ∉ statuses) (d : Db) :
    Resuming.Settled (statement statuses next) d ↔ NoneLeft statuses d := by
  constructor
  · intro h
    have hsame : rewritten statuses next d = d := Except.ok.inj (h ())
    rw [← hsame]
    exact noneLeft_rewritten hnext d
  · intro h _
    exact congrArg Except.ok (rewritten_eq_self h)

/-- The statements may be run again. -/
theorem resumable_statements : Resumable statements := by
  have hfirst : ∀ d, Resuming.Settled (statement [.resourcePlanning] .proposed) d ↔
      NoneLeft [.resourcePlanning] d :=
    settled_statement (by decide)
  have hsecond : ∀ d, Resuming.Settled (statement [.financeApproval, .finalReview] .approved) d ↔
      NoneLeft [.financeApproval, .finalReview] d := settled_statement (by decide)
  constructor
  · intro f hf t d d' h
    unfold statements at hf
    simp only [List.mem_append, List.mem_singleton] at hf
    rcases hf with rfl | rfl
    · rw [← Except.ok.inj h, hfirst]
      exact noneLeft_rewritten (by decide) d
    · rw [← Except.ok.inj h, hsecond]
      exact noneLeft_rewritten (by decide) d
  · refine List.pairwise_cons.2 ⟨fun g hg => ?_, List.pairwise_singleton _ _⟩
    rw [List.mem_singleton.1 hg]
    intro t d d' hd h
    rw [← Except.ok.inj h, hfirst]
    rw [hfirst] at hd
    exact NoneLeft.fades (by decide) d _ hd (collapsesOnly_rewritten agrees_toApproved d).fades

/-- How many of the statements are run. -/
def ran (outage : Outage) : Nat :=
  if outage .pool ∨ outage .toProposed then 0 else if outage .toApproved then 1 else 2

/-- Nothing is raised at the school. -/
def Undisturbed (outage : Outage) : Prop := ∀ step, outage step = false

/-- The databases after the statements that were run. -/
theorem trySchool_apply (outage : Outage) (d : Db) :
    (trySchool true outage d).2 = reached (statements.take (ran outage)) () d ∧
    ((trySchool true outage d).1 = .failed ↔ ran outage < 2) := by
  unfold trySchool school ran
  rw [raiseIf_bind]
  by_cases hpool : outage .pool = true
  · rw [if_pos hpool, if_pos (.inl hpool)]
    exact ⟨rfl, iff_of_true rfl (by decide)⟩
  rw [if_neg hpool, if_pos rfl, raiseIf_bind]
  by_cases hfirst : outage .toProposed = true
  · rw [if_pos hfirst, if_pos (.inr hfirst)]
    exact ⟨rfl, iff_of_true rfl (by decide)⟩
  have hproposed : toProposed d = _ := update_eq d
  rw [if_neg hfirst, if_neg (not_or.2 ⟨hpool, hfirst⟩), bind_of_ok hproposed, raiseIf_bind]
  by_cases hsecond : outage .toApproved = true
  · rw [if_pos hsecond, if_pos hsecond]
    exact ⟨rfl, iff_of_true rfl (by decide)⟩
  · have happroved : toApproved (rewritten [.resourcePlanning] .proposed d) = _ := update_eq _
    rw [if_neg hsecond, if_neg hsecond, bind_of_ok happroved]
    exact ⟨rfl, iff_of_false nofun (by decide)⟩

/-- The first statement leaves what the second counts. -/
theorem countOf_rewritten (d : Db) :
    countOf (rewritten [.resourcePlanning] .proposed d).val [.financeApproval, .finalReview] =
    countOf d.val [.financeApproval, .finalReview] := by
  show List.countP _ (updateWhere _ _ d.val.events) = _
  unfold countOf updateWhere
  rw [List.countP_map]
  refine List.countP_congr fun e _ => ?_
  simp only [Function.comp_apply, decide_eq_true_eq]
  by_cases hin : e.status ∈ [EventStatus.resourcePlanning]
  · have hmoved : EventStatus.proposed ∉ [EventStatus.financeApproval, .finalReview] := by decide
    have hleft : EventStatus.resourcePlanning ∉ [EventStatus.financeApproval, .finalReview] := by
      decide
    rw [if_pos hin, List.mem_singleton.1 hin]
    exact iff_of_false hmoved hleft
  · rw [if_neg hin]

/-- A school that was updated reports what a dry run counts. -/
theorem trySchool_updated {outage : Outage} {d : Db} {counts : Counts}
    (h : (trySchool true outage d).1 = .updated counts) : counts = wouldUpdate d.val := by
  have hproposed : toProposed d = _ := update_eq d
  have happroved : toApproved (rewritten [.resourcePlanning] .proposed d) = _ := update_eq _
  unfold trySchool school at h
  rw [raiseIf_bind] at h
  by_cases hpool : outage .pool = true
  · rw [if_pos hpool] at h
    cases h
  rw [if_neg hpool, if_pos rfl, raiseIf_bind] at h
  by_cases hfirst : outage .toProposed = true
  · rw [if_pos hfirst] at h
    cases h
  rw [if_neg hfirst, bind_of_ok hproposed, raiseIf_bind] at h
  by_cases hsecond : outage .toApproved = true
  · rw [if_pos hsecond] at h
    cases h
  rw [if_neg hsecond, bind_of_ok happroved, countOf_rewritten] at h
  exact (Report.updated.inj h).symm

/-- A dry run writes nothing. -/
theorem trySchool_dry (outage : Outage) (d : Db) : (trySchool false outage d).2 = d ∧
    ∀ counts, (trySchool false outage d).1 = .wouldUpdate counts → counts = wouldUpdate d.val := by
  unfold trySchool school
  rw [raiseIf_bind]
  by_cases hpool : outage .pool = true
  · rw [if_pos hpool]
    exact ⟨rfl, nofun⟩
  rw [if_neg hpool, if_neg Bool.false_ne_true, raiseIf_bind]
  by_cases hcounts : outage .counts = true
  · rw [if_pos hcounts]
    exact ⟨rfl, nofun⟩
  · rw [if_neg hcounts]
    exact ⟨rfl, fun counts h => (Report.wouldUpdate.inj h).symm⟩

/-- The tables where every event has been taken to its status. -/
def collapsedTables (t : Tables) : Tables :=
  { t with events := t.events.map fun e => { e with status := collapsed e.status } }

theorem rewritten_both (d : Db) : (rewritten [.financeApproval, .finalReview] .approved
    (rewritten [.resourcePlanning] .proposed d)).val = collapsedTables d.val := by
  show rewrite _ _ (rewrite _ _ d.val) = _
  unfold rewrite updateWhere collapsedTables
  rw [List.map_map]
  congr 1
  refine List.map_congr_left fun e _ => ?_
  cases hstatus : e.status <;> simp [hstatus, collapsed]
  all_goals rw [← hstatus]

theorem collapsesOnly_trans {d d' d'' : Db} (h : CollapsesOnly d d') (h' : CollapsesOnly d' d'') :
    CollapsesOnly d d'' := by
  obtain ⟨f, hf, hval⟩ := h
  obtain ⟨g, hg, hval'⟩ := h'
  refine ⟨g ∘ f, fun e => ?_, by rw [hval', hval, List.map_map]⟩
  rcases hf e with hsame | ⟨hleft, hmoved⟩
  · rw [Function.comp_apply, hsame]
    exact hg e
  · -- once it has been moved it is left over no more
    rcases hg (f e) with hsame | ⟨hagain, -⟩
    · exact .inr ⟨hleft, hsame.trans hmoved⟩
    · rw [hmoved] at hagain
      exact absurd hagain (not_leftover_collapsed e.status)

theorem collapsesOnly_reached (k : Nat) (d : Db) :
    CollapsesOnly d (reached (statements.take k) () d) := by
  match k with
  | 0 => exact collapsesOnly_refl d
  | 1 => exact collapsesOnly_rewritten agrees_toProposed d
  | k + 2 =>
    rw [List.take_of_length_le (show statements.length ≤ k + 2 from Nat.le_add_left 2 k)]
    exact collapsesOnly_trans (collapsesOnly_rewritten agrees_toProposed d)
      (collapsesOnly_rewritten agrees_toApproved _)

/-- The school after runs that were cut short anywhere. -/
def afterRuns (cut : List (Nat × Unit)) (d : Db) : Db :=
  cut.foldl (fun d c => reached (statements.take c.1) c.2 d) d

theorem collapsesOnly_afterRuns (cut : List (Nat × Unit)) (d : Db) :
    CollapsesOnly d (afterRuns cut d) := by
  induction cut generalizing d with
  | nil => exact collapsesOnly_refl d
  | cons c cut ih => exact collapsesOnly_trans (collapsesOnly_reached c.1 d) (ih _)

/-- Whatever the runs before have left to do, the next one does. -/
theorem afterRuns_resumed (cut : List (Nat × Unit)) (d : Db) :
    (reached statements () (afterRuns cut d)).val = collapsedTables d.val := by
  obtain ⟨_, -, hsame⟩ := rerun_any resumable_statements (fun _ _ _ _ => congrArg _ rfl) cut () d
  have hreached : ∀ d, runAll statements () d = .ok (reached statements () d) := fun d => rfl
  have hboth : reached statements () (afterRuns cut d) = reached statements () d :=
    Except.ok.inj ((hreached _).symm.trans (hsame.trans (hreached d)))
  rw [hboth]
  exact rewritten_both d

end OneSchool

/-! ### All schools -/

theorem foldl_migrate {tenants : List String} (hnodup : tenants.Nodup)
    (runs : List (String → Outage)) (plane : Plane)
    (t : String) : runs.foldl (fun p outage => (migrate true outage tenants p).2) plane t =
      if t ∈ tenants then afterRuns (runs.map fun outage => (ran (outage t), ())) (plane t)
        else plane t := by
  induction runs generalizing plane with
  | nil => exact (ite_self _).symm
  | cons outage runs ih =>
    rw [List.foldl_cons, ih, (migrate_eq true outage hnodup plane).2]
    by_cases hin : t ∈ tenants
    · rw [if_pos hin, if_pos hin, if_pos hin, (trySchool_apply (outage t) (plane t)).1]
      rfl
    · rw [if_neg hin, if_neg hin, if_neg hin]

theorem ran_eq_two {outage : Outage} (h : Undisturbed outage) : ran outage = 2 := by
  unfold ran
  rw [h .pool, h .toProposed, h .toApproved]
  rfl

/-- A school with an event whose resources are still planned and one that waits
for its final review. -/
def leftBehind : Db where
  val := { smallSchoolTables with
    events :=
      [{ id := 1, title := "Museum", date := 0, createdBy := 2, createdAt := 0, status :=
      .resourcePlanning },
      { id := 2, title := "Zoo", date := 0, createdBy := 2, createdAt := 0,
        status := .finalReview }] }
  ok := by decide +kernel

end Sams.Trips
