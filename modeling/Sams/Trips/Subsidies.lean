import Sams.Trips.Overlaps

/-!
# The subsidy of an event under overlapping requests

Any number of requests that write the fields of one event, their actions interleaved in any order.
Only some of the actors may set the subsidy. The other requests write all the fields as well: the
subsidy that they write is the one that they have read.

**`subsidy_kept`**: in every run in which each such write finds the subsidy that its request has
read, the subsidy is throughout what was set last by an actor who may, or what it was at first, and
no request of an actor who may not set it changes it.
-/

namespace Sams.Trips

open School Programs Rows Runs Interleaving TenantRepository

/-! ## The writes -/

/-- The subsidy of an event, if there is one. -/
def subsidyOf (d : Db) (eventId : Nat) : Option Money :=
  (d.val.event? eventId).map EventRow.schoolSubsidy

section Writes

variable {eventId : Nat}

theorem subsidyOf_of_events {d d' : Db} (h : d'.val.events = d.val.events) :
    subsidyOf d' eventId = subsidyOf d eventId := by
  unfold subsidyOf Tables.event?
  rw [h]

theorem subsidyOf_updateWhere {d d' : Db} {f : EventRow → EventRow} {amount : Money}
    (h : d'.val.events = updateWhere (fun e => decide (e.id = eventId)) f d.val.events)
    (hid : ∀ e, (f e).id = e.id) (hamount : ∀ e, (f e).schoolSubsidy = amount) :
    subsidyOf d' eventId = (subsidyOf d eventId).map fun _ => amount := by
  unfold subsidyOf Tables.event?
  rw [h, find?_updateWhere hid]
  cases hfind : d.val.events.find? fun e => decide (e.id = eventId) with
  | none => rfl
  | some e =>
    have he : e.id = eventId := by simpa using List.find?_some hfind
    simp [he, hamount]

theorem setFields_ok {fields : EventFields} {d d' : Db} {u : Unit}
    (h : setFields eventId fields d = .ok u d') :
    subsidyOf d' eventId = (subsidyOf d eventId).map fun _ => fields.schoolSubsidy := by
  unfold setFields at h
  have hval := exec_eq_ok.1 h
  exact subsidyOf_updateWhere (congrArg Tables.events hval) (fun _ => rfl) fun _ => rfl

theorem moves_upsertEventClass (existing : List EventClassRow) (m : ClassMappingRequest) :
    Moves (Same fun d : Db => d.val.events) (upsertEventClass eventId existing m) := by
  unfold upsertEventClass insertEventClass
  cases (existing.filter fun r => decide (r.classId = m.classId)).getLast? with
  | none => exact moves_exec fun _ _ => rfl
  | some row => exact moves_exec fun _ _ => rfl

theorem setFieldsAndClasses_ok {fields : EventFields} {mappings : List ClassMappingRequest}
    {d d' : Db} {u : Unit} (h : setFieldsAndClasses eventId fields mappings d = .ok u d') :
    subsidyOf d' eventId = (subsidyOf d eventId).map fun _ => fields.schoolSubsidy := by
  unfold setFieldsAndClasses at h
  obtain ⟨u', d₁, hfields, hrest⟩ := bind_eq_ok.1 (transaction_eq_ok.1 h)
  rw [query_bind] at hrest
  -- the classes of the event are rows of another table
  have hclasses := (moves_forM fun m _ => moves_upsertEventClass _ m).same_ok hrest
  exact (subsidyOf_of_events hclasses).trans (setFields_ok hfields)

theorem setFieldsAndClasses_error {fields : EventFields} {mappings : List ClassMappingRequest}
    {d d' : Db} {e : PyError} (h : setFieldsAndClasses eventId fields mappings d = .error e d') :
    d' = d := transaction_eq_error h

theorem updateEvent_ok {fields : EventFields} {d d' : Db} {row : Option EventRow}
    (h : TenantRepository.updateEvent eventId fields d = .ok row d') :
    subsidyOf d' eventId = (subsidyOf d eventId).map fun _ => fields.schoolSubsidy := by
  unfold TenantRepository.updateEvent at h
  obtain ⟨u, d₁, hfields, hread⟩ := bind_eq_ok.1 h
  obtain ⟨-, rfl⟩ := query_eq_ok.1 hread
  exact setFields_ok hfields

theorem updateEvent_error {fields : EventFields} {d d' : Db} {e : PyError}
    (h : TenantRepository.updateEvent eventId fields d = .error e d') : d' = d := by
  unfold TenantRepository.updateEvent setFields at h
  rcases bind_eq_error.1 h with h | ⟨_, _, _, h⟩
  · exact exec_eq_error h
  · cases h

theorem updateSubsidy_ok {amount : Money} {d d' : Db} {u : Unit}
    (h : TenantRepository.updateSubsidy eventId amount d = .ok u d') :
    subsidyOf d' eventId = (subsidyOf d eventId).map fun _ => amount := by
  unfold TenantRepository.updateSubsidy at h
  have hval := exec_eq_ok.1 h
  exact subsidyOf_updateWhere (congrArg Tables.events hval) (fun _ => rfl) fun _ => rfl

theorem updateSubsidy_error {amount : Money} {d d' : Db} {e : PyError}
    (h : TenantRepository.updateSubsidy eventId amount d = .error e d') : d' = d := by
  unfold TenantRepository.updateSubsidy at h
  exact exec_eq_error h

end Writes

/-! ## What one action of a request may do -/

/-- What a write takes for granted that keeps the subsidy: it is still the one that was read. -/
def SubsidyRead : Mark → Db → Prop
  | .keepSubsidy eventId found, d => ∀ amount ∈ subsidyOf d eventId, amount = found
  | _, _ => True

instance (mark : Mark) (d : Db) : Decidable (SubsidyRead mark d) := by
  induction mark using Mark.casesOn <;> unfold SubsidyRead <;> infer_instance

/-- The subsidy changes where it is set, to an amount of those allowed. -/
def SetsOnly (eventId : Nat) (Sets : Money → Prop) : Option Mark → Db → Db → Prop
  | some (.setSubsidy e amount), d, d' =>
    e = eventId ∧ Sets amount ∧ subsidyOf d' eventId = (subsidyOf d eventId).map fun _ => amount
  | _, d, d' => subsidyOf d' eventId = subsidyOf d eventId

section Keeps

variable {eventId : Nat} {Sets : Money → Prop}

theorem setsOnly_refl (d : Db) : SetsOnly eventId Sets none d d := rfl

theorem keeps_set {α : Type} {m : Prog α} {amount : Money} (hsets : Sets amount)
    (hok : ∀ d a d', m d = .ok a d' →
      subsidyOf d' eventId = (subsidyOf d eventId).map fun _ => amount)
    (herr : ∀ d e d', m d = .error e d' → d' = d) :
    (Proc.marked (.setSubsidy eventId amount) m : Task α).Keeps SubsidyRead
      (SetsOnly eventId Sets) := by
  refine Proc.keeps_marked (fun d _ a d' hm => ⟨rfl, hsets, hok d a d' hm⟩) fun d _ e d' hm => ?_
  rw [herr d e d' hm]
  exact setsOnly_refl d

/-- Writing back what was read changes nothing. -/
theorem keeps_kept {α : Type} {m : Prog α} {found : Money}
    (hok : ∀ d a d', m d = .ok a d' →
      subsidyOf d' eventId = (subsidyOf d eventId).map fun _ => found)
    (herr : ∀ d e d', m d = .error e d' → d' = d) :
    (Proc.marked (.keepSubsidy eventId found) m : Task α).Keeps SubsidyRead
      (SetsOnly eventId Sets) := by
  refine Proc.keeps_marked (fun d hread a d' hm => ?_) fun d _ e d' hm => ?_
  · show subsidyOf d' eventId = subsidyOf d eventId
    rw [hok d a d' hm]
    cases hsubsidy : subsidyOf d eventId with
    | none => rfl
    | some amount => exact congrArg some (hread amount hsubsidy).symm
  · rw [herr d e d' hm]
    exact setsOnly_refl d

theorem allowsEdits_setsOnly (eventId : Nat) (Sets : Money → Prop) :
    AllowsEdits SubsidyRead (SetsOnly eventId Sets) eventId Sets where
  refl := setsOnly_refl
  set _ _ hsets := keeps_set hsets (fun _ _ _ => setFieldsAndClasses_ok) fun _ _ _ =>
    setFieldsAndClasses_error
  keep _ _ :=
    keeps_kept (fun _ _ _ => setFieldsAndClasses_ok) fun _ _ _ => setFieldsAndClasses_error
  patch _ := keeps_kept (fun _ _ _ => updateEvent_ok) fun _ _ _ => updateEvent_error
  subsidy _ hsets :=
    keeps_set hsets (fun _ _ _ => updateSubsidy_ok) fun _ _ _ => updateSubsidy_error

end Keeps

/-! ## The requests -/

/-- May the actor set a subsidy at all? -/
def MaySet (actor : Actor) : Prop :=
  actor.user.hasAnyRole ["school_admin", "manager", "super_admin"] = true

instance (actor : Actor) : Decidable (MaySet actor) := inferInstanceAs (Decidable (_ = _))

theorem mem_held {actor : Actor} {r : String} (h : r ∈ actor.roles) (hr : r ≠ "") :
    r ∈ actor.user.held := by
  unfold Actor.roles at h
  unfold Authz.CurrentUser.held
  split_ifs at h with hroles
  · rw [List.mem_singleton] at h
    rw [if_neg (h ▸ hr)]
    exact List.mem_cons.2 (.inl h)
  · split_ifs
    · exact h
    · exact List.mem_cons_of_mem _ h

theorem maySet_of_privileged {actor : Actor}
    (h : actor.isOneOf EventService.privileged = true) : MaySet actor := by
  unfold Actor.isOneOf EventService.privileged at h
  obtain ⟨r, hr, hname⟩ := List.any_eq_true.1 h
  have hname : r = "school_admin" ∨ r = "manager" := by simpa using hname
  have hheld : r ∈ actor.user.held := mem_held hr (by rcases hname with rfl | rfl <;> decide)
  have hrole : actor.user.hasRole r = true := by
    unfold Authz.CurrentUser.hasRole
    split_ifs <;> rfl
  unfold MaySet Authz.CurrentUser.hasAnyRole
  rcases hname with rfl | rfl <;> simp [hrole]

/-- What a request writes of an event. -/
inductive EditBody where
  | put (payload : EventCreateRequest)
  | patch (payload : EventPatchRequest)
  | audience (payload : AudienceSelect)
  | subsidy (amount : Money)

/-- A request that writes the fields of an event. -/
structure Edit where
  actor : Actor
  body : EditBody

namespace Edit

/-- The program of a request, its answer dropped. -/
def program (eventId : Nat) (r : Edit) : Task Unit :=
  match r.body with
  | .put payload => (fun _ => ()) <$> EventsRouter.updateEvent r.actor eventId payload
  | .patch payload => (fun _ => ()) <$> EventsRouter.patchEvent r.actor eventId payload
  | .audience payload => (fun _ => ()) <$> EventsRouter.selectAudience r.actor eventId payload
  | .subsidy amount => (fun _ => ()) <$> EventsRouter.updateEventSubsidy r.actor eventId amount

/-- The amount that the request sets, if its actor may. -/
def amount (r : Edit) : Option Money :=
  match r.body with
  | .put payload =>
    if r.actor.isOneOf EventService.privileged then some payload.schoolSubsidy else none
  | .subsidy amount => if MaySet r.actor then some amount else none
  | _ => none

theorem maySet_of_amount {r : Edit} {amount : Money} (h : r.amount = some amount) :
    MaySet r.actor := by
  unfold Edit.amount at h
  cases hbody : r.body with
  | put payload =>
    rw [hbody] at h
    dsimp only at h
    split_ifs at h with hprivileged
    exact maySet_of_privileged hprivileged
  | subsidy amount =>
    rw [hbody] at h
    dsimp only at h
    split_ifs at h with hmay
    exact hmay
  | _ =>
    rw [hbody] at h
    cases h

theorem keeps (eventId : Nat) (r : Edit) : (r.program eventId).Keeps SubsidyRead
    (SetsOnly eventId fun amount => r.amount = some amount) := by
  have hallows := allowsEdits_setsOnly eventId fun amount => r.amount = some amount
  unfold program
  cases hbody : r.body with
  | put payload =>
    refine Proc.keeps_map (keeps_updateEvent hallows fun hprivileged => ?_)
    simp [Edit.amount, hbody, hprivileged]
  | patch payload => exact Proc.keeps_map (keeps_patchEvent hallows _ _)
  | audience payload => exact Proc.keeps_map (keeps_selectAudience hallows _ _)
  | subsidy amount =>
    refine Proc.keeps_map (keeps_updateEventSubsidy hallows fun hmay => ?_)
    unfold Edit.amount
    rw [hbody]
    exact if_pos hmay

/-- A request that sets the subsidy does not succeed without having done so. -/
theorem passes {eventId : Nat} {r : Edit} {amount : Money} (h : r.amount = some amount) :
    (r.program eventId).Passes (.setSubsidy eventId amount) := by
  unfold Edit.amount at h
  unfold program
  cases hbody : r.body with
  | put payload =>
    rw [hbody] at h
    dsimp only at h ⊢
    split_ifs at h with hprivileged
    cases h
    refine Proc.Passes.map ?_ _
    unfold EventsRouter.updateEvent
    refine Proc.passes_bind _ fun _ => Proc.Passes.wrap (Proc.passes_bind _ fun event => ?_) _
    cases event with
    | none => exact Proc.passes_fail _
    | some event =>
      refine Proc.passes_bind _ fun _ => Proc.Passes.bind ?_ _
      unfold EventService.resolveSubsidy
      rw [if_pos hprivileged, if_pos hprivileged]
      unfold TenantService.updateEventFull TenantRepository.updateEventFull
      exact Proc.passes_bind _ fun _ => ((Proc.passes_marked _).bind _).bind _
  | subsidy amount =>
    rw [hbody] at h
    dsimp only at h ⊢
    split_ifs at h with hmay
    cases h
    refine Proc.Passes.map ?_ _
    unfold EventsRouter.updateEventSubsidy
    refine Proc.passes_bind _ fun _ => Proc.passes_bind _ fun _ => Proc.Passes.wrap ?_ _
    unfold EventService.updateSubsidy
    refine Proc.passes_bind _ fun event => ?_
    cases event with
    | none => exact Proc.passes_fail _
    | some event => exact Proc.passes_bind _ fun _ => (Proc.passes_marked _).bind _
  | _ =>
    rw [hbody] at h
    cases h

end Edit

/-! ## Runs -/

section Runs

variable {ι : Type} [DecidableEq ι]

/-- Requests on one event, any number of them, at their start. -/
def editing (d : Db) (eventId : Nat) (edits : ι → Edit) : Pool ι Mark PyError Db Unit :=
  .start d fun i => (edits i).program eventId

/-- The amount after one more action. -/
def settle (amount : Money) : Mark → Money
  | .setSubsidy _ amount' => amount'
  | _ => amount

/-- The amount that was set last, or the one at first. -/
def latest (amount : Money) (log : List (ι × Mark)) : Money :=
  log.foldl (fun amount entry => settle amount entry.2) amount

/-- No update of the subsidy is lost in a run, and none is unauthorized. -/
structure SubsidySafe (eventId : Nat) (edits : ι → Edit) (P : Pool ι Mark PyError Db Unit)
    (is : List ι) : Prop where
  /-- The subsidy is the latest that was set. -/
  latest : Throughout Pool.step (fun Q => subsidyOf Q.state eventId =
    (subsidyOf P.state eventId).map fun amount => latest amount Q.log) P is
  /-- It is set by actors who may, to the amount of their request. -/
  own : ∀ i e amount, (i, .setSubsidy e amount) ∈ (run Pool.step P is).log →
    e = eventId ∧ (edits i).amount = some amount ∧ MaySet (edits i).actor
  /-- A request that sets it and succeeds has done so. -/
  completed : ∀ i amount, (edits i).amount = some amount →
    (run Pool.step P is).threads i = .ret () →
    (i, .setSubsidy eventId amount) ∈ (run Pool.step P is).log
  /-- A request of an actor who may not set it leaves it alone. -/
  others : EachStep Pool.step (fun Q i => ¬MaySet (edits i).actor →
    subsidyOf (Q.step i).state eventId = subsidyOf Q.state eventId) P is

variable {eventId : Nat}

/-- What holds in every state of an undisturbed run from `d`. -/
structure EditInv (d : Db) (eventId : Nat) (edits : ι → Edit) (P : Pool ι Mark PyError Db Unit) :
    Prop where
  keeping : P.Keeping (fun _ => SubsidyRead) fun i =>
    SetsOnly eventId fun amount => (edits i).amount = some amount
  latest : subsidyOf P.state eventId =
    (subsidyOf d eventId).map fun amount => Trips.latest amount P.log
  own : ∀ i e amount, (i, .setSubsidy e amount) ∈ P.log →
    e = eventId ∧ (edits i).amount = some amount

/-- The latest amount after a step is the one of the step, or the one before it. -/
theorem latest_step (amount : Money) (P : Pool ι Mark PyError Db Unit) (i : ι) :
    latest amount (P.step i).log = (P.event i).elim (latest amount P.log)
      fun mark => settle (latest amount P.log) mark := by
  unfold latest
  rw [Pool.log_step, List.foldl_append]
  cases P.event i <;> rfl

theorem EditInv.step {d : Db} {edits : ι → Edit} {P : Pool ι Mark PyError Db Unit}
    (h : EditInv d eventId edits P) {i : ι} (hi : P.Undisturbed (fun _ => SubsidyRead) i) :
    EditInv d eventId edits (P.step i) ∧
      SetsOnly eventId (fun amount => (edits i).amount = some amount) (P.event i) P.state
        (P.step i).state := by
  obtain ⟨hkeeping, hG⟩ := h.keeping.step (fun _ => setsOnly_refl) hi
  refine ⟨⟨hkeeping, ?_, fun j e amount hmem => ?_⟩, hG⟩
  · simp only [latest_step]
    cases hevent : P.event i with
    | none =>
      rw [hevent] at hG
      exact hG.trans h.latest
    | some mark =>
      rw [hevent] at hG
      cases mark with
      | setSubsidy e amount =>
        rw [hG.2.2, h.latest, Option.map_map]
        rfl
      | _ => exact hG.trans h.latest
  · rw [Pool.log_step, List.mem_append] at hmem
    rcases hmem with hmem | hmem
    · exact h.own j e amount hmem
    · cases hevent : P.event i with
      | none => simp [hevent] at hmem
      | some mark =>
        rw [hevent] at hmem hG
        have hmem : (j, Mark.setSubsidy e amount) = (i, mark) := by simpa using hmem
        cases hmem
        exact ⟨hG.1, hG.2.1⟩

/-- **No update of the subsidy is lost or unauthorized** in a run in which each write that keeps the
subsidy finds the one that its request has read. -/
theorem subsidy_kept (d : Db) (eventId : Nat) (edits : ι → Edit) (is : List ι)
    (h : EachStep Pool.step (fun P i => P.Undisturbed (fun _ => SubsidyRead) i)
      (editing d eventId edits) is) :
    SubsidySafe eventId edits (editing d eventId edits) is := by
  have hstart : EditInv d eventId edits (editing d eventId edits) :=
    ⟨Pool.keeping_start fun i => (edits i).keeps eventId, by simp [editing, Pool.start, latest],
      by simp [editing, Pool.start]⟩
  have hstep : ∀ P i, EditInv d eventId edits P →
      Pool.Undisturbed (fun _ => SubsidyRead) P i → EditInv d eventId edits (P.step i) :=
    fun P i hP hi => (hP.step hi).1
  refine ⟨?_, fun i e amount hmem => ?_, fun i amount hamount hret => ?_, ?_⟩
  · exact (run_throughout hstep hstart h).mono fun P hP => hP.latest
  · obtain ⟨he, hamount⟩ := (run_inv hstep hstart h).own i e amount hmem
    exact ⟨he, hamount, Edit.maySet_of_amount hamount⟩
  · exact Pool.passed_run (P := editing d eventId edits) (Edit.passes hamount) hret
  · refine run_each hstep (fun P i hP hi hnot => ?_) hstart h
    have hG := (hP.step hi).2
    cases hevent : P.event i with
    | none =>
      rw [hevent] at hG
      exact hG
    | some mark =>
      rw [hevent] at hG
      cases mark with
      | setSubsidy e amount => exact absurd (Edit.maySet_of_amount hG.2.1) hnot
      | _ => exact hG

end Runs

/-! ## A teacher and a manager -/

/-- The teacher changes the title of the draft, and the manager grants it 500. -/
def titleAndSubsidy : Bool → Edit
  | false => ⟨{ user := teacher, id := .number 2 }, .patch { title := some "The museum" }⟩
  | true => ⟨managerActor, .put { title := "Museum", schoolSubsidy := 500, date := 0 }⟩

/-- The title is written before the manager's request writes. -/
theorem subsidy_after_title : SubsidySafe 1 titleAndSubsidy (editing tripSchool 1 titleAndSubsidy)
    [false, false, true, true, false, true] := by
  have hread : EachStep Pool.step (fun P i => P.Undisturbed (fun _ => SubsidyRead) i)
      (editing tripSchool 1 titleAndSubsidy) [false, false, true, true, false, true] := by
    decide +kernel
  exact subsidy_kept tripSchool 1 titleAndSubsidy _ hread

/-- The title is written with the subsidy that was read before the manager set it. -/
theorem subsidy_lost : ¬SubsidySafe 1 titleAndSubsidy (editing tripSchool 1 titleAndSubsidy)
    [false, false, true, true, true, false] := by
  intro h
  have hlatest := h.latest.last
  have hlost : subsidyOf (run Pool.step (editing tripSchool 1 titleAndSubsidy)
      [false, false, true, true, true, false]).state 1 = some 0 := by decide +kernel
  have hset : ((subsidyOf (editing tripSchool 1 titleAndSubsidy).state 1).map fun amount =>
      latest amount (run Pool.step (editing tripSchool 1 titleAndSubsidy)
        [false, false, true, true, true, false]).log) = some 500 := by decide +kernel
  rw [hlost, hset] at hlatest
  exact absurd hlatest (by decide)

end Sams.Trips
