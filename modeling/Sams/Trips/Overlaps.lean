import Sams.School.Payments
import Sams.Trips.Actions

/-!
# Overlapping transitions of one event

Any number of `transition_event` calls on one event, by any actors, their actions interleaved in any
order. The `UPDATE` of a call asks for the id only, so it may find the event at another status than
the one the call has read.

**`transitions_orderly`**: in every run in which the writes of a call find the status that it has
read, every status write goes along an edge of the table, a published event stays published,
and, where no two calls send publish notifications at the same time, one call sends them all.
-/

namespace Sams.Trips

open School Programs Rows Runs Interleaving TenantRepository TenantService

/-! ## The edges of the table -/

/-- Some action of the table leads from the one status to the other. -/
def Edge (st next : EventStatus) : Prop := ∃ action role, transitions st action = some (next, role)

theorem edge_iff {st next : EventStatus} : Edge st next ↔
    (st, next) ∈ [(EventStatus.draft, EventStatus.proposed), (.proposed, .approved),
      (.proposed, .draft), (.approved, .published)] := by
  constructor
  · rintro ⟨action, role, h⟩
    unfold transitions at h
    split at h <;> simp_all
  · intro h
    simp only [List.mem_cons, Prod.mk.injEq, List.not_mem_nil, or_false] at h
    rcases h with ⟨rfl, rfl⟩ | ⟨rfl, rfl⟩ | ⟨rfl, rfl⟩ | ⟨rfl, rfl⟩
    · exact ⟨.propose, _, rfl⟩
    · exact ⟨.approve, _, rfl⟩
    · exact ⟨.reject, _, rfl⟩
    · exact ⟨.publish, _, rfl⟩

instance (st next : EventStatus) : Decidable (Edge st next) := decidable_of_iff _ edge_iff.symm

/-- Nothing leads away from a published event. -/
theorem not_edge_published (next : EventStatus) : ¬Edge .published next := by
  rw [edge_iff]
  simp

/-! ## What one action of a call may do -/

/-- What a call takes for granted at its writes: the event is still at the status that was read. -/
def Unmoved : Mark → Db → Prop
  | .status eventId found _, d => statusOf d eventId = some found
  | .announce eventId found, d => statusOf d eventId = some found
  | _, _ => True

instance (mark : Mark) (d : Db) : Decidable (Unmoved mark d) := by
  induction mark using Mark.casesOn <;> unfold Unmoved <;> infer_instance

/-- The calls keep to this: a status write leads along an edge from the status that the event has, a
publish notification finds the event approved, and nothing else touches the status. -/
def Guarantee (eventId : Nat) : Option Mark → Db → Db → Prop
  | some (.status e _ next), d, d' =>
    e = eventId ∧ (∃ st, statusOf d eventId = some st ∧ Edge st next) ∧
      statusOf d' eventId = some next
  | some (.announce e _), d, d' =>
    e = eventId ∧ statusOf d eventId = some .approved ∧ statusOf d' eventId = some .approved
  | some _, _, _ => False
  | none, d, d' => statusOf d' eventId = statusOf d eventId

section Keeps

variable {eventId : Nat}

theorem guarantee_refl (d : Db) : Guarantee eventId none d d := rfl

theorem keeps_announce {found : EventStatus} {r : Nat} {title : Option String}
    (h : found = .approved) :
    (Proc.marked (.announce eventId found) (createNotification eventId r title) : Task Unit).Keeps
      Unmoved (Guarantee eventId) := by
  subst h
  refine Proc.keeps_marked (fun d hfound a d' hm => ?_) fun d _ e d' hm => ?_
  · have hsame : statusOf d' eventId = statusOf d eventId :=
      statusOf_of_events ((moves_createNotification _ _ _).same_ok hm)
    exact ⟨rfl, hfound, hsame.trans hfound⟩
  · have hsame := moves_createNotification eventId r title d
    rw [after_error hm] at hsame
    exact statusOf_of_events hsame

/-- A status write that finds what was read goes along an edge. -/
theorem keeps_updateEventStatus {found next : EventStatus} {action : EventAction} {role : String}
    {fields : UpdateFields} (h : transitions found action = some (next, role))
    (hstatus : fields.status = next) :
    (Proc.marked (.status eventId found next) (updateEventStatus eventId fields) : Task Unit).Keeps
      Unmoved (Guarantee eventId) := by
  subst hstatus
  refine Proc.keeps_marked (fun d hfound a d' hm => ?_) fun d _ e d' hm => ?_
  · refine ⟨rfl, ⟨_, hfound, ⟨action, role, h⟩⟩, ?_⟩
    rw [updateEventStatus_ok hm, hfound]
    rfl
  · rw [updateEventStatus_error hm]
    exact guarantee_refl d

/-- The guarantee allows the calls. -/
theorem allows_guarantee (eventId : Nat) (action : EventAction) (now : Timestamp) :
    Allows Unmoved (Guarantee eventId) eventId action now where
  refl := guarantee_refl
  notify r title := Proc.keeps_once ((moves_createNotification eventId r title).mono fun _ _ h =>
    statusOf_of_events h)
  announce _ _ _ h := keeps_announce h
  write _ _ _ _ h hfields := keeps_updateEventStatus h hfields.status

end Keeps

/-! ## Runs of overlapping calls -/

/-- The mark is a publish notification of the event. -/
def Mark.announces (eventId : Nat) : Mark → Bool
  | .announce e _ => e = eventId
  | _ => false

/-- The mark is a publication of the event. -/
def Mark.publishes (eventId : Nat) : Mark → Bool
  | .status e _ next => e = eventId ∧ next = .published
  | _ => false

section Calls

variable {ι : Type} [DecidableEq ι]

/-- The calls on one event, any number of them, at their start. -/
def overlapping (d : Db) (eventId : Nat) (calls : ι → TransitionCall) :
    Pool ι Mark PyError Db (Option Event) :=
  .start d fun i => (calls i).program eventId

/-- The calls that have taken an action with such a mark. -/
def takers (p : Mark → Bool) (P : Pool ι Mark PyError Db (Option Event)) : List ι :=
  (P.log.filter fun entry => p entry.2).map Prod.fst

/-- A step writes the status along an edge from the status that the event has, or leaves it
alone. -/
def MovesAlong (eventId : Nat) (P : Pool ι Mark PyError Db (Option Event)) (i : ι) : Prop :=
  (∀ e found next, P.event i = some (.status e found next) →
    ∃ st, statusOf P.state eventId = some st ∧ Edge st next) ∧
  (statusOf (P.step i).state eventId ≠ statusOf P.state eventId →
    ∃ found next, P.event i = some (.status eventId found next) ∧
      statusOf (P.step i).state eventId = some next)

/-- The workflow is safe in a run of the calls. -/
structure WorkflowSafe (eventId : Nat) (P : Pool ι Mark PyError Db (Option Event))
    (is : List ι) : Prop where
  moves : EachStep Pool.step (MovesAlong eventId) P is
  published : ∀ is₁ is₂, is = is₁ ++ is₂ →
    statusOf (run Pool.step P is₁).state eventId = some .published →
    statusOf (run Pool.step P is).state eventId = some .published
  /-- One call sends every publish notification. -/
  once : ∀ i ∈ takers (Mark.announces eventId) (run Pool.step P is),
    ∀ j ∈ takers (Mark.announces eventId) (run Pool.step P is), i = j

/-- The next action of the call is in order: a write finds the event at the status that the call has
read, and no call notifies while another is between its notifications and its write. -/
def InOrder (eventId : Nat) (P : Pool ι Mark PyError Db (Option Event)) (i : ι) : Prop :=
  P.Undisturbed (fun _ => Unmoved) i ∧
  ((P.next i).any (Mark.announces eventId) → ∀ j ∈ takers (Mark.announces eventId) P,
    j = i ∨ j ∈ takers (Mark.publishes eventId) P)

instance (eventId : Nat) (P : Pool ι Mark PyError Db (Option Event)) (i : ι) :
    Decidable (InOrder eventId P i) := inferInstanceAs (Decidable (_ ∧ _))

/-- The calls keep to the guarantee, a publication that is remembered still stands, and one call has
sent the publish notifications. -/
structure Settled (eventId : Nat) (P : Pool ι Mark PyError Db (Option Event)) : Prop where
  keeping : P.Keeping (fun _ => Unmoved) fun _ => Guarantee eventId
  published : ∀ i ∈ takers (Mark.publishes eventId) P, statusOf P.state eventId = some .published
  once : ∀ i ∈ takers (Mark.announces eventId) P,
    ∀ j ∈ takers (Mark.announces eventId) P, i = j

/-- Who has taken such an action after a step. -/
theorem mem_takers_step {p : Mark → Bool} {P : Pool ι Mark PyError Db (Option Event)} {i j : ι} :
    j ∈ takers p (P.step i) ↔ j ∈ takers p P ∨ j = i ∧ (P.event i).any p := by
  unfold takers
  rw [Pool.log_step]
  cases P.event i with
  | none => simp
  | some mark => cases hp : p mark <;> simp [hp]

variable {eventId : Nat}

omit [DecidableEq ι] in
theorem settled_overlapping (d : Db) (calls : ι → TransitionCall) :
    Settled eventId (overlapping d eventId calls) where
  keeping := Pool.keeping_start fun i => keeps_transitionEvent (allows_guarantee _ _ _) _ _
  published := by simp [takers, overlapping, Pool.start]
  once := by simp [takers, overlapping, Pool.start]

theorem Guarantee.movesAlong {P : Pool ι Mark PyError Db (Option Event)} {i : ι}
    (h : Guarantee eventId (P.event i) P.state (P.step i).state) : MovesAlong eventId P i := by
  unfold MovesAlong
  cases hevent : P.event i with
  | none =>
    rw [hevent] at h
    exact ⟨fun _ _ _ hmark => (by cases hmark), fun hne => absurd h hne⟩
  | some mark =>
    rw [hevent] at h
    cases mark with
    | status e found next =>
      obtain ⟨rfl, hedge, hafter⟩ := h
      refine ⟨fun e' found' next' hmark => ?_, fun _ => ⟨found, next, rfl, hafter⟩⟩
      cases hmark
      exact hedge
    | announce e found =>
      obtain ⟨-, hbefore, hafter⟩ := h
      exact ⟨fun _ _ _ hmark => (by cases hmark), fun hne => absurd (hafter.trans hbefore.symm) hne⟩
    | _ => exact h.elim

/-- A step that keeps to the guarantee leaves a published event published. -/
theorem Guarantee.published {mark : Option Mark} {d d' : Db} (h : Guarantee eventId mark d d')
    (hpublished : statusOf d eventId = some .published) :
    statusOf d' eventId = some .published := by
  cases mark with
  | none => exact h.trans hpublished
  | some mark =>
    cases mark with
    | status e found next =>
      obtain ⟨-, ⟨st, hst, hedge⟩, -⟩ := h
      rw [hpublished, Option.some.injEq] at hst
      exact absurd (hst ▸ hedge) (not_edge_published next)
    | announce e found =>
      obtain ⟨-, hbefore, -⟩ := h
      rw [hpublished] at hbefore
      cases hbefore
    | _ => exact h.elim

/-- An action that publishes leaves the event published. -/
theorem Guarantee.publishes {mark : Option Mark} {d d' : Db} (h : Guarantee eventId mark d d')
    (hmark : mark.any (Mark.publishes eventId) = true) : statusOf d' eventId = some .published := by
  cases mark with
  | none => cases hmark
  | some mark =>
    cases mark with
    | status e found next =>
      simp only [Option.any_some, Mark.publishes, decide_eq_true_eq] at hmark
      obtain ⟨-, -, hafter⟩ := h
      rw [hafter, hmark.2]
    | _ => cases hmark

/-- A publish notification finds the event approved. -/
theorem Guarantee.announces {mark : Option Mark} {d d' : Db} (h : Guarantee eventId mark d d')
    (hmark : mark.any (Mark.announces eventId) = true) : statusOf d eventId = some .approved := by
  cases mark with
  | none => cases hmark
  | some mark =>
    cases mark with
    | announce e found => exact h.2.1
    | _ => cases hmark

theorem Settled.step {P : Pool ι Mark PyError Db (Option Event)} (h : Settled eventId P) {i : ι}
    (hi : InOrder eventId P i) : Settled eventId (P.step i) := by
  obtain ⟨hkeeping, hG⟩ := h.keeping.step (fun _ => guarantee_refl) hi.1
  refine ⟨hkeeping, fun j hj => ?_, fun j hj k hk => ?_⟩
  · rcases mem_takers_step.1 hj with hj | ⟨-, hmark⟩
    · exact hG.published (h.published j hj)
    · exact hG.publishes hmark
  · -- who has notified before is who notifies now, since a publication would stand in the way
    have hsame : (P.event i).any (Mark.announces eventId) = true →
        ∀ l ∈ takers (Mark.announces eventId) P, l = i := by
      intro hmark l hl
      rcases hi.2 (Pool.any_next hmark) l hl with hl | hl
      · exact hl
      · have hpublished := h.published l hl
        rw [hG.announces hmark] at hpublished
        cases hpublished
    rcases mem_takers_step.1 hj with hj' | ⟨hji, hmark⟩ <;>
      rcases mem_takers_step.1 hk with hk' | ⟨hki, hmark'⟩
    · exact h.once j hj' k hk'
    · exact (hsame hmark' j hj').trans hki.symm
    · exact hji.trans (hsame hmark k hk').symm
    · exact hji.trans hki.symm

/-- **Transitions in order are safe.** In every run of calls on one event whose every action is in
order, each status write goes along an edge from the status that the event has, a published event
stays published, and one call sends every publish notification. -/
theorem transitions_orderly (d : Db) (eventId : Nat) (calls : ι → TransitionCall) (is : List ι)
    (h : EachStep Pool.step (InOrder eventId) (overlapping d eventId calls) is) :
    WorkflowSafe eventId (overlapping d eventId calls) is := by
  have hstart : Settled eventId (overlapping d eventId calls) := settled_overlapping d calls
  have hkeeps : ∀ (P : Pool ι Mark PyError Db (Option Event)) i, Settled eventId P →
      InOrder eventId P i → Guarantee eventId (P.event i) P.state (P.step i).state :=
    fun P i hP hi => (hP.keeping.step (fun _ => guarantee_refl) hi.1).2
  have hsettled : ∀ (P : Pool ι Mark PyError Db (Option Event)) i, Settled eventId P →
      InOrder eventId P i → Settled eventId (P.step i) :=
    fun P i hP hi => hP.step hi
  refine ⟨?_, fun is₁ is₂ hsplit hpublished => ?_, (run_inv hsettled hstart h).once⟩
  · exact run_each hsettled (fun P i hP hi => (hkeeps P i hP hi).movesAlong) hstart h
  · subst hsplit
    rw [eachStep_append] at h
    let I : Pool ι Mark PyError Db (Option Event) → Prop := fun P =>
      Settled eventId P ∧ statusOf P.state eventId = some .published
    rw [run_append]
    refine (run_inv (I := I) (fun P i hP hi => ?_) ⟨run_inv hsettled hstart h.1, hpublished⟩ h.2).2
    exact ⟨hP.1.step hi, (hkeeps P i hP.1 hi).published hP.2⟩

end Calls

/-! ## Two managers at one time -/

/-- The small school with a manager, and with its event submitted. -/
def proposedTrip : Db where
  val := { tripSchool.val with
    users :=
      tripSchool.val.users ++ [{ id := 3, email := "m@school", role := "manager", roles := [] }]
    events := [{ id := 1, title := "Museum", date := 0, createdBy := 2, createdAt := 0,
                 status := .proposed }] }
  ok := by decide +kernel

def managerActor : Actor where
  user :=
    { id := "3", tenantId := some "school", role := "manager", email := "m@school", roles :=
    ["manager"] }
  id := .number 3

/-- One manager approves the event and publishes it, another rejects it. -/
def decisions : Fin 3 → TransitionCall
  | 0 => ⟨.managerReject, managerActor, some "Too far", 0⟩
  | 1 => ⟨.managerApprove, managerActor, none, 0⟩
  | 2 => ⟨.managerPublish, managerActor, none, 0⟩

/-- The approval is written while the publication has read nothing yet, and the rejection comes
last: it finds a published event and is refused. -/
theorem decisions_in_order : WorkflowSafe 1 (overlapping proposedTrip 1 decisions)
    ([1, 1, 1, 1] ++ [2, 2, 1, 2, 2, 2, 2, 1, 2] ++ [0, 0]) := by
  have horder : EachStep Pool.step (InOrder 1) (overlapping proposedTrip 1 decisions)
      ([1, 1, 1, 1] ++ [2, 2, 1, 2, 2, 2, 2, 1, 2] ++ [0, 0]) := by decide +kernel
  exact transitions_orderly proposedTrip 1 decisions _ horder

/-- The rejection has read the event before it is approved and published, and takes it back to
draft. -/
theorem published_goes_back : ¬WorkflowSafe 1 (overlapping proposedTrip 1 decisions)
    (([0, 0] ++ [1, 1, 1, 1] ++ List.replicate 8 2) ++ [0, 0]) := by
  intro h
  have hbefore : statusOf (run Pool.step (overlapping proposedTrip 1 decisions)
      ([0, 0] ++ [1, 1, 1, 1] ++ List.replicate 8 2)).state 1 = some .published := by
    decide +kernel
  have hafter : statusOf (run Pool.step (overlapping proposedTrip 1 decisions)
      (([0, 0] ++ [1, 1, 1, 1] ++ List.replicate 8 2) ++ [0, 0])).state 1 = some .draft := by
    decide +kernel
  have hpublished := h.published _ _ rfl hbefore
  rw [hafter] at hpublished
  cases hpublished

end Sams.Trips
