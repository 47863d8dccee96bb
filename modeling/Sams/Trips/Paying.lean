import Sams.School.Payments
import Sams.Trips.Actions
import Sams.Trips.Enrollments

/-!
# Paying and cancelling

Any number of payments and cancellations of one enrollment, their actions interleaved in any order.
A cancellation has read that the payment is not paid when it deletes the enrollment, and a payment
has read the row of `payments` when it updates the rows of that enrollment.

**`paying_excludes`**: in every run in which each deletion finds the payment still not paid and each
update finds a payment, what is paid stays paid and no payment succeeds beside a cancellation.
-/

namespace Sams.Trips

open School Programs Rows Runs Interleaving TenantRepository TenantService

/-! ## What is paid and what is gone -/

/-- The enrollment is there with a paid payment. -/
structure Paid (enrollmentId : Nat) (d : Db) : Prop where
  enrolled : ∃ n ∈ d.val.enrollments, n.id = enrollmentId
  paid : ∃ p ∈ d.val.payments, p.enrollmentId = enrollmentId ∧ p.status = .paid

/-- There is no such enrollment. -/
def Gone (enrollmentId : Nat) (d : Db) : Prop := ∀ n ∈ d.val.enrollments, n.id ≠ enrollmentId

/-- A paid payment is enough: its enrollment is there by the foreign key. -/
theorem paid_of_payment {enrollmentId : Nat} {d : Db} {p : PaymentRow} (hp : p ∈ d.val.payments)
    (hid : p.enrollmentId = enrollmentId) (hpaid : p.status = .paid) : Paid enrollmentId d := by
  obtain ⟨n, hn, hnid⟩ := d.ok.events.payment_enrollment.exists_row hp rfl
  exact ⟨⟨n, hn, hnid.trans hid⟩, p, hp, hid, hpaid⟩

theorem Paid.not_gone {enrollmentId : Nat} {d : Db} (h : Paid enrollmentId d) :
    ¬Gone enrollmentId d := by
  obtain ⟨n, hn, hid⟩ := h.enrolled
  exact fun hgone => hgone n hn hid

/-- What the two writes take for granted: a deletion, that nothing is paid, and an update, that
there is a payment. -/
def InTime : Mark → Db → Prop
  | .cancel enrollmentId, d =>
    ∀ p ∈ d.val.payments, p.enrollmentId = enrollmentId → p.status ≠ .paid
  | .pay enrollmentId, d => ∃ p ∈ d.val.payments, p.enrollmentId = enrollmentId
  | _, _ => True

instance (mark : Mark) (d : Db) : Decidable (InTime mark d) := by
  induction mark using Mark.casesOn <;> unfold InTime <;> infer_instance

/-- What is paid stays paid, and what is gone stays gone. -/
structure Excludes (enrollmentId : Nat) (d d' : Db) : Prop where
  paid : Paid enrollmentId d → Paid enrollmentId d'
  gone : Gone enrollmentId d → Gone enrollmentId d'

instance (enrollmentId : Nat) : IsPreorder Db (Excludes enrollmentId) where
  refl _ := ⟨id, id⟩
  trans _ _ _ h h' := ⟨fun hd => h'.paid (h.paid hd), fun hd => h'.gone (h.gone hd)⟩

theorem excludes_of_eq {enrollmentId : Nat} {d d' : Db}
    (henrollments : d'.val.enrollments = d.val.enrollments)
    (hpayments : d'.val.payments = d.val.payments) : Excludes enrollmentId d d' where
  paid h := ⟨henrollments ▸ h.enrolled, hpayments ▸ h.paid⟩
  gone h := by
    unfold Gone
    rw [henrollments]
    exact h

section Actions

variable {enrollmentId : Nat}

theorem stable_paid : Proc.Stable (Excludes enrollmentId) (Paid enrollmentId) :=
  fun _ _ hd h => h.paid hd

theorem stable_gone : Proc.Stable (Excludes enrollmentId) (Gone enrollmentId) :=
  fun _ _ hd h => h.gone hd

theorem excludes_refl (d : Db) : Excludes enrollmentId d d := refl_of _ d

theorem setPaid_ok {d d' : Db} {u : Unit} (h : setPaid enrollmentId d = .ok u d')
    (hpayment : ∃ p ∈ d.val.payments, p.enrollmentId = enrollmentId) :
    Excludes enrollmentId d d' ∧ Paid enrollmentId d' := by
  unfold setPaid at h
  have hval := exec_eq_ok.1 h
  have hpaid : Paid enrollmentId d' := by
    obtain ⟨p, hp, hid⟩ := hpayment
    refine paid_of_payment (p := { p with status := .paid }) ?_ hid rfl
    rw [hval]
    exact mem_updateWhere_of_pos hp (by simpa using hid)
  refine ⟨⟨fun _ => hpaid, fun hgone => ?_⟩, hpaid⟩
  unfold Gone
  rw [hval]
  exact hgone

theorem deleteEnrollment_ok {d d' : Db} {u : Unit} (h : deleteEnrollment enrollmentId d = .ok u d')
    (hunpaid : ∀ p ∈ d.val.payments, p.enrollmentId = enrollmentId → p.status ≠ .paid) :
    Excludes enrollmentId d d' ∧ Gone enrollmentId d' := by
  unfold deleteEnrollment at h
  have hgone : Gone enrollmentId d' := by
    unfold Gone
    rw [exec_eq_ok.1 h]
    intro n hn
    simpa using (List.mem_filter.1 hn).2
  refine ⟨⟨fun hpaid => ?_, fun _ => hgone⟩, hgone⟩
  obtain ⟨p, hp, hid, hstatus⟩ := hpaid.paid
  exact absurd hstatus (hunpaid p hp hid)

theorem valid_payEnrollment : (payEnrollment enrollmentId).Valid InTime (Excludes enrollmentId)
    (fun _ => Excludes enrollmentId) (fun success d => success = true → Paid enrollmentId d)
    fun _ => True := by
  unfold payEnrollment
  refine (Proc.keeps_look excludes_refl _).bind fun payment => ?_
  cases payment with
  | none => exact Proc.valid_ret fun _ _ h => by cases h
  | some payment =>
    refine Proc.valid_bind (M := fun _ => Paid enrollmentId) ?_ fun _ =>
      Proc.valid_ret fun d hd _ => hd
    refine Proc.valid_marked (fun d _ hpayment _ d' hm => setPaid_ok hm hpayment)
      (fun d _ _ e d' hm => ?_) fun _ => stable_paid
    unfold setPaid at hm
    rw [exec_eq_error hm]
    exact excludes_refl d

theorem keeps_requireCanceller (actor : Actor) (studentId : Nat) :
    (requireCanceller actor studentId).Keeps InTime fun _ => Excludes enrollmentId := by
  unfold requireCanceller
  refine Proc.keeps_ite (fun _ => Proc.keeps_ret _) fun _ =>
    Proc.keeps_ite (fun _ => ?_) fun _ => Proc.keeps_ite (fun _ => ?_) fun _ => Proc.keeps_fail _
  · refine Proc.keeps_bind (keeps_ofExcept _) fun parentId => ?_
    exact Proc.keeps_bind (Proc.keeps_look excludes_refl _) fun _ => Proc.keeps_failIf
  · exact Proc.keeps_bind (keeps_ofExcept _) fun _ => Proc.keeps_failIf

theorem keeps_notifyHeadTeacher (enrollment : EnrollmentDetails) :
    (notifyHeadTeacher enrollment).Keeps InTime fun _ => Excludes enrollmentId := by
  unfold notifyHeadTeacher
  refine Proc.keeps_bind (Proc.keeps_look excludes_refl _) fun classMap => ?_
  cases classMap with
  | none => exact Proc.keeps_ret _
  | some classMap =>
    refine Proc.keeps_bind (Proc.keeps_look excludes_refl _) fun classInfo => ?_
    cases classInfo with
    | none => exact Proc.keeps_ret _
    | some classInfo =>
      dsimp only
      cases classInfo.headTeacherId with
      | none => exact Proc.keeps_fail _
      | some headTeacherId =>
        refine Proc.keeps_once ?_
        unfold createNotification
        exact moves_exec fun _ _ => excludes_of_eq rfl rfl

theorem valid_cancelEnrollment (actor : Actor) :
    (cancelEnrollment actor enrollmentId).Valid InTime (Excludes enrollmentId)
    (fun _ => Excludes enrollmentId) (fun _ => Gone enrollmentId) fun _ => True := by
  unfold cancelEnrollment
  refine (Proc.keeps_look excludes_refl _).bind fun enrollment => ?_
  cases enrollment with
  | none => exact Proc.valid_fail _
  | some enrollment =>
    refine (keeps_requireCanceller _ _).bind fun _ => ?_
    refine (Proc.keeps_look excludes_refl _).bind fun payment => ?_
    refine Proc.keeps_failIf.bind fun _ => (keeps_notifyHeadTeacher _).bind fun _ => ?_
    refine Proc.valid_marked (fun d _ hunpaid _ d' hm => deleteEnrollment_ok hm hunpaid)
      (fun d _ _ e d' hm => ?_) fun _ => stable_gone
    unfold deleteEnrollment at hm
    rw [exec_eq_error hm]
    exact excludes_refl d

end Actions

/-! ## Runs -/

/-- A payment or a cancellation. -/
inductive Payer where
  | pay (actor : Actor)
  | cancel (actor : Actor)

def Payer.program (enrollmentId : Nat) : Payer → Task Unit
  | .pay actor => EventsRouter.payEnrollment actor enrollmentId
  | .cancel actor => StudentsRouter.cancelEnrollment actor enrollmentId

/-- What a request that has reported success has achieved. -/
def Payer.Achieves (enrollmentId : Nat) : Payer → Db → Prop
  | .pay _ => Paid enrollmentId
  | .cancel _ => Gone enrollmentId

theorem Payer.valid (enrollmentId : Nat) (r : Payer) :
    (r.program enrollmentId).Valid InTime (Excludes enrollmentId)
    (fun _ => Excludes enrollmentId) (fun _ => r.Achieves enrollmentId) fun _ => True := by
  cases r with
  | pay actor =>
    refine Proc.keeps_failIf.bind fun _ => Proc.Valid.wrap ?_ _
    refine Proc.valid_bind valid_payEnrollment fun success => Proc.valid_failIf fun h d hd => ?_
    exact hd (by simpa using h)
  | cancel actor =>
    exact Proc.keeps_failIf.bind fun _ => (valid_cancelEnrollment actor).wrap _

section Runs

variable {ι : Type} [DecidableEq ι]

/-- Payments and cancellations of one enrollment, any number of them, at their start. -/
def paying (d : Db) (enrollmentId : Nat) (requests : ι → Payer) : Pool ι Mark PyError Db Unit :=
  .start d fun i => (requests i).program enrollmentId

/-- The request has reported success. -/
def Succeeded (P : Pool ι Mark PyError Db Unit) (i : ι) : Prop := P.threads i = .ret ()

/-- Paying and cancelling exclude each other in a run. -/
structure PayingSafe (enrollmentId : Nat) (requests : ι → Payer)
    (P : Pool ι Mark PyError Db Unit) (is : List ι) : Prop where
  /-- What was paid by a successful request is there in every later state. -/
  paid : ∀ is₁ is₂, is = is₁ ++ is₂ → ∀ i actor, requests i = .pay actor →
    Succeeded (run Pool.step P is₁) i → Paid enrollmentId (run Pool.step P is).state
  /-- After a successful cancellation no payment succeeds. -/
  cancelled : ∀ is₁ is₂, is = is₁ ++ is₂ → ∀ i j actor actor', requests i = .cancel actor →
    requests j = .pay actor' → Succeeded (run Pool.step P is₁) i →
    ¬Succeeded (run Pool.step P is₁) j → ¬Succeeded (run Pool.step P is) j

/-- **Paying and cancelling exclude each other** in every run in which each deletion finds the
payment still not paid and each update finds a payment. -/
theorem paying_excludes (d : Db) (enrollmentId : Nat) (requests : ι → Payer) (is : List ι)
    (h : EachStep Pool.step (fun P i => P.Undisturbed (fun _ => InTime) i)
      (paying d enrollmentId requests) is) :
    PayingSafe enrollmentId requests (paying d enrollmentId requests) is := by
  have hstart : (paying d enrollmentId requests).Sound (fun _ => InTime) (Excludes enrollmentId)
      (fun _ _ => Excludes enrollmentId) fun i _ => (requests i).Achieves enrollmentId :=
    Pool.sound_start fun i => (requests i).valid enrollmentId
  have hsound := Pool.Sound.run (R := Excludes enrollmentId) (fun _ => excludes_refl)
    (fun _ _ _ _ h => h) hstart h
  -- whoever has succeeded has achieved it at the end
  have hachieved : ∀ is₁ is₂, is = is₁ ++ is₂ → ∀ i,
      Succeeded (run Pool.step (paying d enrollmentId requests) is₁) i →
      (requests i).Achieves enrollmentId
        (run Pool.step (paying d enrollmentId requests) is).state := by
    intro is₁ is₂ hsplit i hi
    have hlater := Pool.returned_run hi is₂
    rw [← run_append, ← hsplit] at hlater
    exact hsound.returned hlater
  refine ⟨fun is₁ is₂ hsplit i actor hpay hi => ?_, ?_⟩
  · have hpaid := hachieved is₁ is₂ hsplit i hi
    rwa [hpay] at hpaid
  · intro is₁ is₂ hsplit i j actor actor' hcancel hpay hi _ hj
    have hgone := hachieved is₁ is₂ hsplit i hi
    have hpaid := hachieved is [] (List.append_nil is).symm j hj
    rw [hcancel] at hgone
    rw [hpay] at hpaid
    exact Paid.not_gone hpaid hgone

end Runs

/-! ## A payment beside a cancellation -/

/-- The small school with its event published and the payment pending. The teacher heads
the class. -/
def pendingTrip : Db where
  val := { tripSchool.val with
    teachers := [⟨2, "T"⟩]
    classes := [⟨1, "G1 - A", 1, some 2, 25, true, 1, some "A"⟩]
    payments := [{ museumPayment with status := .pending }] }
  ok := by decide +kernel

def parentActor : Actor where
  user :=
    { id := "4", tenantId := some "school", role := "parent", email := "p@school"
      roles := ["parent"] }
  id := .number 4

def payAndCancel : Bool → Payer
  | true => .pay parentActor
  | false => .cancel { user := teacher, id := .number 2 }

/-- The payment is made while the cancellation has read the enrollment only, which is then
refused. -/
theorem paid_before_cancel : PayingSafe 1 payAndCancel (paying pendingTrip 1 payAndCancel)
    [false, true, true, false, false] := by
  have hintime : EachStep Pool.step (fun P i => P.Undisturbed (fun _ => InTime) i)
      (paying pendingTrip 1 payAndCancel) [false, true, true, false, false] := by decide +kernel
  exact paying_excludes pendingTrip 1 payAndCancel _ hintime

/-- The cancellation has read that nothing is paid before the payment succeeds, and deletes the
enrollment with what was paid. -/
theorem paid_then_deleted : ¬PayingSafe 1 payAndCancel (paying pendingTrip 1 payAndCancel)
    ([false, false, false, false, false, true, true] ++ [false]) := by
  intro h
  have hsucceeded : Succeeded (run Pool.step (paying pendingTrip 1 payAndCancel)
      [false, false, false, false, false, true, true]) true :=
        Proc.value_eq_some.1 (by decide +kernel)
  have hpaid := (h.paid _ _ rfl true parentActor rfl hsucceeded).paid
  have hnone : (run Pool.step (paying pendingTrip 1 payAndCancel)
      ([false, false, false, false, false, true, true] ++ [false])).state.val.payments = [] := by
    decide +kernel
  rw [hnone] at hpaid
  simp at hpaid

end Sams.Trips
