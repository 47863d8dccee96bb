import Sams.Trips.Opening

/-!
# The payment of a priced enrollment

An enrollment and its payment are two statements. The schema asks for a currency, which the second
does not name, so that an enrollment in a class that pays is inserted, its payment is refused, and
the call raises; the next call finds the enrollment and returns it.

**`priced_run`**: a call on a priced mapping is refused as a whole or returns an enrollment with its
pending payment if and only if the mapping takes no new enrollment and those that it has are paid
for, and in every run of such calls what is created on a priced mapping has a payment.
-/

namespace Sams.Trips

open School Programs Rows Runs Interleaving TenantRepository

/-- A call of `enroll_student`. -/
structure EnrollCall where
  by_ : Authz.CurrentUser
  studentId : Nat
  eventClassMapId : Nat
  state : EnrollmentState
  teacherId : Option ParsedId
  parentId : Option ParsedId

def EnrollCall.program (c : EnrollCall) : Task Nat :=
  TenantService.enrollStudent c.by_ c.studentId c.eventClassMapId c.state c.teacherId c.parentId

/-- The enrollment has one payment, of this amount, which is pending. -/
def PendingPayment (enrollmentId : Nat) (amount : Money) (d : Db) : Prop :=
  ∃ p, d.val.payments.filter (fun p => p.enrollmentId = enrollmentId) = [p] ∧ p.amount = amount ∧
    p.status = .pending

/-- No enrollment is there that was not before. -/
def EntersNothing (d d' : Db) : Prop :=
  ∀ n' ∈ d'.val.enrollments, ∃ n ∈ d.val.enrollments, n.id = n'.id

instance : IsPreorder Db EntersNothing where
  refl _ n hn := ⟨n, hn, rfl⟩
  trans _ _ _ h h' n hn := by
    obtain ⟨n', hn', hid'⟩ := h' n hn
    obtain ⟨n'', hn'', hid''⟩ := h n' hn'
    exact ⟨n'', hn'', hid''.trans hid'⟩

/-- The call raises and leaves no new enrollment. -/
def EnrollCall.Refused (c : EnrollCall) (d : Db) : Prop :=
  ∃ e d', c.program.seq d = .error e d' ∧ EntersNothing d d'

/-- On a priced mapping the call is refused, or returns an enrollment with its pending payment. -/
def EnrollCall.Meets (c : EnrollCall) (d : Db) : Prop :=
  ∀ m, getClassMapById d.val c.eventClassMapId = some m → 0 < m.ticketPrice → c.Refused d ∨
    ∃ id d', c.program.seq d = .ok id d' ∧ PendingPayment id m.ticketPrice d'

/-- A priced mapping takes no new enrollment of the call, and the one that it has is to be paid
for. -/
def EnrollCall.Safe (c : EnrollCall) (d : Db) : Prop :=
  ∀ m, getClassMapById d.val c.eventClassMapId = some m → 0 < m.ticketPrice →
    (Accepts c.studentId c.eventClassMapId d m → ¬Enterable c.teacherId c.parentId d) ∧
      ∀ n, Finds c.studentId c.eventClassMapId d m n → PendingPayment n.id m.ticketPrice d

/-! ## One call -/

section Call

variable {c : EnrollCall} {d : Db}

theorem entersNothing_inserted {studentId mapId : Nat} {st : EnrollmentState}
    {t p : Option Nat} {d₁ : Db} (hfresh : ∀ n ∈ d.val.enrollments, n.id ≠ d.val.seq.enrollment)
    (hval : d₁.val = inserted studentId mapId st t p d.val) : ¬EntersNothing d d₁ := by
  intro h
  have hrow : newEnrollment studentId mapId st t p d.val ∈ d₁.val.enrollments := by
    rw [hval]
    exact List.mem_append_right _ (List.mem_singleton_self _)
  obtain ⟨n, hn, hid⟩ := h _ hrow
  exact hfresh n hn hid

/-- **A call keeps to the law** exactly when it is safe. -/
theorem EnrollCall.meets_iff_safe : c.Meets d ↔ c.Safe d := by
  constructor
  · intro h m hm hprice
    refine ⟨fun haccepts henter => ?_, fun n hfinds => ?_⟩
    · obtain ⟨t, p, ht, hp, hinsert⟩ := henter
      obtain ⟨d₁, hval, hseq⟩ := enroll_inserts c.by_ c.state haccepts ht hp hinsert
      rw [if_pos hprice, ← enrollStudent_of_accepts haccepts] at hseq
      rcases h m hm hprice with ⟨e, d', hraise, hnothing⟩ | ⟨id, d', hreturn, -⟩
      · cases hseq.symm.trans hraise
        exact entersNothing_inserted hinsert.fresh hval hnothing
      · cases hseq.symm.trans hreturn
    · have hseq : c.program.seq d = .ok n.id d := enrollStudent_of_finds hfinds
      rcases h m hm hprice with ⟨e, d', hraise, -⟩ | ⟨id, d', hreturn, hpending⟩
      · cases hseq.symm.trans hraise
      · cases hseq.symm.trans hreturn
        exact hpending
  · intro h m hm hprice
    rcases enrollStudent_cases c.by_ c.studentId c.eventClassMapId c.state c.teacherId
      c.parentId d with
      ⟨m', n, hfinds, hseq⟩ | ⟨m', t, p, d₁, haccepts, henter, -⟩ | ⟨-, -, e, hseq⟩
    · obtain rfl : m = m' := Option.some.inj (hm.symm.trans hfinds.mapping)
      exact .inr ⟨n.id, d, hseq, (h m hm hprice).2 n hfinds⟩
    · obtain rfl : m = m' := Option.some.inj (hm.symm.trans haccepts.mapping)
      exact absurd henter ((h m hm hprice).1 haccepts)
    · exact .inl ⟨e, d, hseq, refl_of EntersNothing d⟩

end Call

/-! ## The other requests -/

section Others

variable {R : Db → Db → Prop} [IsPreorder Db R] {actor : Actor} {enrollmentId : Nat}

theorem moves_look {α : Type} (f : Db → α) : Moves R (Proc.look f : Task α).seq := by
  rw [Proc.seq_look]
  exact moves_query f

theorem moves_ofExcept {α : Type} (x : Except PyError α) : Moves R (ofExcept x).seq := by
  cases x with
  | ok a => exact moves_pure a
  | error e => exact moves_throw e

theorem moves_parenthood (studentId : Nat) :
    Moves R (StudentsRouter.parenthood actor studentId).seq := by
  have h : Proc.Compositional fun _ (p : Task _) => Moves R p.seq := Proc.compositional_moves
  unfold StudentsRouter.parenthood
  by_cases hrole : actor.user.hasRole "parent" = true
  · rw [if_pos hrole]
    refine h.bind (moves_ofExcept _) fun p => h.bind (moves_look _) fun mayApprove => ?_
    by_cases hmay : mayApprove = true
    · rw [if_pos hmay]
      exact h.ret _
    · rw [if_neg hmay]
      exact h.bind (moves_look _) fun _ => h.ret _
  · rw [if_neg hrole]
    exact h.ret _

/-- A decision writes the state of the enrollment. -/
theorem moves_updateEnrollmentApproval (requested : StudentsRouter.StateName)
    (hwrite : ∀ st t p, Moves R (updateEnrollmentState enrollmentId st t p)) :
    Moves R (StudentsRouter.updateEnrollmentApproval actor enrollmentId requested).seq := by
  have h : Proc.Compositional fun _ (p : Task _) => Moves R p.seq := Proc.compositional_moves
  unfold StudentsRouter.updateEnrollmentApproval
  refine h.bind (moves_look _) fun details => ?_
  cases details with
  | none => exact h.fail _
  | some details =>
    refine h.bind (moves_parenthood _) fun parent => ?_
    refine h.bind (moves_ofExcept _) fun decided => ?_
    refine h.bind (moves_ofExcept _) fun teacherId => ?_
    refine h.bind (moves_ofExcept _) fun parentId => ?_
    refine h.bind ?_ fun _ => h.bind (moves_look _) fun answer => ?_
    · rw [Proc.seq_marked]
      exact hwrite _ _ _
    · cases answer with
      | none => exact h.fail _
      | some answer => exact h.ret _

/-- A payment writes the payments of the enrollment. -/
theorem moves_payEnrollment (hwrite : Moves R (setPaid enrollmentId)) :
    Moves R (EventsRouter.payEnrollment actor enrollmentId).seq := by
  have h : Proc.Compositional fun _ (p : Task _) => Moves R p.seq := Proc.compositional_moves
  unfold EventsRouter.payEnrollment TenantService.payEnrollment
  refine h.bind (h.failIf _ _) fun _ => h.wrap _ (h.bind ?_ fun _ => h.failIf _ _)
  refine h.bind (moves_look _) fun payment => ?_
  cases payment with
  | none => exact h.ret _
  | some payment =>
    refine h.bind ?_ fun _ => h.ret _
    rw [Proc.seq_marked]
    exact hwrite

theorem moves_requireCanceller (studentId : Nat) :
    Moves R (TenantService.requireCanceller actor studentId).seq := by
  have h : Proc.Compositional fun _ (p : Task _) => Moves R p.seq := Proc.compositional_moves
  unfold TenantService.requireCanceller
  dsimp only
  split_ifs
  · exact h.ret _
  · refine h.bind (moves_ofExcept _) fun _ => ?_
    exact h.bind (moves_look _) fun _ => h.failIf _ _
  · exact h.bind (moves_ofExcept _) fun _ => h.failIf _ _
  · exact h.fail _

theorem moves_notifyHeadTeacher (enrollment : EnrollmentDetails)
    (hnotify : ∀ e u t, Moves R (createNotification e u t)) :
    Moves R (TenantService.notifyHeadTeacher enrollment).seq := by
  have h : Proc.Compositional fun _ (p : Task _) => Moves R p.seq := Proc.compositional_moves
  unfold TenantService.notifyHeadTeacher
  refine h.bind (moves_look _) fun classMap => ?_
  cases classMap with
  | none => exact h.ret _
  | some classMap =>
    refine h.bind (moves_look _) fun classInfo => ?_
    cases classInfo with
    | none => exact h.ret _
    | some classInfo =>
      dsimp only
      cases classInfo.headTeacherId with
      | none => exact h.fail _
      | some headTeacherId =>
        dsimp only
        rw [Proc.seq_once]
        exact hnotify _ _ _

/-- A cancellation tells the head teacher and deletes the enrollment. -/
theorem moves_cancelEnrollment (hnotify : ∀ e u t, Moves R (createNotification e u t))
    (hdelete : Moves R (deleteEnrollment enrollmentId)) :
    Moves R (StudentsRouter.cancelEnrollment actor enrollmentId).seq := by
  have h : Proc.Compositional fun _ (p : Task _) => Moves R p.seq := Proc.compositional_moves
  unfold StudentsRouter.cancelEnrollment TenantService.cancelEnrollment
  refine h.bind (h.failIf _ _) fun _ => h.wrap _ (h.bind (moves_look _) fun enrollment => ?_)
  cases enrollment with
  | none => exact h.fail _
  | some enrollment =>
    refine h.bind (moves_requireCanceller _) fun _ => ?_
    refine h.bind (moves_look _) fun payment => h.bind (h.failIf _ _) fun _ => ?_
    refine h.bind (moves_notifyHeadTeacher _ hnotify) fun _ => ?_
    rw [Proc.seq_marked]
    exact hdelete

theorem entersNothing_of_eq {d d' : Db} (h : d'.val.enrollments = d.val.enrollments) :
    EntersNothing d d' := by
  intro n hn
  exact ⟨n, h ▸ hn, rfl⟩

theorem entersNothing_decide (requested : StudentsRouter.StateName) :
    Moves EntersNothing (StudentsRouter.updateEnrollmentApproval actor enrollmentId
      requested).seq := by
  refine moves_updateEnrollmentApproval requested fun st t p => ?_
  unfold updateEnrollmentState
  refine moves_exec fun d _ n hn => ?_
  rcases cases_of_mem_updateWhere hn with ⟨hn, -⟩ | ⟨n₀, hn₀, -, rfl⟩
  · exact ⟨n, hn, rfl⟩
  · exact ⟨n₀, hn₀, rfl⟩

theorem entersNothing_pay :
    Moves EntersNothing (EventsRouter.payEnrollment actor enrollmentId).seq := by
  refine moves_payEnrollment ?_
  unfold setPaid
  exact moves_exec fun _ _ => entersNothing_of_eq rfl

theorem entersNothing_cancel :
    Moves EntersNothing (StudentsRouter.cancelEnrollment actor enrollmentId).seq := by
  refine moves_cancelEnrollment (fun e u t => ?_) ?_
  · unfold createNotification
    exact moves_exec fun _ _ => entersNothing_of_eq rfl
  · unfold deleteEnrollment
    refine moves_exec fun d _ n hn => ?_
    exact ⟨n, (List.mem_filter.1 hn).1, rfl⟩

end Others

/-! ## Runs -/

/-- A request around enrollments, or any other that enters none. -/
inductive EnrollmentOp where
  | enroll (call : EnrollCall)
  | decide (actor : Actor) (enrollmentId : Nat) (requested : StudentsRouter.StateName)
  | pay (actor : Actor) (enrollmentId : Nat)
  | cancel (actor : Actor) (enrollmentId : Nat)
  | other (work : Task Unit) (entersNothing : Moves EntersNothing work.seq)

namespace EnrollmentOp

def step (d : Db) : EnrollmentOp → Db
  | enroll call => after call.program.seq d
  | decide actor i requested =>
    after (StudentsRouter.updateEnrollmentApproval actor i requested).seq d
  | pay actor i => after (EventsRouter.payEnrollment actor i).seq d
  | cancel actor i => after (StudentsRouter.cancelEnrollment actor i).seq d
  | other work _ => after work.seq d

/-- The law for one request. -/
def Meets (d : Db) : EnrollmentOp → Prop
  | enroll call => call.Meets d
  | _ => True

def Safe (d : Db) : EnrollmentOp → Prop
  | enroll call => call.Safe d
  | _ => True

theorem meets_iff_safe {d : Db} (op : EnrollmentOp) : op.Meets d ↔ op.Safe d := by
  cases op with
  | enroll call => exact call.meets_iff_safe
  | _ => exact Iff.rfl

end EnrollmentOp

/-- What the second state has been entered on a priced mapping. -/
def enteredPriced (d d' : Db) : List Nat :=
  (d'.val.enrollments.filter fun n => (∀ n₀ ∈ d.val.enrollments, n₀.id ≠ n.id) ∧
    (getClassMapById d'.val n.eventClassMapId).any fun m => 0 < m.ticketPrice).map (·.id)

/-- A school, and the enrollments that have been entered on a priced mapping since the start. -/
structure PricedRun where
  db : Db
  entered : List Nat

namespace PricedRun

def step (w : PricedRun) (op : EnrollmentOp) : PricedRun where
  db := op.step w.db
  entered := w.entered ++ enteredPriced w.db (op.step w.db)

/-- What has been entered on a priced mapping and is still there has a payment. -/
def HasPayments (w : PricedRun) : Prop :=
  ∀ i ∈ w.entered, (∃ n ∈ w.db.val.enrollments, n.id = i) →
    ∃ p ∈ w.db.val.payments, p.enrollmentId = i

end PricedRun

theorem enteredPriced_of_nothing {d d' : Db} (h : EntersNothing d d') :
    enteredPriced d d' = [] := by
  unfold enteredPriced
  rw [List.map_eq_nil_iff, List.filter_eq_nil_iff]
  intro n' hn' hentered
  obtain ⟨n, hn, hid⟩ := h n' hn'
  exact (of_decide_eq_true hentered).1 n hn hid

/-- **A safe step** enters nothing on a priced mapping. -/
theorem enteredPriced_of_safe {d : Db} {op : EnrollmentOp} (h : op.Safe d) :
    enteredPriced d (op.step d) = [] := by
  cases op with
  | enroll call =>
    show enteredPriced d (after call.program.seq d) = []
    rcases enrollStudent_cases call.by_ call.studentId call.eventClassMapId call.state
      call.teacherId
      call.parentId d with
      ⟨m, n, -, hseq⟩ | ⟨m, t, p, d₁, haccepts, henter, -, hval, hseq⟩ | ⟨-, -, e, hseq⟩
    · rw [show after call.program.seq d = d from after_ok hseq]
      exact enteredPriced_of_nothing (refl_of EntersNothing d)
    · have hprice : ¬0 < m.ticketPrice :=
        fun hprice => (h m haccepts.mapping hprice).1 haccepts henter
      rw [if_neg hprice] at hseq
      rw [show after call.program.seq d = d₁ from after_ok hseq]
      unfold enteredPriced
      rw [List.map_eq_nil_iff, List.filter_eq_nil_iff]
      intro n hn hentered
      obtain ⟨hnew, hpriced⟩ := of_decide_eq_true hentered
      rw [hval] at hn hpriced
      rcases List.mem_append.1 hn with hold | hrow
      · exact hnew n hold rfl
      · -- the row is of the mapping that costs nothing
        rw [List.mem_singleton.1 hrow] at hpriced
        have hmapping : getClassMapById (inserted call.studentId call.eventClassMapId call.state t p
            d.val) call.eventClassMapId = some m := haccepts.mapping
        rw [show (newEnrollment call.studentId call.eventClassMapId call.state t p
          d.val).eventClassMapId = call.eventClassMapId from rfl, hmapping] at hpriced
        exact hprice (by simpa using hpriced)
    · rw [show after call.program.seq d = d from after_error hseq]
      exact enteredPriced_of_nothing (refl_of EntersNothing d)
  | decide actor i requested => exact enteredPriced_of_nothing (entersNothing_decide requested d)
  | pay actor i => exact enteredPriced_of_nothing (entersNothing_pay d)
  | cancel actor i => exact enteredPriced_of_nothing (entersNothing_cancel d)
  | other work hwork => exact enteredPriced_of_nothing (hwork d)

/-- **A priced enrollment has its payment** exactly where every call is safe: then each call is
refused or returns an enrollment with its pending payment, and what is entered on a priced
mapping has a payment. -/
theorem priced_run (d : Db) (ops : List EnrollmentOp) :
    (EachStep EnrollmentOp.step (fun d op => op.Meets d) d ops ↔
      EachStep EnrollmentOp.step (fun d op => op.Safe d) d ops) ∧
    (EachStep EnrollmentOp.step (fun d op => op.Safe d) d ops →
      Throughout PricedRun.step PricedRun.HasPayments ⟨d, []⟩ ops) := by
  refine ⟨⟨.mono fun d op => op.meets_iff_safe.1, .mono fun d op => op.meets_iff_safe.2⟩,
    fun h => ?_⟩
  have hsafe : EachStep PricedRun.step (fun w op => op.Safe w.db) ⟨d, []⟩ ops :=
    EachStep.comap (f := PricedRun.db) (fun _ _ => rfl) h
  have hstep : ∀ (w : PricedRun) (op : EnrollmentOp), w.entered = [] → op.Safe w.db →
      (w.step op).entered = [] := by
    intro w op hw hop
    show w.entered ++ enteredPriced w.db (op.step w.db) = []
    rw [hw, enteredPriced_of_safe hop]
    rfl
  refine (run_throughout hstep rfl hsafe).mono fun w hw i hi => ?_
  rw [hw] at hi
  cases hi

/-! ## A trip that costs something -/

/-- The small school with its event published at a price, and nobody enrolled. -/
def pricedTrip : Db where
  val := { tripSchool.val with
    events := [{ id := 1, title := "Museum", date := 0, createdBy := 2, createdAt := 0,
                 status := .published }]
    eventClasses := [{ id := 1, eventId := 1, classId := 1, ticketPrice := 50000 }]
    enrollments := []
    payments := [] }
  ok := by decide +kernel

/-- The student asks for the trip. -/
def requestTrip : EnrollCall where
  by_ := { teacher with id := "1", role := "student", roles := ["student"] }
  studentId := 1
  eventClassMapId := 1
  state := .requestedByStudent
  teacherId := none
  parentId := none

/-- The request raises, and the enrollment is there without a payment. -/
theorem request_unpaid : ¬requestTrip.Meets pricedTrip := by
  rw [EnrollCall.meets_iff_safe]
  intro h
  have hm : getClassMapById pricedTrip.val 1 =
      some { id := 1, eventId := 1, classId := 1, ticketPrice := 50000 } := by decide +kernel
  refine (h _ hm (by decide)).1 ⟨⟨hm, ?_⟩, ?_, by decide +kernel⟩
    ⟨none, none, rfl, rfl, by decide +kernel, by simp, by simp⟩
  · exact ⟨{ id := 1, title := "Museum", date := 0, createdBy := 2, createdAt := 0,
             status := .published }, by decide +kernel, rfl⟩
  · exact ⟨⟨1, "S", some 1, none, none, .enrolled, none⟩, by decide +kernel, rfl⟩

end Sams.Trips
