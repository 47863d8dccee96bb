import Sams.Lib.Twins
import Sams.Trips.Consent
import Sams.Trips.Paying

/-!
# The authority of a parent

A parent decides on an enrollment, pays for it and cancels it. The decision and the
cancellation read whether the parent may approve for the student; the payment looks at the
role of the actor only.

**`succeeds_iff`**: what a parent succeeds in is their own to decide if and only if it is no payment
for an enrollment that has one, or they may approve for its student.
-/

namespace Sams.Trips

open School Programs Rows Interleaving TenantRepository

/-- What commits or withdraws a child. -/
inductive ParentAct where
  | decide (requested : StudentsRouter.StateName)
  | pay
  | cancel
  deriving DecidableEq, Repr

/-- The request of the actor for the enrollment succeeds. -/
def ParentAct.Succeeds (actor : Actor) (enrollmentId : Nat) (d : Db) : ParentAct → Prop
  | .decide requested =>
    returns (StudentsRouter.updateEnrollmentApproval actor enrollmentId requested).seq d = true
  | .pay => returns (EventsRouter.payEnrollment actor enrollmentId).seq d = true
  | .cancel => returns (StudentsRouter.cancelEnrollment actor enrollmentId).seq d = true

/-- A parent who is nothing else that decides on enrollments. -/
structure OnlyParent (user : Authz.CurrentUser) : Prop where
  parent : user.hasRole "parent" = true
  no_other : ∀ role ∈ ["super_admin", "school_admin", "teacher", "student"],
    user.hasRole role = false

instance (user : Authz.CurrentUser) : Decidable (OnlyParent user) :=
  decidable_of_iff (user.hasRole "parent" = true ∧
    ∀ role ∈ ["super_admin", "school_admin", "teacher", "student"], user.hasRole role = false)
    ⟨fun h => ⟨h.1, h.2⟩, fun h => ⟨h.parent, h.no_other⟩⟩

/-- The actor may approve for the student of the enrollment. -/
def MayDecide (actor : Actor) (enrollmentId : Nat) (d : Db) : Prop :=
  ∃ n ∈ d.val.enrollments, n.id = enrollmentId ∧ MayConsent actor n.studentId d

/-- A payment that is waiting, asked for by a user with the role of a parent. -/
def OpenToPay (actor : Actor) (enrollmentId : Nat) (d : Db) : Prop :=
  actor.user.role = "parent" ∧ ∃ p ∈ d.val.payments, p.enrollmentId = enrollmentId

instance (actor : Actor) (enrollmentId : Nat) (d : Db) :
    Decidable (OpenToPay actor enrollmentId d) := inferInstanceAs (Decidable (_ ∧ _))

variable {actor : Actor} {studentId enrollmentId : Nat} {d d' : Db}

/-- A role that is listed is held. -/
theorem hasRole_of_mem {user : Authz.CurrentUser} {role : String} (h : role ∈ user.roles) :
    user.hasRole role = true := by
  rw [Authz.CurrentUser.hasRole_iff]
  have hheld : role ∈ user.held := by
    unfold Authz.CurrentUser.held
    by_cases hrole : user.role = ""
    · simpa [hrole] using h
    · simp [hrole, h]
  exact .inr (.inr (.inr (.inl hheld)))

theorem OnlyParent.not_mem {user : Authz.CurrentUser} (h : OnlyParent user) {role : String}
    (hrole : role ∈ ["super_admin", "school_admin", "teacher", "student"]) : role ∉ user.roles := by
  intro hmem
  have hhas := hasRole_of_mem hmem
  rw [h.no_other role hrole] at hhas
  cases hhas

theorem mayDecide_of_details {details : EnrollmentDetails}
    (h : getEnrollmentById d.val enrollmentId = some details)
    (hmay : MayConsent actor details.row.studentId d) : MayDecide actor enrollmentId d := by
  obtain ⟨n, hn, hid, hstudent⟩ := ofStudent_of_details h
  exact ⟨n, hn, hid, by rwa [hstudent]⟩

/-! ## Deciding -/

/-- What the route has found out about the actor as a parent. -/
theorem mayConsent_of_parenthood {parent : StudentsRouter.Parenthood}
    (h : (StudentsRouter.parenthood actor studentId).seq d = .ok parent d')
    (hmay : parent.mayApprove = true) : MayConsent actor studentId d := by
  unfold StudentsRouter.parenthood at h
  by_cases hrole : actor.user.hasRole "parent" = true
  · rw [if_pos hrole, Proc.seq_bind] at h
    obtain ⟨p, d₁, hp, h⟩ := bind_eq_ok.1 h
    obtain ⟨hcolumn, rfl⟩ := ofExcept_eq_ok.1 hp
    rw [Proc.seq_bind, Proc.seq_look, query_bind] at h
    by_cases happrove : canParentApproveForStudent d.val studentId p = true
    · exact ⟨p, column_eq_ok.1 hcolumn, happrove⟩
    · rw [if_neg happrove, Proc.seq_bind, Proc.seq_look, query_bind] at h
      obtain ⟨rfl, -⟩ := pure_eq_ok.1 h
      cases hmay
  · rw [if_neg hrole] at h
    obtain ⟨rfl, -⟩ := pure_eq_ok.1 h
    cases hmay

/-- Who is no teacher decides as a parent. -/
theorem mayApprove_of_decision {parent : StudentsRouter.Parenthood} {details : EnrollmentDetails}
    {requested : StudentsRouter.StateName} {decided : EnrollmentState × Option ParsedId}
    (hteacher : actor.user.hasRole "teacher" = false)
    (h : StudentsRouter.decision actor parent details requested = .ok decided) :
    parent.mayApprove = true := by
  by_contra hmay
  unfold StudentsRouter.decision at h
  rw [if_neg hmay, if_neg (by simp [hteacher])] at h
  by_cases hlinked : parent.linked = true
  · rw [if_pos hlinked] at h
    cases h
  · rw [if_neg hlinked] at h
    cases h

theorem mayDecide_of_decided {requested : StudentsRouter.StateName} {details : EnrollmentDetails}
    (hteacher : actor.user.hasRole "teacher" = false)
    (h : (StudentsRouter.updateEnrollmentApproval actor enrollmentId requested).seq d =
      .ok details d') : MayDecide actor enrollmentId d := by
  unfold StudentsRouter.updateEnrollmentApproval at h
  rw [Proc.seq_bind, Proc.seq_look, query_bind] at h
  cases hfound : getEnrollmentById d.val enrollmentId with
  | none =>
    rw [hfound] at h
    exact (throw_eq_ok.1 h).elim
  | some found =>
    rw [hfound] at h
    dsimp only at h
    rw [Proc.seq_bind] at h
    obtain ⟨parent, d₁, hparent, h⟩ := bind_eq_ok.1 h
    rw [Proc.seq_bind] at h
    obtain ⟨decided, d₂, hdecided, -⟩ := bind_eq_ok.1 h
    have hmay := mayApprove_of_decision hteacher (ofExcept_eq_ok.1 hdecided).1
    exact mayDecide_of_details hfound (mayConsent_of_parenthood hparent hmay)

/-! ## Cancelling -/

theorem mayConsent_of_canceller {u : Unit} (hparent : OnlyParent actor.user)
    (h : (TenantService.requireCanceller actor studentId).seq d = .ok u d') :
    MayConsent actor studentId d := by
  have hadmin : "school_admin" ∉ actor.user.roles := hparent.not_mem (by simp)
  have hteacher : "teacher" ∉ actor.user.roles := hparent.not_mem (by simp)
  have hstudent : "student" ∉ actor.user.roles := hparent.not_mem (by simp)
  unfold TenantService.requireCanceller at h
  dsimp only at h
  rw [if_neg (by simp [hadmin, hteacher])] at h
  by_cases hrole : "parent" ∈ actor.user.roles
  · rw [if_pos hrole, Proc.seq_bind] at h
    obtain ⟨p, d₁, hp, h⟩ := bind_eq_ok.1 h
    obtain ⟨hcolumn, rfl⟩ := ofExcept_eq_ok.1 hp
    rw [Proc.seq_bind, Proc.seq_look, query_bind, Proc.seq_failIf] at h
    have happrove := not_not.1 (raiseIf_eq_ok.1 h).1
    exact ⟨p, column_eq_ok.1 hcolumn, happrove⟩
  · rw [if_neg hrole, if_neg hstudent] at h
    exact (throw_eq_ok.1 h).elim

theorem mayDecide_of_cancelled {u : Unit} (hparent : OnlyParent actor.user)
    (h : (StudentsRouter.cancelEnrollment actor enrollmentId).seq d = .ok u d') :
    MayDecide actor enrollmentId d := by
  unfold StudentsRouter.cancelEnrollment at h
  rw [Proc.seq_bind] at h
  obtain ⟨⟨⟩, d₁, htenant, h⟩ := bind_eq_ok.1 h
  rw [Proc.seq_failIf] at htenant
  obtain ⟨-, rfl⟩ := raiseIf_eq_ok.1 htenant
  have h := Proc.seq_wrap_eq_ok.1 h
  unfold TenantService.cancelEnrollment at h
  rw [Proc.seq_bind, Proc.seq_look, query_bind] at h
  cases hfound : getEnrollmentById d.val enrollmentId with
  | none =>
    rw [hfound] at h
    exact (throw_eq_ok.1 h).elim
  | some found =>
    rw [hfound] at h
    dsimp only at h
    rw [Proc.seq_bind] at h
    obtain ⟨⟨⟩, d₁, hcanceller, -⟩ := bind_eq_ok.1 h
    exact mayDecide_of_details hfound (mayConsent_of_canceller hparent hcanceller)

/-! ## Paying -/

/-- Setting payments to paid breaks no constraint. -/
theorem setPaid_returns (enrollmentId : Nat) (d : Db) :
    ∃ d', setPaid enrollmentId d = .ok () d' := by
  have hchecks : ∀ p ∈ updateWhere (fun p => p.enrollmentId = enrollmentId)
      (fun p : PaymentRow => { p with status := .paid }) d.val.payments,
      Numeric p.amount ∧ p.currency.isSome := by
    intro p hp
    rcases cases_of_mem_updateWhere hp with ⟨hold, -⟩ | ⟨old, hold, -, rfl⟩
    · exact ⟨d.ok.checks.payment_amount p hold, d.ok.checks.payment_currency p hold⟩
    · exact ⟨d.ok.checks.payment_amount old hold, d.ok.checks.payment_currency old hold⟩
  unfold setPaid
  refine ⟨_, exec_of ?_⟩
  exact
    { d.ok with
      keys := { d.ok.keys with payments := d.ok.keys.payments.updateWhere fun _ => rfl }
      unique := { d.ok.unique with }
      checks :=
        { d.ok.checks with
          payment_amount := fun p hp => (hchecks p hp).1
          payment_currency := fun p hp => (hchecks p hp).2 }
      placements := { d.ok.placements with }
      rollovers := { d.ok.rollovers with }
      events :=
        { d.ok.events with
          payment_enrollment := d.ok.events.payment_enrollment.updateWhere fun _ => rfl }
      contacts := { d.ok.contacts with } }

theorem payEnrollment_seq (enrollmentId : Nat) (d : Db) :
    (∃ d', (TenantService.payEnrollment enrollmentId).seq d = .ok true d') ∧
        (∃ p ∈ d.val.payments, p.enrollmentId = enrollmentId) ∨
      (TenantService.payEnrollment enrollmentId).seq d = .ok false d ∧
        ¬∃ p ∈ d.val.payments, p.enrollmentId = enrollmentId := by
  unfold TenantService.payEnrollment
  rw [Proc.seq_bind, Proc.seq_look, query_bind]
  cases hpayment : getPaymentByEnrollment d.val enrollmentId with
  | none =>
    refine .inr ⟨rfl, ?_⟩
    rintro ⟨p, hp, hid⟩
    exact absurd hid (by simpa using List.find?_eq_none.1 hpayment p hp)
  | some payment =>
    obtain ⟨d', hd'⟩ := setPaid_returns enrollmentId d
    refine .inl ⟨⟨d', ?_⟩, payment, List.mem_of_find?_eq_some hpayment, ?_⟩
    · dsimp only
      rw [Proc.seq_bind, Proc.seq_marked]
      exact bind_eq_ok.2 ⟨(), d', hd', rfl⟩
    · simpa using List.find?_some hpayment

/-- A payment asks for the role of a parent and for something to pay, and for nothing else. -/
theorem pays_iff :
    ParentAct.pay.Succeeds actor enrollmentId d ↔ OpenToPay actor enrollmentId d := by
  show returns (EventsRouter.payEnrollment actor enrollmentId).seq d = true ↔ _
  unfold EventsRouter.payEnrollment OpenToPay
  rw [returns_iff, Proc.seq_bind, Proc.seq_failIf]
  constructor
  · rintro ⟨u, d', h⟩
    obtain ⟨⟨⟩, d₁, hcheck, h⟩ := bind_eq_ok.1 h
    obtain ⟨hrole, rfl⟩ := raiseIf_eq_ok.1 hcheck
    refine ⟨not_not.1 hrole, ?_⟩
    have h := Proc.seq_wrap_eq_ok.1 h
    rw [Proc.seq_bind] at h
    rcases payEnrollment_seq enrollmentId d with ⟨-, hpayment⟩ | ⟨hseq, -⟩
    · exact hpayment
    · -- what was not paid is reported
      obtain ⟨success, d₂, hsuccess, h⟩ := bind_eq_ok.1 h
      rw [hseq] at hsuccess
      cases hsuccess
      rw [Proc.seq_failIf] at h
      exact absurd (raiseIf_eq_ok.1 h).1 (by simp)
  · rintro ⟨hrole, hpayment⟩
    rcases payEnrollment_seq enrollmentId d with ⟨⟨d', hseq⟩, -⟩ | ⟨-, hnone⟩
    · refine ⟨(), d', bind_eq_ok.2 ⟨(), d, raiseIf_eq_ok.2 ⟨not_not.2 hrole, rfl⟩, ?_⟩⟩
      refine Proc.seq_wrap_eq_ok.2 ?_
      rw [Proc.seq_bind]
      refine bind_eq_ok.2 ⟨true, d', hseq, ?_⟩
      rw [Proc.seq_failIf]
      exact raiseIf_eq_ok.2 ⟨by simp, rfl⟩
    · exact absurd hpayment hnone

/-! ## Whose children -/

/-- A decision and a cancellation are for the children of the parent. -/
theorem mayDecide_of_succeeded (hparent : OnlyParent actor.user) {act : ParentAct}
    (hact : act ≠ .pay)
    (h : act.Succeeds actor enrollmentId d) : MayDecide actor enrollmentId d := by
  cases act with
  | decide requested =>
    obtain ⟨details, d', h⟩ := returns_iff.1 h
    exact mayDecide_of_decided (hparent.no_other "teacher" (by simp)) h
  | pay => exact absurd rfl hact
  | cancel =>
    obtain ⟨u, d', h⟩ := returns_iff.1 h
    exact mayDecide_of_cancelled hparent h

/-- **A parent decides for the children they may approve for**, and the one request that does not
look is the payment for an enrollment that has one. -/
theorem succeeds_iff (hparent : OnlyParent actor.user) (act : ParentAct)
    (enrollmentId : Nat) (d : Db) :
    (act.Succeeds actor enrollmentId d → MayDecide actor enrollmentId d) ↔
      (act = .pay → OpenToPay actor enrollmentId d → MayDecide actor enrollmentId d) := by
  by_cases hact : act = .pay
  · subst hact
    rw [pays_iff]
    simp
  · simp only [hact, false_implies, iff_true]
    exact mayDecide_of_succeeded hparent hact

/-! ## A contact who may not approve -/

/-- The small school with the payment for the trip pending, and a parent who is told of the student
but may not approve. -/
def contactTrip : Db where
  val := { pendingTrip.val with
    users := pendingTrip.val.users ++ [⟨4, "p@school", "parent", []⟩]
    parents := [⟨4, "P"⟩]
    studentParents := [{ studentId := 1, parentId := 4, canApprove := false }] }
  ok := by decide +kernel

theorem parentActor_only : OnlyParent parentActor.user := by decide

/-- The parent of the small school decides on the request. -/
theorem parent_decides : (ParentAct.decide (.state .approvedByParent)).Succeeds (parent 4) 1
    requestedTrip ∧ MayDecide (parent 4) 1 requestedTrip := by
  have hparent : OnlyParent (parent 4).user := by decide
  have hdecides : (ParentAct.decide (.state .approvedByParent)).Succeeds (parent 4) 1
      requestedTrip := by
    unfold ParentAct.Succeeds
    decide +kernel
  refine ⟨hdecides, ?_⟩
  exact (succeeds_iff hparent (.decide (.state .approvedByParent)) 1 requestedTrip).2
    (fun h => by cases h)
    hdecides

/-- A contact who may not approve pays. -/
theorem contact_pays :
    OnlyParent parentActor.user ∧ ParentAct.pay.Succeeds parentActor 1 contactTrip ∧
    ¬MayDecide parentActor 1 contactTrip := by
  refine ⟨parentActor_only, pays_iff.2 (by decide +kernel), ?_⟩
  rintro ⟨n, hn, hid, p, hp, hmay⟩
  have hnone : ∀ n ∈ contactTrip.val.enrollments,
      canParentApproveForStudent contactTrip.val n.studentId 4 = false := by decide +kernel
  cases hp
  rw [hnone n hn] at hmay
  cases hmay

end Sams.Trips
