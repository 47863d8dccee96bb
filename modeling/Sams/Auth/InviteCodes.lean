import Sams.Auth.Registration

/-!
# What redeems an invitation

The code of a registration is compared with three columns of `invitations`; where no row has
it, a pending row of `user_invitations` is taken whose id or email it is, or, of a code that
begins with `INV-`, the newest of all. School and role are then those of the row, whichever
column it was found by.

**`redeemed_iff`**: a string redeems nothing but the invitation whose secret it is if and only if
the row that is found has it as its secret, or can no longer be used.
-/

namespace Sams.Auth

open Programs Interleaving AuthService

section Codes

variable [Unicode] [Platform]

/-! ## What a code resolves to -/

/-- The string is the secret that was mailed for an invitation of these terms: the code of a row of
`invitations`, the id of a pending row of `user_invitations`. -/
def Secret (w : World) (code : String) (i : Invitation) : Prop :=
  (∃ row ∈ w.invitations, row.toInvitation = i ∧ UpperEq row.code code) ∨
    ∃ row ∈ w.userInvitations, row.status = "pending" ∧ row.toInvitation code = i ∧
      UpperEq (Platform.uuidText row.id) code

/-- The invitation can no longer be used. -/
def Spent (i : Invitation) (now : Nat) : Prop :=
  i.isActive = false ∨ i.expiresAt.any (· < now) ∨ i.maxUses ≤ i.usesCount

instance (i : Invitation) (now : Nat) : Decidable (Spent i now) :=
  inferInstanceAs (Decidable (_ ∨ _))

/-- What the tables have for a code. -/
def World.offered (w : World) (code : String) : Option Invitation :=
  match w.invitationByCode code with
  | some row => some row.toInvitation
  | none => (w.pendingInvitation code).map (UserInvitationRow.toInvitation code)

theorem seq_invitationOf (code : String) (s : State) :
    (invitationOf code).seq s = .ok (s.val.offered code) s := by
  unfold invitationOf World.offered ControlPlaneRepository.getInvitationByCode
  rw [Proc.seq_bind, read, Proc.seq_look, query_bind]
  cases s.val.invitationByCode code with
  | some row => rfl
  | none => rfl

omit [Platform] in
/-- An invitation passes the checks if and only if it can be used, by this email. -/
theorem checkInvitation_ok {i : Invitation} {email : String} {s s' : State} :
    (checkInvitation i email).seq s = .ok () s' ↔
      (¬Spent i s.val.now ∧ reservedFor i email = none) ∧ s = s' := by
  have hreserved : ((reservedFor i email).elim (pure ()) .fail : Task Unit).seq s = .ok () s' ↔
      reservedFor i email = none ∧ s = s' := by
    cases reservedFor i email with
    | none => exact pure_eq_ok.trans (by simp)
    | some e => exact throw_eq_ok.trans (by simp)
  unfold checkInvitation clock read Spent
  simp only [Proc.seq_bind, Proc.seq_failIf, Proc.seq_look, raiseIf_bind, query_bind]
  by_cases hactive : i.isActive = false
  · rw [if_pos hactive]
    exact iff_of_false (by simp) fun h => h.1.1 (.inl hactive)
  by_cases hexpired : i.expiresAt.any (· < s.val.now) = true
  · rw [if_neg hactive, if_pos hexpired]
    exact iff_of_false (by simp) fun h => h.1.1 (.inr (.inl hexpired))
  by_cases hused : i.maxUses ≤ i.usesCount
  · rw [if_neg hactive, if_neg hexpired, if_pos hused]
    exact iff_of_false (by simp) fun h => h.1.1 (.inr (.inr hused))
  · rw [if_neg hactive, if_neg hexpired, if_neg hused, hreserved]
    exact and_congr_left fun _ =>
      ⟨fun h => ⟨fun hspent => hspent.elim hactive (·.elim hexpired hused), h⟩, (·.2)⟩

omit [Platform] in
/-- Every invitation is for somebody. -/
theorem reservedFor_target (i : Invitation) : ∃ email, reservedFor i email = none := by
  unfold reservedFor
  cases Text.nonEmpty i.targetEmail with
  | none => exact ⟨"", rfl⟩
  | some target => exact ⟨target, if_pos rfl⟩

variable [Settings]

/-- Who goes on with an invitation is who passes its checks. -/
theorem accept_invited {r r' : Registrant} {i : Invitation} {s s' : State}
    (hr : r.invitation = none) :
    ((accept r).seq s = .ok r' s' ∧ r'.invitation = some i) ↔
      (s.val.offered r.code = some i ∧ ¬Spent i s.val.now ∧ reservedFor i r.email = none) ∧
        r' = lockedTo i r ∧ s = s' := by
  unfold accept
  rw [Proc.seq_bind, bind_of_ok (seq_invitationOf r.code s)]
  cases s.val.offered r.code with
  | none =>
    refine iff_of_false ?_ fun h => nomatch h.1.1
    rintro ⟨hok, hinvited⟩
    rw [Proc.seq_bind, Proc.seq_failIf, raiseIf_bind] at hok
    split_ifs at hok
    obtain ⟨rfl, -⟩ := pure_eq_ok.1 hok
    rw [hr] at hinvited
    cases hinvited
  | some found =>
    dsimp only
    rw [Proc.seq_bind, bind_eq_ok]
    constructor
    · rintro ⟨⟨_, t, hcheck, hok⟩, hinvited⟩
      obtain ⟨hvalid, rfl⟩ := checkInvitation_ok.1 hcheck
      obtain ⟨rfl, rfl⟩ := pure_eq_ok.1 hok
      obtain rfl : found = i := Option.some.inj hinvited
      exact ⟨⟨rfl, hvalid⟩, rfl, rfl⟩
    · rintro ⟨⟨hfound, hvalid⟩, rfl, rfl⟩
      obtain rfl := Option.some.inj hfound
      exact ⟨⟨(), s, checkInvitation_ok.2 ⟨hvalid, rfl⟩, rfl⟩, rfl⟩

/-! ## What a registration redeems -/

/-- The registration is opened on the invitation: its school and its role are
those of the account. -/
def RedeemsInvitation (s : State) (email password role : String)
    (tenantId inviteCode : Option String) (i : Invitation) : Prop :=
  Text.strip (inviteCode.getD "") ≠ "" ∧
    ∃ r s', (accept ⟨email, password, role, tenantId, Text.strip (inviteCode.getD ""), none⟩).seq
      s = .ok r s' ∧ r.invitation = some i

/-- The row that the tables have for a code has it as its secret, or can no longer be used. -/
structure FoundBySecret (w : World) (code : String) : Prop where
  invitation : ∀ row, w.invitationByCode code = some row →
    UpperEq row.code code ∨ Spent row.toInvitation w.now
  pending : w.invitationByCode code = none → ∀ row, w.pendingInvitation code = some row →
    ∃ same ∈ w.userInvitations, same.status = "pending" ∧
      same.toInvitation code = row.toInvitation code ∧ UpperEq (Platform.uuidText same.id) code

omit [Unicode] [Platform] [Settings] in
/-- A row of `invitations` expires, and one of `user_invitations` never does. -/
theorem toInvitation_ne (row : InvitationRow) (row' : UserInvitationRow) (code : String) :
    row.toInvitation ≠ row'.toInvitation code := fun h => nomatch congrArg Invitation.expiresAt h

omit [Settings] in
theorem foundBySecret_iff (w : World) (code : String) : FoundBySecret w code ↔
    ∀ i, w.offered code = some i → Spent i w.now ∨ Secret w code i := by
  unfold World.offered Secret
  constructor
  · intro h i hi
    cases hrow : w.invitationByCode code with
    | some row =>
      rw [hrow] at hi
      obtain rfl := Option.some.inj hi
      rcases h.invitation row hrow with hcode | hspent
      · exact .inr (.inl ⟨row, List.mem_of_find?_eq_some hrow, rfl, hcode⟩)
      · exact .inl hspent
    | none =>
      rw [hrow] at hi
      obtain ⟨row, hpending, rfl⟩ := Option.map_eq_some_iff.1 hi
      exact .inr (.inr (h.pending hrow row hpending))
  · intro h
    constructor
    case invitation =>
      intro row hrow
      rcases h row.toInvitation (by rw [hrow]) with hspent | ⟨row', -, hsame, hcode⟩ |
        ⟨row', -, -, hsame, -⟩
      · exact .inr hspent
      · have hcodes : row'.code = row.code := congrArg Invitation.code hsame
        exact .inl (hcodes ▸ hcode)
      · exact absurd hsame.symm (toInvitation_ne row row' code)
    case pending =>
      intro hrow row hpending
      rcases h (row.toInvitation code) (by rw [hrow, hpending]; rfl) with
        hspent | ⟨row', -, hsame, -⟩ | hsame
      · rcases hspent with hspent | hspent | hspent
        · cases hspent
        · cases hspent
        · exact absurd hspent (show ¬(1 : Int) ≤ 0 by decide)
      · exact absurd hsame (toInvitation_ne row' row code)
      · exact hsame

/-- **What redeems an invitation** is its secret if and only if the row that is found for the code
has it as its secret, or can no longer be used. -/
theorem redeemed_iff (s : State) (inviteCode : Option String) :
    (∀ email password role tenantId i,
      RedeemsInvitation s email password role tenantId inviteCode i →
        Secret s.val (Text.strip (inviteCode.getD "")) i) ↔
      Text.strip (inviteCode.getD "") = "" ∨
        FoundBySecret s.val (Text.strip (inviteCode.getD "")) := by
  unfold RedeemsInvitation
  generalize Text.strip (inviteCode.getD "") = code
  rw [foundBySecret_iff]
  constructor
  · intro h
    refine or_iff_not_imp_left.2 fun hcode i hi => or_iff_not_imp_left.2 fun hspent => ?_
    obtain ⟨email, hemail⟩ := reservedFor_target i
    refine h email "" "" none i ⟨hcode, ?_⟩
    exact ⟨_, _, (accept_invited rfl).2 ⟨⟨hi, hspent, hemail⟩, rfl, rfl⟩⟩
  · rintro h email password role tenantId i ⟨hcode, r, s', haccept⟩
    obtain ⟨⟨hi, hspent, -⟩, -⟩ := (accept_invited rfl).1 haccept
    exact ((h.resolve_left hcode) i hi).resolve_left hspent

end Codes

/-! ## The email of the invited -/

section Example

attribute [local instance] ascii plain defaults

/-- A school whose head is invited. -/
def headInvited : State where
  val :=
    { tenants := [⟨"north"⟩], schemas := [⟨"north", [], 1⟩], superAdmins := [], parents := []
      parentTenantLinks := [], identities := [], userTenantMap := []
      invitations :=
        [⟨0, "INV-NORTH-SCHOOL_ADMIN-5E", "north", "school_admin", some "head@x", 1, 0,
        100, 0, true⟩]
      userInvitations := [], selectionChallenges := [], refreshTokens := [], opened := ["north"]
      unreachable := [], membershipCache := [], seq := 1, now := 10 }
  ok := by decide +kernel

/-- The email is enough to become the head. -/
example : (returned (registerUser "head@x" "p" "student" none (some "head@x") ⟨true, true⟩).seq
    headInvited).map (fun token => (token.tenantId, token.role)) =
      some ("north", "school_admin") := by
  decide +kernel

theorem head_offered : headInvited.val.offered "head@x" =
    some ⟨"INV-NORTH-SCHOOL_ADMIN-5E", "north", "school_admin", some "head@x", 1, 0,
      some 100, true⟩ := by
  decide +kernel

theorem email_redeems : ¬∀ s inviteCode email password role tenantId i,
    RedeemsInvitation s email password role tenantId inviteCode i →
      Secret s.val (Text.strip (inviteCode.getD "")) i := by
  intro h
  have hstrip : Text.strip "head@x" = "head@x" := by decide +kernel
  have hsecret := h headInvited (some "head@x") "head@x" "p" "student" none _
    ⟨by decide +kernel, _, _, (accept_invited rfl).2 ⟨⟨by
      show headInvited.val.offered (Text.strip "head@x") = _
      rw [hstrip]
      exact head_offered, by decide +kernel, by decide +kernel⟩, rfl, rfl⟩⟩
  rcases hsecret with ⟨row, hrow, -, hcode⟩ | ⟨row, hrow, -⟩
  · have hother : ∀ row ∈ headInvited.val.invitations, ¬UpperEq row.code (Text.strip "head@x") := by
      decide +kernel
    exact hother row hrow hcode
  · cases hrow

end Example

end Sams.Auth
