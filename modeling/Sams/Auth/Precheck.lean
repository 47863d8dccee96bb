import Sams.Auth.InviteCodes

/-!
# The preview of an invitation

Before a form is filled in, the page asks what the code is for. The answer is put together beside
the registration, from the same tables and with checks of its own.

**`precheck_agrees`**: a registration goes on with a code if and only if the code is shown as valid
for its email, or it is the bootstrap code of the platform, which is never shown; and then it has
the school and the role that were shown.
-/

namespace Sams.Auth

open Programs Interleaving AuthService

/-- What the page is told of a code. -/
structure Preview where
  code : String
  tenantId : Option String
  role : Option String
  targetEmail : Option String
  maxUses : Int
  usesCount : Int
  deriving DecidableEq, Repr

def Invitation.preview (i : Invitation) : Preview where
  code := i.code
  tenantId := some i.tenantId
  role := some i.role
  targetEmail := i.targetEmail
  maxUses := i.maxUses
  usesCount := i.usesCount

/-- A passphrase is for no school and for no role. -/
def passphrase (code : String) : Preview where
  code
  tenantId := none
  role := none
  targetEmail := none
  maxUses := 999999
  usesCount := 0

section Preview

variable [Unicode]

/-- What the registration makes of a school or a role that was shown. -/
def Preview.locks (shown : Option String) : Option String := (Text.nonEmpty shown).map normalize

/-- The preview is shown for this email, or for all. -/
def Preview.Admits (p : Preview) (email : String) : Prop :=
  ∀ target ∈ Text.nonEmpty p.targetEmail, normalize target = normalize email

variable [Platform]

namespace AuthService

/-- `get_invitation` -/
def getInvitation (code : String) : Task Preview := do
  let found ← invitationOf (Text.strip code)
  match found with
  | some i => do
    .failIf (i.isActive = false) (.valueError "Invalid or inactive invitation code")
    let now ← clock
    .failIf (i.expiresAt.any (· < now)) (.valueError "Invitation code has expired")
    .failIf (i.maxUses ≤ i.usesCount) (.valueError "Invitation code maximum usage limit reached")
    pure i.preview
  | none => do
    .failIf (Text.lower (Text.strip code) ∉ fallbackCodes)
      (.valueError "Invalid or inactive invitation code")
    pure (passphrase (Text.strip code))

end AuthService

/-! ## What is shown -/

variable {code email password role : String} {tenantId : Option String} {s s' : State}

omit [Platform] in
/-- What a registration reserves is what the preview says. -/
theorem admits_preview {i : Invitation} : i.preview.Admits email ↔ reservedFor i email = none := by
  unfold Preview.Admits Invitation.preview reservedFor
  cases Text.nonEmpty i.targetEmail with
  | none => simp
  | some target =>
    by_cases hsame : normalize target = normalize email
    · simp [hsame]
    · simp [hsame]

/-- **A preview** is of the invitation that the tables have for the code, where it may be used,
or of a passphrase. -/
theorem getInvitation_ok {p : Preview} : (AuthService.getInvitation code).seq s = .ok p s' ↔
    s = s' ∧ ((∃ i, s.val.offered (Text.strip code) = some i ∧ ¬Spent i s.val.now ∧ p = i.preview) ∨
      s.val.offered (Text.strip code) = none ∧ Text.lower (Text.strip code) ∈ fallbackCodes ∧
        p = passphrase (Text.strip code)) := by
  unfold AuthService.getInvitation clock read
  rw [Proc.seq_bind, bind_of_ok (seq_invitationOf (Text.strip code) s)]
  cases s.val.offered (Text.strip code) with
  | none =>
    dsimp only
    rw [Proc.seq_bind, Proc.seq_failIf, raiseIf_bind]
    by_cases hcode : Text.lower (Text.strip code) ∈ fallbackCodes
    · rw [if_neg (not_not.2 hcode)]
      refine pure_eq_ok.trans ?_
      simp [hcode, eq_comm, and_comm]
    · rw [if_pos hcode]
      exact iff_of_false nofun (by simp [hcode])
  | some i =>
    dsimp only
    simp only [Proc.seq_bind, Proc.seq_failIf, Proc.seq_look, raiseIf_bind, query_bind]
    by_cases hspent : Spent i s.val.now
    · refine iff_of_false (fun h => ?_) (by simp [hspent])
      rcases hspent with hactive | hexpired | hused
      · rw [if_pos hactive] at h
        cases h
      · rw [if_pos hexpired] at h
        split_ifs at h
      · rw [if_pos hused] at h
        split_ifs at h
    · obtain ⟨hactive, hexpired, hused⟩ : ¬i.isActive = false ∧
          ¬i.expiresAt.any (· < s.val.now) = true ∧
          ¬i.maxUses ≤ i.usesCount := by simpa [Spent] using hspent
      rw [if_neg hactive, if_neg hexpired, if_neg hused]
      refine pure_eq_ok.trans ?_
      simp [hspent, eq_comm, and_comm]

variable [Settings]

/-- Whoever has the bootstrap code of the platform asks for the role of its operator with it. -/
def Bootstraps (s : State) (role code : String) : Prop :=
  s.val.offered code = none ∧ role = "super_admin" ∧ code = Settings.superAdminBootstrapCode

/-- The registration goes on with the code. -/
theorem accept_ok {r r' : Registrant} : (accept r).seq s = .ok r' s' ↔ s = s' ∧
    ((∃ i, s.val.offered r.code = some i ∧ (¬Spent i s.val.now ∧ reservedFor i r.email = none) ∧
      r' = lockedTo i r) ∨
      s.val.offered r.code = none ∧ isRecognized r.role r.code = true ∧ r' = r) := by
  unfold accept
  rw [Proc.seq_bind, bind_of_ok (seq_invitationOf r.code s)]
  cases s.val.offered r.code with
  | none =>
    dsimp only
    rw [Proc.seq_bind, Proc.seq_failIf, raiseIf_bind]
    by_cases hcode : isRecognized r.role r.code = true
    · rw [if_neg (by simp [hcode])]
      refine pure_eq_ok.trans ?_
      simp [hcode, eq_comm, and_comm]
    · rw [if_pos (by simpa using hcode)]
      exact iff_of_false nofun (by simp [hcode])
  | some i =>
    dsimp only
    rw [Proc.seq_bind, bind_eq_ok]
    constructor
    · rintro ⟨_, t, hcheck, hok⟩
      obtain ⟨hvalid, rfl⟩ := checkInvitation_ok.1 hcheck
      obtain ⟨rfl, rfl⟩ := pure_eq_ok.1 hok
      exact ⟨rfl, .inl ⟨i, rfl, hvalid, rfl⟩⟩
    · rintro ⟨rfl, ⟨i', hi, hvalid, rfl⟩ | ⟨hnone, -⟩⟩
      · obtain rfl := Option.some.inj hi
        exact ⟨(), s, checkInvitation_ok.2 ⟨hvalid, rfl⟩, rfl⟩
      · cases hnone

/-- The registrant has the school and the role that were shown, and chooses where none is. -/
structure Preview.Locks (p : Preview) (r r' : Registrant) : Prop where
  tenant : r'.tenantId = (Preview.locks p.tenantId).or r.tenantId
  role : r'.role = (Preview.locks p.role).getD r.role
  invited : r'.invitation.isSome ↔ p.tenantId.isSome

omit [Platform] [Settings] in
theorem locks_lockedTo (i : Invitation) (r : Registrant) : i.preview.Locks r (lockedTo i r) := by
  unfold Invitation.preview lockedTo
  refine ⟨?_, ?_, by simp⟩
  · by_cases htenant : i.tenantId = ""
    · simp [Preview.locks, htenant]
    · simp [Preview.locks, htenant]
  · by_cases hrole : i.role = ""
    · simp [Preview.locks, hrole]
    · simp [Preview.locks, hrole]

/-- **The preview agrees** with the registration. A registration goes on with a code if and only if
the code is shown as valid for its email, or it is the bootstrap code of the platform; then it has
the school and the role that were shown. Neither writes anything. -/
theorem precheck_agrees (s : State) (code email password role : String) (tenantId : Option String) :
    let r : Registrant := ⟨email, password, role, tenantId, Text.strip code, none⟩
    ((∃ r' s', (accept r).seq s = .ok r' s') ↔
      (∃ p s', (AuthService.getInvitation code).seq s = .ok p s' ∧ p.Admits email) ∨
        Bootstraps s role (Text.strip code)) ∧
    ∀ p s' r' t', (AuthService.getInvitation code).seq s = .ok p s' → (accept r).seq s = .ok r' t' →
      s = s' ∧ s = t' ∧ p.Locks r r' := by
  intro r
  constructor
  · constructor
    · rintro ⟨r', s', h⟩
      obtain ⟨-, ⟨i, hi, ⟨hspent, hreserved⟩, -⟩ | ⟨hnone, hcode, -⟩⟩ := accept_ok.1 h
      · exact .inl ⟨i.preview, s, getInvitation_ok.2 ⟨rfl, .inl ⟨i, hi, hspent, rfl⟩⟩,
          admits_preview.2 hreserved⟩
      · rcases of_decide_eq_true hcode with hfallback | hbootstrap
        · refine .inl ⟨passphrase (Text.strip code), s,
            getInvitation_ok.2 ⟨rfl, .inr ⟨hnone, hfallback, rfl⟩⟩, ?_⟩
          exact fun target htarget => nomatch htarget
        · exact .inr ⟨hnone, hbootstrap⟩
    · rintro (⟨p, s', h, hadmits⟩ | ⟨hnone, hbootstrap⟩)
      · obtain ⟨-, ⟨i, hi, hspent, rfl⟩ | ⟨hnone, hfallback, -⟩⟩ := getInvitation_ok.1 h
        · exact ⟨lockedTo i r, s,
            accept_ok.2 ⟨rfl, .inl ⟨i, hi, ⟨hspent, admits_preview.1 hadmits⟩, rfl⟩⟩⟩
        · exact ⟨r, s, accept_ok.2 ⟨rfl, .inr ⟨hnone, decide_eq_true (.inl hfallback), rfl⟩⟩⟩
      · exact ⟨r, s, accept_ok.2 ⟨rfl, .inr ⟨hnone, decide_eq_true (.inr hbootstrap), rfl⟩⟩⟩
  · intro p s' r' t' hshown haccepted
    obtain ⟨hsame, hp⟩ := getInvitation_ok.1 hshown
    obtain ⟨hsame', hr'⟩ := accept_ok.1 haccepted
    refine ⟨hsame, hsame', ?_⟩
    rcases hp with ⟨i, hi, -, rfl⟩ | ⟨hnone, -, rfl⟩
    · rcases hr' with ⟨i', hi', -, rfl⟩ | ⟨hnone', -⟩
      · obtain rfl := Option.some.inj (hi.symm.trans hi')
        exact locks_lockedTo i r
      · rw [hi] at hnone'
        cases hnone'
    · rcases hr' with ⟨i', hi', -⟩ | ⟨-, -, rfl⟩
      · rw [hnone] at hi'
        cases hi'
      · exact ⟨rfl, rfl, Iff.rfl⟩

end Preview

end Sams.Auth
