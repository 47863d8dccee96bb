import Sams.Auth.Growth
import Sams.Lib.Taking

/-!
# Redeeming a refresh token once

Two rotations of the same token both succeed when each has read the row before the other revokes it:
the revoking `UPDATE` puts no condition on the row. Where it finds its token unrevoked, a rotation
takes the token from every other one, and a refresh token is redeemed at most once in every run
(**`rotation_run`**), whatever other requests the run interleaves.
-/

namespace Sams.Auth

open Programs Runs Rows Interleaving AuthService

section Redemption

variable [Unicode]

/-- The token with this hash is revoked. -/
def Revoked (tokenHash : String) (s : State) : Prop :=
  ∃ r ∈ s.val.refreshTokens, r.tokenHash = tokenHash ∧ r.revokedAt.isSome

/-- The token with this identifier has this hash. -/
def HasHash (tokenId : Nat) (tokenHash : String) (s : State) : Prop :=
  ∃ r ∈ s.val.refreshTokens, r.id = tokenId ∧ r.tokenHash = tokenHash

/-- The revoking `UPDATE` finds its token unrevoked. -/
def Unrevoked : Mark → State → Prop
  | .revoke tokenId, s => ∀ r ∈ s.val.refreshTokens, r.id = tokenId → r.revokedAt = none

instance (mark : Mark) (s : State) : Decidable (Unrevoked mark s) := by
  cases mark
  unfold Unrevoked
  infer_instance

theorem stable_revoked (tokenHash : String) : Proc.Stable Grows (Revoked tokenHash) := by
  rintro s s' ⟨r, hr, hhash, hrevoked⟩ hgrows
  obtain ⟨r', hr', hlater⟩ := hgrows.tokens r hr
  exact ⟨r', hr', hlater.tokenHash.trans hhash, hlater.revoked hrevoked⟩

theorem stable_hasHash (tokenId : Nat) (tokenHash : String) :
    Proc.Stable Grows (HasHash tokenId tokenHash) := by
  rintro s s' ⟨r, hr, hid, hhash⟩ hgrows
  obtain ⟨r', hr', hlater⟩ := hgrows.tokens r hr
  exact ⟨r', hr', hlater.id.trans hid, hlater.tokenHash.trans hhash⟩

/-! ## One rotation -/

section Rotation

variable {tokenHash : String}

/-- The `UPDATE` takes the token. -/
theorem takes_rotate (oldId newId : Nat) :
    (ControlPlaneRepository.rotateRefreshToken oldId newId).Takes Unrevoked Grows
      (Revoked tokenHash)
      (HasHash oldId tokenHash) := by
  refine Proc.takes_act fun s hs hexpects u s' h => ?_
  obtain ⟨r, hr, hid, hhash⟩ := hs
  have hunrevoked : r.revokedAt = none := hexpects _ rfl r hr hid
  constructor
  · rintro ⟨r', hr', hhash', hrevoked⟩
    have hsame : r' = r := s.ok.keys.refresh_hash.eq_of_key_eq hr' hr (hhash'.trans hhash.symm)
    rw [hsame, hunrevoked] at hrevoked
    cases hrevoked
  · refine ⟨{ r with revokedAt := some s.val.now, replacedBy := some newId }, ?_, hhash, rfl⟩
    rw [exec_eq_ok.1 h]
    exact mem_updateWhere_of_pos hr (by simpa using hid)

variable [Platform]

theorem takes_supersede (row : RefreshTokenRow) (newRaw : String) :
    (supersede row newRaw).Takes Unrevoked Grows (Revoked tokenHash)
      (HasHash row.id tokenHash) := by
  refine ((handles_grows Unrevoked).look _).takes_bind (fun _ _ _ h => h) (stable_hasHash _ _) ?_
  intro newRow
  cases newRow with
  | none => exact Proc.takes_fail _
  | some newRow => exact takes_rotate row.id newRow.id

theorem takes_rotateRow (row : RefreshTokenRow) :
    (rotateRow row).Takes Unrevoked Grows (Revoked tokenHash) (HasHash row.id tokenHash) := by
  have h := handles_grows Unrevoked
  have hstable := stable_hasHash row.id tokenHash
  have hrely : ∀ (mark : Option Mark) s s', Grows s s' → Grows s s' := fun _ _ _ h => h
  refine (h.look _).takes_bind hrely hstable fun now => Proc.takes_failIf_bind fun _ => ?_
  refine (h.resolveLocalAccount _ _ _).takes_bind hrely hstable fun account => ?_
  refine (h.map _ h.draw).takes_bind hrely hstable fun newRaw => ?_
  refine grows_refreshExpiry.takes_bind hrely hstable fun expiresAt => ?_
  refine (keeps_createRefreshToken _ _ _ _ _ _).takes_bind hrely hstable fun _ => ?_
  exact (takes_supersede row newRaw).bind _

/-- **A rotation takes its token.** -/
theorem takes_rotateRefreshToken (raw : String) :
    (rotateRefreshToken raw).Takes Unrevoked Grows (Revoked (Platform.hashToken raw))
      fun _ => True := by
  let found : Option RefreshTokenRow → State → Prop := fun row s =>
    ∀ r ∈ row, HasHash r.id (Platform.hashToken raw) s
  have hlook : (ControlPlaneRepository.getRefreshToken (Platform.hashToken raw)).Valid Unrevoked
      Grows (fun _ => Grows) found fun _ => True := by
    refine Proc.valid_act (fun s _ _ row s' h => ?_) (fun s _ _ e s' h => by cases h) fun row => ?_
    · obtain ⟨rfl, rfl⟩ := query_eq_ok.1 h
      refine ⟨refl_of Grows s, fun r hr => ⟨r, List.mem_of_find?_eq_some hr, rfl, ?_⟩⟩
      simpa using List.find?_some hr
    · exact fun s s' hs hgrows r hr => stable_hasHash _ _ s s' (hs r hr) hgrows
  refine Proc.takes_bind hlook fun row => ?_
  cases row with
  | none => exact Proc.takes_fail _
  | some row =>
    dsimp only
    split_ifs
    · refine Proc.Takes.mono ?_ fun _ _ => trivial
      exact (keeps_revokeRefreshTokenFamily row.familyId).takes_bind (fun _ _ _ h => h)
        (Proc.stable_true Grows) fun _ => Proc.takes_fail _
    · exact (takes_rotateRow row).mono fun s hs => hs row rfl

end Rotation

/-! ## Runs -/

section Runs

variable [Platform] {ι : Type} [DecidableEq ι]

/-- The requests at their start. -/
def requestPool (s : State) (requests : ι → Request) : Pool ι Mark PyError State Response :=
  Pool.start s fun i => (requests i).task

/-- Of the rotations that present one value, at most one has returned. -/
def RedeemedOnce (requests : ι → Request) (P : Pool ι Mark PyError State Response) : Prop :=
  ∀ i j raw a b, requests i = .rotate raw → requests j = .rotate raw →
    P.threads i = .ret a → P.threads j = .ret b → i = j

/-- **A refresh token is redeemed at most once** in every run in which each revoking `UPDATE` finds
its token unrevoked. -/
theorem rotation_run (s : State) (requests : ι → Request) {is : List ι}
    (h : EachStep Pool.step (fun P i => P.Undisturbed (fun _ => Unrevoked) i)
      (requestPool s requests) is) :
    Throughout Pool.step (RedeemedOnce requests) (requestPool s requests) is := by
  let racers : String → ι → Prop := fun raw i => requests i = .rotate raw
  let I : Pool ι Mark PyError State Response → Prop := fun P =>
    P.Sound (fun _ => Unrevoked) Grows (fun _ _ => Grows) (fun _ _ _ => True) ∧
      ∀ raw, P.Racing (fun _ => Unrevoked) Grows (Revoked (Platform.hashToken raw)) (racers raw)
  have hstart : I (requestPool s requests) := by
    refine ⟨Pool.sound_start fun i => ?_, fun raw => Pool.racing_start fun i hi => ?_⟩
    · exact Proc.Gives.valid (grows_task Unrevoked (requests i)) Grows _
    · rw [hi]
      exact (takes_rotateRefreshToken raw).map _
  have hrely : ∀ (_ : ι) (_ : Option Mark) s s', Grows s s' → Grows s s' := fun _ _ _ _ h => h
  have hstep : ∀ P i, I P → P.Undisturbed (fun _ => Unrevoked) i → I (P.step i) := by
    intro P i hP hi
    obtain ⟨hsound, hgrows⟩ := hP.1.step (fun _ => refl_of Grows) hrely hi
    exact ⟨hsound, fun raw => (hP.2 raw).step (stable_revoked _) hi hgrows⟩
  refine (run_throughout hstep hstart h).mono fun P hP => ?_
  intro i j raw a b hi hj hai hbj
  exact (hP.2 raw).unique hi hj hai hbj

end Runs

end Redemption

/-! ## Two rotations of one token -/

section Example

attribute [local instance] ascii plain

/-- A teacher of a school with a session. -/
def oneSession : State where
  val :=
    { tenants := [⟨"north"⟩]
      schemas := [⟨"north", [⟨1, "t@x", "teacher", [], [], "$p"⟩], 2⟩]
      superAdmins := [], parents := [], parentTenantLinks := []
      identities := [⟨2, "t@x"⟩]
      userTenantMap := [⟨2, "t@x", "north", "teacher", .active, 0, none, false⟩]
      invitations := [], userInvitations := [], selectionChallenges := []
      refreshTokens := [⟨3, "r", 2, "north", "teacher", 4, none, none, 1000⟩]
      opened := ["north"], unreachable := [], membershipCache := [], seq := 5, now := 10 }
  ok := by decide +kernel

/-- Both present the token of the session. -/
def rotateBoth : Bool → Request := fun _ => .rotate "r"

/-- One rotation after the other. -/
def inTurn : List Bool := List.replicate 11 false ++ List.replicate 11 true

/-- The second has read the row before the first goes on. -/
def overtaken : List Bool :=
  true :: List.replicate 11 false ++ List.replicate 10 true

theorem inTurn_redeemed :
    Throughout Pool.step (RedeemedOnce rotateBoth) (requestPool oneSession rotateBoth) inTurn :=
  rotation_run oneSession rotateBoth (by decide +kernel)

/-- Both rotations return. -/
theorem overtaken_redeemed :
    ¬Throughout Pool.step (RedeemedOnce rotateBoth) (requestPool oneSession rotateBoth)
      overtaken := by
  have hboth : ∀ i,
      ((run Pool.step (requestPool oneSession rotateBoth) overtaken).threads i).value.isSome
      = true := by
    decide +kernel
  intro h
  obtain ⟨a, ha⟩ := Option.isSome_iff_exists.1 (hboth false)
  obtain ⟨b, hb⟩ := Option.isSome_iff_exists.1 (hboth true)
  have hsame :=
    h.last false true "r" a b rfl rfl (Proc.value_eq_some.1 ha) (Proc.value_eq_some.1 hb)
  cases hsame

end Example

end Sams.Auth
