import Sams.Auth.Actions

/-!
# What every request leaves standing

Refresh tokens and selection challenges are never deleted, a revoked token stays revoked and a
consumed challenge consumed, and what else they say is never rewritten. The clock does not go back.
Every action of every request keeps to this (`grows_task`), wherever it interleaves with the others.
-/

namespace Sams.Auth

open Programs Rows Interleaving

/-- The same token, later. -/
structure RefreshTokenRow.Later (r r' : RefreshTokenRow) : Prop where
  id : r'.id = r.id
  tokenHash : r'.tokenHash = r.tokenHash
  family : r'.familyId = r.familyId
  expires : r'.expiresAt = r.expiresAt
  revoked : r.revokedAt.isSome → r'.revokedAt.isSome

/-- The same challenge, later. -/
structure ChallengeRow.Later (c c' : ChallengeRow) : Prop where
  tokenHash : c'.tokenHash = c.tokenHash
  matched : c'.matchedTenants = c.matchedTenants
  expires : c'.expiresAt = c.expiresAt
  consumed : c.consumedAt.isSome → c'.consumedAt.isSome

theorem RefreshTokenRow.later_refl (r : RefreshTokenRow) :
    r.Later r := ⟨rfl, rfl, rfl, rfl, fun h => h⟩

theorem ChallengeRow.later_refl (c : ChallengeRow) : c.Later c := ⟨rfl, rfl, rfl, fun h => h⟩

variable [Unicode]

structure Grows (s s' : State) : Prop where
  tokens : ∀ r ∈ s.val.refreshTokens, ∃ r' ∈ s'.val.refreshTokens, r.Later r'
  challenges : ∀ c ∈ s.val.selectionChallenges, ∃ c' ∈ s'.val.selectionChallenges, c.Later c'
  now : s.val.now ≤ s'.val.now

instance : IsPreorder State Grows where
  refl s := ⟨fun r hr => ⟨r, hr, r.later_refl⟩, fun c hc => ⟨c, hc, c.later_refl⟩, le_rfl⟩
  trans s s' s'' h h' := by
    refine ⟨fun r hr => ?_, fun c hc => ?_, h.now.trans h'.now⟩
    · obtain ⟨r', hr', hl⟩ := h.tokens r hr
      obtain ⟨r'', hr'', hl'⟩ := h'.tokens r' hr'
      exact ⟨r'', hr'', hl'.id.trans hl.id, hl'.tokenHash.trans hl.tokenHash,
        hl'.family.trans hl.family, hl'.expires.trans hl.expires, hl'.revoked ∘ hl.revoked⟩
    · obtain ⟨c', hc', hl⟩ := h.challenges c hc
      obtain ⟨c'', hc'', hl'⟩ := h'.challenges c' hc'
      exact ⟨c'', hc'', hl'.tokenHash.trans hl.tokenHash, hl'.matched.trans hl.matched,
        hl'.expires.trans hl.expires, hl'.consumed ∘ hl.consumed⟩

theorem Quiet.grows {s s' : State} (h : Quiet s s') : Grows s s' where
  tokens r hr := ⟨r, h.tokens ▸ hr, r.later_refl⟩
  challenges c hc := ⟨c, h.challenges ▸ hc, c.later_refl⟩
  now := h.now

/-! ## Statements -/

/-- A write of the refresh tokens. -/
theorem grows_of_tokens {s s' : State} (hchallenges :
      s'.val.selectionChallenges = s.val.selectionChallenges) (hnow : s'.val.now = s.val.now)
    (htokens : ∀ r ∈ s.val.refreshTokens, ∃ r' ∈ s'.val.refreshTokens, r.Later r') :
    Grows s s' where
  tokens := htokens
  challenges c hc := ⟨c, hchallenges ▸ hc, c.later_refl⟩
  now := hnow.ge

/-- A write of the challenges. -/
theorem grows_of_challenges {s s' : State} (htokens : s'.val.refreshTokens = s.val.refreshTokens)
    (hnow : s'.val.now = s.val.now) (hchallenges : ∀ c ∈ s.val.selectionChallenges,
      ∃ c' ∈ s'.val.selectionChallenges, c.Later c') : Grows s s' where
  tokens r hr := ⟨r, htokens ▸ hr, r.later_refl⟩
  challenges := hchallenges
  now := hnow.ge

section Statements

open ControlPlaneRepository

variable {H : Mark → State → Prop}

theorem keeps_quiet {α : Type} {m : EStateM PyError State α} (h : Moves Quiet m) :
    (Proc.once m : Task α).Keeps H fun _ => Grows :=
  Proc.keeps_once fun s => (h s).grows

theorem keeps_createRefreshToken (tokenHash : String) (identityId : Nat) (tenantId role : String)
    (familyId expiresAt : Nat) :
    (createRefreshToken tokenHash identityId tenantId role familyId expiresAt).Keeps H fun _ =>
      Grows := by
  refine Proc.keeps_once (moves_exec fun s _ => grows_of_tokens rfl rfl fun r hr => ?_)
  exact ⟨r, List.mem_append_left _ hr, r.later_refl⟩

theorem keeps_revokeRefreshTokenFamily (familyId : Nat) :
    (revokeRefreshTokenFamily familyId).Keeps H fun _ => Grows := by
  refine Proc.keeps_once (moves_exec fun s _ => grows_of_tokens rfl rfl fun r hr => ?_)
  refine ⟨_, mem_updateWhere_of_mem hr, ?_⟩
  split_ifs
  · exact ⟨rfl, rfl, rfl, rfl, fun _ => rfl⟩
  · exact r.later_refl

theorem keeps_rotate (oldId newId : Nat) :
    (ControlPlaneRepository.rotateRefreshToken oldId newId).Keeps H fun _ => Grows := by
  refine Proc.keeps_marked (fun s _ u s' h => ?_) fun s _ e s' h => ?_
  · have hval : s'.val = s.val.replaceToken oldId newId := exec_eq_ok.1 h
    refine grows_of_tokens ?_ ?_ fun r hr => ?_
    · rw [hval]
      rfl
    · rw [hval]
      rfl
    · rw [hval]
      refine ⟨_, mem_updateWhere_of_mem hr, ?_⟩
      split_ifs
      · exact ⟨rfl, rfl, rfl, rfl, fun _ => rfl⟩
      · exact r.later_refl
  · rw [exec_eq_error h]
    exact refl_of Grows s

theorem keeps_createSelectionChallenge (tokenHash : String) (identityId : Nat)
    (matchedTenants : List String) (expiresAt : Nat) :
    (createSelectionChallenge tokenHash identityId matchedTenants expiresAt).Keeps H
      fun _ => Grows := by
  refine Proc.keeps_once (moves_exec fun s _ => grows_of_challenges rfl rfl fun c hc => ?_)
  exact ⟨c, List.mem_append_left _ hc, c.later_refl⟩

theorem moves_redeem (tokenHash : String) :
    Moves Grows (exec .databaseError fun w =>
      { w with
        selectionChallenges := updateWhere (redeemable w tokenHash)
          (fun c => { c with consumedAt := some w.now }) w.selectionChallenges } :
      EStateM PyError State Unit) := by
  refine moves_exec fun s _ => grows_of_challenges rfl rfl fun c hc => ?_
  refine ⟨_, mem_updateWhere_of_mem hc, ?_⟩
  split_ifs
  · exact ⟨rfl, rfl, rfl, fun _ => rfl⟩
  · exact c.later_refl

theorem keeps_redeemSelectionChallenge (tokenHash : String) :
    (redeemSelectionChallenge tokenHash).Keeps H fun _ => Grows :=
  Proc.keeps_once (moves_bind (moves_query _) fun _ => moves_bind (moves_redeem tokenHash) fun _ =>
    moves_pure _)

end Statements

/-! ## Requests -/

open AuthService

variable [Platform]

theorem grows_issueRefreshToken {H : Mark → State → Prop} (identityId : Nat)
    (tenantId role : String) :
    (issueRefreshToken identityId tenantId role).Keeps H fun _ => Grows := by
  have hlook : ∀ {α : Type} (f : State → α), (Proc.look f : Task α).Keeps H fun _ => Grows :=
    fun f => keeps_quiet (moves_query f)
  have hdraw : draw.Keeps H fun _ => Grows := keeps_quiet quiet_drawNext
  refine Proc.keeps_bind (Proc.keeps_bind hdraw fun _ => Proc.keeps_ret _) fun _ => ?_
  refine Proc.keeps_bind hdraw fun _ => Proc.keeps_bind ?_ fun _ => ?_
  · exact Proc.keeps_bind (hlook _) fun _ => Proc.keeps_ret _
  · exact Proc.keeps_bind (keeps_createRefreshToken _ _ _ _ _ _) fun _ => Proc.keeps_ret _

theorem handles_grows (H : Mark → State → Prop) :
    Handles fun _ (p : Task _) => p.Keeps H fun _ => Grows where
  toHandlesQuiet := handlesQuiet_of_quiet Proc.compositional_keeps keeps_quiet
  issue := grows_issueRefreshToken
  challenge := keeps_createSelectionChallenge
  consume := keeps_redeemSelectionChallenge

section Rotation

variable {H : Mark → State → Prop}

theorem grows_refreshExpiry : refreshExpiry.Keeps H fun _ => Grows :=
  Proc.keeps_bind ((handles_grows H).look _) fun _ => Proc.keeps_ret _

theorem grows_supersede (row : RefreshTokenRow) (newRaw : String) :
    (supersede row newRaw).Keeps H fun _ => Grows := by
  refine Proc.keeps_bind ((handles_grows H).look _) fun newRow => ?_
  cases newRow with
  | none => exact Proc.keeps_fail _
  | some newRow => exact keeps_rotate _ _

theorem grows_rotateRow (row : RefreshTokenRow) : (rotateRow row).Keeps H fun _ => Grows := by
  have h := handles_grows H
  refine Proc.keeps_bind (h.look _) fun _ => Proc.keeps_bind Proc.keeps_failIf fun _ => ?_
  refine Proc.keeps_bind (h.resolveLocalAccount _ _ _) fun _ => Proc.keeps_bind ?_ fun _ => ?_
  · exact h.map _ h.draw
  · refine Proc.keeps_bind grows_refreshExpiry fun _ => Proc.keeps_bind ?_ fun _ => ?_
    · exact keeps_createRefreshToken _ _ _ _ _ _
    · refine Proc.keeps_bind (grows_supersede _ _) fun _ => ?_
      exact Proc.keeps_bind (h.createAccessToken _ _ _ _ _ _) fun _ => Proc.keeps_ret _

theorem grows_rotateRefreshToken (raw : String) :
    (rotateRefreshToken raw).Keeps H fun _ => Grows := by
  refine Proc.keeps_bind ((handles_grows H).look _) fun row => ?_
  cases row with
  | none => exact Proc.keeps_fail _
  | some row =>
    dsimp only
    split_ifs
    · exact Proc.keeps_bind (keeps_revokeRefreshTokenFamily _) fun _ => Proc.keeps_fail _
    · exact grows_rotateRow row

end Rotation

/-- **Every request grows.** -/
theorem grows_task (H : Mark → State → Prop) (r : Request) : r.task.Keeps H fun _ => Grows :=
  (handles_grows H).task grows_rotateRefreshToken r

end Sams.Auth
