import Sams.Identities.Restart

/-!
# The review of emails

An email that is found in two account stores is reviewed before `cp_0003` gives it one identity. The
gate of the revision and the script `check_identity_clashes` ask the same question with queries of
their own, and the script asks it after the start that opens the pool of the control plane, which
may seed a super admin.

**`gate_agrees`**: on the tables as the script leaves them the gate stops the revision on exactly
the emails that the script reports.
-/

namespace Sams.Identities

open Resuming

variable {E T : Type} [DecidableEq E]

/-! ## The script -/

section Script

variable {p : Plane E T} {e : E}

/-- The two queries find the same emails. -/
theorem collisionRows_emails (p : Plane E T) : p.collisionRows.map Prod.fst = p.collisions := by
  unfold Plane.collisionRows Plane.collisions
  rw [List.filter_map, List.map_map]
  exact List.map_id _

theorem already_isNone : (p.already e).isNone ↔ ¬p.decided e := by
  unfold Plane.already Plane.decided
  cases p.identityMergeDecisions with
  | none => simp
  | some decisions =>
    dsimp only [Option.getD_some]
    by_cases h : ∃ d ∈ decisions, d.1 = e
    · rw [if_pos h]
      exact iff_of_false nofun (not_not.2 h)
    · rw [if_neg h]
      exact iff_of_true rfl h

theorem foldl_undecided (rows undecided : List (E × List Plane.Store)) :
    rows.foldl (fun undecided row => if (p.already row.1).isNone then undecided ++ [row]
      else undecided) undecided =
      undecided ++ rows.filter fun row => (p.already row.1).isNone := by
  induction rows generalizing undecided with
  | nil => exact (List.append_nil undecided).symm
  | cons row rows ih =>
    rw [List.foldl_cons, ih, List.filter_cons]
    by_cases h : (p.already row.1).isNone
    · rw [if_pos h, if_pos h, List.append_assoc]
      rfl
    · rw [if_neg h, if_neg h]

/-- The script reports the emails on which the gate stops. -/
theorem undecidedCollisions_emails (p : Plane E T) :
    p.undecidedCollisions.map Prod.fst = p.undecided := by
  have hsame : ∀ row : E × List Plane.Store,
      (p.already row.1).isNone = ((fun e => decide ¬p.decided e) ∘ Prod.fst) row := fun row =>
    Bool.eq_iff_iff.2 (already_isNone.trans decide_eq_true_iff.symm)
  unfold Plane.undecidedCollisions Plane.undecided
  rw [foldl_undecided, List.nil_append, List.filter_congr fun row _ => hsame row, ← List.filter_map,
    collisionRows_emails]

theorem undecidedCollisions_eq_nil :
    p.undecidedCollisions = [] ↔ ∀ e, Shared p e → p.decided e := by
  rw [← undecided_eq_nil, ← undecidedCollisions_emails, List.map_eq_nil_iff]

/-- The gate lets the revision pass. -/
theorem identify_returns : (∃ p', identify p = .ok p') ↔ ∀ e, Shared p e → p.decided e := by
  rw [← undecided_eq_nil, identify_eq]
  by_cases h : p.undecided = []
  · rw [if_pos h]
    exact iff_of_true ⟨_, rfl⟩ h
  · rw [if_neg h]
    exact iff_of_false nofun h

end Script

variable [DecidableEq T]

/-! ## The start before the script -/

section Reviewed

variable {p q : Plane E T}

/-- The accounts of the three stores, and what has been decided about them, are the same. -/
structure SameAccounts (p q : Plane E T) : Prop where
  inStore : ∀ e s, InStore q e s ↔ InStore p e s
  decided : ∀ e, q.decided e ↔ p.decided e

omit [DecidableEq E] [DecidableEq T] in
theorem SameAccounts.refl (p : Plane E T) :
    SameAccounts p p := ⟨fun _ _ => Iff.rfl, fun _ => Iff.rfl⟩

omit [DecidableEq E] [DecidableEq T] in
theorem SameAccounts.trans {r : Plane E T} (h : SameAccounts p q) (h' : SameAccounts q r) :
    SameAccounts p r :=
  ⟨fun e s => (h'.inStore e s).trans (h.inStore e s), fun e => (h'.decided e).trans (h.decided e)⟩

omit [DecidableEq E] [DecidableEq T] in
/-- The rows of the table keep their emails and roles. -/
theorem sameAccounts_map {f : MapRow E T → MapRow E T}
    (hf : ∀ m, (f m).email = m.email ∧ (f m).role = m.role) :
    SameAccounts p { p with userTenantMap := p.userTenantMap.map f } := by
  refine ⟨fun e s => ?_, fun _ => Iff.rfl⟩
  cases s with
  | parent => rfl
  | superAdmin => rfl
  | tenantMember => simp [InStore, hf]

omit [DecidableEq T] in
theorem own_role (ids : List (IdentityRow E)) (m : MapRow E T) : (m.own ids).role = m.role := by
  unfold MapRow.own
  by_cases h : m.identityId = none ∧ identityOf ids m.email ≠ none
  · rw [if_pos h]
  · rw [if_neg h]

omit [DecidableEq T] in
theorem role_of_mem_linked {now : Nat} {row : MapRow E T} (h : row ∈ p.linked now) :
    row.role = "parent" := by
  unfold Plane.linked at h
  obtain ⟨l, hl, hrow⟩ := List.mem_filterMap.1 h
  obtain ⟨x, hx, hrow⟩ := Option.bind_eq_some_iff.1 hrow
  obtain ⟨id, hid, rfl⟩ := Option.map_eq_some_iff.1 hrow
  rfl

/-- Only memberships of parents are added, and nothing is decided. -/
theorem sameAccounts_of_mem {f : Statement (Plane E T) (Abort E) Nat}
    (hf : f ∈ statements) {now : Nat} (h : f now p = .ok q) : SameAccounts p q := by
  unfold statements at hf
  simp only [List.mem_cons, List.not_mem_nil, or_false] at hf
  have hsame : ∀ {p q : Plane E T}, q.parents = p.parents → q.superAdmins = p.superAdmins →
      q.userTenantMap = p.userTenantMap → q.identityMergeDecisions = p.identityMergeDecisions →
      SameAccounts p q := by
    intro p q hparents hsuper hmap hdecisions
    refine ⟨fun e s => ?_, fun e => ?_⟩
    · cases s <;> simp only [InStore, hparents, hsuper, hmap]
    · unfold Plane.decided
      rw [hdecisions]
  rcases hf with rfl | rfl | rfl | rfl | rfl | rfl | rfl | rfl | rfl | rfl
  · rcases widen_ok h with ⟨rfl, -⟩ | ⟨rfl, -⟩
    · exact .refl _
    · exact hsame rfl rfl rfl rfl
  · cases h
    exact ⟨fun e s => by cases s <;> rfl, fun e => Iff.rfl⟩
  · cases h
    exact hsame rfl rfl rfl rfl
  · cases h
    exact hsame rfl rfl rfl rfl
  · cases h
    unfold Plane.addColumns
    by_cases hl : p.lifecycle = true
    · rw [if_pos hl]
      exact .refl p
    · rw [if_neg hl]
      exact (sameAccounts_map (f := MapRow.plain) fun m => ⟨rfl, rfl⟩).trans (hsame rfl rfl rfl rfl)
  · cases h
    exact sameAccounts_map fun m => ⟨own_email _ m, own_role _ m⟩
  · rcases adopt_ok h with ⟨rfl, -⟩ | rfl
    · exact .refl _
    · exact hsame rfl rfl rfl rfl
  · rw [createEmailTenantIndex_ok h]
    exact hsame rfl rfl rfl rfl
  · rw [createDefaultIndex_ok h]
    exact hsame rfl rfl rfl rfl
  · obtain ⟨added, rfl, hadded, -⟩ := foldLinks_ok h
    refine ⟨fun e s => ?_, fun _ => Iff.rfl⟩
    cases s with
    | parent => rfl
    | superAdmin => rfl
    | tenantMember =>
      constructor
      · rintro ⟨m, hm, hrole, he⟩
        rcases List.mem_append.1 hm with hm | hm
        · exact ⟨m, hm, hrole, he⟩
        · exact absurd (role_of_mem_linked (hadded m hm)) hrole
      · rintro ⟨m, hm, hrole, he⟩
        exact ⟨m, List.mem_append_left _ hm, hrole, he⟩

omit [DecidableEq T] in
theorem SameAccounts.seedSuperAdmin (h : SameAccounts p q)
    (hsuper : q.superAdmins = p.superAdmins) (sa : E) :
    SameAccounts (p.seedSuperAdmin sa) (q.seedSuperAdmin sa) := by
  unfold Plane.seedSuperAdmin
  rw [hsuper]
  by_cases hsa : sa ∈ p.superAdmins
  · rw [if_pos hsa, if_pos hsa]
    exact h
  · rw [if_neg hsa, if_neg hsa]
    refine ⟨fun e s => ?_, h.decided⟩
    cases s with
    | superAdmin => rfl
    | parent => exact h.inStore e .parent
    | tenantMember => exact h.inStore e .tenantMember

/-- The start before the script changes nothing of the accounts, but for the super
admin that it seeds. -/
theorem sameAccounts_initializeTables {sa : E} {now : Nat} (h : initializeTables p sa now = .ok q) :
    SameAccounts (p.seedSuperAdmin sa) q := by
  rw [initializeTables_bind] at h
  cases hrun : runAll statements now p with
  | error e =>
    rw [hrun] at h
    cases h
  | ok r =>
    rw [hrun] at h
    cases h
    have haccounts : SameAccounts p r :=
      runAll_preserves SameAccounts.refl SameAccounts.trans
        (fun _ hf _ _ h => sameAccounts_of_mem hf h) hrun
    exact haccounts.seedSuperAdmin (superAdmins_of_ok (List.Subset.refl _) hrun) sa

omit [DecidableEq E] [DecidableEq T] in
theorem SameAccounts.shared (h : SameAccounts p q) (e : E) : Shared q e ↔ Shared p e := by
  unfold Shared
  simp only [h.inStore]

omit [DecidableEq T] in
theorem decided_seedSuperAdmin (p : Plane E T) (sa e : E) :
    (p.seedSuperAdmin sa).decided e ↔ p.decided e := by
  obtain ⟨superAdmins, -, hseed⟩ := seedSuperAdmin_eq p sa
  rw [hseed]
  rfl

/-- **The gate and the script** ask the same. The gate stops the revision on exactly the tables
on which an email has accounts in two stores and nobody has decided about it. The script exits
with 0 where its start comes to its end and there is no such email, the super admin that the
start seeds being an account too: so on the tables that it leaves it exits with 0 if and only if
the gate lets them pass. -/
theorem gate_agrees (p : Plane E T) (sa : E) (now : Nat) :
    ((∃ p', identify p = .ok p') ↔ ∀ e, Shared p e → p.decided e) ∧
    (exitCode (listCollisions p sa now) = 0 ↔
      (∃ q, initializeTables p sa now = .ok q) ∧ ∀ e, Shared (p.seedSuperAdmin sa) e →
        p.decided e) ∧
    ∀ q, initializeTables p sa now = .ok q →
      (exitCode (listCollisions p sa now) = 0 ↔ ∃ q', identify q = .ok q') := by
  refine ⟨identify_returns, ?_⟩
  cases hstart : initializeTables p sa now with
  | error e =>
    have hcode : exitCode (listCollisions p sa now) = 1 := by
      unfold listCollisions
      rw [hstart]
      rfl
    rw [hcode]
    exact ⟨iff_of_false (by decide) nofun, nofun⟩
  | ok q =>
    have hcode : exitCode (listCollisions p sa now) = 0 ↔ q.undecidedCollisions = [] := by
      unfold listCollisions
      rw [hstart]
      show (if q.undecidedCollisions = [] then 0 else 1) = 0 ↔ _
      by_cases h : q.undecidedCollisions = []
      · simp [h]
      · simp [h]
    have hsame := sameAccounts_initializeTables hstart
    rw [hcode, undecidedCollisions_eq_nil]
    refine ⟨?_, fun q' hq' => ?_⟩
    · simp only [hsame.shared, hsame.decided, decided_seedSuperAdmin]
      exact ⟨fun h => ⟨⟨q, rfl⟩, h⟩, fun h => h.2⟩
    · rw [← Except.ok.inj hq', identify_returns]

end Reviewed

end Sams.Identities
