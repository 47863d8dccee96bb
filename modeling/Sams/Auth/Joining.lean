import Sams.Auth.Actions
import Sams.Auth.Memberships
import Sams.Auth.Resolving

/-!
# What logins and requests do to memberships

A login and the resolution of a request only add memberships, and write the role and the times of
those that are there (`Joins`): none is deleted, and none changes its status or becomes a default. A
membership that is added is active.
-/

namespace Sams.Auth

open Programs Rows Interleaving

/-- The same membership, but for its role and its times. -/
structure MembershipRow.SameEdge (m m' : MembershipRow) : Prop where
  identityId : m'.identityId = m.identityId
  email : m'.email = m.email
  tenantId : m'.tenantId = m.tenantId
  status : m'.status = m.status
  isDefault : m'.isDefault = m.isDefault

theorem MembershipRow.sameEdge_refl (m : MembershipRow) : m.SameEdge m := ⟨rfl, rfl, rfl, rfl, rfl⟩

theorem MembershipRow.SameEdge.trans {m m' m'' : MembershipRow} (h : m.SameEdge m')
    (h' : m'.SameEdge m'') : m.SameEdge m'' :=
  ⟨h'.identityId.trans h.identityId, h'.email.trans h.email, h'.tenantId.trans h.tenantId,
    h'.status.trans h.status, h'.isDefault.trans h.isDefault⟩

variable [Unicode]

structure Joins (s s' : State) : Prop where
  kept : ∀ m ∈ s.val.userTenantMap, ∃ m' ∈ s'.val.userTenantMap, m.SameEdge m'
  added : ∀ m' ∈ s'.val.userTenantMap, (∃ m ∈ s.val.userTenantMap, m.SameEdge m') ∨
    m'.status = .active ∧ m'.isDefault = false

theorem joins_of_same {s s' : State} (h : s'.val.userTenantMap = s.val.userTenantMap) :
    Joins s s' where
  kept m hm := ⟨m, h ▸ hm, m.sameEdge_refl⟩
  added m hm := .inl ⟨m, h ▸ hm, m.sameEdge_refl⟩

instance : IsPreorder State Joins where
  refl _ := joins_of_same rfl
  trans s s' s'' h h' := by
    refine ⟨fun m hm => ?_, fun m'' hm'' => ?_⟩
    · obtain ⟨m', hm', hsame⟩ := h.kept m hm
      obtain ⟨m'', hm'', hsame'⟩ := h'.kept m' hm'
      exact ⟨m'', hm'', hsame.trans hsame'⟩
    · rcases h'.added m'' hm'' with ⟨m', hm', hsame'⟩ | hnew
      · rcases h.added m' hm' with ⟨m, hm, hsame⟩ | ⟨hstatus, hdefault⟩
        · exact .inl ⟨m, hm, hsame.trans hsame'⟩
        · exact .inr ⟨hsame'.status.trans hstatus, hsame'.isDefault.trans hdefault⟩
      · exact .inr hnew

/-! ## Statements -/

section Statements

/-- A write of other tables. -/
theorem moves_joins_exec {e : PyError} {f : World → World}
    (h : ∀ w, (f w).userTenantMap = w.userTenantMap) :
    Moves Joins (exec e f : EStateM PyError State Unit) :=
  moves_exec fun s _ => joins_of_same (h s.val)

/-- A write of nothing but roles and times. -/
theorem joins_of_updateWhere {s s' : State} {p : MembershipRow → Bool}
    {f : MembershipRow → MembershipRow} (hf : ∀ m : MembershipRow, m.SameEdge (f m))
    (h : s'.val.userTenantMap = updateWhere p f s.val.userTenantMap) : Joins s s' := by
  refine ⟨fun m hm => ?_, fun m' hm' => .inl ?_⟩
  · refine ⟨_, h ▸ mem_updateWhere_of_mem hm, ?_⟩
    split_ifs
    · exact hf m
    · exact m.sameEdge_refl
  · rw [h] at hm'
    rcases cases_of_mem_updateWhere hm' with ⟨hm, -⟩ | ⟨m, hm, -, rfl⟩
    · exact ⟨m', hm, m'.sameEdge_refl⟩
    · exact ⟨m, hm, hf m⟩

theorem moves_upsertMembership (identityId : Nat) (email tenantId role : String) :
    Moves Joins (exec .databaseError fun w => w.upsertMembership identityId email tenantId role :
      EStateM PyError State Unit) := by
  refine moves_exec fun s hok => ?_
  by_cases hthere : s.val.userTenantMap.any fun m => CiEq m.email email ∧ m.tenantId = tenantId
  · refine joins_of_updateWhere (f := fun m => { m with role := role, updatedAt := s.val.now })
      (p := fun m => CiEq m.email email ∧ m.tenantId = tenantId)
      (fun _ => ⟨rfl, rfl, rfl, rfl, rfl⟩) ?_
    show (World.upsertMembership _ _ _ _ _).userTenantMap = _
    rw [World.upsertMembership, if_pos hthere]
  · have hmap : (s.val.upsertMembership identityId email tenantId role).userTenantMap =
        s.val.userTenantMap ++ [
          { identityId := identityId, email := email, tenantId := tenantId, role := role
            status := .active, updatedAt := s.val.now, lastActiveAt := none, isDefault :=
              false }] := by
      rw [World.upsertMembership, if_neg hthere]
    refine ⟨fun m hm => ⟨m, ?_, m.sameEdge_refl⟩, fun m hm => ?_⟩
    · exact hmap ▸ List.mem_append_left _ hm
    · rcases List.mem_append.1 (hmap ▸ hm) with hm | hm
      · exact .inl ⟨m, hm, m.sameEdge_refl⟩
      · rw [List.mem_singleton.1 hm]
        exact .inr ⟨rfl, rfl⟩

theorem moves_upsertIdentity (email : String) :
    Moves Joins (exec .databaseError fun w => w.upsertIdentity email :
      EStateM PyError State Unit) := by
  refine moves_joins_exec fun w => ?_
  unfold World.upsertIdentity
  cases w.identityByEmail email <;> rfl

end Statements

/-! ## Logins and requests -/

open AuthService ControlPlaneRepository UserRepository

theorem about_joins : AboutAccounts Joins where
  same _ _ _ h := joins_of_same h
  upsertIdentity _ := moves_upsertIdentity _
  upsertMembership := moves_upsertMembership
  touch identityId tenantId := by
    rw [touchMembershipLastActive, stmt, Proc.seq_once]
    exact moves_exec fun s _ =>
      joins_of_updateWhere (f := fun m => { m with lastActiveAt := some s.val.now })
        (fun _ => ⟨rfl, rfl, rfl, rfl, rfl⟩) rfl

theorem joins_upsertUserTenantMap (email tenantId role : String) :
    Moves Joins (upsertUserTenantMap email tenantId role).seq :=
  about_joins.handlesQuiet.upsertUserTenantMap email tenantId role

theorem joins_upsertMap (email : String) (m : Option Authz.Membership) :
    Moves Joins (upsertMap email m) :=
  about_joins.resolving.upsertMap email m

variable [Platform]

/-- **Every login joins.** -/
theorem joins_loginUser (email password : String) (tenantId : Option String) :
    Moves Joins (loginUser email password tenantId).seq :=
  about_joins.handlesTokens.handles.loginUser email password tenantId

/-- **Every request joins.** -/
theorem joins_getCurrentUser (request : HttpRequest) : Moves Joins (getCurrentUser request) :=
  about_joins.resolving.getCurrentUser request

end Sams.Auth
