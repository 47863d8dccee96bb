import Sams.Auth.Outcome
import Sams.Auth.Roles

/-!
# One operator

The platform has one super admin, whose email is configured. Three operations insert into
`super_admins`; each compares the email, but `update_tenant_user_permissions` does not when the row
that it saves says super admin already. Such rows come from elsewhere: a super admin invites someone
as one, and the first request of the invitee creates the row.

`Resaves` is the step that inserts a stranger for this reason. A step inserts a stranger if and only
if it is one (**`gainsNoStranger_iff`**).
-/

namespace Sams.Auth

open Programs Rows Interleaving Runs

section Statements

variable [Unicode]

/-- The emails of the super admins. -/
def operators (s : State) : List String := s.val.superAdmins.map SuperAdminRow.email

/-- A write that leaves the emails alone. -/
theorem operators_exec {e : PyError} {f : World → World}
    (h : ∀ w, (f w).superAdmins.map SuperAdminRow.email = w.superAdmins.map SuperAdminRow.email) :
    Moves (Same operators) (exec e f : EStateM PyError State Unit) :=
  moves_exec fun s _ => h s.val

theorem operators_stmt {f : World → World}
    (h : ∀ w, (f w).superAdmins.map SuperAdminRow.email = w.superAdmins.map SuperAdminRow.email) :
    Moves (Same operators) (stmt f).seq := by
  rw [stmt, Proc.seq_once]
  exact operators_exec h

theorem operators_openPool (tenantId : String) : Moves (Same operators) (openPool tenantId) := by
  refine moves_bind ?_ fun _ => moves_bind (moves_query _) fun _ =>
    moves_bind (moves_raiseIf _ _) fun _ => ?_
  · refine operators_exec fun w => ?_
    rw [(World.prepares_register w tenantId).superAdmins]
  · refine operators_exec fun w => ?_
    rw [(World.prepares_initializeTables w tenantId).superAdmins]

open AuthService ControlPlaneRepository UserRepository

/-- The requests of the service leave the emails of the super admins alone. -/
theorem operators_handles : HandlesTokens fun _ (p : Task _) => Moves (Same operators) p.seq where
  toCompositional := Proc.compositional_moves
  look f := by
    rw [Proc.seq_look]
    exact moves_query f
  draw := by
    rw [draw, Proc.seq_once]
    exact moves_bind (moves_query _) fun _ =>
      moves_bind (operators_exec fun _ => rfl) fun _ => moves_pure _
  getDbPool tenantId := by
    rw [getDbPool, Proc.seq_once]
    exact operators_openPool tenantId
  tryPool tenantId := by
    rw [Proc.seq_once]
    exact moves_rescue (moves_map (operators_openPool tenantId)) fun _ => moves_pure _
  getOrCreateIdentity email := by
    rw [getOrCreateIdentity, Proc.seq_once]
    refine moves_bind (operators_exec fun w => ?_) fun _ => moves_bind (moves_query _) fun row => ?_
    · unfold World.upsertIdentity
      cases w.identityByEmail (normalize email) <;> rfl
    · cases row with
      | none => exact moves_throw _
      | some row => exact moves_pure _
  joinMap _ _ _ _ := operators_stmt fun w => by
    unfold World.upsertMembership
    split_ifs <;> rfl
  invalidate _ := operators_stmt fun _ => rfl
  insertUser _ _ _ _ := by
    rw [insertUser, Proc.seq_once]
    exact moves_bind (moves_query _) fun _ =>
      moves_bind (operators_exec fun _ => rfl) fun _ => moves_pure _
  touchMembershipLastActive _ _ := operators_stmt fun _ => rfl
  updateSuperAdminPassword _ _ := operators_stmt fun _ => map_updateWhere fun _ _ _ => rfl
  updateParentPassword _ _ := operators_stmt fun _ => rfl
  updateUserPasswordHash _ _ _ := operators_stmt fun _ => rfl
  tick _ := operators_stmt fun _ => rfl
  createRefreshToken _ _ _ _ _ _ := operators_stmt fun _ => rfl
  replace _ _ := by
    rw [ControlPlaneRepository.rotateRefreshToken, Proc.seq_marked]
    exact operators_exec fun _ => rfl
  revokeRefreshTokenFamily _ := operators_stmt fun _ => rfl
  challenge _ _ _ _ := operators_stmt fun _ => rfl
  consume _ := by
    rw [redeemSelectionChallenge, Proc.seq_once]
    exact moves_bind (moves_query _) fun _ =>
      moves_bind (operators_exec fun _ => rfl) fun _ => moves_pure _

/-- So does the resolution of a request. -/
theorem operators_resolving : Resolving (Same operators) where
  openPool := operators_openPool
  upsertMap email m := by
    cases m with
    | none => exact moves_pure ()
    | some m => exact operators_handles.upsertUserTenantMap email m.tenantId m.role
  cache _ _ := operators_exec fun _ => rfl
  withUser _ _ _ := operators_exec fun _ => rfl
  addParent _ _ := operators_exec fun _ => rfl
  addLink _ _ := operators_exec fun _ => rfl

end Statements

/-! ## Strangers -/

section Gains

variable [Unicode] [Settings]

/-- Nobody but the operator is new among the super admins. -/
def GainsNoStranger (s s' : State) : Prop :=
  ∀ email ∈ operators s', IsOperator email ∨ email ∈ operators s

theorem gainsNoStranger_of_same {s s' : State} (h : Same operators s s') : GainsNoStranger s s' :=
  fun _ he => .inr (h ▸ he)

instance : IsPreorder State GainsNoStranger where
  refl _ := gainsNoStranger_of_same rfl
  trans _ _ _ h h' email he := (h' email he).elim .inl (h email)

instance (s s' : State) : Decidable (GainsNoStranger s s') :=
  inferInstanceAs (Decidable (∀ email ∈ operators s', IsOperator email ∨ email ∈ operators s))

/-- A program that leaves the emails alone. -/
theorem gains_of_same {α : Type} {m : Prog α} (h : Moves (Same operators) m) :
    Moves GainsNoStranger m :=
  h.mono fun _ _ => gainsNoStranger_of_same

theorem gains_addSuperAdmin {e : PyError} {email : String} (hash : String) (h : IsOperator email) :
    Moves GainsNoStranger (exec e fun w => w.addSuperAdmin email hash : EStateM PyError
      State Unit) := by
  refine moves_exec fun s hok email' he => ?_
  have hmap : operators ⟨s.val.addSuperAdmin email hash, hok⟩ = operators s ++ [email] :=
    List.map_append
  rw [hmap, List.mem_append, List.mem_singleton] at he
  rcases he with he | rfl
  · exact .inr he
  · exact .inl h

theorem gains_removeSuperAdmin (email : String) :
    Moves GainsNoStranger (write fun w => w.removeSuperAdmin email) := by
  refine moves_exec fun s _ email' he => ?_
  obtain ⟨a, ha, rfl⟩ := List.mem_map.1 he
  exact .inr (List.mem_map_of_mem (List.mem_filter.1 ha).1)

open ControlPlaneRepository in
/-- A registration gains no stranger. -/
theorem gains_registers [Platform] :
    Registers fun _ (p : Task _) => Moves GainsNoStranger p.seq where
  toHandlesQuiet :=
    { toCompositional := Proc.compositional_moves
      look := fun f => gains_of_same (operators_handles.look f)
      draw := gains_of_same operators_handles.draw
      getDbPool := fun _ => gains_of_same (operators_handles.getDbPool _)
      tryPool := fun _ => gains_of_same (operators_handles.tryPool _)
      getOrCreateIdentity := fun _ => gains_of_same (operators_handles.getOrCreateIdentity _)
      joinMap := fun _ _ _ _ => gains_of_same (operators_handles.joinMap _ _ _ _)
      invalidate := fun _ => gains_of_same (operators_handles.invalidate _)
      insertUser := fun _ _ _ _ => gains_of_same (operators_handles.insertUser _ _ _ _)
      touchMembershipLastActive := fun _ _ =>
        gains_of_same (operators_handles.touchMembershipLastActive _ _)
      updateSuperAdminPassword := fun _ _ =>
        gains_of_same (operators_handles.updateSuperAdminPassword _ _)
      updateParentPassword := fun _ _ => gains_of_same (operators_handles.updateParentPassword _ _)
      updateUserPasswordHash := fun _ _ _ =>
        gains_of_same (operators_handles.updateUserPasswordHash _ _ _)
      tick := fun _ => gains_of_same (operators_handles.tick _) }
  createSuperAdmin _ hash h := by
    rw [createSuperAdmin, Proc.seq_once]
    exact moves_bind (moves_query _) fun _ =>
      moves_bind (gains_addSuperAdmin hash h) fun _ => moves_pure _
  createParent _ _ := by
    rw [createParent, Proc.seq_once]
    exact moves_bind (moves_query _) fun _ =>
      moves_bind (gains_of_same (operators_exec fun _ => rfl)) fun _ => moves_pure _
  addParentTenantLink _ _ := gains_of_same <| operators_stmt fun w => by
    unfold World.addParentTenantLink
    split_ifs <;> rfl
  incrementInvitationUses _ := gains_of_same (operators_stmt fun _ => rfl)

end Gains

/-! ## Promotions -/

section Promotions

variable [Unicode]

theorem superAdminByEmail_isSome {s : State} {email : String} :
    (s.val.superAdminByEmail email).isSome = true ↔ ∃ e ∈ operators s, CiEq e email := by
  unfold World.superAdminByEmail operators
  simp

/-- A promotion of someone who is there already changes nothing. -/
theorem promote_idle {w : World} {email : String} (h : (w.superAdminByEmail email).isSome) :
    w.promote email = w := by
  obtain ⟨a, ha⟩ := Option.isSome_iff_exists.1 h
  simp only [World.promote, ha]

theorem promote_new {w : World} {email : String} (h : w.superAdminByEmail email = none) :
    w.promote email = w.addSuperAdmin email "managed" := by
  simp only [World.promote, h]

/-- A promotion of someone who may be one, or is. -/
theorem gains_promote [Settings] {s : State} {email : String}
    (h : IsOperator email ∨ (s.val.superAdminByEmail email).isSome) :
    GainsNoStranger s (after (ignoring (write fun w => w.promote email)) s) := by
  rw [after_ignoring]
  unfold write
  refine after_exec_ind (refl_of GainsNoStranger s) fun s' hs' => ?_
  cases hthere : s.val.superAdminByEmail email with
  | some a =>
    rw [promote_idle (by rw [hthere]; rfl)] at hs'
    have hsame : operators s' = operators s := by
      unfold operators
      rw [hs']
    exact gainsNoStranger_of_same hsame
  | none =>
    rw [promote_new hthere] at hs'
    have hmap : operators s' = operators s ++ [email] := by
      unfold operators
      rw [hs']
      exact List.map_append
    rw [hthere] at h
    intro email' he
    rw [hmap, List.mem_append, List.mem_singleton] at he
    rcases he with he | rfl
    · exact .inr he
    · exact .inl (h.resolve_right (by simp))

end Promotions

/-! ## Saving roles -/

section Saving

variable [Unicode]

theorem mem_usersIn {w : World} {tenantId : String} {u : UserRow} (h : u ∈ w.usersIn tenantId) :
    u ∈ w.users tenantId ∨ ∃ a ∈ w.superAdmins, a.email = u.email := by
  rw [World.users_eq]
  unfold World.usersIn at h
  by_cases hopen : tenantId ∈ w.opened
  · rw [if_pos hopen] at h
    exact .inl h
  · rw [if_neg hopen] at h
    rcases List.mem_append.1 h with h | h
    · exact .inl h
    · obtain ⟨-, -, -, a, ha, hemail⟩ := World.mem_mirror h
      exact .inr ⟨a, (List.mem_filter.1 ha).1, hemail⟩

theorem usersIn_of_mem {w : World} {tenantId : String} {u : UserRow} (h : u ∈ w.users tenantId) :
    u ∈ w.usersIn tenantId := by
  rw [World.users_eq] at h
  unfold World.usersIn
  by_cases hopen : tenantId ∈ w.opened
  · rw [if_pos hopen]
    exact h
  · rw [if_neg hopen]
    exact List.mem_append_left _ h

theorem ok_schemaOf {w : World} (hw : w.Ok) (tenantId : String) : (w.schemaOf tenantId).Ok := by
  unfold World.schemaOf
  cases hschema : w.schema? tenantId with
  | none => exact ⟨List.nodup_nil, by simp, List.nodup_nil, by simp⟩
  | some t => exact hw.schemas t (World.schema?_eq_some hw |>.1 hschema).1

theorem userById_eq_some {w : World} (hw : w.Ok) {tenantId : String} {id : Int} {u : UserRow} :
    w.userById tenantId id = some u ↔ u ∈ w.users tenantId ∧ (u.id : Int) = id := by
  unfold World.userById
  constructor
  · intro h
    exact ⟨List.mem_of_find?_eq_some h, by simpa using List.find?_some h⟩
  · rintro ⟨hu, rfl⟩
    have hkeyed : Keyed UserRow.id (w.users tenantId) := by
      rw [World.users_eq]
      exact (ok_schemaOf hw tenantId).user_key
    simp only [Int.natCast_inj]
    exact hkeyed.find?_eq_some.2 ⟨hu, rfl⟩

/-- Users that keep their identifiers and emails, with roles that the check admits. -/
theorem ok_updateUsers {w : World} (hw : w.Ok) (tenantId : String) {p : UserRow → Bool}
    {f : UserRow → UserRow} (hid : ∀ u, (f u).id = u.id) (hemail : ∀ u, (f u).email = u.email)
    (hrole : ∀ u, (f u).role ∈ School.userRoles) : (w.updateUsers tenantId p f).Ok := by
  refine World.ok_updateSchema hw (fun _ => rfl) fun t ht _ => ?_
  have hok := hw.schemas t ht
  refine ⟨hok.user_key.updateWhere hid, fun u hu => ?_, hok.user_email.updateWhere fun u => ?_, ?_⟩
  · rcases cases_of_mem_updateWhere hu with ⟨hu, -⟩ | ⟨v, hv, -, rfl⟩
    · exact hok.user_seq u hu
    · rw [hid]
      exact hok.user_seq v hv
  · rw [hemail]
  · intro u hu
    rcases cases_of_mem_updateWhere hu with ⟨hu, -⟩ | ⟨v, -, -, rfl⟩
    · exact hok.users_role_check u hu
    · exact hrole v

omit [Unicode] in
/-- Who may grant super admin may save roles. -/
theorem require_saving {userRole : List String}
    (h : Authz.require userRole ["super_admin"] = true) :
    Authz.require userRole ["school_admin", "super_admin", "admin", "user:invite"] = true := by
  unfold Authz.require at h ⊢
  split_ifs at h ⊢
  · rfl
  · rw [List.any_eq_true] at h ⊢
    obtain ⟨r, hr, hmem⟩ := h
    refine ⟨r, hr, ?_⟩
    simp only [List.contains_iff_mem, List.mem_singleton] at hmem
    simp [hmem]

open ControlPlaneRepository UserRepository TenantService

theorem operators_getUserById (tenantId : String) (userId : UserRef) :
    Moves (Same operators) (getUserById tenantId userId) := by
  cases userId with
  | number id => exact moves_ask fun w => w.userById tenantId id
  | uuid => exact moves_pure _
  | text raw => exact moves_pure _
  | unreadable e => exact moves_throw _

theorem operators_updateReturning (tenantId : String) (p : UserRow → Bool) (f : UserRow → UserRow) :
    Moves (Same operators) (updateReturning tenantId p f) :=
  moves_bind (moves_ask _) fun _ => moves_bind (operators_exec fun _ => rfl) fun _ => moves_pure _

theorem operators_updateRoles (tenantId : String) (userId : UserRef) (primaryRole : String)
    (roles permissions : List String) : Moves (Same operators)
      (updateUserRolesAndPermissions tenantId userId primaryRole roles permissions) := by
  cases userId with
  | number id => exact operators_updateReturning _ _ _
  | uuid => exact moves_throw _
  | unreadable e => exact moves_throw _
  | text raw =>
    unfold updateUserRolesAndPermissions
    dsimp only
    split_ifs
    · exact operators_updateReturning _ _ _
    · exact moves_pure _

theorem operators_ensureProfile (role tenantId : String) (school : Academics) :
    Moves (Same operators) (ensureProfile role tenantId school) :=
  moves_onlyIf fun _ => moves_ignoring (operators_exec fun _ => rfl)

theorem operators_mapping (email tenantId role : String) :
    Moves (Same operators) (upsertUserTenantMapping email tenantId role) :=
  moves_ignoring (operators_handles.upsertUserTenantMap email tenantId role)

variable [Settings]

theorem operators_saveRoles (tenantId : String) (userId : UserRef) (primaryRole : String)
    (roles permissions userRole : List String) : Moves (Same operators)
      (saveRoles tenantId userId primaryRole roles permissions userRole) := by
  refine moves_bind (moves_raiseIf _ _) fun _ => moves_bind (moves_raiseIf _ _) fun _ => ?_
  refine moves_bind (operators_openPool _) fun _ =>
    moves_bind (operators_getUserById _ _) fun _ => ?_
  refine moves_bind (moves_raiseIf _ _) fun _ =>
    moves_bind (operators_updateRoles _ _ _ _ _) fun row => ?_
  refine moves_bind ?_ fun _ => moves_pure _
  cases row with
  | none => exact moves_throw _
  | some u => exact moves_pure _

/-- A user that says super admin already, and is neither the operator nor in `super_admins`. -/
def Strange (w : World) (u : UserRow) : Prop :=
  u.isSuperAdmin = true ∧ u.email ≠ "" ∧ ¬IsOperator u.email ∧ w.superAdminByEmail u.email = none

instance (w : World) : DecidablePred (Strange w) := fun _ => inferInstanceAs (Decidable (_ ∧ _))

/-- The row of the user is saved as a super admin's: it is the operator's, or was one already. -/
theorem saveRoles_ok {s t : State} {tenantId : String} {userId : UserRef}
    {roles permissions : List String} {userRole : List String} {was : Bool} {u' : UserRow}
    (h : saveRoles tenantId userId "super_admin" roles permissions userRole s = .ok (was, u') t) :
    IsOperator u'.email ∨ (s.val.superAdminByEmail u'.email).isSome ∨
      ∃ id u, userId = .number id ∧ Authz.require userRole ["super_admin"] = true ∧
        s.val.reachable tenantId = true ∧ u ∈ s.val.users tenantId ∧ (u.id : Int) = id ∧
        u.isSuperAdmin = true ∧ u.email = u'.email := by
  have hgrants : grantsSuperAdmin "super_admin" roles = true := by simp [grantsSuperAdmin]
  obtain ⟨_, _, hgate, h⟩ := bind_eq_ok.1 h
  obtain ⟨-, rfl⟩ := raiseIf_eq_ok.1 hgate
  obtain ⟨_, _, hgate, h⟩ := bind_eq_ok.1 h
  obtain ⟨hmay, rfl⟩ := raiseIf_eq_ok.1 hgate
  rw [not_and] at hmay
  have hmay := Bool.eq_true_of_not_eq_false (hmay hgrants)
  obtain ⟨_, d, hopen, h⟩ := bind_eq_ok.1 h
  cases hreachable : s.val.reachable tenantId with
  | false => exact ((openPool_raises hreachable).not_ok hopen).elim
  | true =>
    obtain ⟨hprepares, husers⟩ := (openPool_reaches hreachable).of_ok hopen
    obtain ⟨existing, d₁, hexisting, h⟩ := bind_eq_ok.1 h
    obtain ⟨_, _, hgate, h⟩ := bind_eq_ok.1 h
    obtain ⟨hcheck, rfl⟩ := raiseIf_eq_ok.1 hgate
    obtain ⟨row, _, hrow, h⟩ := bind_eq_ok.1 h
    obtain ⟨updated, _, hupdated, h⟩ := bind_eq_ok.1 h
    obtain ⟨hpair, -⟩ := pure_eq_ok.1 h
    obtain ⟨rfl, rfl⟩ := Prod.mk.inj hpair
    cases userId with
    | uuid =>
      obtain ⟨rfl, -⟩ := pure_eq_ok.1 hexisting
      exact (hcheck ⟨hgrants, rfl, by simp⟩).elim
    | text raw =>
      obtain ⟨rfl, -⟩ := pure_eq_ok.1 hexisting
      exact (hcheck ⟨hgrants, rfl, by simp⟩).elim
    | unreadable e => exact (throw_eq_ok.1 hexisting).elim
    | number id =>
      have hread : ask (fun w => w.userById tenantId id) d = .ok existing d₁ := hexisting
      obtain ⟨hfound, rfl⟩ := query_eq_ok.1 hread
      obtain ⟨_, _, hread, hrow⟩ := bind_eq_ok.1 hrow
      obtain ⟨rfl, rfl⟩ := query_eq_ok.1 hread
      obtain ⟨_, _, -, hrow⟩ := bind_eq_ok.1 hrow
      obtain ⟨rfl, rfl⟩ := pure_eq_ok.1 hrow
      have hfound : (d.val.users tenantId).find? (fun u => (u.id : Int) = id) = existing := hfound
      dsimp only at hupdated
      rw [hfound] at hupdated
      cases existing with
      | none => exact (throw_eq_ok.1 hupdated).elim
      | some u =>
        obtain ⟨rfl, -⟩ := pure_eq_ok.1 hupdated
        by_cases hsuper : u.isSuperAdmin = true
        · obtain ⟨hu, hid⟩ := (userById_eq_some d.ok).1 hfound
          rw [husers] at hu
          rcases mem_usersIn hu with hu | ⟨a, ha, hemail⟩
          · exact .inr (.inr ⟨id, u, rfl, hmay, rfl, hu, hid, hsuper, rfl⟩)
          · refine .inr (.inl (superAdminByEmail_isSome.2 ⟨a.email, List.mem_map_of_mem ha, ?_⟩))
            rw [hemail]
            rfl
        · refine .inl (by_contra fun hother => hcheck ⟨hgrants, ?_, ?_⟩)
          · simpa using hsuper
          · rintro ⟨v, hv, -, hoperator⟩
            cases hv
            exact hother hoperator

/-- A row that is a super admin's already is saved as one. -/
theorem saveRoles_reaches {s : State} {tenantId : String} {roles permissions userRole : List String}
    {u : UserRow} (hmay : Authz.require userRole ["super_admin"] = true)
    (hreachable : s.val.reachable tenantId = true) (hu : u ∈ s.val.users tenantId)
    (hsuper : u.isSuperAdmin = true) :
    Reaches (fun r t => r.2.email = u.email ∧ Same operators s t)
      (saveRoles tenantId (.number u.id) "super_admin" roles permissions userRole) s := by
  unfold saveRoles
  refine reaches_bind (M := fun _ t => s = t)
    (reaches_raiseIf (by simp [require_saving hmay]) rfl) ?_
  rintro _ _ rfl
  refine reaches_bind (M := fun _ t => s = t) (reaches_raiseIf (by simp [hmay]) rfl) ?_
  rintro _ _ rfl
  refine reaches_bind (openPool_reaches hreachable) fun _ d ⟨hprepares, husers⟩ => ?_
  have hfound : d.val.userById tenantId u.id = some u :=
    (userById_eq_some d.ok).2 ⟨husers ▸ usersIn_of_mem hu, rfl⟩
  have hsame : Same operators s d := congrArg (List.map SuperAdminRow.email) hprepares.superAdmins
  refine reaches_bind (M := fun existing t => existing = some u ∧ d = t)
    (reaches_query ⟨hfound, rfl⟩) ?_
  rintro _ _ ⟨rfl, rfl⟩
  refine reaches_bind (M := fun _ t => d = t) (reaches_raiseIf (by simp [hsuper]) rfl) ?_
  rintro _ _ rfl
  have hok := ok_updateUsers d.ok tenantId (p := fun u' => (u'.id : Int) = u.id)
    (f := UserRow.assigned "super_admin" roles permissions) (fun _ => rfl) (fun _ => rfl)
    (fun _ => show "super_admin" ∈ School.userRoles by decide)
  refine reaches_bind (M := fun row t => row = some (u.assigned "super_admin" roles permissions) ∧
    Same operators s t) ?_ ?_
  · refine reaches_bind (M := fun row t => row = some u ∧ d = t) (reaches_query ⟨hfound, rfl⟩) ?_
    rintro _ _ ⟨rfl, rfl⟩
    exact reaches_bind (M := fun _ t => Same operators s t) (reaches_exec hok hsame)
      fun _ _ h => reaches_pure ⟨rfl, h⟩
  · rintro _ t ⟨rfl, ht⟩
    exact reaches_bind (M := fun v t => v = u.assigned "super_admin" roles permissions ∧
      Same operators s t)
      (reaches_pure ⟨rfl, ht⟩) fun _ _ ⟨hv, ht⟩ => reaches_pure ⟨hv ▸ rfl, ht⟩

/-- What follows gains nobody who may not be a super admin, and is none. -/
theorem gains_followUp {t : State} (tenantId : String) (was : Bool) {primaryRole : String}
    (roles : List String) (school : Academics) {email : String}
    (h : primaryRole = "super_admin" → IsOperator email ∨ (t.val.superAdminByEmail email).isSome) :
    GainsNoStranger t (after (followUp tenantId was primaryRole roles school email) t) := by
  unfold followUp
  by_cases hrole : primaryRole = "super_admin"
  · have hgrants : grantsSuperAdmin primaryRole roles = true := by simp [grantsSuperAdmin, hrole]
    have hdemotes : ¬(was = true ∧ grantsSuperAdmin primaryRole roles = false) := by simp [hgrants]
    unfold onlyIf
    rw [if_neg hdemotes, pure_bind, if_pos hrole]
    refine moves_bind_of_ok (gains_of_same (operators_mapping _ _ _) t) fun _ t₁ hok => ?_
    have hsame : Same operators t t₁ := after_ok hok ▸ operators_mapping _ _ _ t
    have hmay : IsOperator email ∨ (t₁.val.superAdminByEmail email).isSome := by
      refine (h hrole).imp id fun hthere => superAdminByEmail_isSome.2 ?_
      rw [hsame]
      exact superAdminByEmail_isSome.1 hthere
    refine trans_of GainsNoStranger (gainsNoStranger_of_same hsame) ?_
    refine moves_bind_of_ok (gains_promote hmay) fun _ t₂ hok₂ => ?_
    refine trans_of GainsNoStranger (after_ok hok₂ ▸ gains_promote hmay) ?_
    exact gains_of_same (operators_ensureProfile _ _ _) t₂
  · refine moves_bind (moves_onlyIf fun _ => moves_ignoring (gains_removeSuperAdmin email)) ?_ t
    refine fun _ => moves_bind (gains_of_same (operators_mapping _ _ _)) fun _ => ?_
    refine moves_bind (moves_onlyIf fun hsuper => (hrole hsuper).elim) fun _ => ?_
    exact gains_of_same (operators_ensureProfile _ _ _)

omit [Settings] in
/-- Someone new is promoted. -/
theorem followUp_promotes {t : State} (tenantId : String) (was : Bool) (roles : List String)
    (school : Academics) {email : String} (h : t.val.superAdminByEmail email = none) :
    Reaches (fun _ t' => email ∈ operators t')
      (followUp tenantId was "super_admin" roles school email) t := by
  have hdemotes : ¬(was = true ∧ grantsSuperAdmin "super_admin" roles = false) := by
    simp [grantsSuperAdmin]
  unfold followUp
  refine reaches_bind (M := fun _ t₁ => t = t₁) ?_ ?_
  · unfold onlyIf
    rw [if_neg hdemotes]
    exact reaches_pure rfl
  rintro _ _ rfl
  refine reaches_bind
    (reaches_ignoring (operators_handles.upsertUserTenantMap email tenantId "super_admin")
    t) fun _ t₁ hsame => ?_
  have hnone : t₁.val.superAdminByEmail email = none := by
    rw [← Option.not_isSome_iff_eq_none, superAdminByEmail_isSome,
      hsame, ← superAdminByEmail_isSome, Option.not_isSome_iff_eq_none]
    exact h
  have hfresh : ∀ a ∈ t₁.val.superAdmins, Unicode.sqlLower a.email ≠ Unicode.sqlLower email := by
    intro a ha he
    have := List.find?_eq_none.1 hnone a ha
    exact this (decide_eq_true he)
  have hok : (t₁.val.addSuperAdmin email "managed").Ok :=
    { t₁.ok with
      keys := { t₁.ok.keys with super_admin_email := t₁.ok.keys.super_admin_email.append hfresh }
      refs := { t₁.ok.refs with }
      drawn :=
        { identity := fun i hi => (t₁.ok.drawn.identity i hi).trans (Nat.lt_succ_self _)
          refresh := fun r hr => (t₁.ok.drawn.refresh r hr).trans (Nat.lt_succ_self _) } }
  refine reaches_bind (M := fun _ t₂ => email ∈ operators t₂) ?_ fun _ t₂ ht₂ => ?_
  · rw [onlyIf_of rfl]
    refine reaches_bind (M := fun _ t₂ => email ∈ operators t₂) ?_ fun _ _ h => reaches_pure h
    refine reaches_attempt (fun _ t₂ hwrite => ?_) fun _ t₂ hwrite => ?_
    · have hval : t₂.val = t₁.val.promote email := exec_eq_ok.1 hwrite
      rw [promote_new hnone] at hval
      unfold operators
      rw [hval]
      exact List.mem_map.2 ⟨_, List.mem_append_right _ List.mem_cons_self, rfl⟩
    · have hwritten : (write fun w => w.promote email) t₁ = .ok () ⟨_, promote_new hnone ▸ hok⟩ :=
        exec_of _
      rw [hwritten] at hwrite
      cases hwrite
  · unfold ensureProfile
    refine ⟨(), t₂, onlyIf_eq_ok.2 (.inr ⟨by simp, rfl⟩), ht₂⟩

end Saving

/-! ## Runs -/

section Runs

variable [Unicode] [Platform] [Settings]

open AuthService ControlPlaneRepository UserRepository TenantService

/-- What anybody may ask for, with any roles. -/
inductive AccountOp where
  | register (payload : UserRegisterRequest) (school : Academics)
  | createInvitation (user : Authz.CurrentUser) (r : CreateInvitationRequest)
  | inviteUser (user : Authz.CurrentUser) (r : InvitationCreateRequest)
  | http (r : HttpRequest)
  | auth (r : Request)
  | assign (tenantId email newRole : String) (requestingUserRoles : List String)
      (school : Academics)
  | update (tenantId : String) (userId : UserRef) (primaryRole : String)
      (roles permissions userRole : List String) (school : Academics)
  | delete (tenantId : String) (targetUserId : UserRef) (requestingUserId : String)
      (userRole : List String) (authored : Bool)

def AccountOp.program : AccountOp → Prog Unit
  | register payload school => discard (Auth.register payload school).seq
  | createInvitation user r => Auth.createInvitation user r
  | inviteUser user r => Auth.inviteUser user r
  | http r => discard (getCurrentUser r)
  | auth r => discard r.task.seq
  | assign tenantId email newRole requestingUserRoles school =>
    assignUserRole tenantId email newRole requestingUserRoles school
  | update tenantId userId primaryRole roles permissions userRole school =>
    discard (updateTenantUserPermissions tenantId userId primaryRole roles permissions
      userRole school)
  | delete tenantId targetUserId requestingUserId userRole authored =>
    discard (deleteTenantUser tenantId targetUserId requestingUserId userRole authored)

def AccountOp.step (s : State) (op : AccountOp) : State := after op.program s

/-- A super admin saves as one a user that says super admin already, and is neither the operator
nor in `super_admins`. -/
def Resaves (s : State) : AccountOp → Prop
  | .update tenantId (.number id) primaryRole _ _ userRole _ =>
    primaryRole = "super_admin" ∧ Authz.require userRole ["super_admin"] = true ∧
      s.val.reachable tenantId = true ∧ ∃ u ∈ s.val.users tenantId, (u.id : Int) = id ∧
        Strange s.val u
  | _ => False

omit [Platform] in
theorem gains_assign (tenantId email newRole : String) (requestingUserRoles : List String)
    (school : Academics) :
    Moves GainsNoStranger (assignUserRole tenantId email newRole requestingUserRoles school) := by
  refine moves_raiseIf_bind fun _ => moves_raiseIf_bind fun _ =>
    moves_raiseIf_bind fun hrestricted => ?_
  refine moves_bind (gains_of_same (operators_openPool _)) fun _ =>
    moves_bind (moves_ask _) fun user => ?_
  refine moves_bind (gains_of_same ?_) fun _ => ?_
  · cases user with
    | none => exact moves_map (operators_handles.createUser _ _ _ _)
    | some u =>
      refine moves_bind ?_ fun _ => moves_raiseIf _ _
      refine moves_bind (moves_raiseIf _ _) fun _ => moves_bind (moves_ask _) fun _ => ?_
      exact moves_bind (operators_exec fun _ => rfl) fun _ => moves_pure _
  · refine moves_bind (gains_of_same (operators_ensureProfile _ _ _)) fun _ => ?_
    refine moves_bind (gains_of_same (operators_handles.upsertUserTenantMap _ _ _)) fun _ => ?_
    refine moves_onlyIf fun hrole s => gains_promote (.inl (by_contra fun hother => ?_))
    exact hrestricted ⟨hrole, hother⟩

omit [Platform] in
theorem gains_delete (tenantId : String) (targetUserId : UserRef) (requestingUserId : String)
    (userRole : List String) (authored : Bool) :
    Moves GainsNoStranger (deleteTenantUser tenantId targetUserId requestingUserId userRole
      authored) := by
  have hfound : ∀ row, Moves GainsNoStranger (foundUser row) := by
    intro row
    cases row with
    | none => exact moves_throw _
    | some u => exact moves_pure _
  have hdelete : Moves (Same operators) (deleteUser tenantId authored targetUserId) := by
    cases targetUserId with
    | uuid => exact moves_pure _
    | text raw => exact moves_pure _
    | unreadable e => exact moves_throw _
    | number id =>
      refine moves_bind (moves_ask _) fun _ => moves_bind (moves_raiseIf _ _) fun _ => ?_
      exact moves_bind (operators_exec fun _ => rfl) fun _ => moves_pure _
  refine moves_bind (moves_raiseIf _ _) fun _ =>
    moves_bind (gains_of_same (operators_openPool _)) fun _ => ?_
  refine moves_bind (gains_of_same (operators_getUserById _ _)) fun _ =>
    moves_bind (hfound _) fun target => ?_
  refine moves_bind (moves_raiseIf _ _) fun _ => moves_bind (moves_raiseIf _ _) fun _ => ?_
  refine moves_bind (gains_of_same hdelete) fun _ => moves_bind (hfound _) fun deleted => ?_
  refine moves_bind (moves_onlyIf fun _ => ?_) fun _ => moves_pure _
  refine moves_bind (moves_ignoring ?_) fun _ => ?_
  · unfold removeUserTenantMap write
    exact gains_of_same (operators_exec fun _ => rfl)
  · exact moves_onlyIf fun _ => moves_ignoring (gains_removeSuperAdmin _)

omit [Platform] [Settings] in
theorem operators_invitedSchool (action : String) (user : Authz.CurrentUser) (isSuper : Bool)
    (tenantId : String) : Moves (Same operators) (invitedSchool action user isSuper tenantId) := by
  unfold invitedSchool
  cases isSuper with
  | true => exact moves_pure _
  | false =>
    cases Text.nonEmpty user.tenantId with
    | none => exact moves_pure _
    | some own => exact moves_bind (moves_raiseIf _ _) fun _ => moves_pure _

omit [Platform] in
theorem operators_createInvitation (user : Authz.CurrentUser) (r : CreateInvitationRequest) :
    Moves (Same operators) (createInvitation user r) := by
  refine moves_bind (moves_raiseIf _ _) fun _ => moves_bind (moves_raiseIf _ _) fun _ => ?_
  refine moves_bind (operators_invitedSchool _ _ _ _) fun _ =>
    moves_bind operators_handles.draw fun _ => ?_
  refine moves_bind (moves_ask _) fun _ => ?_
  unfold ControlPlaneRepository.createInvitation write
  exact operators_exec fun _ => rfl

omit [Platform] [Settings] in
theorem operators_inviteUser (user : Authz.CurrentUser) (r : InvitationCreateRequest) :
    Moves (Same operators) (inviteUser user r) := by
  refine moves_bind (moves_raiseIf _ _) fun _ => moves_bind (moves_raiseIf _ _) fun _ => ?_
  refine moves_bind (operators_invitedSchool _ _ _ _) fun tenantId =>
    moves_bind (moves_ask _) fun _ => ?_
  refine moves_bind (moves_raiseIf _ _) fun _ => moves_bind ?_ fun _ => ?_
  · cases r.provisioning with
    | none => exact moves_pure _
    | some e => exact moves_throw _
  · refine moves_bind ?_ fun _ => ?_
    · unfold InvitationRepository.createInvitationRecord write
      exact operators_exec fun _ => rfl
    · refine moves_bind (operators_handles.getOrCreateIdentity _) fun _ =>
        operators_exec fun w => ?_
      unfold World.upsertMembership
      split_ifs <;> rfl

omit [Platform] in
/-- A user is saved, and a stranger is promoted only where one is resaved. -/
theorem gains_update_iff (s : State) (tenantId : String) (userId : UserRef) (primaryRole : String)
    (roles permissions userRole : List String) (school : Academics) :
    GainsNoStranger s
      (after (updateTenantUserPermissions tenantId userId primaryRole roles permissions
      userRole school) s) ↔
      ¬Resaves s (.update tenantId userId primaryRole roles permissions userRole school) := by
  constructor
  · intro hgains hresaves
    cases userId with
    | number id =>
      obtain ⟨rfl, hmay, hreachable, u, hu, rfl, hsuper, hemail, hother, hnone⟩ := hresaves
      have hend : Reaches (fun _ t => u.email ∈ operators t) (updateTenantUserPermissions tenantId
          (.number u.id) "super_admin" roles permissions userRole school) s := by
        refine reaches_bind (saveRoles_reaches hmay hreachable hu hsuper) ?_
        rintro ⟨was, updated⟩ t ⟨hupdated, hsame⟩
        dsimp only at hupdated ⊢
        rw [hupdated, onlyIf_of hemail]
        refine reaches_bind (followUp_promotes tenantId was roles school ?_) fun _ _ h =>
          reaches_pure h
        rw [← Option.not_isSome_iff_eq_none, superAdminByEmail_isSome, hsame,
          ← superAdminByEmail_isSome, Option.not_isSome_iff_eq_none]
        exact hnone
      obtain ⟨_, t, hok, hgained⟩ := hend
      rw [after_ok hok] at hgains
      rcases hgains u.email hgained with hoperator | hthere
      · exact hother hoperator
      · have hsome := superAdminByEmail_isSome.2 ⟨u.email, hthere, rfl⟩
        rw [hnone] at hsome
        cases hsome
    | uuid => exact hresaves
    | text raw => exact hresaves
    | unreadable e => exact hresaves
  · intro hresaves
    refine moves_bind_of_ok (gains_of_same (operators_saveRoles _ _ _ _ _ _) s) ?_
    rintro ⟨was, updated⟩ t hok
    have hsame : Same operators s t := after_ok hok ▸ operators_saveRoles _ _ _ _ _ _ s
    refine trans_of GainsNoStranger (gainsNoStranger_of_same hsame) ?_
    dsimp only
    rw [after_bind_idle fun _ _ => rfl]
    by_cases hemail : updated.email ≠ ""
    · rw [onlyIf_of hemail]
      refine gains_followUp tenantId was roles school fun hrole => ?_
      subst hrole
      have hthere : (t.val.superAdminByEmail updated.email).isSome =
          (s.val.superAdminByEmail updated.email).isSome := by
        rw [Bool.eq_iff_iff, superAdminByEmail_isSome, superAdminByEmail_isSome, hsame]
      rw [hthere]
      rcases saveRoles_ok hok with h | h | ⟨id, u, rfl, hmay, hreachable, hu, hid, hsuper, hsaved⟩
      · exact .inl h
      · exact .inr h
      · refine or_iff_not_imp_left.2 fun hother => ?_
        rw [← hsaved] at hemail hother ⊢
        rw [Option.isSome_iff_ne_none]
        exact fun hnone => hresaves ⟨rfl, hmay, hreachable, u, hu, hid, hsuper, hemail,
          hother, hnone⟩
    · have hskips : onlyIf (updated.email ≠ "") (followUp tenantId was primaryRole roles school
          updated.email) t = .ok () t := onlyIf_eq_ok.2 (.inr ⟨hemail, rfl⟩)
      rw [after_ok hskips]
      exact refl_of GainsNoStranger t

/-- **One step** gains a stranger if and only if it saves one as a super admin. -/
theorem gainsNoStranger_iff (s : State) (op : AccountOp) :
    GainsNoStranger s (op.step s) ↔ ¬Resaves s op := by
  unfold AccountOp.step
  match op with
  | .update tenantId userId primaryRole roles permissions userRole school =>
    show GainsNoStranger s (after (discard _) s) ↔ _
    rw [after_discard]
    exact gains_update_iff s tenantId userId primaryRole roles permissions userRole school
  | .register payload school =>
    exact iff_of_true (moves_map (gains_registers.register payload school) s) fun h => h
  | .createInvitation user r =>
    exact iff_of_true (gains_of_same (operators_createInvitation user r) s) fun h => h
  | .inviteUser user r =>
    exact iff_of_true (gains_of_same (operators_inviteUser user r) s) fun h => h
  | .http r =>
    exact iff_of_true (moves_map (gains_of_same (operators_resolving.getCurrentUser r)) s) fun h =>
      h
  | .auth r => exact iff_of_true (moves_map (gains_of_same (operators_handles.task r)) s) fun h => h
  | .assign tenantId email newRole requestingUserRoles school =>
    exact iff_of_true (gains_assign tenantId email newRole requestingUserRoles school s) fun h => h
  | .delete tenantId targetUserId requestingUserId userRole authored =>
    exact iff_of_true
      (moves_map (gains_delete tenantId targetUserId requestingUserId userRole authored) s) fun h =>
        h

/-- **In every run**, `super_admins` gains no stranger exactly as long as none is
saved as a super admin. -/
theorem oneOperator_run_iff (s : State) (ops : List AccountOp) :
    EachStep AccountOp.step (fun s op => GainsNoStranger s (op.step s)) s ops ↔
      EachStep AccountOp.step (fun s op => ¬Resaves s op) s ops :=
  ⟨EachStep.mono fun s op => (gainsNoStranger_iff s op).1,
    EachStep.mono fun s op => (gainsNoStranger_iff s op).2⟩

end Runs

/-! ## An invitation -/

section Example

attribute [local instance] ascii plain defaults

/-- A school, and the platform's operator. -/
def operatedSchool : State where
  val :=
    { tenants := [⟨"north"⟩]
      schemas := [⟨"north", [⟨1, "sa@desk.com", "super_admin", [], [], "$p"⟩], 2⟩]
      superAdmins := [⟨1, "sa@desk.com", "$p"⟩], parents := [], parentTenantLinks := []
      identities := [], userTenantMap := [], invitations := [], userInvitations := []
      selectionChallenges := [], refreshTokens := [], opened := ["north"], unreachable := []
      membershipCache := [], seq := 2, now := 10 }
  ok := by decide +kernel

def theOperator : Authz.CurrentUser where
  id := "1"
  tenantId := none
  role := "super_admin"
  email := "sa@desk.com"
  roles := ["super_admin"]

/-- Somebody else is invited as a super admin, and signs on. -/
def invitedOnce : List AccountOp :=
  [.inviteUser theOperator ⟨"bob@x", "north", "super_admin", none⟩,
    .http { credentials := some (.keycloak { sub := "k", email := some "bob@x" }) }]

/-- The row is saved as it is. -/
def resaved : AccountOp :=
  .update "north" (.number 2) "super_admin" ["super_admin"] [] ["super_admin"] ⟨true, true⟩

/-- The platform has two super admins. -/
theorem invited_operator :
    ¬EachStep AccountOp.step (fun s op => GainsNoStranger s (op.step s)) operatedSchool
      (invitedOnce ++ [resaved]) := by
  rw [eachStep_append]
  rintro ⟨-, hlast, -⟩
  exact absurd hlast (by decide +kernel)

end Example

end Sams.Auth
