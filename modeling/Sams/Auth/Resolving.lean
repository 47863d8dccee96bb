import Sams.Auth.Actions
import Sams.Auth.CurrentUser

/-!
# What a request keeps to

The resolution of a request writes in few places: it opens pools, heals memberships, caches them,
and creates the users and parents that it sees first. A property of programs that composition keeps,
and that these writes have, is one of the whole resolution (`Resolves.getCurrentUser`); so a
relation of states that they keep to is kept to by all of it (`Resolving.getCurrentUser`).

A relation that is about identities and memberships is kept to by every login and every request when
the three statements that write these tables keep to it (`AboutAccounts.handlesTokens`,
`AboutAccounts.resolving`).
-/

namespace Sams.Auth

open Programs Rows Interleaving

variable [Unicode]

/-- The world with other invitations. -/
def World.inviting (w : World) (invitations : List InvitationRow)
    (userInvitations : List UserInvitationRow) : World :=
  { w with invitations := invitations, userInvitations := userInvitations }

/-- A property of programs that composition keeps, and that the reads and writes of a request have.
Only the last resort reads the invitations. -/
structure Resolves (P : ∀ ⦃α : Type⦄, Prog α → Prop) : Prop where
  ret : ∀ {α : Type} (a : α), P (pure a)
  fail : ∀ {α : Type} (e : PyError), P (throw e : Prog α)
  bind : ∀ {α β : Type} {m : Prog β} {k : β → Prog α}, P m → (∀ b, P (k b)) → P (m >>= k)
  attempt : ∀ {α : Type} {m : Prog α}, P m → P (attempt m)
  reads : ∀ {α : Type} (f : World → α), (∀ w invitations userInvitations,
    f (w.inviting invitations userInvitations) = f w) → P (ask f)
  openPool : ∀ tenantId, P (openPool tenantId)
  upsertMap : ∀ email m, P (upsertMap email m)
  cache : ∀ email memberships, P (write fun w => w.cacheMemberships email memberships)
  withUser : ∀ tenantId email role,
    P (write fun w => w.updateSchema tenantId (UserRepository.withUser email keycloakManaged role))
  addParent : ∀ id email, P (write fun w =>
    { w with parents := w.parents ++ [⟨id, email, keycloakManaged⟩], seq := w.seq + 1 })
  addLink : ∀ parentId tenantId, P (write fun w =>
    { w with parentTenantLinks := w.parentTenantLinks ++ [⟨parentId, tenantId, w.now⟩] })

namespace Resolves

variable {P : ∀ ⦃α : Type⦄, Prog α → Prop} (h : Resolves P)

include h

theorem map {α β : Type} {m : Prog β} (f : β → α) (hm : P m) : P (f <$> m) := by
  rw [map_eq_pure_bind]
  exact h.bind hm fun b => h.ret (f b)

theorem ignoring {m : Prog Unit} (hm : P m) : P (ignoring m) :=
  h.bind (h.attempt hm) fun _ => h.ret _

theorem onlyIf {c : Prop} [Decidable c] {m : Prog Unit} (hm : P m) : P (onlyIf c m) := by
  unfold Programs.onlyIf
  split_ifs
  · exact hm
  · exact h.ret _

theorem raiseIf (c : Prop) [Decidable c] (e : PyError) : P (raiseIf c e) := h.onlyIf (h.fail e)

theorem decodeCredentials (c : Option Credentials) : P (decodeCredentials c) := by
  match c with
  | none => exact h.fail _
  | some .invalid => exact h.fail _
  | some (.keycloak claims) => exact h.ret _
  | some (.internal token) =>
    exact h.bind (h.reads _ fun _ _ _ => rfl) fun _ => h.bind (h.raiseIf _ _) fun _ => h.ret _

theorem failClosed (c : Caller) (r : Resolution) : P (failClosed c r) := by
  unfold Auth.failClosed
  split_ifs
  · exact h.ret _
  · exact h.fail _
  · exact h.fail _
  · exact h.ret _

theorem identify (c : Claims) (isKeycloak : Bool) : P (identify c isKeycloak) := by
  refine h.bind (h.reads _ fun _ _ _ => rfl) fun known => h.bind ?_ fun _ => h.ret _
  unfold resolveMemberships
  split_ifs
  · exact h.ret _
  · refine h.bind (h.reads _ fun _ _ _ => rfl) fun cached => ?_
    cases cached with
    | some memberships => exact h.ret _
    | none =>
      exact h.bind (h.reads _ fun _ _ _ => rfl) fun _ => h.bind (h.cache _ _) fun _ => h.ret _

theorem applySelection (c : Caller) (selection : Option String) (r : Resolution) :
    P (applySelection c selection r) := by
  unfold Auth.applySelection
  cases selection.filter fun t => Text.strip t ≠ "" with
  | none => exact h.ret _
  | some t =>
    dsimp only
    unfold selectTenant
    split_ifs
    · exact h.ret _
    · cases c.memberships.find? (selected (Text.lower (Text.strip t))) with
      | none => exact h.fail _
      | some m => exact h.ret _

theorem lookInto (email tenantId : String) : P (lookInto email tenantId) :=
  h.bind (h.openPool _) fun _ => h.reads _ fun _ _ _ => rfl

theorem scanUsers (email : String) (r : Resolution) (tenants : List TenantRow) :
    P (scanUsers email r tenants) := by
  induction tenants with
  | nil => exact h.ret _
  | cons t ts ih =>
    unfold Auth.scanUsers
    split_ifs
    · exact ih
    · refine h.bind (h.attempt (h.lookInto _ _)) fun found => ?_
      cases found.join with
      | none => exact ih
      | some user => exact h.bind (h.ignoring (h.upsertMap _ _)) fun _ => h.ret _

/-- The school of a request, after the last resort. -/
theorem afterLastResort (c : Caller) (selection : Option String) (r : Resolution) :
    P (do
      let (r, switched) ← Auth.applySelection c selection r
      let r ← tryScan c r
      let r ← Auth.failClosed c r
      pure (r, switched)) := by
  refine h.bind (h.applySelection c selection r) fun ⟨r, switched⟩ => ?_
  refine h.bind ?_ fun r => h.bind (h.failClosed c r) fun _ => h.ret _
  unfold tryScan
  split_ifs
  · exact h.bind (h.reads _ fun _ _ _ => rfl) fun _ => h.scanUsers _ _ _
  · exact h.ret _

theorem provision (email : String) (r : Resolution) : P (provision email r) := by
  refine h.bind ?_ fun created => h.bind ?_ fun localId => ?_
  · refine h.bind (h.reads _ fun _ _ _ => rfl) fun there => ?_
    split_ifs
    · exact h.ret _
    · exact h.bind (h.reads _ fun _ _ _ => rfl) fun _ => h.bind (h.withUser _ _ _) fun _ => h.ret _
  · cases created with
    | some id => exact h.ret _
    | none => exact h.bind (h.reads _ fun _ _ _ => rfl) fun _ => h.ret _
  · cases localId with
    | none => exact h.ret _
    | some id => exact h.bind (h.ignoring (h.upsertMap _ _)) fun _ => h.ret _

theorem readUser (c : Caller) (switched : Bool) (r : Resolution) : P (readUser c switched r) := by
  unfold Auth.readUser
  split_ifs
  · exact h.ret _
  · refine h.bind (h.attempt ?_) fun found => ?_
    · refine h.bind (h.openPool _) fun _ => h.bind (h.reads _ fun _ _ _ => rfl) fun user => ?_
      unfold resolveUser
      cases user with
      | some u => exact h.ret _
      | none =>
        dsimp only
        split_ifs
        · exact h.ret _
        · exact h.ret _
        · exact h.map _ (h.provision _ _)
    · cases found.getD (some r) with
      | none => exact h.fail _
      | some r => exact h.ret _

theorem provisionLocalParent (email tenantId : String) :
    P (provisionLocalParent email tenantId) := by
  refine h.bind ?_ fun parentId => h.bind ?_ fun _ => ?_
  · refine h.bind (h.reads _ fun _ _ _ => rfl) fun row => ?_
    cases row with
    | some p => exact h.ret _
    | none =>
      exact h.bind (h.reads _ fun _ _ _ => rfl) fun _ => h.bind (h.addParent _ _) fun _ => h.ret _
  · exact h.bind (h.reads _ fun _ _ _ => rfl) fun _ => h.onlyIf (h.addLink _ _)
  · refine h.bind (h.openPool _) fun _ => h.bind (h.reads _ fun _ _ _ => rfl) fun there => ?_
    cases there with
    | some u => exact h.ret _
    | none =>
      exact h.bind (h.reads _ fun _ _ _ => rfl) fun _ => h.bind (h.withUser _ _ _) fun _ => h.ret _

theorem ensureParent (c : Caller) (r : Resolution) : P (ensureParent c r) := by
  unfold Auth.ensureParent
  split_ifs
  · refine h.bind (h.attempt (h.provisionLocalParent _ _)) fun localId => ?_
    cases localId with
    | none => exact h.ret _
    | some id => exact h.bind (h.ignoring (h.upsertMap _ _)) fun _ => h.ret _
  · exact h.ret _

theorem resolveAccount [Platform] (c : Caller) (switched : Bool) (r : Resolution) :
    P (resolveAccount c switched r) := by
  refine h.bind (h.readUser c switched r) fun r => h.bind (h.ensureParent c r) fun r => ?_
  exact h.bind (h.bind (h.reads _ fun _ _ _ => rfl) fun _ => h.raiseIf _ _) fun _ => h.ret _

/-- **The resolution of a request** has the property, if the last resort has it. -/
theorem getCurrentUser [Platform] (hlast : ∀ c r, P (tryLastResort c r)) (request : HttpRequest) :
    P (getCurrentUser request) := by
  refine h.bind (h.decodeCredentials _) fun ⟨claims, isKeycloak⟩ => ?_
  refine h.bind (h.identify claims isKeycloak) fun ⟨caller, r⟩ => ?_
  refine h.bind (h.bind (hlast caller r) fun r => h.afterLastResort caller request.selection r) ?_
  exact fun ⟨r, switched⟩ => h.resolveAccount caller switched r

end Resolves

theorem after_ignoring (m : Prog Unit) (s : State) : after (ignoring m) s = after m s := by
  unfold ignoring
  rw [after_bind_idle fun _ _ => rfl, after_attempt]

theorem moves_ignoring {R : State → State → Prop} {m : Prog Unit} (h : Moves R m) :
    Moves R (ignoring m) :=
  fun s => after_ignoring m s ▸ h s

/-- The writes of a request keep to `R`. -/
structure Resolving (R : State → State → Prop) [IsPreorder State R] : Prop where
  openPool : ∀ tenantId, Moves R (openPool tenantId)
  upsertMap : ∀ email m, Moves R (upsertMap email m)
  cache : ∀ email memberships, Moves R (write fun w => w.cacheMemberships email memberships)
  withUser : ∀ tenantId email role,
    Moves R
      (write fun w => w.updateSchema tenantId (UserRepository.withUser email keycloakManaged role))
  addParent : ∀ id email, Moves R (write fun w =>
    { w with parents := w.parents ++ [⟨id, email, keycloakManaged⟩], seq := w.seq + 1 })
  addLink : ∀ parentId tenantId, Moves R (write fun w =>
    { w with parentTenantLinks := w.parentTenantLinks ++ [⟨parentId, tenantId, w.now⟩] })

theorem moves_ask {R : State → State → Prop} [IsPreorder State R] {α : Type} (f : World → α) :
    Moves R (ask f) := moves_query _

namespace Resolving

variable {R : State → State → Prop} [IsPreorder State R] (h : Resolving R)

include h

theorem resolves : Resolves fun _ (m : Prog _) => Moves R m where
  ret := moves_pure
  fail := moves_throw
  bind := moves_bind
  attempt hm := moves_rescue (moves_map hm) fun _ => moves_pure _
  reads f _ := moves_ask f
  openPool := h.openPool
  upsertMap := h.upsertMap
  cache := h.cache
  withUser := h.withUser
  addParent := h.addParent
  addLink := h.addLink

theorem readUser (c : Caller) (switched : Bool) (r : Resolution) :
    Moves R (readUser c switched r) :=
  h.resolves.readUser c switched r

theorem ensureParent (c : Caller) (r : Resolution) : Moves R (ensureParent c r) :=
  h.resolves.ensureParent c r

theorem tryLastResort (c : Caller) (r : Resolution) : Moves R (tryLastResort c r) := by
  unfold Auth.tryLastResort
  split_ifs
  · exact moves_bind (moves_ask _) fun _ =>
      moves_bind (h.resolves.ignoring (h.upsertMap _ _)) fun _ => moves_pure _
  · exact moves_pure _

/-- **The resolution of a request** keeps to what its writes keep to. -/
theorem getCurrentUser [Platform] (request : HttpRequest) : Moves R (getCurrentUser request) :=
  h.resolves.getCurrentUser h.tryLastResort request

end Resolving

/-! ## Identities and memberships -/

/-- A relation that nothing but the statements on identities and memberships can break. -/
structure AboutAccounts (R : State → State → Prop) [IsPreorder State R] : Prop where
  same : ∀ s s' : State, s'.val.identities = s.val.identities →
    s'.val.userTenantMap = s.val.userTenantMap → R s s'
  upsertIdentity : ∀ email,
    Moves R (exec .databaseError fun w => w.upsertIdentity (normalize email) :
    EStateM PyError State Unit)
  upsertMembership : ∀ identityId email tenantId role,
    Moves R (exec .databaseError fun w => w.upsertMembership identityId email tenantId role :
      EStateM PyError State Unit)
  touch : ∀ identityId tenantId,
    Moves R (ControlPlaneRepository.touchMembershipLastActive identityId tenantId).seq

namespace AboutAccounts

open AuthService ControlPlaneRepository UserRepository

variable {R : State → State → Prop} [IsPreorder State R] (h : AboutAccounts R)

include h

/-- A write of other tables. -/
theorem exec_same {e : PyError} {f : World → World}
    (hidentities : ∀ w, (f w).identities = w.identities)
    (hmap : ∀ w, (f w).userTenantMap = w.userTenantMap) :
    Moves R (exec e f : EStateM PyError State Unit) :=
  moves_exec fun s _ => h.same _ _ (hidentities s.val) (hmap s.val)

/-- A statement on other tables. -/
theorem stmt_same {f : World → World} (hidentities : ∀ w, (f w).identities = w.identities)
    (hmap : ∀ w, (f w).userTenantMap = w.userTenantMap) : Moves R (stmt f).seq := by
  rw [stmt, Proc.seq_once]
  exact h.exec_same hidentities hmap

theorem openPool (tenantId : String) : Moves R (openPool tenantId) := by
  refine moves_bind ?_ fun _ => moves_bind (moves_query _) fun _ =>
    moves_bind (moves_raiseIf _ _) fun _ => ?_
  · refine h.exec_same ?_ ?_ <;> intro w <;> unfold World.register <;> split_ifs <;> rfl
  · have hcreate : ∀ w : World, (w.createSchema tenantId).identities = w.identities ∧
        (w.createSchema tenantId).userTenantMap = w.userTenantMap := by
      intro w
      unfold World.createSchema
      split_ifs <;> exact ⟨rfl, rfl⟩
    refine h.exec_same ?_ ?_ <;> intro w <;> unfold World.initializeTables <;> split_ifs
    · rfl
    · exact (hcreate w).1
    · rfl
    · exact (hcreate w).2

theorem handlesQuiet : HandlesQuiet fun _ (p : Task _) => Moves R p.seq where
  toCompositional := Proc.compositional_moves
  look f := by
    rw [Proc.seq_look]
    exact moves_query f
  draw := by
    rw [draw, Proc.seq_once]
    exact moves_bind (moves_query _) fun _ =>
      moves_bind (h.exec_same (fun _ => rfl) fun _ => rfl) fun _ => moves_pure _
  getDbPool tenantId := by
    rw [getDbPool, Proc.seq_once]
    exact h.openPool tenantId
  tryPool tenantId := by
    rw [Proc.seq_once]
    exact moves_rescue (moves_map (h.openPool tenantId)) fun _ => moves_pure _
  getOrCreateIdentity email := by
    rw [getOrCreateIdentity, Proc.seq_once]
    refine moves_bind (h.upsertIdentity email) fun _ => moves_bind (moves_query _) fun row => ?_
    cases row with
    | none => exact moves_throw _
    | some row => exact moves_pure _
  joinMap identityId email tenantId role := by
    rw [stmt, Proc.seq_once]
    exact h.upsertMembership _ _ _ _
  invalidate _ := h.stmt_same (fun _ => rfl) fun _ => rfl
  insertUser tenantId email hash role := by
    rw [insertUser, Proc.seq_once]
    exact moves_bind (moves_query _) fun _ =>
      moves_bind (h.exec_same (fun _ => rfl) fun _ => rfl) fun _ => moves_pure _
  touchMembershipLastActive := h.touch
  updateSuperAdminPassword _ _ := h.stmt_same (fun _ => rfl) fun _ => rfl
  updateParentPassword _ _ := h.stmt_same (fun _ => rfl) fun _ => rfl
  updateUserPasswordHash _ _ _ := h.stmt_same (fun _ => rfl) fun _ => rfl
  tick _ := h.stmt_same (fun _ => rfl) fun _ => rfl

theorem handlesTokens : HandlesTokens fun _ (p : Task _) => Moves R p.seq where
  toHandlesQuiet := h.handlesQuiet
  createRefreshToken _ _ _ _ _ _ := h.stmt_same (fun _ => rfl) fun _ => rfl
  replace _ _ := by
    rw [ControlPlaneRepository.rotateRefreshToken, Proc.seq_marked]
    exact h.exec_same (fun _ => rfl) fun _ => rfl
  revokeRefreshTokenFamily _ := h.stmt_same (fun _ => rfl) fun _ => rfl
  challenge _ _ _ _ := h.stmt_same (fun _ => rfl) fun _ => rfl
  consume tokenHash := by
    rw [redeemSelectionChallenge, Proc.seq_once]
    exact moves_bind (moves_query _) fun _ =>
      moves_bind (h.exec_same (fun _ => rfl) fun _ => rfl) fun _ => moves_pure _

/-- The resolution of requests keeps to it. -/
theorem resolving : Resolving R where
  openPool := h.openPool
  upsertMap email m := by
    cases m with
    | none => exact moves_pure ()
    | some m => exact h.handlesQuiet.upsertUserTenantMap email m.tenantId m.role
  cache _ _ := h.exec_same (fun _ => rfl) fun _ => rfl
  withUser _ _ _ := h.exec_same (fun _ => rfl) fun _ => rfl
  addParent _ _ := h.exec_same (fun _ => rfl) fun _ => rfl
  addLink _ _ := h.exec_same (fun _ => rfl) fun _ => rfl

end AboutAccounts

end Sams.Auth
