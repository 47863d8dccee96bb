import Sams.Auth.Login

/-!
# The actions of the requests

Most actions of a request leave the refresh tokens and the selection challenges alone; they
are *quiet*. A property that composition keeps holds of a whole request when it holds of quiet
actions, of issuing a token, and of what creates and consumes a challenge (`Handles.loginUser`,
`Handles.loginRedeem`, `Handles.changePassword`).
-/

namespace Sams.Auth

open Programs Rows Interleaving

variable [Unicode]

/-- Tokens and challenges are left alone; the sequence and the clock only move forward. -/
structure Quiet (s s' : State) : Prop where
  tokens : s'.val.refreshTokens = s.val.refreshTokens
  challenges : s'.val.selectionChallenges = s.val.selectionChallenges
  seq : s.val.seq ≤ s'.val.seq
  now : s.val.now ≤ s'.val.now

theorem quiet_refl (s : State) : Quiet s s := ⟨rfl, rfl, le_rfl, le_rfl⟩

instance : IsPreorder State Quiet where
  refl := quiet_refl
  trans _ _ _ h h' := ⟨h'.tokens.trans h.tokens, h'.challenges.trans h.challenges,
    h.seq.trans h'.seq, h.now.trans h'.now⟩

/-! ## Statements -/

/-- A write of other tables. -/
theorem quiet_exec {e : PyError} {f : World → World}
    (tokens : ∀ w, (f w).refreshTokens = w.refreshTokens)
    (challenges : ∀ w, (f w).selectionChallenges = w.selectionChallenges)
    (seq : ∀ w, w.seq ≤ (f w).seq) (now : ∀ w, w.now ≤ (f w).now) :
    Moves Quiet (exec e f : EStateM PyError State Unit) :=
  moves_exec fun s _ => ⟨tokens s.val, challenges s.val, seq s.val, now s.val⟩

/-- A write of other tables that draws nothing. -/
theorem quiet_exec_same {e : PyError} {f : World → World}
    (tokens : ∀ w, (f w).refreshTokens = w.refreshTokens)
    (challenges : ∀ w, (f w).selectionChallenges = w.selectionChallenges)
    (seq : ∀ w, (f w).seq = w.seq) (now : ∀ w, (f w).now = w.now) :
    Moves Quiet (exec e f : EStateM PyError State Unit) :=
  quiet_exec tokens challenges (fun w => (seq w).ge) fun w => (now w).ge

theorem quiet_drawNext : Moves Quiet drawNext := by
  refine moves_bind (moves_query _) fun _ => moves_bind ?_ fun _ => moves_pure _
  exact quiet_exec (fun _ => rfl) (fun _ => rfl) (fun w => Nat.le_succ w.seq) fun _ => le_rfl

theorem quiet_register (tenantId : String) :
    Moves Quiet (exec .databaseError fun w => w.register tenantId : EStateM PyError
      State Unit) := by
  refine quiet_exec_same ?_ ?_ ?_ ?_ <;> intro w <;> unfold World.register <;> split_ifs <;> rfl

theorem quiet_initializeTables (tenantId : String) :
    Moves Quiet (exec .databaseError fun w => w.initializeTables tenantId :
      EStateM PyError State Unit) := by
  have hcreate : ∀ w : World, (w.createSchema tenantId).refreshTokens = w.refreshTokens ∧
      (w.createSchema tenantId).selectionChallenges = w.selectionChallenges ∧
      (w.createSchema tenantId).seq = w.seq ∧ (w.createSchema tenantId).now = w.now := by
    intro w
    unfold World.createSchema
    split_ifs <;> exact ⟨rfl, rfl, rfl, rfl⟩
  refine quiet_exec_same ?_ ?_ ?_ ?_ <;> intro w <;> unfold World.initializeTables <;> split_ifs
  · rfl
  · exact (hcreate w).1
  · rfl
  · exact (hcreate w).2.1
  · rfl
  · exact (hcreate w).2.2.1
  · rfl
  · exact (hcreate w).2.2.2

theorem quiet_openPool (tenantId : String) : Moves Quiet (openPool tenantId) :=
  moves_bind (quiet_register tenantId) fun _ => moves_bind (moves_query _) fun _ =>
    moves_bind (moves_raiseIf _ _) fun _ => quiet_initializeTables tenantId

theorem quiet_upsertIdentity (email : String) :
    Moves Quiet (exec .databaseError fun w => w.upsertIdentity email :
      EStateM PyError State Unit) := by
  refine quiet_exec ?_ ?_ ?_ ?_ <;> intro w <;> unfold World.upsertIdentity <;>
    cases w.identityByEmail email
  all_goals first | rfl | exact le_rfl | exact Nat.le_succ _

theorem quiet_upsertMembership (identityId : Nat) (email tenantId role : String) :
    Moves Quiet (exec .databaseError fun w => w.upsertMembership identityId email tenantId role :
      EStateM PyError State Unit) := by
  refine quiet_exec_same ?_ ?_ ?_ ?_ <;> intro w <;> unfold World.upsertMembership <;>
    split_ifs <;> rfl

/-- A write of a tenant's schema. -/
theorem quiet_updateSchema (e : PyError) (tenantId : String) (f : SchemaRow → SchemaRow) :
    Moves Quiet (exec e fun w => w.updateSchema tenantId f : EStateM PyError State Unit) :=
  quiet_exec_same (fun _ => rfl) (fun _ => rfl) (fun _ => rfl) fun _ => rfl

/-! ## Requests -/

open AuthService ControlPlaneRepository UserRepository

variable {P : ∀ ⦃α : Type⦄, Task α → Prop}

/-- A property of programs that composition keeps and that the actions of a request have which leave
the tokens and the challenges alone. -/
structure HandlesQuiet (P : ∀ ⦃α : Type⦄, Task α → Prop) : Prop extends Proc.Compositional P where
  look : ∀ {α : Type} (f : State → α), P (Proc.look f)
  draw : P draw
  getDbPool : ∀ tenantId, P (getDbPool tenantId)
  tryPool : ∀ tenantId, P (Proc.once (attempt (openPool tenantId)))
  getOrCreateIdentity : ∀ email, P (getOrCreateIdentity email)
  joinMap : ∀ identityId email tenantId role,
    P (stmt fun w => w.upsertMembership identityId email tenantId role)
  invalidate : ∀ email, P (stmt fun w => w.invalidate email)
  insertUser : ∀ tenantId email hash role, P (insertUser tenantId email hash role)
  touchMembershipLastActive : ∀ identityId tenantId,
    P (touchMembershipLastActive identityId tenantId)
  updateSuperAdminPassword : ∀ id hash, P (updateSuperAdminPassword id hash)
  updateParentPassword : ∀ id hash, P (updateParentPassword id hash)
  updateUserPasswordHash : ∀ tenantId id hash, P (updateUserPasswordHash tenantId id hash)
  tick : ∀ seconds, P (stmt fun w => { w with now := w.now + seconds })

/-- It is enough that quiet actions have the property. -/
theorem handlesQuiet_of_quiet (hP : Proc.Compositional P)
    (hquiet : ∀ {α : Type} {m : EStateM PyError State α}, Moves Quiet m → P (Proc.once m)) :
    HandlesQuiet P where
  toCompositional := hP
  look f := hquiet (moves_query f)
  draw := hquiet quiet_drawNext
  getDbPool tenantId := hquiet (quiet_openPool tenantId)
  tryPool tenantId :=
    hquiet (moves_rescue (moves_map (quiet_openPool tenantId)) fun _ => moves_pure _)
  getOrCreateIdentity email := by
    refine hquiet (moves_bind (quiet_upsertIdentity _) fun _ => moves_bind (moves_query _) ?_)
    intro row
    cases row with
    | none => exact moves_throw _
    | some row => exact moves_pure _
  joinMap _ _ _ _ := hquiet (quiet_upsertMembership _ _ _ _)
  invalidate _ := hquiet (quiet_exec_same (fun _ => rfl) (fun _ => rfl) (fun _ => rfl) fun _ => rfl)
  insertUser _ _ _ _ := hquiet (moves_bind (moves_query _) fun _ =>
    moves_bind (quiet_updateSchema _ _ _) fun _ => moves_pure _)
  touchMembershipLastActive _ _ :=
    hquiet (quiet_exec_same (fun _ => rfl) (fun _ => rfl) (fun _ => rfl) fun _ => rfl)
  updateSuperAdminPassword _ _ :=
    hquiet (quiet_exec_same (fun _ => rfl) (fun _ => rfl) (fun _ => rfl) fun _ => rfl)
  updateParentPassword _ _ :=
    hquiet (quiet_exec_same (fun _ => rfl) (fun _ => rfl) (fun _ => rfl) fun _ => rfl)
  updateUserPasswordHash _ _ _ := hquiet (quiet_updateSchema _ _ _)
  tick seconds := hquiet (quiet_exec (fun _ => rfl) (fun _ => rfl) (fun _ => le_rfl)
    fun w => Nat.le_add_right w.now seconds)

/-! ### Quiet parts -/

namespace HandlesQuiet

variable (h : HandlesQuiet P)

include h

theorem upsertUserTenantMap (email tenantId role : String) :
    P (upsertUserTenantMap email tenantId role) :=
  h.bind (h.getOrCreateIdentity email) fun _ => h.bind (h.joinMap _ _ _ _) fun _ => h.invalidate _

theorem createUser (tenantId email hash role : String) : P (createUser tenantId email hash role) :=
  h.bind (h.failIf _ _) fun _ => h.insertUser _ _ _ _

theorem enumerateLoginTenants (email : String) : P (enumerateLoginTenants email) := by
  refine h.bind (h.look _) fun _ => h.bind (h.look _) fun _ => h.bind (h.look _) fun parent => ?_
  refine h.bind ?_ fun _ => h.ret _
  cases parent with
  | none => exact h.ret _
  | some parent => exact h.look _

theorem fetchTenantUser (email tenantId : String) : P (fetchTenantUser email tenantId) := by
  refine h.bind (h.tryPool tenantId) fun pool => ?_
  cases pool with
  | none => exact h.ret _
  | some _ => exact h.bind (h.look _) fun _ => h.ret _

theorem fetchParentOrUser (email tenantId : String) (parent : Option ParentRow) :
    P (fetchParentOrUser email tenantId parent) := by
  cases parent with
  | none => exact h.fetchTenantUser email tenantId
  | some parent =>
    refine h.bind (h.look _) fun isLinked => ?_
    cases isLinked with
    | true => exact h.ret _
    | false => exact h.fetchTenantUser email tenantId

theorem fetchLoginCandidate (email tenantId : String) (parent : Option ParentRow)
    (superAdmin : Option SuperAdminRow) :
    P (fetchLoginCandidate email tenantId parent superAdmin) := by
  unfold AuthService.fetchLoginCandidate
  cases superAdmin with
  | none => exact h.fetchParentOrUser email tenantId parent
  | some a =>
    dsimp only
    split_ifs
    · exact h.ret _
    · exact h.fetchParentOrUser email tenantId parent

theorem scanTenants (email : String) (tenants : List TenantRow) :
    P (scanTenants email tenants) := by
  induction tenants with
  | nil => exact h.ret _
  | cons t ts ih =>
    unfold AuthService.scanTenants
    split_ifs
    · exact ih
    · refine h.bind (h.fetchTenantUser email t.tenantId) fun candidate => ?_
      cases candidate with
      | none => exact ih
      | some candidate => exact h.ret _

theorem resolveLocalAccount (identityId : Nat) (tenantId role : String) :
    P (resolveLocalAccount identityId tenantId role) := by
  refine h.bind (h.look _) fun identity => ?_
  cases identity with
  | none => exact h.fail _
  | some identity =>
    dsimp only
    split_ifs
    · refine h.bind (h.look _) fun superAdmin => ?_
      cases superAdmin with
      | none => exact h.fail _
      | some a => exact h.ret _
    · refine h.bind (h.getDbPool _) fun _ => h.bind (h.look _) fun user => ?_
      cases user with
      | none => exact h.fail _
      | some user => exact h.ret _

theorem selectedAccount (identityId : Nat) (tenantId : String) :
    P (selectedAccount identityId tenantId) := by
  refine h.bind ?_ fun role => h.resolveLocalAccount identityId tenantId role
  unfold hintRole
  split_ifs
  · exact h.ret _
  · exact h.bind (h.look _) fun _ => h.ret _

theorem touchMembership (identityId : Nat) (tenantId : String) :
    P (touchMembership identityId tenantId) := by
  unfold AuthService.touchMembership
  split_ifs
  · exact h.ret _
  · exact h.touchMembershipLastActive identityId tenantId

theorem updateMirror (email newHash : String) (tenantId : Option String) :
    P (updateMirror email newHash tenantId) := by
  cases tenantId with
  | none => exact h.ret _
  | some tenantId =>
    refine h.bind (h.getDbPool _) fun _ => h.bind (h.look _) fun localUser => ?_
    cases localUser with
    | none => exact h.ret _
    | some user => exact h.updateUserPasswordHash _ _ _

variable [Platform]

theorem createAccessToken (userId : Nat) (tenantId role email : String) (roles : List String)
    (identityId : Option Nat) : P (createAccessToken userId tenantId role email roles identityId) :=
  h.bind (h.look _) fun _ => h.ret _

theorem checkCurrent (storedHash currentPassword : String) :
    P (checkCurrent storedHash currentPassword) :=
  h.bind (h.failIf _ _) fun _ => h.failIf _ _

theorem hashPassword (password : String) : P (hashPassword password) := h.map _ h.draw

theorem changePassword (email role : String) (tenantId : Option String)
    (currentPassword newPassword : String) :
    P (changePassword email role tenantId currentPassword newPassword) := by
  refine h.bind (h.failIf _ _) fun _ => ?_
  split_ifs
  · refine h.bind (h.look _) fun record => ?_
    cases record with
    | none => exact h.fail _
    | some record =>
      refine h.bind (h.checkCurrent _ _) fun _ => h.bind (h.hashPassword _) fun _ => ?_
      exact h.updateSuperAdminPassword _ _
  · refine h.bind (h.look _) fun record => ?_
    cases record with
    | none => exact h.fail _
    | some record =>
      refine h.bind (h.checkCurrent _ _) fun _ => h.bind (h.hashPassword _) fun _ => ?_
      exact h.bind (h.updateParentPassword _ _) fun _ => h.updateMirror _ _ _
  · cases Text.nonEmpty tenantId with
    | none => exact h.fail _
    | some tenantId =>
      refine h.bind (h.getDbPool _) fun _ => h.bind (h.look _) fun user => ?_
      cases user with
      | none => exact h.fail _
      | some user =>
        refine h.bind (h.checkCurrent _ _) fun _ => h.bind (h.hashPassword _) fun _ => ?_
        exact h.updateUserPasswordHash _ _ _

end HandlesQuiet

/-! ### Whole requests -/

/-- The other actions of the requests have it too. -/
structure Handles [Platform] (P : ∀ ⦃α : Type⦄, Task α → Prop) : Prop extends HandlesQuiet P where
  issue : ∀ identityId tenantId role, P (AuthService.issueRefreshToken identityId tenantId role)
  challenge : ∀ tokenHash identityId matchedTenants expiresAt,
    P (ControlPlaneRepository.createSelectionChallenge tokenHash identityId
      matchedTenants expiresAt)
  consume : ∀ tokenHash, P (ControlPlaneRepository.redeemSelectionChallenge tokenHash)

namespace Handles

variable [Platform] (h : Handles P)

include h

theorem issueSession (userId : Nat) (tenantId role email : String) (roles : List String)
    (identityId : Nat) : P (issueSession userId tenantId role email roles identityId) :=
  h.bind (h.createAccessToken _ _ _ _ _ _) fun _ => h.bind (h.issue _ _ _) fun _ => h.ret _

theorem completeLogin (chosen : Candidate) (email : String) : P (completeLogin chosen email) := by
  refine h.bind (h.getOrCreateIdentity email) fun identity => ?_
  cases chosen.record with
  | superAdmin a => exact h.issueSession _ _ _ _ _ _
  | parent parent =>
    refine h.bind (h.look _) fun _ => h.bind (h.failIf _ _) fun _ =>
      h.bind (h.getDbPool _) fun _ => ?_
    refine h.bind (h.look _) fun localUser => h.bind ?_ fun _ => ?_
    · cases localUser with
      | none => exact h.createUser _ _ _ _
      | some user => exact h.ret _
    · exact h.bind (h.upsertUserTenantMap _ _ _) fun _ => h.issueSession _ _ _ _ _ _
  | tenantUser user =>
    exact h.bind (h.upsertUserTenantMap _ _ _) fun _ => h.issueSession _ _ _ _ _ _

theorem issueLoginSelectionChallenge (email : String) (matched : List Candidate) :
    P (issueLoginSelectionChallenge email matched) := by
  refine h.bind (h.getOrCreateIdentity email) fun _ => h.bind (h.map _ h.draw) fun _ => ?_
  exact h.bind (h.look _) fun _ => h.bind (h.challenge _ _ _ _) fun _ => h.ret _

theorem loginCandidate (email password : String) (chosen : Option Candidate) :
    P (loginCandidate email password chosen) := by
  cases chosen with
  | none => exact h.fail _
  | some chosen =>
    exact h.bind (h.failIf _ _) fun _ => h.bind (h.completeLogin chosen email) fun _ => h.ret _

theorem loginEverywhere (email password : String) (found : LoginTenants) :
    P (loginEverywhere email password found) := by
  refine h.bind (h.mapM fun _ => h.fetchLoginCandidate _ _ _ _) fun _ => h.bind ?_ fun matched => ?_
  · exact h.bind (h.map _ h.draw) fun _ => h.ret _
  · match matched with
    | [] => exact h.fail _
    | [chosen] => exact h.bind (h.completeLogin chosen email) fun _ => h.ret _
    | c :: c' :: rest => exact h.issueLoginSelectionChallenge email _

theorem loginUnnamed (email password : String) (found : LoginTenants) :
    P (loginUnnamed email password found) := by
  unfold AuthService.loginUnnamed
  split_ifs
  · refine h.bind (h.bind (h.look _) fun _ => h.scanTenants _ _) fun fallback => ?_
    cases fallback with
    | none => exact h.fail _
    | some candidate => exact h.loginCandidate email password (some candidate)
  · exact h.loginEverywhere email password found

theorem loginUser (email password : String) (tenantId : Option String) :
    P (loginUser email password tenantId) := by
  refine h.bind (h.enumerateLoginTenants _) fun found => ?_
  cases Text.nonEmpty tenantId with
  | none => exact h.loginUnnamed _ password found
  | some t =>
    exact h.bind (h.failIf _ _) fun _ => h.bind (h.fetchLoginCandidate _ _ _ _) fun _ =>
      h.loginCandidate _ password _

theorem redeemRow (tenantId : String) (row : Option ChallengeRow) : P (redeemRow tenantId row) := by
  cases row with
  | none => exact h.fail _
  | some row =>
    refine h.bind (h.failIf _ _) fun _ => h.bind (h.wrap _ (h.selectedAccount _ _)) fun account =>
      ?_
    refine h.bind (h.look _) fun identity => ?_
    cases identity with
    | none => exact h.fail _
    | some identity =>
      refine h.bind (h.createAccessToken _ _ _ _ _ _) fun _ => ?_
      exact h.bind (h.touchMembership _ _) fun _ => h.bind (h.issue _ _ _) fun _ => h.ret _

theorem loginRedeem (selectionToken tenantId : String) : P (loginRedeem selectionToken tenantId) :=
  h.bind (h.consume _) fun row => h.redeemRow tenantId row

/-- Every request, given the rotation. -/
theorem task (hrotate : ∀ raw, P (rotateRefreshToken raw)) (r : Request) : P r.task := by
  cases r with
  | login email password tenantId => exact h.map _ (h.loginUser email password tenantId)
  | redeem selectionToken tenantId => exact h.map _ (h.loginRedeem selectionToken tenantId)
  | rotate raw => exact h.map _ (hrotate raw)
  | issue identityId tenantId role => exact h.map _ (h.issue identityId tenantId role)
  | changePassword email role tenantId currentPassword newPassword =>
    exact h.map _ (h.changePassword email role tenantId currentPassword newPassword)
  | tick seconds => exact h.map _ (h.tick seconds)

end Handles

/-- The statements on refresh tokens and selection challenges have it, too. -/
structure HandlesTokens (P : ∀ ⦃α : Type⦄, Task α → Prop) : Prop extends HandlesQuiet P where
  createRefreshToken : ∀ tokenHash identityId tenantId role familyId expiresAt,
    P (createRefreshToken tokenHash identityId tenantId role familyId expiresAt)
  replace : ∀ oldId newId, P (ControlPlaneRepository.rotateRefreshToken oldId newId)
  revokeRefreshTokenFamily : ∀ familyId, P (revokeRefreshTokenFamily familyId)
  challenge : ∀ tokenHash identityId matchedTenants expiresAt,
    P (ControlPlaneRepository.createSelectionChallenge tokenHash identityId
      matchedTenants expiresAt)
  consume : ∀ tokenHash, P (ControlPlaneRepository.redeemSelectionChallenge tokenHash)

namespace HandlesTokens

variable [Platform] (h : HandlesTokens P)

include h

theorem newOpaqueToken : P newOpaqueToken := h.bind h.draw fun _ => h.ret _

theorem refreshExpiry : P refreshExpiry := h.bind (h.look _) fun _ => h.ret _

theorem issueRefreshToken (identityId : Nat) (tenantId role : String) :
    P (issueRefreshToken identityId tenantId role) := by
  refine h.bind h.newOpaqueToken fun _ => h.bind h.draw fun _ => h.bind h.refreshExpiry fun _ => ?_
  exact h.bind (h.createRefreshToken _ _ _ _ _ _) fun _ => h.ret _

theorem rotateRow (row : RefreshTokenRow) : P (rotateRow row) := by
  refine h.bind (h.look _) fun _ => h.bind (h.failIf _ _) fun _ => ?_
  refine h.bind (h.resolveLocalAccount _ _ _) fun account =>
    h.bind h.newOpaqueToken fun newRaw => ?_
  refine h.bind h.refreshExpiry fun _ => h.bind (h.createRefreshToken _ _ _ _ _ _) fun _ => ?_
  refine h.bind ?_ fun _ => h.bind (h.createAccessToken _ _ _ _ _ _) fun _ => h.ret _
  refine h.bind (h.look _) fun newRow => ?_
  cases newRow with
  | none => exact h.fail _
  | some newRow => exact h.replace _ _

theorem rotateRefreshToken (rawToken : String) : P (rotateRefreshToken rawToken) := by
  refine h.bind (h.look _) fun row => ?_
  cases row with
  | none => exact h.fail _
  | some row =>
    dsimp only
    split_ifs
    · exact h.bind (h.revokeRefreshTokenFamily _) fun _ => h.fail _
    · exact h.rotateRow row

theorem handles : Handles P where
  toHandlesQuiet := h.toHandlesQuiet
  issue := h.issueRefreshToken
  challenge := h.challenge
  consume := h.consume

/-- **Every request.** -/
theorem task (r : Request) : P r.task := h.handles.task h.rotateRefreshToken r

end HandlesTokens

end Sams.Auth
