import Sams.Auth.HomeSchool

/-!
# Invitations that are dead

An invitation that is inactive, expired, used up or no longer pending should be as good as none. A
registration checks this; the last resort of a request takes the newest invitation of the email as
it is. The invitations make no difference to a request that consults none
(**`dead_grant_nothing`**).
-/

namespace Sams.Auth

open Programs Rows Interleaving Authz ControlPlaneRepository


theorem ite_inviting {c : Prop} [Decidable c] {w w' x x' : World} {i : List InvitationRow}
    {u : List UserInvitationRow} (hx : x = w.inviting i u) (hx' : x' = w'.inviting i u) :
    (if c then x else x') = (if c then w else w').inviting i u := by
  rw [hx, hx', apply_ite fun w : World => w.inviting i u]

/-- A write that has nothing to do with invitations, and keeps the tenants. -/
structure Uninvolved (f : World → World) : Prop where
  inviting : ∀ w invitations userInvitations,
    f (w.inviting invitations userInvitations) = (f w).inviting invitations userInvitations
  tenants : ∀ w, ∀ t ∈ w.tenants, t ∈ (f w).tenants

theorem uninvolved_register (tenantId : String) : Uninvolved fun w => w.register tenantId where
  inviting w i u := by
    unfold World.register
    exact ite_inviting rfl rfl
  tenants w t ht := by
    unfold World.register
    split_ifs
    · exact ht
    · exact List.mem_append_left _ ht

theorem inviting_createSchema (w : World) (tenantId : String) (i : List InvitationRow)
    (u : List UserInvitationRow) :
    (w.inviting i u).createSchema tenantId = (w.createSchema tenantId).inviting i u := by
  unfold World.createSchema
  exact ite_inviting rfl rfl

section DeadInvitations

variable [Unicode]

/-! ## States that differ in their invitations -/

/-- The same but for the invitations. -/
def Reinvited (s s' : State) : Prop :=
  ∃ invitations userInvitations, s'.val = s.val.inviting invitations userInvitations

/-- The constraints on invitations ask of the other tables only that the tenants are there. -/
theorem ok_inviting {w w' : World} (hw : w.Ok) (hw' : w'.Ok)
    (htenants : ∀ t ∈ w'.tenants, t ∈ w.tenants) :
    (w.inviting w'.invitations w'.userInvitations).Ok where
  schemas := hw.schemas
  keys :=
    { hw.keys with
      invitation_key := hw'.keys.invitation_key
      invitation_code := hw'.keys.invitation_code
      user_invitation_key := hw'.keys.user_invitation_key }
  refs :=
    { hw.refs with
      invitation_tenant := hw'.refs.invitation_tenant.mono_right htenants
      user_invitation_tenant := hw'.refs.user_invitation_tenant.mono_right htenants }
  drawn := { hw.drawn with }
  invitations_role_check := hw'.invitations_role_check

theorem paired_exec_reinvited {e : PyError} {f : World → World} (hf : Uninvolved f) :
    Paired Reinvited (· = ·) (exec e f : EStateM PyError State Unit) (exec e f) := by
  refine paired_exec ?_ ?_
  · rintro s s' ⟨i, u, hs⟩
    have hsame : f s'.val = (f s.val).inviting s'.val.invitations s'.val.userInvitations := by
      rw [hs, hf.inviting]
      rfl
    have htenants : ∀ t ∈ s'.val.tenants, t ∈ s.val.tenants := by
      intro t ht
      rw [hs] at ht
      exact ht
    rw [hsame]
    constructor
    · intro hok
      exact ok_inviting hok s'.ok fun t ht => hf.tenants _ t (htenants t ht)
    · intro hok
      have hkeeps : f s.val = (f s.val).inviting s.val.invitations s.val.userInvitations :=
        hf.inviting s.val s.val.invitations s.val.userInvitations
      rw [hkeeps]
      exact ok_inviting (w := (f s.val).inviting s'.val.invitations s'.val.userInvitations) hok s.ok
        fun t ht => hf.tenants _ t ht
  · rintro s s' ⟨i, u, hs⟩ ht ht'
    refine ⟨i, u, ?_⟩
    show f s'.val = _
    rw [hs, hf.inviting]

theorem paired_ask_reinvited {α : Type} {f : World → α} (hf : ∀ w invitations userInvitations,
    f (w.inviting invitations userInvitations) = f w) :
    Paired Reinvited (· = ·) (ask f) (ask f) := by
  refine paired_query ?_
  rintro s s' ⟨i, u, hs⟩
  rw [hs, hf]

/-! ## The writes of a request -/

theorem uninvolved_initializeTables (tenantId : String) :
    Uninvolved fun w => w.initializeTables tenantId where
  inviting w i u := by
    unfold World.initializeTables
    rw [inviting_createSchema]
    exact ite_inviting rfl rfl
  tenants w t ht := by
    unfold World.initializeTables World.createSchema
    split_ifs <;> exact ht

theorem uninvolved_upsertIdentity (email : String) :
    Uninvolved fun w => w.upsertIdentity email where
  inviting w i u := by
    have hsame : (w.inviting i u).identityByEmail email = w.identityByEmail email := rfl
    unfold World.upsertIdentity
    rw [hsame]
    cases w.identityByEmail email <;> rfl
  tenants w t ht := by
    unfold World.upsertIdentity
    cases w.identityByEmail email <;> exact ht

theorem uninvolved_upsertMembership (identityId : Nat) (email tenantId role : String) :
    Uninvolved fun w => w.upsertMembership identityId email tenantId role where
  inviting w i u := by
    unfold World.upsertMembership
    exact ite_inviting rfl rfl
  tenants w t ht := by
    unfold World.upsertMembership
    split_ifs <;> exact ht

theorem paired_upsertMap (email : String) (m : Option Membership) :
    Paired Reinvited (· = ·) (upsertMap email m) (upsertMap email m) := by
  cases m with
  | none => exact paired_pure rfl
  | some m =>
    show (upsertUserTenantMap email m.tenantId m.role).Twin Reinvited (· = ·)
      (upsertUserTenantMap email m.tenantId m.role)
    unfold upsertUserTenantMap getOrCreateIdentity stmt
    refine Proc.twin_bind_eq (Proc.twin_once ?_) fun identity => ?_
    · refine paired_bind (paired_exec_reinvited (uninvolved_upsertIdentity _)) fun _ _ _ => ?_
      refine paired_bind (paired_ask_reinvited (f := fun w => w.identityByEmail (normalize email))
        fun _ _ _ => rfl) ?_
      rintro row _ rfl
      cases row with
      | none => exact paired_throw _
      | some row => exact paired_pure rfl
    · refine Proc.twin_bind_eq (Proc.twin_once ?_) fun _ => Proc.twin_once ?_
      · exact paired_exec_reinvited (uninvolved_upsertMembership _ _ _ _)
      · exact paired_exec_reinvited ⟨fun _ _ _ => rfl, fun _ _ ht => ht⟩

theorem resolves_reinvited : Resolves fun _ (m : Prog _) => Paired Reinvited (· = ·) m m where
  ret a := paired_pure rfl
  fail e := paired_throw e
  bind hm hk := paired_bind hm fun b _ h => h ▸ hk b
  attempt hm := by
    refine paired_rescue ?_ fun _ => paired_pure rfl
    rw [map_eq_pure_bind]
    exact paired_bind hm fun b _ h => paired_pure (congrArg some h)
  reads f hf := paired_ask_reinvited hf
  openPool tenantId := by
    refine paired_bind (paired_exec_reinvited (uninvolved_register tenantId)) fun _ _ _ => ?_
    refine paired_bind (paired_ask_reinvited (f := fun w => w.reachable tenantId) fun _ _ _ => rfl)
      ?_
    rintro reachable _ rfl
    have hraise : Paired Reinvited (· = ·) (raiseIf (reachable = false) .databaseError : Prog Unit)
        (raiseIf (reachable = false) .databaseError) := by
      unfold raiseIf onlyIf
      split_ifs
      · exact paired_throw _
      · exact paired_pure rfl
    exact paired_bind hraise fun _ _ _ =>
      paired_exec_reinvited (uninvolved_initializeTables tenantId)
  upsertMap := paired_upsertMap
  cache _ _ := paired_exec_reinvited ⟨fun _ _ _ => rfl, fun _ _ ht => ht⟩
  withUser _ _ _ := paired_exec_reinvited ⟨fun _ _ _ => rfl, fun _ _ ht => ht⟩
  addParent _ _ := paired_exec_reinvited ⟨fun _ _ _ => rfl, fun _ _ ht => ht⟩
  addLink _ _ := paired_exec_reinvited ⟨fun _ _ _ => rfl, fun _ _ ht => ht⟩

/-! ## The last resort -/

/-- No invitation is consulted: the last resort is not needed, or finds none. -/
def World.Unconsulted (w : World) (c : Caller) (r : Resolution) : Prop :=
  needsLastResort c r = true → w.lastInvitation c.email r = none

theorem tryLastResort_unconsulted {s : State} {c : Caller} {r : Resolution}
    (h : s.val.Unconsulted c r) :
    tryLastResort c r s = .ok (if needsLastResort c r then s.val.mappedTo c.email r else r) s := by
  unfold tryLastResort
  by_cases hneeds : needsLastResort c r = true
  · rw [if_pos hneeds, if_pos hneeds]
    have hresort : s.val.lastResort c.email r = (s.val.mappedTo c.email r, none) := by
      unfold World.lastResort
      rw [h hneeds]
    show (query (fun s : State => s.val.lastResort c.email r) >>= _) s = _
    rw [query_bind, hresort]
    rfl
  · rw [if_neg hneeds, if_neg hneeds]
    rfl

/-- Two states that differ in their invitations come to the same, where none consults any. -/
theorem tryLastResort_same {s s' : State} {c : Caller} {r : Resolution} (hs : Reinvited s s')
    (h : s.val.Unconsulted c r) (h' : s'.val.Unconsulted c r) :
    PairedAt Reinvited (· = ·) (tryLastResort c r) (tryLastResort c r) s s' := by
  refine .inl ⟨_, _, s, s', tryLastResort_unconsulted h, tryLastResort_unconsulted h', ?_, hs⟩
  obtain ⟨i, u, hs⟩ := hs
  rw [hs]
  rfl

/-! ## Requests -/

/-- The request consults no invitation. -/
def Unconsulting (s : State) (request : HttpRequest) : Prop :=
  ∀ claims isKeycloak, s.val.claimsOf request.credentials = some (claims, isKeycloak) →
    s.val.Unconsulted (s.val.callerOf claims isKeycloak) (s.val.recognised claims isKeycloak)

theorem Cached.unconsulted {s t : State} (h : Cached s t) {c : Caller} {r : Resolution}
    (hs : s.val.Unconsulted c r) : t.val.Unconsulted c r := by
  obtain ⟨cache, h⟩ := h
  unfold World.Unconsulted
  rw [h]
  exact hs

/-- The caller and the claims that the first steps find. -/
theorem identified_ok {s s₁ t : State} {request : HttpRequest} {x : Claims × Bool}
    {y : Caller × Resolution} (hx : decodeCredentials request.credentials s = .ok x s₁)
    (hy : identify x.1 x.2 s₁ = .ok y t) : s.val.claimsOf request.credentials = some x ∧
      y = (s.val.callerOf x.1 x.2, s.val.recognised x.1 x.2) ∧ Cached s t := by
  obtain ⟨_, hclaims, rfl, rfl⟩ := (decodeCredentials_answers request.credentials s).of_ok hx
  obtain ⟨_, _, hok, rfl, hcached⟩ := identify_reaches x.1 x.2 s
  rw [hok] at hy
  cases hy
  exact ⟨hclaims, rfl, hcached⟩

variable [Platform]

/-- Invitations that nobody consults make no difference. -/
theorem getCurrentUser_reinvited {s s' : State} {request : HttpRequest} (hs : Reinvited s s')
    (h : Unconsulting s request) (h' : Unconsulting s' request) :
    PairedAt Reinvited (· = ·) (getCurrentUser request) (getCurrentUser request) s s' := by
  have hresolves := resolves_reinvited
  have hdecode := hresolves.decodeCredentials request.credentials s s' hs
  refine PairedAt.bind_eq hdecode fun x s₁ s₁' hx hx' hs₁ => ?_
  have hidentify := hresolves.identify x.1 x.2 s₁ s₁' hs₁
  refine PairedAt.bind_eq hidentify fun y t t' hy hy' ht => ?_
  obtain ⟨hclaims, rfl, hcached⟩ := identified_ok hx hy
  obtain ⟨hclaims', hsame, hcached'⟩ := identified_ok hx' hy'
  rw [Prod.mk.injEq] at hsame
  have hlast := hcached.unconsulted (h _ _ hclaims)
  have hlast' := hcached'.unconsulted (h' _ _ hclaims')
  rw [← hsame.1, ← hsame.2] at hlast'
  dsimp only
  refine PairedAt.bind_eq (PairedAt.bind_eq (tryLastResort_same ht hlast hlast') ?_) ?_
  · exact fun r u u' _ _ hu => hresolves.afterLastResort _ request.selection r u u' hu
  · exact fun z u u' _ _ hu => hresolves.resolveAccount _ z.2 z.1 u u' hu

/-! ## Dead invitations -/

end DeadInvitations

/-- A registration would not accept it. -/
def InvitationRow.Dead (i : InvitationRow) (now : Nat) : Prop :=
  i.isActive = false ∨ i.expiresAt < now ∨ i.maxUses ≤ i.usesCount

def UserInvitationRow.Dead (i : UserInvitationRow) : Prop := i.status ≠ "pending"

section DeadInvitations

variable [Unicode]

/-- Every invitation for the email is dead. -/
def World.AllDead (w : World) (email : String) : Prop :=
  (∀ i ∈ w.userInvitations, UpperEq i.email email → i.Dead) ∧
    ∀ i ∈ w.invitations, (i.targetEmail.any fun e => UpperEq e email) = true → i.Dead w.now

/-- The world without the invitations for an email. -/
def World.uninvited (w : World) (email : String) : World :=
  w.inviting (w.invitations.filter fun i => ¬i.targetEmail.any fun e => UpperEq e email)
    (w.userInvitations.filter fun i => ¬UpperEq i.email email)

theorem World.Ok.uninvited {w : World} (hw : w.Ok) (email : String) : (w.uninvited email).Ok where
  schemas := hw.schemas
  keys :=
    { hw.keys with
      invitation_key := hw.keys.invitation_key.filter _
      invitation_code := hw.keys.invitation_code.filter _
      user_invitation_key := hw.keys.user_invitation_key.filter _ }
  refs :=
    { hw.refs with
      invitation_tenant := hw.refs.invitation_tenant.filter_left _
      user_invitation_tenant := hw.refs.user_invitation_tenant.filter_left _ }
  drawn := { hw.drawn with }
  invitations_role_check i hi := hw.invitations_role_check i (List.mem_of_mem_filter hi)

def uninvited (s : State) (email : String) : State := ⟨s.val.uninvited email, s.ok.uninvited email⟩

theorem lastInvitation_uninvited (w : World) (email : String) (r : Resolution) :
    (w.uninvited email).lastInvitation email r = none := by
  have huser : (w.uninvited email).newestUserInvitation email = none := by
    unfold World.newestUserInvitation
    rw [List.head?_eq_none_iff, List.eq_nil_iff_forall_not_mem]
    intro i hi
    rw [List.mem_insertionSort] at hi
    simp [World.uninvited, World.inviting] at hi
  have hnew : (w.uninvited email).newestInvitation email = none := by
    unfold World.newestInvitation
    rw [List.head?_eq_none_iff, List.eq_nil_iff_forall_not_mem]
    intro i hi
    rw [List.mem_insertionSort] at hi
    simp [World.uninvited, World.inviting] at hi
  unfold World.lastInvitation World.invitedTo
  rw [huser, hnew]
  dsimp only
  split_ifs <;> rfl

variable [Platform]

/-- The invitations for the caller's email, when all are dead, decide neither the school, nor the
role, nor the memberships that a request leaves. -/
def GrantNothing (s : State) (request : HttpRequest) : Prop :=
  ∀ claims isKeycloak, s.val.claimsOf request.credentials = some (claims, isKeycloak) →
    s.val.AllDead claims.emailOr →
      (returned (getCurrentUser request) s).map (fun u => (u.tenantId, u.role)) =
          (returned (getCurrentUser request) (uninvited s claims.emailOr)).map
            (fun u => (u.tenantId, u.role)) ∧
        (after (getCurrentUser request) s).val.userTenantMap =
          (after (getCurrentUser request) (uninvited s claims.emailOr)).val.userTenantMap

/-- **Dead invitations grant nothing** to a request that consults no invitation. -/
theorem dead_grant_nothing (s : State) (request : HttpRequest) (h : Unconsulting s request) :
    GrantNothing s request := by
  intro claims isKeycloak hclaims _
  have hs : Reinvited s (uninvited s claims.emailOr) := ⟨_, _, rfl⟩
  have h' : Unconsulting (uninvited s claims.emailOr) request := by
    intro claims' isKeycloak' hclaims'
    have hsame : s.val.claimsOf request.credentials = some (claims', isKeycloak') := hclaims'
    rw [hclaims, Option.some_inj, Prod.mk.injEq] at hsame
    rw [← hsame.1, ← hsame.2]
    exact fun _ => lastInvitation_uninvited s.val _ _
  have hpaired := getCurrentUser_reinvited hs h h'
  refine ⟨congrArg _ hpaired.returned_eq, ?_⟩
  obtain ⟨i, u, hafter⟩ := hpaired.after_rel
  rw [hafter]
  rfl

end DeadInvitations

/-! ## An invitation that was revoked -/

section Example

attribute [local instance] ascii plain

/-- A student whose invitation to another school, as a teacher, was revoked. -/
def revokedInvitation : State where
  val :=
    { tenants := [⟨"north"⟩, ⟨"south"⟩]
      schemas := [⟨"north", [⟨1, "s@x", "student", [], [], "$p"⟩], 2⟩, ⟨"south", [], 1⟩]
      superAdmins := [], parents := [], parentTenantLinks := [], identities := [⟨2, "s@x"⟩]
      userTenantMap := [⟨2, "s@x", "north", "student", .active, 0, none, true⟩]
      invitations := [], userInvitations := [⟨1, "s@x", "south", "teacher", "revoked", 0⟩]
      selectionChallenges := [], refreshTokens := []
      opened := [], unreachable := [], membershipCache := [], seq := 3, now := 10 }
  ok := by decide +kernel

theorem allDead_revokedInvitation : revokedInvitation.val.AllDead "s@x" := by
  constructor
  · intro i hi _
    rw [List.mem_singleton.1 hi]
    exact fun h : "revoked" = "pending" => absurd h (by decide)
  · intro i hi
    cases hi

def studentRequest : HttpRequest := { credentials := some (.internal northToken) }

/-- The student is a teacher of the other school. -/
theorem revokedInvitation_grants : ¬GrantNothing revokedInvitation studentRequest := by
  intro h
  have hsame := (h northToken.claims false (by decide +kernel) allDead_revokedInvitation).1
  have hgiven : (returned (getCurrentUser studentRequest) revokedInvitation).map
      (fun u => (u.tenantId, u.role)) = some (some "south", "teacher") := by
    decide +kernel
  have hown : (returned (getCurrentUser studentRequest) (uninvited revokedInvitation "s@x")).map
      (fun u => (u.tenantId, u.role)) = some (some "north", "student") := by
    decide +kernel
  rw [hgiven] at hsame
  exact absurd (hsame.trans hown) (by decide)

/-- The same account, with the token of a teacher. -/
def teacherRequest : HttpRequest :=
  { credentials := some (.internal { northToken with role := "teacher", roles := ["teacher"] }) }

theorem teacherRequest_grant_nothing : GrantNothing revokedInvitation teacherRequest := by
  refine dead_grant_nothing revokedInvitation teacherRequest fun claims isKeycloak hclaims hneeds =>
    ?_
  have hdecoded : revokedInvitation.val.claimsOf teacherRequest.credentials =
      some (AccessToken.claims { northToken with
        role := "teacher", roles := ["teacher"] }, false) := by
    decide +kernel
  rw [hdecoded, Option.some_inj, Prod.mk.injEq] at hclaims
  rw [← hclaims.1, ← hclaims.2] at hneeds
  exact absurd hneeds (by decide +kernel)

end Example

end Sams.Auth
