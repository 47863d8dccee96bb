import Sams.Auth.Registration
import Sams.Keycloak.Organizations
import Sams.Trips.Events

/-!
# Provisioning before the tables are written

A tenant is registered after its organization has been found or created, and an invitation is
recorded after the account of the invited user has been found or created in Keycloak and has become
a member of the organization.
-/

namespace Sams.Keycloak

open Programs Clients

/-- The exchanges with Keycloak, and the tables. -/
abbrev Both [Unicode] (α : Type) := EStateM PyError (Log Request Answer × Auth.State) α

/-! ## Tenants -/

section Tenants

variable [Unicode] [Auth.Platform]

/-- `ControlPlaneRepository.create_tenant` -/
def registerTenant (tenantId : String) : Auth.Prog Unit :=
  Auth.write fun w => if w.isRegistered tenantId then w
    else { w with tenants := w.tenants ++ [⟨tenantId⟩] }

/-- `AuthService.create_tenant` -/
def createTenant (srv : Service Request Answer) (tenantId name : String) : Both Unit := do
  let _ ← onFst (fun exc => .runtimeError exc.text)
      (createKeycloakOrganization srv tenantId (some name))
  onSnd (registerTenant tenantId)
  onSnd (Auth.openPool tenantId)

end Tenants

/-! ## Invitations -/

abbrev Provisioner := EStateM PyError (Log Request Answer)

/-- A request of the client that does not raise for a status. What it raises is answered
like a `RuntimeError`. -/
def httpx (srv : Service Request Answer) (q : Request) : Provisioner Reply := do
  let a ← ask srv q
  match a with
  | .failed message => throw (.runtimeError message)
  | .reply r => pure r

namespace InvitationService

section Service

variable (srv : Service Request Answer)

/-- `_get_admin_token`, for which the service raises a 502. -/
def getAdminToken : Provisioner Unit :=
  rescue
    (do
      let r ← httpx srv .token
      raiseIf (300 ≤ r.status)
        (.runtimeError s!"Failed to authenticate with Keycloak Admin API: {r.text}")
      match r.body with
      | .accessToken => pure ()
      | .unreadable message => throw (.runtimeError message)
      | _ => throw (.runtimeError "\x27access_token\x27"))
    fun exc =>
      throw (.httpException 502
      s!"Keycloak administration service unavailable: {Trips.PyError.text exc}")

/-- `users[0]["id"]`, of a search that found someone. -/
def firstUser (r : Reply) : Provisioner (Option String) :=
  if 300 ≤ r.status then pure none
  else match r.body with
    | .users (u :: _) =>
      match u.id with
      | some id => pure (some id)
      | none => throw (.runtimeError "\x27id\x27")
    | .unreadable message => throw (.runtimeError message)
    | _ => pure none

/-- `loc.split("/")[-1]` -/
def lastSegment (loc : String) : String :=
  String.ofList (loc.toList.reverse.takeWhile (· ≠ '/')).reverse

/-- The user that a creation names. -/
def createdUser (r : Reply) : Option String :=
  if r.status ∈ [200, 201, 204] then (Text.nonEmpty r.location).map lastSegment else none

/-- `_find_or_create_user_shell` -/
def findOrCreateUserShell (email tenantId role : String) : Provisioner (Option String) := do
  let found ← httpx srv (.findUsers email false)
  let known ← firstUser found
  match known with
  | some id => pure (some id)
  | none => do
    let created ← httpx srv (.createUser email (some tenantId) role none)
    match createdUser created with
    | some id => pure (some id)
    | none => do
      let again ← httpx srv (.findUsers email false)
      firstUser again

end Service

end InvitationService

/-! ## Groups -/

section Groups

variable [Unicode]

namespace Group

def id : Group → Option String
  | mk id _ _ _ => id

def path : Group → String
  | mk _ path _ _ => path

def name : Group → String
  | mk _ _ name _ => name

/-- `clean_path.lstrip("/")` -/
def lstripSlash (s : String) : String := String.ofList (s.toList.dropWhile (· = '/'))

/-- The group is at the path, or below something at it, or has its name. -/
def Matches (clean : String) (g : Group) : Prop :=
  fold g.path = clean ∨ fold g.name = lstripSlash clean ∨ Text.endsWith (fold g.path) clean = true

instance (clean : String) (g : Group) : Decidable (g.Matches clean) :=
  inferInstanceAs (Decidable (_ ∨ _ ∨ _))

end Group

mutual

/-- `search_groups` at one group. -/
def searchGroup (clean : String) : Group → Option (Option String)
  | .mk id path name subGroups =>
    if (Group.mk id path name subGroups).Matches clean then some id
    else ((Text.nonEmpty (searchGroups clean subGroups)).map some)

/-- `search_groups`: the id of the first group that matches, those below a group coming after it. -/
def searchGroups (clean : String) : List Group → Option String
  | [] => none
  | g :: gs =>
    match searchGroup clean g with
    | some id => id
    | none => searchGroups clean gs

end

end Groups

namespace InvitationService

section Assigning

variable [Unicode] (srv : Service Request Answer)

/-- `_get_group_id_by_path` -/
def getGroupIdByPath (targetPath : String) : Provisioner (Option String) := do
  let r ← httpx srv .listGroups
  if 300 ≤ r.status then pure none
  else match r.body with
    | .groups l => pure (searchGroups (fold targetPath) l)
    | .unreadable message => throw (.runtimeError message)
    | _ => pure none

def findGroup : List String → Provisioner (Option String)
  | [] => pure none
  | path :: paths => do
    let groupId ← getGroupIdByPath srv path
    match Text.nonEmpty groupId with
    | some id => pure (some id)
    | none => findGroup paths

/-- `target_paths` -/
def targetPaths (tenantId role : String) : List String := [s!"/{tenantId}/{role}", s!"/{role}"]

/-- `_assign_user_group`, which does not look at what is answered. -/
def assignUserGroup (userId tenantId role : String) : Provisioner Unit := do
  let groupId ← findGroup srv (targetPaths tenantId role)
  match groupId with
  | some id => do
    let _ ← httpx srv (.joinGroup userId id)
    pure ()
  | none => pure ()

/-- The organizations of a reply. -/
def listed (r : Reply) : Provisioner (List Organization) :=
  match r.body with
  | .organizations l => pure l
  | .unreadable message => throw (.runtimeError message)
  | _ => pure []

/-- The organization of the tenant, which has to have an id. -/
def organizationId (orgs : List Organization) (tenantId : String) : Option String :=
  Text.nonEmpty ((orgs.find? fun org => org.Has tenantId).bind Organization.id)

/-- `_assign_user_organization` -/
def assignUserOrganization (userId tenantId : String) : Provisioner Unit := do
  raiseIf (tenantId = "") (.runtimeError "tenant_id is required to assign organization membership")
  let r ← httpx srv .listOrganizations
  raiseIf (300 ≤ r.status)
    (.runtimeError s!"Could not list Keycloak organizations: HTTP {r.status}")
  let orgs ← listed r
  match organizationId orgs tenantId with
  | none => throw (.runtimeError
      (s!"No Keycloak organization is aliased \x27{tenantId}\x27. A tenant without an " ++
        "organization cannot be resolved from a token; provision it via " ++
        "create_keycloak_organization before inviting users into it."))
  | some orgId => do
    let m ← httpx srv (.addMember orgId userId)
    raiseIf (300 ≤ m.status ∧ m.status ≠ 409)
      (.runtimeError s!"Could not add user to organization \x27{tenantId}\x27: HTTP {m.status}")

/-- What `send_user_invitation` asks of Keycloak. -/
def provision (email tenantId role : String) : Provisioner Unit := do
  getAdminToken srv
  let userId ← findOrCreateUserShell srv email tenantId role
  match Text.nonEmpty userId with
  | some id => do
    assignUserGroup srv id tenantId role
    assignUserOrganization srv id tenantId
  | none => pure ()

/-- `send_user_invitation` -/
def sendUserInvitation [Auth.Platform] (email tenantId role : String) : Both Unit := do
  let existing ← onSnd (Auth.InvitationRepository.getInvitationByEmail email tenantId)
  raiseIf existing.isSome (.valueError
    s!"A pending invitation already exists for {email} under tenant {tenantId}")
  onFst id (provision srv email tenantId role)
  onSnd (Auth.InvitationRepository.createInvitationRecord email tenantId role)
  onSnd (Auth.InvitationRepository.upsertUserTenantMap email tenantId role)

end Assigning

end InvitationService

/-! ## Groups that are found -/

section Found

variable [Unicode]

mutual

/-- A group and those below it, in the order of the search. -/
def Group.all : Group → List Group
  | .mk id path name subGroups => .mk id path name subGroups :: allGroups subGroups

def allGroups : List Group → List Group
  | [] => []
  | g :: gs => g.all ++ allGroups gs

end

mutual

theorem searchGroup_found {clean : String} {found : Option String} :
    ∀ {g : Group}, searchGroup clean g = some found → ∃ x ∈ g.all, x.Matches clean ∧ x.id = found
  | .mk id path name subGroups => by
    intro h
    unfold searchGroup at h
    unfold Group.all
    by_cases hmatch : (Group.mk id path name subGroups).Matches clean
    · rw [if_pos hmatch, Option.some.injEq] at h
      exact ⟨_, List.mem_cons_self, hmatch, h⟩
    · rw [if_neg hmatch] at h
      obtain ⟨u, hu, rfl⟩ := Option.map_eq_some_iff.1 h
      have hsub : searchGroups clean subGroups = some u := (Option.filter_eq_some_iff.1 hu).1
      obtain ⟨x, hx, hmatch, hid⟩ := searchGroups_found hsub
      exact ⟨x, List.mem_cons_of_mem _ hx, hmatch, hid⟩

/-- What the search finds is the id of a group that matches. -/
theorem searchGroups_found {clean u : String} :
    ∀ {l : List Group}, searchGroups clean l = some u → ∃ x ∈ allGroups l, x.Matches clean ∧
      x.id = some u
  | [] => fun h => by
    unfold searchGroups at h
    cases h
  | g :: gs => by
    intro h
    unfold searchGroups at h
    unfold allGroups
    cases hg : searchGroup clean g with
    | some found =>
      rw [hg] at h
      obtain ⟨x, hx, hmatch, hid⟩ := searchGroup_found hg
      exact ⟨x, List.mem_append_left _ hx, hmatch, hid.trans h⟩
    | none =>
      rw [hg] at h
      obtain ⟨x, hx, hmatch, hid⟩ := searchGroups_found h
      exact ⟨x, List.mem_append_right _ hx, hmatch, hid⟩

end

end Found

/-! ## What the log shows of an invitation -/

section Facts

variable [Unicode]

/-- The reply to a search names the user. -/
def Reply.Names (r : Reply) (u : String) : Prop :=
  r.status < 300 ∧ ∃ us, r.body = .users (⟨some u⟩ :: us)

/-- The exchange is a search or a creation, and names the user of the email. -/
def Tells (email : String) (x : Request × Answer) (u : String) : Prop :=
  ∃ r, x.2 = .reply r ∧ (x.1 = .findUsers email false ∧ r.Names u ∨
    ∃ tenantId role, x.1 = .createUser email tenantId role none ∧
      InvitationService.createdUser r = some u)

/-- Keycloak has named the user of the email. -/
def Known (email : String) (log : Log Request Answer) (u : String) : Prop :=
  ∃ x ∈ log, Tells email x u

/-- The group has been listed, and is one for the role. -/
def RoleGroup (tenantId role : String) (log : Log Request Answer) (g : String) : Prop :=
  ∃ r l, (Request.listGroups, Answer.reply r) ∈ log ∧ r.body = .groups l ∧
    ∃ path ∈ InvitationService.targetPaths tenantId role, ∃ x ∈ allGroups l, x.Matches (fold path) ∧
      x.id = some g

/-- The organization of the tenant has been listed. -/
def OwnOrganization (tenantId : String) (log : Log Request Answer) (o : String) : Prop :=
  ∃ r orgs, (Request.listOrganizations, Answer.reply r) ∈ log ∧ r.body = .organizations orgs ∧
    ∃ org ∈ orgs, org.Has tenantId ∧ org.id = some o

/-- The requests of an invitation: an account is created once, where a search has not named one;
only the account of the invited user is put in a group, one for the role, and made a member of an
organization, the tenant's. -/
inductive Inviting (email tenantId role : String) (before : Log Request Answer) :
    Request → Prop where
  | token : Inviting email tenantId role before .token
  | findUsers : Inviting email tenantId role before (.findUsers email false)
  | createUser : (∃ a, (Request.findUsers email false, a) ∈ before) → (∀ u, ¬Known email before u) →
      (∀ x ∈ before, ∀ e t r p, x.1 ≠ .createUser e t r p) →
      Inviting email tenantId role before (.createUser email (some tenantId) role none)
  | listGroups : Inviting email tenantId role before .listGroups
  | joinGroup {u g : String} : Known email before u → RoleGroup tenantId role before g →
      Inviting email tenantId role before (.joinGroup u g)
  | listOrganizations : Inviting email tenantId role before .listOrganizations
  | addMember {u o : String} : Known email before u → OwnOrganization tenantId before o →
      Inviting email tenantId role before (.addMember o u)

/-- The account of the invited user is a member of the tenant's organization:
Keycloak has said so. -/
def Member (email tenantId : String) (log : Log Request Answer) : Prop :=
  ∃ u o r, Known email log u ∧ OwnOrganization tenantId log o ∧
    (Request.addMember o u, Answer.reply r) ∈ log ∧ (r.status < 300 ∨ r.status = 409)

/-- The request is about the account alone: it asks nothing about groups and organizations. -/
def AboutAccount (email : String) (q : Request) : Prop :=
  q = .token ∨ q = .findUsers email false ∨
    ∃ tenantId role, q = .createUser email (some tenantId) role none

/-- Keycloak has named no user of the email, or one with an empty id, and has been asked nothing
about groups and organizations. -/
structure Unplaced (email : String) (log : Log Request Answer) : Prop where
  unnamed : (∀ u, ¬Known email log u) ∨ ∀ u, Known email log u ↔ u = ""
  unasked : ∀ x ∈ log, AboutAccount email x.1

variable {email tenantId role : String} {log log' : Log Request Answer}
    {srv : Service Request Answer}

omit [Unicode] in
theorem Known.mono {u : String} (h : Known email log u) (hsub : log ⊆ log') :
    Known email log' u := by
  obtain ⟨x, hx, htells⟩ := h
  exact ⟨x, hsub hx, htells⟩

omit [Unicode] in
theorem known_concat {x : Request × Answer} {u : String} :
    Known email (log ++ [x]) u ↔ Known email log u ∨ Tells email x u := by
  unfold Known
  simp [or_and_right, exists_or]

omit [Unicode] in
theorem tells_search {r : Reply} {u : String} :
    Tells email (.findUsers email false, .reply r) u ↔ r.Names u := by
  unfold Tells
  simp

omit [Unicode] in
theorem tells_creation {r : Reply} {t : Option String} {u : String} :
    Tells email (.createUser email t role none, .reply r) u ↔
      InvitationService.createdUser r = some u := by
  unfold Tells
  simp

omit [Unicode] in
theorem httpx_ok {q : Request} {r : Reply} (h : httpx srv q log = .ok r log') :
    log' = log ++ [(q, .reply r)] := by
  obtain ⟨a, t, ha, h⟩ := bind_eq_ok.1 h
  obtain ⟨rfl, rfl⟩ := ask_eq_ok.1 ha
  cases hreply : srv log q with
  | failed message =>
    rw [hreply] at h
    cases h
  | reply r' =>
    rw [hreply] at h
    cases h
    rfl

omit [Unicode] in
theorem careful_httpx {P : Log Request Answer → Request → Prop} {q : Request} (h : P log q) :
    Careful P log (after (httpx srv q) log) := by
  have hlog : after (httpx srv q) log = log ++ [(q, srv log q)] := by
    refine after_bind_idle (fun a t => ?_) log
    cases a with
    | failed message => rfl
    | reply r => rfl
  rw [hlog]
  exact careful_ask (ε := PyError) h

omit [Unicode] in
theorem firstUser_ok {r : Reply} {o : Option String}
    (h : InvitationService.firstUser r log = .ok o log') :
    log' = log ∧ ∀ u, r.Names u ↔ o = some u := by
  unfold InvitationService.firstUser at h
  unfold Reply.Names
  by_cases hstatus : 300 ≤ r.status
  · rw [if_pos hstatus] at h
    cases h
    exact ⟨rfl, fun u => iff_of_false (fun hnames => by omega) nofun⟩
  · rw [if_neg hstatus] at h
    have hlt : r.status < 300 := by omega
    have hnone : (∀ us u, r.body ≠ .users (⟨some u⟩ :: us)) →
        ∀ u, (r.status < 300 ∧ ∃ us, r.body = .users (⟨some u⟩ :: us)) ↔ none = some u :=
      fun hbody u => iff_of_false (fun ⟨_, us, heq⟩ => hbody us u heq) nofun
    cases hbody : r.body with
    | users l =>
      rw [hbody] at h
      cases l with
      | nil =>
        cases h
        rw [hbody] at hnone
        exact ⟨rfl, hnone nofun⟩
      | cons x us =>
        obtain ⟨id⟩ := x
        cases id with
        | none => cases h
        | some id =>
          cases h
          refine ⟨rfl, fun u => ?_⟩
          simp [hlt]
    | unreadable message =>
      rw [hbody] at h
      cases h
    | accessToken =>
      rw [hbody] at h
      cases h
      rw [hbody] at hnone
      exact ⟨rfl, hnone nofun⟩
    | groups l =>
      rw [hbody] at h
      cases h
      rw [hbody] at hnone
      exact ⟨rfl, hnone nofun⟩
    | organizations l =>
      rw [hbody] at h
      cases h
      rw [hbody] at hnone
      exact ⟨rfl, hnone nofun⟩
    | other =>
      rw [hbody] at h
      cases h
      rw [hbody] at hnone
      exact ⟨rfl, hnone nofun⟩

omit [Unicode] in
theorem after_firstUser (r : Reply) (log : Log Request Answer) :
    after (InvitationService.firstUser r) log = log := by
  unfold InvitationService.firstUser
  by_cases hstatus : 300 ≤ r.status
  · rw [if_pos hstatus]
    rfl
  · rw [if_neg hstatus]
    cases r.body with
    | users l =>
      cases l with
      | nil => rfl
      | cons x us =>
        obtain ⟨id⟩ := x
        cases id <;> rfl
    | unreadable message => rfl
    | accessToken => rfl
    | groups l => rfl
    | organizations l => rfl
    | other => rfl

omit [Unicode] in
theorem after_getAdminToken (log : Log Request Answer) :
    after (InvitationService.getAdminToken srv) log = log ++ [(.token, srv log .token)] := by
  have hbody : ∀ r : Reply, ∀ t : Log Request Answer, after (do
      raiseIf (300 ≤ r.status)
        (.runtimeError s!"Failed to authenticate with Keycloak Admin API: {r.text}")
      match r.body with
      | .accessToken => pure ()
      | .unreadable message => throw (.runtimeError message)
      | _ => throw (.runtimeError "\x27access_token\x27") : Provisioner Unit) t = t := by
    intro r t
    rw [after_raiseIf_bind]
    by_cases h : 300 ≤ r.status
    · rw [if_pos h]
    · rw [if_neg h]
      cases r.body <;> rfl
  have hask : after (httpx srv .token) log = log ++ [(.token, srv log .token)] := by
    refine after_bind_idle (fun a t => ?_) log
    cases a with
    | failed message => rfl
    | reply r => rfl
  unfold InvitationService.getAdminToken
  rw [← hask, ← after_bind_idle hbody log]
  generalize (httpx srv .token >>= _ : Provisioner Unit) = m
  rcases ok_or_error m log with ⟨u, h⟩ | ⟨e, h⟩
  · exact after_ok (rescue_of_ok h)
  · exact after_error (rescue_of_error h)

variable (email tenantId role srv) in
/-- The search for the account, and its creation. -/
theorem findOrCreateUserShell_spec (h : ∀ x ∈ log, x.1 = .token) :
    Careful (Inviting email tenantId role) log
      (after (InvitationService.findOrCreateUserShell srv email tenantId role) log) ∧
    ∀ o log', InvitationService.findOrCreateUserShell srv email tenantId role log = .ok o log' →
      ∀ u, Known email log' u ↔ o = some u := by
  have hstart : ∀ u, ¬Known email log u := by
    rintro u ⟨x, hx, r, -, ⟨hq, -⟩ | ⟨t, ro, hq, -⟩⟩
    · rw [h x hx] at hq
      cases hq
    · rw [h x hx] at hq
      cases hq
  unfold InvitationService.findOrCreateUserShell
  rcases ok_or_error (httpx srv (.findUsers email false)) log with ⟨found, hfound⟩ | ⟨e, hfound⟩
  swap
  · rw [after_bind_error hfound, bind_of_error hfound]
    refine ⟨?_, nofun⟩
    exact after_error hfound ▸ careful_httpx .findUsers
  have hsearched : Careful (Inviting email tenantId role) log
      (log ++ [(.findUsers email false, .reply found)]) := by
    rw [← httpx_ok hfound]
    exact careful_httpx .findUsers
  rw [httpx_ok hfound] at hfound
  rw [after_bind_ok hfound, bind_of_ok hfound]
  generalize hlog₁ : log ++ [(Request.findUsers email false, Answer.reply found)] =
    log₁ at hsearched ⊢
  have hknown₁ : ∀ u, Known email log₁ u ↔ found.Names u := by
    intro u
    rw [← hlog₁, known_concat, tells_search]
    exact or_iff_right (hstart u)
  rcases ok_or_error (InvitationService.firstUser found) log₁ with ⟨known, hfirst⟩ | ⟨e, hfirst⟩
  swap
  · rw [after_bind_error hfirst, bind_of_error hfirst, after_firstUser]
    exact ⟨hsearched, nofun⟩
  obtain ⟨hsame, hnames⟩ := firstUser_ok hfirst
  rw [hsame] at hfirst
  rw [after_bind_ok hfirst, bind_of_ok hfirst]
  cases known with
  | some id =>
    refine ⟨hsearched, fun o log' hok u => ?_⟩
    cases hok
    rw [hknown₁, hnames]
  | none =>
    dsimp only
    have hunknown : ∀ u, ¬Known email log₁ u := by
      intro u hu
      rw [hknown₁, hnames] at hu
      cases hu
    have hcreates : Inviting email tenantId role log₁
        (.createUser email (some tenantId) role none) := by
      refine .createUser ⟨.reply found, ?_⟩ hunknown fun x hx e t r p heq => ?_
      · rw [← hlog₁]
        exact List.mem_append_right _ List.mem_cons_self
      · rw [← hlog₁] at hx
        rcases List.mem_append.1 hx with hx | hx
        · rw [h x hx] at heq
          cases heq
        · rw [List.mem_singleton.1 hx] at heq
          cases heq
    rcases ok_or_error (httpx srv (.createUser email (some tenantId) role none)) log₁ with
      ⟨created, hpost⟩ | ⟨e, hpost⟩
    swap
    · rw [after_bind_error hpost, bind_of_error hpost]
      exact ⟨hsearched.trans (after_error hpost ▸ careful_httpx hcreates), nofun⟩
    have hposted : Careful (Inviting email tenantId role) log
        (log₁ ++ [(.createUser email (some tenantId) role none, .reply created)]) := by
      rw [← httpx_ok hpost]
      exact hsearched.trans (careful_httpx hcreates)
    rw [httpx_ok hpost] at hpost
    rw [after_bind_ok hpost, bind_of_ok hpost]
    generalize hlog₂ :
      log₁ ++ [(Request.createUser email (some tenantId) role none, Answer.reply created)] =
        log₂ at hposted ⊢
    have hknown₂ : ∀ u, Known email log₂ u ↔ InvitationService.createdUser created = some u := by
      intro u
      rw [← hlog₂, known_concat, tells_creation]
      exact or_iff_right (hunknown u)
    cases hcreated : InvitationService.createdUser created with
    | some id =>
      refine ⟨hposted, fun o log' hok u => ?_⟩
      cases hok
      rw [hknown₂, hcreated]
    | none =>
      dsimp only
      have hunknown₂ : ∀ u, ¬Known email log₂ u := by
        intro u hu
        rw [hknown₂, hcreated] at hu
        cases hu
      rcases ok_or_error (httpx srv (.findUsers email false)) log₂ with
        ⟨again, hagain⟩ | ⟨e, hagain⟩
      swap
      · rw [after_bind_error hagain, bind_of_error hagain]
        exact ⟨hposted.trans (after_error hagain ▸ careful_httpx .findUsers), nofun⟩
      rw [after_bind_ok hagain, bind_of_ok hagain, after_firstUser]
      refine ⟨hposted.trans (after_ok hagain ▸ careful_httpx .findUsers), fun o log' hok u => ?_⟩
      obtain ⟨rfl, hnames⟩ := firstUser_ok hok
      rw [httpx_ok hagain, ← hnames u, known_concat, tells_search]
      exact or_iff_right (hunknown₂ u)

omit [Unicode] in
theorem moves_firstUser (P : Log Request Answer → Request → Prop) (r : Reply) :
    Moves (Careful P) (InvitationService.firstUser r) := fun log => by
  rw [after_firstUser]
  exact .refl P log

omit [Unicode] in
/-- The account is found or created without a look at groups and organizations. -/
theorem moves_findOrCreateUserShell (srv : Service Request Answer) (email tenantId role : String) :
    Moves (Careful fun _ => AboutAccount email)
      (InvitationService.findOrCreateUserShell srv email tenantId role) := by
  have hsearch : ∀ log, Careful (fun _ => AboutAccount email) log
      (after (httpx srv (.findUsers email false)) log) := fun log => careful_httpx (.inr (.inl rfl))
  refine moves_bind hsearch fun found => moves_bind (moves_firstUser _ found) fun known => ?_
  cases known with
  | some id => exact moves_pure _
  | none =>
    have hcreate : ∀ log, Careful (fun _ => AboutAccount email) log
        (after (httpx srv (.createUser email (some tenantId) role none)) log) :=
      fun log => careful_httpx (.inr (.inr ⟨tenantId, role, rfl⟩))
    refine moves_bind hcreate fun created => ?_
    cases InvitationService.createdUser created with
    | some id => exact moves_pure _
    | none => exact moves_bind hsearch fun again => moves_firstUser _ again

theorem RoleGroup.mono {g : String} (h : RoleGroup tenantId role log g) (hsub : log ⊆ log') :
    RoleGroup tenantId role log' g := by
  obtain ⟨r, l, hr, hrest⟩ := h
  exact ⟨r, l, hsub hr, hrest⟩

theorem OwnOrganization.mono {o : String} (h : OwnOrganization tenantId log o) (hsub : log ⊆ log') :
    OwnOrganization tenantId log' o := by
  obtain ⟨r, orgs, hr, hrest⟩ := h
  exact ⟨r, orgs, hsub hr, hrest⟩

theorem moves_getGroupIdByPath (srv : Service Request Answer) (email tenantId role path : String) :
    Moves (Careful (Inviting email tenantId role))
      (InvitationService.getGroupIdByPath srv path) := by
  refine moves_bind (fun log => careful_httpx .listGroups) fun r => moves_ite (moves_pure _) ?_
  cases r.body with
  | groups l => exact moves_pure _
  | unreadable message => exact moves_throw _
  | accessToken => exact moves_pure _
  | users l => exact moves_pure _
  | organizations l => exact moves_pure _
  | other => exact moves_pure _

theorem getGroupIdByPath_ok {path g : String}
    (hpath : path ∈ InvitationService.targetPaths tenantId role)
    (h : InvitationService.getGroupIdByPath srv path log = .ok (some g) log') :
    RoleGroup tenantId role log' g := by
  obtain ⟨r, t, hr, h⟩ := bind_eq_ok.1 h
  by_cases hstatus : 300 ≤ r.status
  · rw [if_pos hstatus] at h
    cases h
  · rw [if_neg hstatus] at h
    cases hbody : r.body with
    | groups l =>
      rw [hbody] at h
      obtain ⟨hfound, rfl⟩ := pure_eq_ok.1 h
      refine ⟨r, l, ?_, hbody, path, hpath, searchGroups_found hfound⟩
      rw [httpx_ok hr]
      exact List.mem_append_right _ List.mem_cons_self
    | unreadable message =>
      rw [hbody] at h
      cases h
    | accessToken =>
      rw [hbody] at h
      cases h
    | users l =>
      rw [hbody] at h
      cases h
    | organizations l =>
      rw [hbody] at h
      cases h
    | other =>
      rw [hbody] at h
      cases h

theorem moves_findGroup (srv : Service Request Answer) (email tenantId role : String)
    (paths : List String) :
    Moves (Careful (Inviting email tenantId role)) (InvitationService.findGroup srv paths) := by
  induction paths with
  | nil => exact moves_pure none
  | cons path paths ih =>
    refine moves_bind (moves_getGroupIdByPath srv email tenantId role path) fun groupId => ?_
    cases Text.nonEmpty groupId with
    | some id => exact moves_pure _
    | none => exact ih

theorem findGroup_ok {paths : List String} {g : String}
    (hpaths : ∀ path ∈ paths, path ∈ InvitationService.targetPaths tenantId role)
    (h : InvitationService.findGroup srv paths log = .ok (some g) log') :
    RoleGroup tenantId role log' g := by
  induction paths generalizing log with
  | nil => cases h
  | cons path paths ih =>
    obtain ⟨groupId, t, hget, h⟩ := bind_eq_ok.1 h
    cases hid : Text.nonEmpty groupId with
    | some id =>
      rw [hid] at h
      cases h
      have hsome : groupId = some g := (Option.filter_eq_some_iff.1 hid).1
      rw [hsome] at hget
      exact getGroupIdByPath_ok (hpaths path List.mem_cons_self) hget
    | none =>
      rw [hid] at h
      exact ih (fun p hp => hpaths p (List.mem_cons_of_mem _ hp)) h

variable (tenantId role srv) in
/-- The invited user is put in a group for the role, if one is found. -/
theorem careful_assignUserGroup {u : String} (hu : Known email log u) :
    Careful (Inviting email tenantId role) log
      (after (InvitationService.assignUserGroup srv u tenantId role) log) := by
  have hfind :=
    moves_findGroup srv email tenantId role (InvitationService.targetPaths tenantId role) log
  refine moves_bind_of_ok hfind fun found t hok => ?_
  rw [after_ok hok] at hfind
  cases found with
  | none => exact hfind
  | some g =>
    dsimp only
    rw [after_bind_idle fun _ _ => rfl]
    have hgroup : RoleGroup tenantId role t g := findGroup_ok (fun _ hp => hp) hok
    exact hfind.trans (careful_httpx (.joinGroup (hu.mono hfind.grows.subset) hgroup))

variable (tenantId role srv) in
/-- The invited user becomes a member of the organization of the tenant, and of no other. -/
theorem assignUserOrganization_spec {u : String} (hu : Known email log u) :
    Careful (Inviting email tenantId role) log
      (after (InvitationService.assignUserOrganization srv u tenantId) log) ∧
    ∀ log', InvitationService.assignUserOrganization srv u tenantId log = .ok () log' →
      Member email tenantId log' := by
  unfold InvitationService.assignUserOrganization
  rw [after_raiseIf_bind, raiseIf_bind]
  by_cases htenant : tenantId = ""
  · rw [if_pos htenant, if_pos htenant]
    exact ⟨.refl _ _, nofun⟩
  rw [if_neg htenant, if_neg htenant]
  rcases ok_or_error (httpx srv .listOrganizations) log with ⟨r, hlist⟩ | ⟨e, hlist⟩
  swap
  · rw [after_bind_error hlist, bind_of_error hlist]
    exact ⟨after_error hlist ▸ careful_httpx .listOrganizations, nofun⟩
  have hlisted : Careful (Inviting email tenantId role) log
      (log ++ [(.listOrganizations, .reply r)]) := by
    rw [← httpx_ok hlist]
    exact careful_httpx .listOrganizations
  rw [httpx_ok hlist] at hlist
  rw [after_bind_ok hlist, bind_of_ok hlist, after_raiseIf_bind, raiseIf_bind]
  by_cases hstatus : 300 ≤ r.status
  · rw [if_pos hstatus, if_pos hstatus]
    exact ⟨hlisted, nofun⟩
  rw [if_neg hstatus, if_neg hstatus]
  have hmem : (Request.listOrganizations, Answer.reply r) ∈ log ++
      [(Request.listOrganizations, Answer.reply r)] :=
    List.mem_append_right _ List.mem_cons_self
  generalize log ++ [(Request.listOrganizations, Answer.reply r)] = log₁ at hlisted hmem ⊢
  rcases ok_or_error (InvitationService.listed r) log₁ with ⟨orgs, horgs⟩ | ⟨e, horgs⟩
  swap
  · have hsame : after (InvitationService.listed r) log₁ = log₁ := by
      unfold InvitationService.listed
      cases r.body <;> rfl
    rw [after_bind_error horgs, bind_of_error horgs, hsame]
    exact ⟨hlisted, nofun⟩
  have hread : after (InvitationService.listed r) log₁ = log₁ ∧
      ∀ org ∈ orgs, ∃ l, r.body = .organizations l ∧ org ∈ l := by
    unfold InvitationService.listed at horgs ⊢
    cases hbody : r.body with
    | organizations l =>
      rw [hbody] at horgs
      obtain ⟨rfl, -⟩ := pure_eq_ok.1 horgs
      exact ⟨rfl, fun org horg => ⟨l, rfl, horg⟩⟩
    | unreadable message =>
      rw [hbody] at horgs
      cases horgs
    | accessToken =>
      rw [hbody] at horgs
      obtain ⟨rfl, -⟩ := pure_eq_ok.1 horgs
      exact ⟨rfl, nofun⟩
    | users l =>
      rw [hbody] at horgs
      obtain ⟨rfl, -⟩ := pure_eq_ok.1 horgs
      exact ⟨rfl, nofun⟩
    | groups l =>
      rw [hbody] at horgs
      obtain ⟨rfl, -⟩ := pure_eq_ok.1 horgs
      exact ⟨rfl, nofun⟩
    | other =>
      rw [hbody] at horgs
      obtain ⟨rfl, -⟩ := pure_eq_ok.1 horgs
      exact ⟨rfl, nofun⟩
  rw [hread.1] at horgs
  rw [after_bind_ok horgs, bind_of_ok horgs]
  cases hid : InvitationService.organizationId orgs tenantId with
  | none => exact ⟨hlisted, nofun⟩
  | some o =>
    dsimp only
    have hown : OwnOrganization tenantId log₁ o := by
      have hfind : (orgs.find? fun org => org.Has tenantId).bind Organization.id = some o :=
        (Option.filter_eq_some_iff.1 hid).1
      obtain ⟨org, horg, hid⟩ := Option.bind_eq_some_iff.1 hfind
      obtain ⟨l, hbody, hmem'⟩ := hread.2 org (List.mem_of_find?_eq_some horg)
      exact ⟨r, l, hmem, hbody, org, hmem', by simpa using List.find?_some horg, hid⟩
    have hadds : Inviting email tenantId role log₁ (.addMember o u) :=
      .addMember (hu.mono hlisted.grows.subset) hown
    rcases ok_or_error (httpx srv (.addMember o u)) log₁ with ⟨m, hadd⟩ | ⟨e, hadd⟩
    swap
    · rw [after_bind_error hadd, bind_of_error hadd]
      exact ⟨hlisted.trans (after_error hadd ▸ careful_httpx hadds), nofun⟩
    have hadded : Careful (Inviting email tenantId role) log₁
        (log₁ ++ [(.addMember o u, .reply m)]) := by
      rw [← httpx_ok hadd]
      exact careful_httpx hadds
    rw [httpx_ok hadd] at hadd
    rw [after_bind_ok hadd, bind_of_ok hadd]
    have hidle : after (raiseIf (300 ≤ m.status ∧ m.status ≠ 409)
        (.runtimeError s!"Could not add user to organization \x27{tenantId}\x27: HTTP {m.status}") :
          Provisioner Unit)
        (log₁ ++ [(.addMember o u, .reply m)]) = log₁ ++ [(.addMember o u, .reply m)] := by
      unfold raiseIf onlyIf
      split_ifs <;> rfl
    rw [hidle]
    refine ⟨hlisted.trans hadded, fun log' hok => ?_⟩
    obtain ⟨hstatus', rfl⟩ := raiseIf_eq_ok.1 hok
    have hsub : log₁ ⊆ log₁ ++ [(Request.addMember o u, Answer.reply m)] :=
      List.subset_append_left _ _
    refine ⟨u, o, m, (hu.mono hlisted.grows.subset).mono hsub, hown.mono hsub, ?_, ?_⟩
    · exact List.mem_append_right _ List.mem_cons_self
    · by_contra hnot
      exact hstatus' ⟨by omega, by omega⟩

variable (email tenantId role srv) in
theorem careful_getAdminToken (log : Log Request Answer) :
    Careful (Inviting email tenantId role) log
      (after (InvitationService.getAdminToken srv) log) := by
  rw [after_getAdminToken]
  exact careful_ask (ε := PyError) .token

/-- What an invitation asks of Keycloak, in a session of its own. -/
theorem provision_spec (srv : Service Request Answer) (email tenantId role : String) :
    Careful (Inviting email tenantId role) []
      (after (InvitationService.provision srv email tenantId role) []) ∧
    ∀ log', InvitationService.provision srv email tenantId role [] = .ok () log' →
      Member email tenantId log' ∨ Unplaced email log' := by
  have htoken := careful_getAdminToken email tenantId role srv []
  unfold InvitationService.provision
  rcases ok_or_error (InvitationService.getAdminToken srv) [] with ⟨_, hask⟩ | ⟨e, hask⟩
  swap
  · rw [after_bind_error hask, bind_of_error hask]
    exact ⟨htoken, nofun⟩
  rw [after_bind_ok hask, bind_of_ok hask]
  have honly : ∀ x ∈ after (InvitationService.getAdminToken srv) [], x.1 = .token := by
    intro x hx
    rw [after_getAdminToken] at hx
    rw [List.mem_singleton.1 hx]
  generalize after (InvitationService.getAdminToken srv) [] = log₁ at htoken honly ⊢
  obtain ⟨hshell, hknown⟩ := findOrCreateUserShell_spec email tenantId role srv honly
  rcases ok_or_error (InvitationService.findOrCreateUserShell srv email tenantId role) log₁ with
    ⟨o, hok⟩ | ⟨e, hok⟩
  swap
  · rw [after_bind_error hok, bind_of_error hok]
    exact ⟨htoken.trans hshell, nofun⟩
  rw [after_bind_ok hok, bind_of_ok hok]
  have hknown := hknown o _ hok
  have hlog₂ := htoken.trans hshell
  have hasked :=
    (moves_findOrCreateUserShell srv email tenantId role log₁).of_all fun x hx => .inl (honly x hx)
  generalize after (InvitationService.findOrCreateUserShell srv email tenantId role) log₁ = log₂
    at hlog₂ hknown hasked ⊢
  cases hid : Text.nonEmpty o with
  | none =>
    refine ⟨hlog₂, fun log' h => ?_⟩
    obtain ⟨-, rfl⟩ := pure_eq_ok.1 h
    refine .inr ⟨?_, hasked⟩
    cases o with
    | none => exact .inl fun u hu => nomatch (hknown u).1 hu
    | some v =>
      have hempty : v = "" := by
        by_contra hne
        rw [Text.nonEmpty_some hne] at hid
        cases hid
      exact .inr fun u => by rw [hknown u, hempty, Option.some.injEq, eq_comm]
  | some u =>
    dsimp only
    have hu : Known email log₂ u := (hknown u).2 (Option.filter_eq_some_iff.1 hid).1
    have hgroup := careful_assignUserGroup tenantId role srv hu
    rcases ok_or_error (InvitationService.assignUserGroup srv u tenantId role) log₂ with
      ⟨_, hassign⟩ | ⟨e, hassign⟩
    swap
    · rw [after_bind_error hassign, bind_of_error hassign]
      exact ⟨hlog₂.trans hgroup, nofun⟩
    rw [after_bind_ok hassign, bind_of_ok hassign]
    obtain ⟨horg, hmember⟩ := assignUserOrganization_spec tenantId role srv
      (hu.mono hgroup.grows.subset)
    exact ⟨(hlog₂.trans hgroup).trans horg, fun log' h => .inl (hmember log' h)⟩

end Facts

/-! ## What comes first -/

section First

variable [Unicode] [Auth.Platform]

/-- What becomes of the provisioning, as the invitation of the tables has it. -/
def outcome (srv : Service Request Answer) (email tenantId role : String) : Option PyError :=
  match InvitationService.provision srv email tenantId role [] with
  | .ok _ _ => none
  | .error e _ => some e

/-- An invitation ends before its tables are written, or its tables are written as those of an
invitation whose provisioning has ended in the same way. -/
theorem sendUserInvitation_cases (srv : Service Request Answer) (email tenantId role : String)
    (s : Auth.State) :
    (∃ e log, InvitationService.sendUserInvitation srv email tenantId role ([], s) =
      .error e (log, s) ∧
      Auth.sendUserInvitation ⟨email, tenantId, role, outcome srv email tenantId role⟩ tenantId s =
        .error e s ∧
      (log = [] ∨ log = after (InvitationService.provision srv email tenantId role) [])) ∨
    ∃ log, InvitationService.provision srv email tenantId role [] = .ok () log ∧
      ((∃ t, InvitationService.sendUserInvitation srv email tenantId role ([], s) =
        .ok () (log, t) ∧
        Auth.sendUserInvitation ⟨email, tenantId, role, outcome srv email tenantId role⟩ tenantId
          s = .ok () t) ∨
      ∃ e t, InvitationService.sendUserInvitation srv email tenantId role ([], s) =
        .error e (log, t) ∧
        Auth.sendUserInvitation ⟨email, tenantId, role, outcome srv email tenantId role⟩ tenantId
          s = .error e t) := by
  obtain ⟨existing, hread⟩ : ∃ existing, Auth.InvitationRepository.getInvitationByEmail email
      tenantId s =
      .ok existing s := ⟨_, rfl⟩
  unfold InvitationService.sendUserInvitation Auth.sendUserInvitation
  rw [bind_of_ok (onSnd_of_ok hread []), bind_of_ok hread, raiseIf_bind, raiseIf_bind]
  by_cases hexisting : existing.isSome
  · rw [if_pos hexisting, if_pos hexisting]
    exact .inl ⟨_, [], rfl, rfl, .inl rfl⟩
  rw [if_neg hexisting, if_neg hexisting]
  rcases ok_or_error (InvitationService.provision srv email tenantId role) [] with
    ⟨_, hok⟩ | ⟨e, herror⟩
  · right
    refine ⟨_, hok, ?_⟩
    have hout : outcome srv email tenantId role = none := by
      unfold outcome
      rw [hok]
    rw [bind_of_ok (onFst_of_ok hok s), hout, Option.elim_none, pure_bind]
    rcases ok_or_error (Auth.InvitationRepository.createInvitationRecord email tenantId role) s with
      ⟨_, hcreate⟩ | ⟨e, hcreate⟩
    · rw [bind_of_ok (onSnd_of_ok hcreate _), bind_of_ok hcreate]
      rcases ok_or_error (Auth.InvitationRepository.upsertUserTenantMap email tenantId role) _ with
        ⟨_, hupsert⟩ | ⟨e, hupsert⟩
      · exact .inl ⟨_, onSnd_of_ok hupsert _, hupsert⟩
      · exact .inr ⟨e, _, onSnd_of_error hupsert _, hupsert⟩
    · rw [bind_of_error (onSnd_of_error hcreate _), bind_of_error hcreate]
      exact .inr ⟨e, _, rfl, rfl⟩
  · left
    have hout : outcome srv email tenantId role = some e := by
      unfold outcome
      rw [herror]
    rw [bind_of_error (onFst_of_error herror s), hout, Option.elim_some]
    exact ⟨_, _, rfl, rfl, .inr rfl⟩

/-- **An invitation is provisioned before it is recorded**, whatever Keycloak answers. Its requests
are those of `Inviting`; where it returns, or has written to the tables at all, Keycloak has said
that the account of the invited user is a member of the tenant's organization, or it has named no
account with an id and the invitation has passed over the group and the organization; and to the
tables it is the invitation whose provisioning has this outcome. -/
theorem invitation_provisioned (srv : Service Request Answer) (email tenantId role : String)
    (s : Auth.State) :
    Careful (Inviting email tenantId role) []
      (after (InvitationService.sendUserInvitation srv email tenantId role) ([], s)).1 ∧
    ((after (InvitationService.sendUserInvitation srv email tenantId role) ([], s)).2 ≠ s ∨
        (∃ s', InvitationService.sendUserInvitation srv email tenantId role ([], s) = .ok () s') →
      Member email tenantId (after (InvitationService.sendUserInvitation srv email tenantId role)
        ([], s)).1 ∨
      Unplaced email (after (InvitationService.sendUserInvitation srv email tenantId role)
        ([], s)).1) ∧
    (after (InvitationService.sendUserInvitation srv email tenantId role) ([], s)).2 =
      after (Auth.sendUserInvitation ⟨email, tenantId, role,
        outcome srv email tenantId role⟩ tenantId) s ∧
    ((∃ s', InvitationService.sendUserInvitation srv email tenantId role ([], s) = .ok () s') ↔
      ∃ t, Auth.sendUserInvitation ⟨email, tenantId, role, outcome srv email tenantId role⟩ tenantId
        s = .ok () t) := by
  obtain ⟨hcareful, hmember⟩ := provision_spec srv email tenantId role
  rcases sendUserInvitation_cases srv email tenantId role s with
    ⟨e, log, hrun, htables, hlog⟩ | ⟨log, hok, ⟨t, hrun, htables⟩ | ⟨e, t, hrun, htables⟩⟩
  · rw [after_error hrun, after_error htables, hrun, htables]
    refine ⟨?_, fun h => ?_, rfl, iff_of_false nofun nofun⟩
    · rcases hlog with rfl | rfl
      · exact .refl _ _
      · exact hcareful
    · rcases h with h | ⟨s', h⟩
      · exact absurd rfl h
      · cases h
  · rw [after_ok hrun, after_ok htables, hrun, htables]
    rw [after_ok hok] at hcareful
    exact ⟨hcareful, fun _ => hmember log hok, rfl, iff_of_true ⟨_, rfl⟩ ⟨t, rfl⟩⟩
  · rw [after_error hrun, after_error htables, hrun, htables]
    rw [after_ok hok] at hcareful
    exact ⟨hcareful, fun _ => hmember log hok, rfl, iff_of_false nofun nofun⟩

/-! ## Tenants -/

omit [Auth.Platform] in
theorem registerTenant_ok {tenantId : String} {s t : Auth.State}
    (h : registerTenant tenantId s = .ok () t) :
    t.val.isRegistered tenantId = true := by
  unfold registerTenant Auth.write at h
  rw [exec_eq_ok.1 h]
  by_cases hin : s.val.isRegistered tenantId = true
  · rwa [if_pos hin]
  · rw [if_neg hin]
    simp [Auth.World.isRegistered]

omit [Auth.Platform] in
theorem tenants_initializeTables (w : Auth.World) (tenantId : String) :
    (w.initializeTables tenantId).tenants = w.tenants ∧
      tenantId ∈ (w.initializeTables tenantId).opened := by
  unfold Auth.World.initializeTables
  by_cases hin : tenantId ∈ w.opened
  · rw [if_pos hin]
    exact ⟨rfl, hin⟩
  · rw [if_neg hin]
    refine ⟨?_, List.mem_append_right _ List.mem_cons_self⟩
    show (w.createSchema tenantId).tenants = w.tenants
    unfold Auth.World.createSchema
    split_ifs <;> rfl

omit [Auth.Platform] in
theorem openPool_ok {tenantId : String} {s t : Auth.State}
    (hregistered : s.val.isRegistered tenantId = true)
    (h : Auth.openPool tenantId s = .ok () t) :
    t.val.isRegistered tenantId = true ∧ tenantId ∈ t.val.opened := by
  obtain ⟨_, s₁, hregister, h⟩ := bind_eq_ok.1 h
  obtain ⟨reachable, s₂, hreachable, h⟩ := bind_eq_ok.1 h
  obtain ⟨_, s₃, hraise, h⟩ := bind_eq_ok.1 h
  obtain ⟨-, rfl⟩ := query_eq_ok.1 hreachable
  obtain ⟨-, rfl⟩ := raiseIf_eq_ok.1 hraise
  have hsame : s₁.val = s.val := by
    rw [exec_eq_ok.1 hregister]
    exact if_pos (.inr (.inl hregistered))
  rw [exec_eq_ok.1 h, hsame]
  obtain ⟨htenants, hopened⟩ := tenants_initializeTables s.val tenantId
  refine ⟨?_, hopened⟩
  unfold Auth.World.isRegistered at hregistered ⊢
  rwa [htenants]

omit [Auth.Platform] in
/-- **A tenant is registered after its organization**: whatever Keycloak answers, nothing is written
to the tables before an organization of its alias has been listed, and where the call returns the
tenant is registered and its schema is there. -/
theorem tenant_provisioned (srv : Service Request Answer) (tenantId name : String)
    (log : Log Request Answer) (s : Auth.State) :
    Careful (Provisioning log (Text.strip tenantId)) log
      (after (createTenant srv tenantId name) (log, s)).1 ∧
    ((after (createTenant srv tenantId name) (log, s)).2 ≠ s ∨
        (∃ s', createTenant srv tenantId name (log, s) = .ok () s') →
      ∃ org, org.Has tenantId ∧
        SeenSince log (after (createTenant srv tenantId name) (log, s)).1 org) ∧
    ∀ s', createTenant srv tenantId name (log, s) = .ok () s' →
      s'.2.val.isRegistered tenantId = true ∧ tenantId ∈ s'.2.val.opened := by
  obtain ⟨hcareful, hfound, -⟩ := createKeycloakOrganization_spec srv tenantId (some name) log
  unfold createTenant
  rcases ok_or_error (createKeycloakOrganization srv tenantId (some name)) log with
    ⟨org, hok⟩ | ⟨e, herror⟩
  · have hlift : onFst (fun exc : Raised => PyError.runtimeError exc.text)
        (createKeycloakOrganization srv tenantId (some name)) (log, s) = _ := onFst_of_ok hok s
    rw [after_bind_ok hlift, bind_of_ok hlift]
    have horg := hfound org _ hok
    generalize after (createKeycloakOrganization srv tenantId (some name)) log =
      log' at hcareful horg ⊢
    rcases ok_or_error (registerTenant tenantId) s with ⟨_, hregister⟩ | ⟨e, hregister⟩
    · have hlift' := onSnd_of_ok hregister log'
      rw [after_bind_ok hlift', bind_of_ok hlift']
      rcases ok_or_error (Auth.openPool tenantId) (after (registerTenant tenantId) s) with
        ⟨_, hopen⟩ | ⟨e, hopen⟩
      · rw [after_ok (onSnd_of_ok hopen log')]
        refine ⟨hcareful, fun _ => ⟨org, horg⟩, fun s' h => ?_⟩
        rw [onSnd_of_ok hopen log'] at h
        cases h
        exact openPool_ok (registerTenant_ok hregister) hopen
      · rw [after_error (onSnd_of_error hopen log')]
        refine ⟨hcareful, fun _ => ⟨org, horg⟩, fun s' h => ?_⟩
        rw [onSnd_of_error hopen log'] at h
        cases h
    · have hlift' := onSnd_of_error hregister log'
      rw [after_bind_error hlift', bind_of_error hlift']
      exact ⟨hcareful, fun _ => ⟨org, horg⟩, nofun⟩
  · have hlift : onFst (fun exc : Raised => PyError.runtimeError exc.text)
        (createKeycloakOrganization srv tenantId (some name)) (log, s) = _ :=
          onFst_of_error herror s
    rw [after_bind_error hlift, bind_of_error hlift]
    refine ⟨hcareful, fun h => ?_, nofun⟩
    rcases h with h | ⟨s', h⟩
    · exact absurd rfl h
    · cases h

end First

end Sams.Keycloak
