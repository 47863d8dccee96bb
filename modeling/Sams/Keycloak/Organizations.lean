import Sams.Lib.Clients
import Sams.Lib.Dicts
import Sams.Text

/-!
# The organization of a tenant

Each tenant has an organization in Keycloak, whose alias is the tenant's id. It is found by its
alias, and created where it is not there; a start of the service does so for every tenant.

Nothing is assumed of Keycloak but that it answers or does not.
-/

namespace Sams.Keycloak

open Programs Clients

/-! ## Exchanges -/

inductive Group where
  | mk (id : Option String) (path name : String) (subGroups : List Group)

structure User where
  id : Option String
  deriving DecidableEq, Repr

structure Organization where
  id : Option String
  orgAlias : Option String
  deriving DecidableEq, Repr

/-- The requests of the program to the Admin API. The first and last names of an account are left
out; a synchronisation sends them blank. -/
inductive Request where
  | token
  | findUsers (email : String) (exact : Bool)
  | createUser (email : String) (tenantId : Option String) (role : String)
      (password : Option String)
  | updateUser (userId email : String) (tenantId : Option String) (role : String)
  | resetPassword (userId password : String)
  | deleteUser (userId : String)
  | listGroups
  | joinGroup (userId groupId : String)
  | listOrganizations
  | createOrganization (name orgAlias : String)
  | addMember (organizationId userId : String)
  deriving DecidableEq, Repr

/-- What a reply carries. -/
inductive Body where
  | accessToken
  | users (users : List User)
  | groups (groups : List Group)
  | organizations (organizations : List Organization)
  /-- Other JSON. -/
  | other
  /-- No JSON. -/
  | unreadable (message : String)

structure Reply where
  status : Nat
  reason : String
  location : Option String
  text : String
  /-- `exc.read().decode()` of an error, or the message of what this raises. -/
  errorText : Except String String
  body : Body

inductive Answer where
  /-- The connection failed. -/
  | failed (message : String)
  | reply (r : Reply)

/-- What the helpers of `keycloak_admin` raise. -/
inductive Raised where
  | organizationError (message : String)
  | httpError (r : Reply)
  | other (message : String)

/-- `str(exc)`. -/
def Raised.text : Raised → String
  | organizationError message => message
  | httpError r => s!"HTTP Error {r.status}: {r.reason}"
  | other message => message

abbrev Session := EStateM Raised (Log Request Answer)

/-- `urlopen` raises for a status that is none of success. -/
def Answer.opened : Answer → Except Raised Reply
  | failed message => .error (.other message)
  | reply r => if 200 ≤ r.status ∧ r.status < 300 then .ok r else .error (.httpError r)

/-- The organizations that a listing gives. -/
def Answer.organizations (a : Answer) : Except Raised (List Organization) :=
  a.opened.bind fun r =>
    match r.body with
    | .organizations l => .ok l
    | .unreadable message => .error (.other message)
    | _ => .ok []

variable [Unicode]

/-- `strip().lower()`. -/
def fold (s : String) : String := Text.lower (Text.strip s)

/-- The alias is this one, but for white space around it and the case. -/
def Organization.Has (o : Organization) (orgAlias : String) : Prop :=
  fold (o.orgAlias.getD "") = fold orgAlias

instance (o : Organization) (orgAlias : String) : Decidable (o.Has orgAlias) :=
  inferInstanceAs (Decidable (_ = _))

/-! ## Requests -/

section Requests

variable (srv : Service Request Answer)

def urlopen (q : Request) : Session Reply := do
  let a ← ask srv q
  match a.opened with
  | .ok r => pure r
  | .error e => throw e

/-- `_admin_token` -/
def adminToken : Session Unit := do
  let r ← urlopen srv .token
  match r.body with
  | .accessToken => pure ()
  | .unreadable message => throw (.other message)
  | _ => throw (.other "\x27access_token\x27")

/-- `_list_organizations` -/
def listOrganizations : Session (List Organization) := do
  let a ← ask srv .listOrganizations
  match a.organizations with
  | .ok l => pure l
  | .error e => throw e

def findOrganizationByAlias (orgAlias : String) : Session (Option Organization) :=
  if orgAlias = "" then pure none
  else do
    let orgs ← listOrganizations srv
    return orgs.find? fun org => org.Has orgAlias

/-- The list may be behind what was just written. -/
def readBack (tid : String) : Nat → Session (Option Organization)
  | 0 => pure none
  | attempts + 1 => do
    let created ← findOrganizationByAlias srv tid
    match created with
    | some org => pure (some org)
    | none => readBack tid attempts

def organizationToken (tid : String) : Session Unit :=
  rescue (adminToken srv) fun exc => throw (.organizationError
    s!"Could not obtain a Keycloak admin token to provision organization \x27{tid}\x27: {exc.text}")

/-- The first 300 characters of an error; an error that cannot be read or decoded raises. -/
def Reply.detail (r : Reply) : Session String :=
  match r.errorText with
  | .ok text => pure (String.ofList (text.toList.take 300))
  | .error message => throw (.other message)

/-- Raise the error of the helper, with the detail of the reply. -/
def Reply.refuse {α : Type} (r : Reply) (message : String → String) : Session α := do
  let detail ← r.detail
  throw (.organizationError (message detail))

/-- The request that creates it, and the reply where it says that there is a conflict. -/
def postOrganization (name tid : String) : Session (Option Reply) := do
  let posted ← caught (urlopen srv (.createOrganization name tid))
  match posted with
  | .ok _ => pure none
  | .error (.httpError r) =>
    if r.status = 409 then pure (some r)
    else r.refuse fun detail =>
      s!"Keycloak refused to create organization \x27{tid}\x27: HTTP {r.status} {detail}"
  | .error exc => throw (.organizationError
      s!"Could not create Keycloak organization \x27{tid}\x27: {exc.text}")

/-- What follows the request: the organization is read back. -/
def confirmOrganization (name tid : String) : Option Reply → Session Organization
  -- Another request has created it, or the name is of another tenant.
  | some r => do
    let byAlias ← findOrganizationByAlias srv tid
    match byAlias with
    | some org => pure org
    | none => r.refuse fun detail =>
        s!"Cannot create organization \x27{tid}\x27: the name \x27{name}\x27 is " ++
          s!"already used by a different tenant in Keycloak. Detail: {detail}"
  | none => do
    let created ← readBack srv tid 3
    match created with
    | some org => pure org
    | none =>
      throw (.organizationError s!"Organization \x27{tid}\x27 was not readable back after creation")

def createKeycloakOrganization (tenantId : String) (name : Option String) :
    Session Organization := do
  let tid := Text.strip tenantId
  raiseIf (tid = "") (.organizationError "tenant_id is required to create an organization")
  organizationToken srv tid
  let existing ← findOrganizationByAlias srv tid
  match existing with
  | some org => pure org
  | none => do
    let posted ← postOrganization srv ((Text.nonEmpty name).getD tid) tid
    confirmOrganization srv ((Text.nonEmpty name).getD tid) tid posted

/-! ## The start -/

structure Summary where
  existing : List String
  created : List String
  failed : List (String × String)
  deriving DecidableEq, Repr

/-- The aliases that are there. -/
def presentAliases : Session (List String) := do
  adminToken srv
  let orgs ← listOrganizations srv
  return orgs.map fun org => fold (org.orgAlias.getD "")

def ensureOne (present : List String) (summary : Summary) (tid : String) : Session Summary :=
  if Text.lower tid ∈ present then pure { summary with existing := summary.existing ++ [tid] }
  else do
    let made ← caught (createKeycloakOrganization srv tid none)
    match made with
    | .ok _ => pure { summary with created := summary.created ++ [tid] }
    | .error (.organizationError message) =>
      pure { summary with failed := Dicts.setItem summary.failed tid message }
    | .error exc => throw exc

/-- `ids` -/
def givenIds (tenantIds : List String) : List String := (tenantIds.map Text.strip).filter (· ≠ "")

def ensureKeycloakOrganizations (tenantIds : List String) : Session Summary :=
  if givenIds tenantIds = [] then pure ⟨[], [], []⟩
  else do
    let listed ← caught (presentAliases srv)
    match listed with
    | .error exc =>
      pure ⟨[], [], Dicts.ofPairs ((givenIds tenantIds).map fun tid => (tid, exc.text))⟩
    | .ok present => (givenIds tenantIds).foldlM (ensureOne srv present) ⟨[], [], []⟩

end Requests

/-! ## What the log shows -/

section Logs

/-- The exchange is a listing of these organizations. -/
def Listing (x : Request × Answer) (orgs : List Organization) : Prop :=
  x.1 = .listOrganizations ∧ x.2.organizations = .ok orgs

/-- The organization has been listed since. -/
def SeenSince (log log' : Log Request Answer) (org : Organization) : Prop :=
  ∃ x ∈ log'.drop log.length, ∃ orgs, Listing x orgs ∧ org ∈ orgs

/-- The last exchange is a listing without the tenant's organization. -/
def Missing (log : Log Request Answer) (tid : String) : Prop :=
  ∃ x ∈ log.getLast?, ∃ orgs, Listing x orgs ∧ ∀ org ∈ orgs, ¬org.Has tid

/-- The last exchange is a listing that failed. -/
def Unlisted (log : Log Request Answer) (e : Raised) : Prop :=
  ∃ x ∈ log.getLast?, x.1 = .listOrganizations ∧ x.2.organizations = .error e

/-- The error cannot be read. -/
def Reply.Unread (r : Reply) (e : Raised) : Prop :=
  ∃ message, r.errorText = .error message ∧ e = .other message

/-- Since then a creation was answered with an error that cannot be read. -/
def UnreadSince (log log' : Log Request Answer) (e : Raised) : Prop :=
  ∃ x ∈ log'.drop log.length, ∃ name tid r, x.1 = .createOrganization name tid ∧
    x.2.opened = .error (.httpError r) ∧ r.Unread e

variable {srv : Service Request Answer} {log log' : Log Request Answer} {tid : String}

omit [Unicode] in
theorem after_urlopen (srv : Service Request Answer) (q : Request) (log : Log Request Answer) :
    after (urlopen srv q) log = log ++ [(q, srv log q)] := by
  refine after_bind_idle (fun a t => ?_) log
  cases a.opened with
  | error e => rfl
  | ok r => rfl

omit [Unicode] in
theorem urlopen_httpError {q : Request} {r : Reply}
    (h : urlopen srv q log = .error (.httpError r) log') :
    (srv log q).opened = .error (.httpError r) := by
  have hask : (ask srv q : Session Answer) log = .ok (srv log q) (log ++ [(q, srv log q)]) := rfl
  unfold urlopen at h
  rw [bind_of_ok hask] at h
  cases hopened : (srv log q).opened with
  | ok r' =>
    rw [hopened] at h
    cases h
  | error e =>
    rw [hopened] at h
    cases h
    rfl

omit [Unicode] in
theorem careful_urlopen {P : Log Request Answer → Request → Prop} {q : Request} (h : P log q) :
    Careful P log (after (urlopen srv q) log) := by
  rw [after_urlopen]
  exact careful_ask (ε := Raised) h

omit [Unicode] in
theorem after_adminToken (log : Log Request Answer) :
    after (adminToken srv) log = log ++ [(.token, srv log .token)] := by
  refine (after_bind_idle (fun r t => ?_) log).trans (after_urlopen srv .token log)
  cases r.body <;> rfl

/-- The log after a listing. -/
def listed (srv : Service Request Answer) (log : Log Request Answer) : Log Request Answer :=
  log ++ [(.listOrganizations, srv log .listOrganizations)]

omit [Unicode] in
theorem listOrganizations_cases (srv : Service Request Answer) (log : Log Request Answer) :
    (∃ orgs, Listing (.listOrganizations, srv log .listOrganizations) orgs ∧
      listOrganizations srv log = .ok orgs (listed srv log)) ∨
    ∃ e, (srv log .listOrganizations).organizations = .error e ∧
      listOrganizations srv log = .error e (listed srv log) := by
  have hask : (ask srv .listOrganizations : Session Answer) log =
      .ok (srv log .listOrganizations) (listed srv log) := rfl
  unfold listOrganizations
  rw [bind_of_ok hask]
  cases horgs : (srv log .listOrganizations).organizations with
  | ok orgs => exact .inl ⟨orgs, ⟨rfl, horgs⟩, rfl⟩
  | error e => exact .inr ⟨e, rfl, rfl⟩

omit [Unicode] in
theorem seenSince_listed {orgs : List Organization} {org : Organization}
    (h : Listing (.listOrganizations, srv log .listOrganizations) orgs) (horg : org ∈ orgs) :
    SeenSince log (listed srv log) org := by
  unfold SeenSince listed
  rw [List.drop_left]
  exact ⟨_, List.mem_cons_self, orgs, h, horg⟩

theorem missing_listed {orgs : List Organization}
    (h : Listing (.listOrganizations, srv log .listOrganizations) orgs)
    (horgs : ∀ org ∈ orgs, ¬org.Has tid) :
    Missing (listed srv log) tid := by
  unfold Missing listed
  rw [List.getLast?_append, List.getLast?_singleton]
  exact ⟨_, rfl, orgs, h, horgs⟩

omit [Unicode] in
theorem unlisted_listed {e : Raised} (h : (srv log .listOrganizations).organizations = .error e) :
    Unlisted (listed srv log) e := by
  unfold Unlisted listed
  rw [List.getLast?_append, List.getLast?_singleton]
  exact ⟨_, rfl, rfl, h⟩

/-- An organization is found by its alias, or is not listed, or the listing fails. -/
theorem findOrganizationByAlias_cases (srv : Service Request Answer) (log : Log Request Answer)
    (htid : tid ≠ "") :
    (∃ org, findOrganizationByAlias srv tid log = .ok (some org) (listed srv log) ∧ org.Has tid ∧
      SeenSince log (listed srv log) org) ∨
    (findOrganizationByAlias srv tid log = .ok none (listed srv log) ∧
      Missing (listed srv log) tid) ∨
    ∃ e, findOrganizationByAlias srv tid log = .error e (listed srv log) ∧
      Unlisted (listed srv log) e := by
  unfold findOrganizationByAlias
  rw [if_neg htid]
  rcases listOrganizations_cases srv log with ⟨orgs, hlisting, hok⟩ | ⟨e, horgs, herror⟩
  · rw [bind_of_ok hok]
    cases hfind : orgs.find? fun org => org.Has tid with
    | none =>
      refine .inr (.inl ⟨rfl, missing_listed hlisting fun org horg => ?_⟩)
      simpa using List.find?_eq_none.1 hfind org horg
    | some org =>
      refine .inl ⟨org, rfl, by simpa using List.find?_some hfind, ?_⟩
      exact seenSince_listed hlisting (List.mem_of_find?_eq_some hfind)
  · exact .inr (.inr ⟨e, bind_of_error herror, unlisted_listed horgs⟩)

omit [Unicode] in
theorem drop_length_subset {log₀ : Log Request Answer} (hlater : log₀ <+: log)
    (log' : Log Request Answer) :
    log'.drop log.length ⊆ log'.drop log₀.length := by
  have hdrop := List.drop_drop (l := log') (i := log.length - log₀.length) (j := log₀.length)
  have hle := hlater.length_le
  rw [show log₀.length + (log.length - log₀.length) = log.length by omega] at hdrop
  rw [← hdrop]
  exact List.drop_subset _ _

omit [Unicode] in
theorem SeenSince.back {log₀ : Log Request Answer} {org : Organization} (h : SeenSince log log' org)
    (hlater : log₀ <+: log) : SeenSince log₀ log' org := by
  obtain ⟨x, hx, horgs⟩ := h
  exact ⟨x, drop_length_subset hlater log' hx, horgs⟩

omit [Unicode] in
theorem UnreadSince.back {log₀ : Log Request Answer} {e : Raised} (h : UnreadSince log log' e)
    (hlater : log₀ <+: log) : UnreadSince log₀ log' e := by
  obtain ⟨x, hx, hunread⟩ := h
  exact ⟨x, drop_length_subset hlater log' hx, hunread⟩

omit [Unicode] in
theorem prefix_listed (srv : Service Request Answer) (log : Log Request Answer) :
    log <+: listed srv log :=
  List.prefix_append _ _

/-- The organization that is read back is one of the alias. -/
theorem readBack_ok (htid : tid ≠ "") {attempts : Nat} {org : Organization}
    (h : readBack srv tid attempts log = .ok (some org) log') :
    org.Has tid ∧ SeenSince log log' org := by
  induction attempts generalizing log with
  | zero => cases h
  | succ attempts ih =>
    obtain ⟨created, t, hfind, h⟩ := bind_eq_ok.1 h
    rcases findOrganizationByAlias_cases srv log htid with ⟨org', hok, hhas, hseen⟩ | ⟨hok, -⟩ |
      ⟨e, herror, -⟩
    · rw [hok] at hfind
      cases hfind
      cases h
      exact ⟨hhas, hseen⟩
    · rw [hok] at hfind
      cases hfind
      obtain ⟨hhas, hseen⟩ := ih h
      exact ⟨hhas, hseen.back (prefix_listed srv log)⟩
    · rw [herror] at hfind
      cases hfind

theorem readBack_error (htid : tid ≠ "") {attempts : Nat} {e : Raised}
    (h : readBack srv tid attempts log = .error e log') : Unlisted log' e := by
  induction attempts generalizing log with
  | zero => cases h
  | succ attempts ih =>
    rcases findOrganizationByAlias_cases srv log htid with ⟨org', hok, -⟩ | ⟨hok, -⟩ |
      ⟨e', herror, hunlisted⟩
    · unfold readBack at h
      rw [bind_of_ok hok] at h
      cases h
    · unfold readBack at h
      rw [bind_of_ok hok] at h
      exact ih h
    · unfold readBack at h
      rw [bind_of_error herror] at h
      cases h
      exact hunlisted

end Logs

/-! ## One organization -/

section One

variable {srv : Service Request Answer} {log log' : Log Request Answer} {tid name : String}

omit [Unicode] in
/-- What is raised with the detail of an error. -/
theorem refuse_cases {α : Type} (r : Reply) (message : String → String) (log : Log Request Answer) :
    ∃ e, (r.refuse message : Session α) log = .error e log ∧
      ((∃ text, e = .organizationError text) ∨ r.Unread e) := by
  unfold Reply.refuse Reply.detail
  cases htext : r.errorText with
  | ok text => exact ⟨_, rfl, .inl ⟨_, rfl⟩⟩
  | error message => exact ⟨_, rfl, .inr ⟨message, htext, rfl⟩⟩

theorem confirmOrganization_ok (htid : tid ≠ "") {posted : Option Reply} {org : Organization}
    (h : confirmOrganization srv name tid posted log = .ok org log') :
    org.Has tid ∧ SeenSince log log' org := by
  cases posted with
  | some r =>
    obtain ⟨found, t, hfind, h⟩ := bind_eq_ok.1 h
    rcases findOrganizationByAlias_cases srv log htid with ⟨org', hok, hhas, hseen⟩ | ⟨hok, -⟩ |
      ⟨e, herror, -⟩
    · rw [hok] at hfind
      cases hfind
      cases h
      exact ⟨hhas, hseen⟩
    · rw [hok] at hfind
      cases hfind
      obtain ⟨e, hrefused, -⟩ := refuse_cases (α := Organization) r _ (listed srv log)
      cases hrefused.symm.trans h
    · rw [herror] at hfind
      cases hfind
  | none =>
    obtain ⟨found, t, hback, h⟩ := bind_eq_ok.1 h
    cases found with
    | none => cases h
    | some org' =>
      cases h
      exact readBack_ok htid hback

theorem confirmOrganization_error (htid : tid ≠ "") {posted : Option Reply} {e : Raised}
    (h : confirmOrganization srv name tid posted log = .error e log') :
    (∃ message, e = .organizationError message) ∨ Unlisted log' e ∨ ∃ r ∈ posted, r.Unread e := by
  cases posted with
  | some r =>
    rcases bind_eq_error.1 h with hfind | ⟨found, t, hfind, h⟩
    · rcases findOrganizationByAlias_cases srv log htid with ⟨org', hok, -⟩ | ⟨hok, -⟩ |
        ⟨e', herror, hunlisted⟩
      · rw [hok] at hfind
        cases hfind
      · rw [hok] at hfind
        cases hfind
      · rw [herror] at hfind
        cases hfind
        exact .inr (.inl hunlisted)
    · cases found with
      | some org => cases h
      | none =>
        obtain ⟨e', hrefused, hcause⟩ := refuse_cases (α := Organization) r _ t
        obtain ⟨rfl, -⟩ := EStateM.Result.error.inj (hrefused.symm.trans h)
        exact hcause.imp id fun hunread => .inr ⟨r, rfl, hunread⟩
  | none =>
    rcases bind_eq_error.1 h with hback | ⟨found, t, hback, h⟩
    · exact .inr (.inl (readBack_error htid hback))
    · cases found with
      | some org => cases h
      | none =>
        cases h
        exact .inl ⟨_, rfl⟩

/-- The requests of one provisioning, begun at `start`: an organization is created once, and only
after a listing without it. -/
def Provisioning (start : Log Request Answer) (tid : String) (before : Log Request Answer)
    (q : Request) : Prop :=
  q = .token ∨ q = .listOrganizations ∨
    ∃ name, q = .createOrganization name tid ∧ Missing before tid ∧
      ∀ x ∈ before.drop start.length, ∀ name' tid', x.1 ≠ .createOrganization name' tid'

variable {start : Log Request Answer}

theorem moves_find (srv : Service Request Answer) (start : Log Request Answer)
    (tid alias' : String) :
    Moves (Careful (Provisioning start tid)) (findOrganizationByAlias srv alias') := by
  refine moves_ite (moves_pure none)
    (moves_bind (moves_bind (moves_ask fun _ => .inr (.inl rfl)) fun a => ?_)
    fun orgs => moves_pure _)
  cases a.organizations with
  | ok orgs => exact moves_pure orgs
  | error e => exact moves_throw e

theorem moves_readBack (srv : Service Request Answer) (start : Log Request Answer) (tid : String)
    (attempts : Nat) :
    Moves (Careful (Provisioning start tid)) (readBack srv tid attempts) := by
  induction attempts with
  | zero => exact moves_pure none
  | succ attempts ih =>
    refine moves_bind (moves_find srv start tid tid) fun found => ?_
    cases found with
    | some org => exact moves_pure _
    | none => exact ih

theorem moves_confirm (srv : Service Request Answer) (start : Log Request Answer)
    (name tid : String)
    (posted : Option Reply) :
    Moves (Careful (Provisioning start tid)) (confirmOrganization srv name tid posted) := by
  cases posted with
  | some r =>
    refine moves_bind (moves_find srv start tid tid) fun found => ?_
    cases found with
    | some org => exact moves_pure _
    | none =>
      intro log
      obtain ⟨e, hrefused, -⟩ := refuse_cases (α := Organization) r _ log
      dsimp only
      rw [after_error hrefused]
      exact .refl _ _
  | none =>
    refine moves_bind (moves_readBack srv start tid 3) fun found => ?_
    cases found with
    | some org => exact moves_pure _
    | none => exact moves_throw _

omit [Unicode] in
theorem organizationToken_cases (srv : Service Request Answer) (tid : String)
    (log : Log Request Answer) :
    organizationToken srv tid log = .ok () (log ++ [(.token, srv log .token)]) ∨
    ∃ message, organizationToken srv tid log =
      .error (.organizationError message) (log ++ [(.token, srv log .token)]) := by
  rw [← after_adminToken]
  rcases ok_or_error (adminToken srv) log with ⟨_, h⟩ | ⟨exc, h⟩
  · exact .inl (rescue_of_ok h)
  · exact .inr ⟨_, rescue_of_error h⟩

omit [Unicode] in
theorem postOrganization_cases (srv : Service Request Answer) (name tid : String)
    (log : Log Request Answer) :
    (∃ posted, postOrganization srv name tid log =
        .ok posted
          (log ++ [(.createOrganization name tid, srv log (.createOrganization name tid))]) ∧
      ∀ r ∈ posted, (srv log (.createOrganization name tid)).opened = .error (.httpError r)) ∨
    ∃ e, postOrganization srv name tid log =
        .error e (log ++ [(.createOrganization name tid, srv log (.createOrganization name tid))]) ∧
      ((∃ message, e = .organizationError message) ∨
        ∃ r, (srv log (.createOrganization name tid)).opened = .error (.httpError r) ∧
          r.Unread e) := by
  rw [← after_urlopen]
  unfold postOrganization
  rcases ok_or_error (urlopen srv (.createOrganization name tid)) log with ⟨r, h⟩ | ⟨exc, h⟩
  · rw [bind_of_ok (caught_of_ok h)]
    exact .inl ⟨none, rfl, nofun⟩
  · rw [bind_of_ok (caught_of_error h)]
    cases exc with
    | httpError r =>
      have hopened := urlopen_httpError h
      by_cases hconflict : r.status = 409
      · refine .inl ⟨some r, by simp only [if_pos hconflict]; rfl, fun r' hr' => ?_⟩
        rwa [← Option.some.inj hr']
      · obtain ⟨e, hrefused, hcause⟩ := refuse_cases (α := Option Reply) r
          (fun detail =>
            s!"Keycloak refused to create organization \x27{tid}\x27: HTTP {r.status} {detail}")
          (after (urlopen srv (.createOrganization name tid)) log)
        refine .inr ⟨e, by simp only [if_neg hconflict]; exact hrefused,
          hcause.imp id fun hunread => ?_⟩
        exact ⟨r, hopened, hunread⟩
    | organizationError message => exact .inr ⟨_, rfl, .inl ⟨_, rfl⟩⟩
    | other message => exact .inr ⟨_, rfl, .inl ⟨_, rfl⟩⟩

theorem has_strip {org : Organization} (tenantId : String) :
    org.Has (Text.strip tenantId) ↔ org.Has tenantId := by
  unfold Organization.Has fold
  rw [Text.strip_strip]

/-- The organization that a tenant gets is its own, whatever Keycloak answers: it has the alias, and
has been listed. At most one organization is created on the way, and after a listing without one of
the alias; and what is raised is the error of the helper, unless a listing failed or the error of
the creation cannot be read. -/
theorem createKeycloakOrganization_spec (srv : Service Request Answer) (tenantId : String)
    (name : Option String) (log : Log Request Answer) :
    Careful (Provisioning log (Text.strip tenantId)) log
      (after (createKeycloakOrganization srv tenantId name) log) ∧
    (∀ org log', createKeycloakOrganization srv tenantId name log = .ok org log' →
      org.Has tenantId ∧ SeenSince log log' org) ∧
    ∀ e log', createKeycloakOrganization srv tenantId name log = .error e log' →
      (∃ message, e = .organizationError message) ∨ Unlisted log' e ∨ UnreadSince log log' e := by
  by_cases htid : Text.strip tenantId = ""
  · have hrun : createKeycloakOrganization srv tenantId name log =
        .error (.organizationError "tenant_id is required to create an organization") log := by
      unfold createKeycloakOrganization
      rw [raiseIf_bind, if_pos htid]
    rw [after_error hrun, hrun]
    refine ⟨.refl _ _, nofun, fun e log' h => ?_⟩
    cases h
    exact .inl ⟨_, rfl⟩
  generalize hstart : log ++ [(Request.token, srv log .token)] = asked
  have htoken : Careful (Provisioning log (Text.strip tenantId)) log asked := by
    rw [← hstart]
    exact careful_ask (ε := Raised) (.inl rfl)
  have hlater : log <+: asked := htoken.grows
  unfold createKeycloakOrganization
  rw [after_raiseIf_bind, raiseIf_bind, if_neg htid, if_neg htid]
  rcases organizationToken_cases srv (Text.strip tenantId) log with hok | ⟨message, herror⟩
  · rw [hstart] at hok
    rw [after_bind_ok hok, bind_of_ok hok]
    have hlisted : Careful (Provisioning log (Text.strip tenantId)) log (listed srv asked) :=
      htoken.trans (careful_ask (ε := Raised) (.inr (.inl rfl)))
    rcases findOrganizationByAlias_cases srv asked htid with
      ⟨org, hfind, hhas, hseen⟩ | ⟨hfind, hmissing⟩ | ⟨e, hfind, hunlisted⟩
    · rw [after_bind_ok hfind, bind_of_ok hfind]
      refine ⟨hlisted, fun org' log' h => ?_, fun e log' h => by cases h⟩
      cases h
      exact ⟨(has_strip tenantId).1 hhas, hseen.back hlater⟩
    · rw [after_bind_ok hfind, bind_of_ok hfind]
      dsimp only
      generalize hname : (Text.nonEmpty name).getD (Text.strip tenantId) = orgName
      generalize hposted : listed srv asked ++
        [(Request.createOrganization orgName (Text.strip tenantId),
          srv (listed srv asked) (.createOrganization orgName (Text.strip tenantId)))] = posted
      -- Only the token and the list have been asked for.
      have hnone : ∀ x ∈ (listed srv asked).drop log.length, ∀ name' tid',
          x.1 ≠ .createOrganization name' tid' := by
        intro x hx name' tid'
        rw [← hstart] at hx
        unfold listed at hx
        rw [List.append_assoc, List.drop_left] at hx
        simp only [List.cons_append, List.nil_append, List.mem_cons, List.not_mem_nil,
          or_false] at hx
        rcases hx with rfl | rfl
        · exact nofun
        · exact nofun
      have hcreate : Careful (Provisioning log (Text.strip tenantId)) log posted := by
        rw [← hposted]
        exact hlisted.trans
          (careful_ask (ε := Raised) (.inr (.inr ⟨orgName, rfl, hmissing, hnone⟩)))
      -- What cannot be read is the answer to this creation.
      have hunread : ∀ e r log',
          (srv (listed srv asked) (.createOrganization orgName (Text.strip tenantId))).opened =
          .error (.httpError r) → r.Unread e → posted <+: log' → UnreadSince log log' e := by
        intro e r log' hopened hr hlater'
        obtain ⟨rest, rfl⟩ := hlater'
        rw [← hposted]
        refine ⟨(.createOrganization orgName (Text.strip tenantId), _), ?_, orgName,
          Text.strip tenantId, r, rfl, hopened, hr⟩
        rw [List.append_assoc, List.drop_append_of_le_length hlisted.grows.length_le]
        exact List.mem_append_right _ List.mem_cons_self
      rcases postOrganization_cases srv orgName (Text.strip tenantId) (listed srv asked) with
        ⟨conflict, hpost, hconflict⟩ | ⟨e, hpost, hcause⟩
      · rw [hposted] at hpost
        rw [after_bind_ok hpost, bind_of_ok hpost]
        have hconfirm := moves_confirm srv log orgName (Text.strip tenantId) conflict posted
        refine ⟨hcreate.trans hconfirm, fun org log' h => ?_, fun e log' h => ?_⟩
        · obtain ⟨hhas, hseen⟩ := confirmOrganization_ok htid h
          exact ⟨(has_strip tenantId).1 hhas, hseen.back hcreate.grows⟩
        · rw [after_error h] at hconfirm
          refine (confirmOrganization_error htid h).imp id (Or.imp id ?_)
          rintro ⟨r, hr, hreply⟩
          exact hunread e r log' (hconflict r hr) hreply hconfirm.grows
      · rw [hposted] at hpost
        rw [after_bind_error hpost, bind_of_error hpost]
        refine ⟨hcreate, nofun, fun e' log' h => ?_⟩
        cases h
        refine hcause.imp id fun ⟨r, hopened, hr⟩ => .inr ?_
        exact hunread e r posted hopened hr (List.prefix_refl posted)
    · rw [after_bind_error hfind, bind_of_error hfind]
      refine ⟨hlisted, nofun, fun e' log' h => ?_⟩
      cases h
      exact .inr (.inl hunlisted)
  · rw [hstart] at herror
    rw [after_bind_error herror, bind_of_error herror]
    refine ⟨htoken, nofun, fun e log' h => ?_⟩
    cases h
    exact .inl ⟨message, rfl⟩

end One

/-! ## All of them -/

section All

variable {srv : Service Request Answer} {log log' : Log Request Answer} {ids : List String}

/-- The requests of a start. -/
def Reconciling (ids : List String) (before : Log Request Answer) (q : Request) : Prop :=
  q = .token ∨ q = .listOrganizations ∨ ∃ tid ∈ ids, ∃ name, q = .createOrganization name tid ∧
    Missing before tid

/-- Every tenant is accounted for, and the ones that are not reported as failed have
their organization. -/
structure Reconciled (ids : List String) (log log' : Log Request Answer) (s : Summary) : Prop where
  accounted : ∀ tid, tid ∈ ids ↔ tid ∈ s.existing ∨ tid ∈ s.created ∨ tid ∈ s.failed.map Prod.fst
  there : ∀ tid ∈ s.existing ++ s.created, ∃ org, org.Has tid ∧ SeenSince log log' org

omit [Unicode] in
theorem mem_givenIds {tenantIds : List String} {tid : String} (h : tid ∈ givenIds tenantIds) :
    Text.strip tid = tid := by
  obtain ⟨h, -⟩ := List.mem_filter.1 h
  obtain ⟨t, -, rfl⟩ := List.mem_map.1 h
  exact Text.strip_strip t

theorem moves_ensureOne (srv : Service Request Answer) (present : List String) (s : Summary)
    {tid : String} (htid : tid ∈ ids) (hstrip : Text.strip tid = tid) :
    Moves (Careful (Reconciling ids)) (ensureOne srv present s tid) := by
  refine moves_ite (moves_pure _) (moves_bind (fun log => ?_) fun made => ?_)
  · rw [after_caught]
    refine (createKeycloakOrganization_spec srv tid none log).1.mono fun before q hq => ?_
    rw [hstrip] at hq
    rcases hq with hq | hq | ⟨name, hq, hmissing, -⟩
    · exact .inl hq
    · exact .inr (.inl hq)
    · exact .inr (.inr ⟨tid, htid, name, hq, hmissing⟩)
  · cases made with
    | ok org => exact moves_pure _
    | error exc =>
      cases exc with
      | organizationError message => exact moves_pure _
      | httpError r => exact moves_throw _
      | other message => exact moves_throw _

/-- What one tenant adds to the summary. -/
theorem ensureOne_ok {present : List String} {s s' : Summary} {tid : String}
    (h : ensureOne srv present s tid log = .ok s' log') :
    (s' = { s with existing := s.existing ++ [tid] } ∧ Text.lower tid ∈ present ∧ log' = log) ∨
    (s' = { s with created := s.created ++ [tid] } ∧ ∃ org, org.Has tid ∧ SeenSince log log' org) ∨
    ∃ message, s' = { s with failed := Dicts.setItem s.failed tid message } := by
  unfold ensureOne at h
  by_cases hpresent : Text.lower tid ∈ present
  · rw [if_pos hpresent] at h
    cases h
    exact .inl ⟨rfl, hpresent, rfl⟩
  · rw [if_neg hpresent] at h
    obtain ⟨made, t, hmade, h⟩ := bind_eq_ok.1 h
    rcases caught_eq_ok.1 hmade with ⟨org, hok, rfl⟩ | ⟨exc, herror, rfl⟩
    · cases h
      exact .inr (.inl ⟨rfl, org, (createKeycloakOrganization_spec srv tid none log).2.1 org _ hok⟩)
    · cases exc with
      | organizationError message =>
        cases h
        exact .inr (.inr ⟨message, rfl⟩)
      | httpError r => cases h
      | other message => cases h

/-- One tenant ends the start only where a listing fails or an error cannot be read. -/
theorem ensureOne_error {present : List String} {s : Summary} {tid : String} {e : Raised}
    (h : ensureOne srv present s tid log = .error e log') :
    Unlisted log' e ∨ UnreadSince log log' e := by
  unfold ensureOne at h
  by_cases hpresent : Text.lower tid ∈ present
  · rw [if_pos hpresent] at h
    cases h
  · rw [if_neg hpresent] at h
    rcases bind_eq_error.1 h with hcaught | ⟨made, t, hmade, h⟩
    · rcases ok_or_error (createKeycloakOrganization srv tid none) log with ⟨a, hok⟩ | ⟨e', herror⟩
      · rw [caught_of_ok hok] at hcaught
        cases hcaught
      · rw [caught_of_error herror] at hcaught
        cases hcaught
    · rcases caught_eq_ok.1 hmade with ⟨org, hok, rfl⟩ | ⟨exc, herror, rfl⟩
      · cases h
      · have hspec := (createKeycloakOrganization_spec srv tid none log).2.2 exc t herror
        cases exc with
        | organizationError message => cases h
        | httpError r =>
          cases h
          exact hspec.resolve_left nofun
        | other message =>
          cases h
          exact hspec.resolve_left nofun

omit [Unicode] in
theorem SeenSince.forward {t t' : Log Request Answer} {org : Organization} (h : SeenSince log t org)
    (hlater : t <+: t') : SeenSince log t' org := by
  obtain ⟨x, hx, horgs⟩ := h
  obtain ⟨u, rfl⟩ := hlater
  refine ⟨x, ?_, horgs⟩
  rw [List.drop_append]
  exact List.mem_append_left _ hx

theorem moves_presentAliases (srv : Service Request Answer) (ids : List String) :
    Moves (Careful (Reconciling ids)) (presentAliases srv) := by
  refine moves_bind (moves_bind (fun log => careful_urlopen (.inl rfl)) fun r => ?_) fun _ => ?_
  · cases r.body with
    | accessToken => exact moves_pure _
    | users l => exact moves_throw _
    | groups l => exact moves_throw _
    | organizations l => exact moves_throw _
    | other => exact moves_throw _
    | unreadable message => exact moves_throw _
  · refine moves_bind (moves_bind (moves_ask fun _ => .inr (.inl rfl)) fun a => ?_) fun orgs =>
      moves_pure _
    cases a.organizations with
    | ok orgs => exact moves_pure orgs
    | error e => exact moves_throw e

theorem presentAliases_ok {present : List String} (h : presentAliases srv log = .ok present log')
    {key : String}
    (hkey : key ∈ present) : ∃ org, fold (org.orgAlias.getD "") = key ∧ SeenSince log log' org := by
  obtain ⟨u, t, htoken, h⟩ := bind_eq_ok.1 h
  obtain ⟨orgs, t', horgs, h⟩ := bind_eq_ok.1 h
  cases h
  have hlater : log <+: t := by
    rw [← after_ok htoken, after_adminToken]
    exact List.prefix_append _ _
  rcases listOrganizations_cases srv t with ⟨orgs', hlisting, hok⟩ | ⟨e, -, herror⟩
  · rw [hok] at horgs
    cases horgs
    obtain ⟨org, horg, rfl⟩ := List.mem_map.1 hkey
    exact ⟨org, rfl, (seenSince_listed hlisting horg).back hlater⟩
  · rw [herror] at horgs
    cases horgs

omit [Unicode] in
theorem keys_setItem_iff {failed : List (String × String)} {tid message k : String} :
    k ∈ (Dicts.setItem failed tid message).map Prod.fst ↔ k ∈ failed.map Prod.fst ∨ k = tid := by
  rw [Dicts.keys_setItem]
  by_cases h : tid ∈ failed.map Prod.fst
  · rw [if_pos h]
    refine ⟨.inl, fun hk => hk.elim id fun heq => heq ▸ h⟩
  · rw [if_neg h, List.mem_append, List.mem_singleton]

/-- The start with the aliases that are there. -/
theorem ensureAll_ok {t : Log Request Answer} {present : List String} {s : Summary}
    (hstrip : ∀ tid ∈ ids, Text.strip tid = tid)
    (hpresent : ∀ key ∈ present, ∃ org, fold (org.orgAlias.getD "") = key ∧ SeenSince log t org)
    (hlater : log <+: t) (h : ids.foldlM (ensureOne srv present) ⟨[], [], []⟩ t = .ok s log') :
    Reconciled ids log log' s := by
  have hround : ∀ tid rest s₁ s₂ t₁ t₂,
      (∃ done, ids = done ++ tid :: rest ∧ Reconciled done log t₁ s₁ ∧ t <+: t₁) →
      ensureOne srv present s₁ tid t₁ = .ok s₂ t₂ →
      ∃ done, ids = done ++ rest ∧ Reconciled done log t₂ s₂ ∧ t <+: t₂ := by
    rintro tid rest s₁ s₂ t₁ t₂ ⟨done, hids, hdone, ht⟩ hone
    have hmem : tid ∈ ids := by
      rw [hids]
      exact List.mem_append_right _ List.mem_cons_self
    have hgrows : t₁ <+: t₂ := by
      rw [← after_ok hone]
      exact (moves_ensureOne srv present s₁ hmem (hstrip tid hmem) t₁).grows
    refine ⟨done ++ [tid], by rw [hids, List.append_assoc]; rfl, ⟨fun k => ?_, fun k hk => ?_⟩,
      ht.trans hgrows⟩
    · rw [List.mem_append, List.mem_singleton, hdone.accounted k]
      rcases ensureOne_ok hone with ⟨rfl, -, -⟩ | ⟨rfl, -⟩ | ⟨message, rfl⟩
      · simp only [List.mem_append, List.mem_singleton]
        tauto
      · simp only [List.mem_append, List.mem_singleton]
        tauto
      · simp only [keys_setItem_iff]
        tauto
    · have hold : k ∈ s₁.existing ++ s₁.created → ∃ org, org.Has k ∧ SeenSince log t₂ org := by
        intro hk
        obtain ⟨org, hhas, hseen⟩ := hdone.there k hk
        exact ⟨org, hhas, hseen.forward hgrows⟩
      rw [List.mem_append] at hk
      rcases ensureOne_ok hone with ⟨rfl, hin, rfl⟩ | ⟨rfl, org, hhas, hseen⟩ | ⟨message, rfl⟩
      · simp only [List.mem_append, List.mem_singleton] at hk
        rcases hk with (hk | rfl) | hk
        · exact hold (List.mem_append_left _ hk)
        · obtain ⟨org, hkey, hseen⟩ := hpresent _ hin
          refine ⟨org, ?_, hseen.forward ht⟩
          unfold Organization.Has
          rw [hkey, fold, hstrip _ hmem]
        · exact hold (List.mem_append_right _ hk)
      · simp only [List.mem_append, List.mem_singleton] at hk
        rcases hk with hk | hk | rfl
        · exact hold (List.mem_append_left _ hk)
        · exact hold (List.mem_append_right _ hk)
        · exact ⟨org, hhas, hseen.back (hlater.trans ht)⟩
      · exact hold (List.mem_append.2 hk)
  have hstart : ∃ done, ids = done ++ ids ∧ Reconciled done log t ⟨[], [], []⟩ ∧ t <+: t :=
    ⟨[], rfl, ⟨fun tid => by simp, fun tid h => nomatch h⟩, List.prefix_refl t⟩
  obtain ⟨done, hids, hdone, -⟩ := foldlM_ok_rec
    (fun rest s t' => ∃ done, ids = done ++ rest ∧ Reconciled done log t' s ∧ t <+: t')
    (fun tid rest s₁ s₂ t₁ t₂ => hround tid rest s₁ s₂ t₁ t₂) h hstart
  rw [List.append_nil] at hids
  rwa [hids]

/-- **Every tenant gets its organization**, or is reported: whatever Keycloak answers, the summary
accounts for each tenant, a tenant that is not among the failed ones has an organization of its
alias in a listing, organizations are created for tenants only, after a listing without one; and
only a listing that fails, or an error reply to a creation that cannot be read, ends the start. -/
theorem organizations_ensured (srv : Service Request Answer) (tenantIds : List String)
    (log : Log Request Answer) :
    Careful (Reconciling (givenIds tenantIds)) log
      (after (ensureKeycloakOrganizations srv tenantIds) log) ∧
    (∀ s log', ensureKeycloakOrganizations srv tenantIds log = .ok s log' →
      Reconciled (givenIds tenantIds) log log' s) ∧
    ∀ e log', ensureKeycloakOrganizations srv tenantIds log = .error e log' →
      Unlisted log' e ∨ UnreadSince log log' e := by
  unfold ensureKeycloakOrganizations
  by_cases hnone : givenIds tenantIds = []
  · rw [if_pos hnone, hnone]
    refine ⟨.refl _ _, fun s log' h => ?_, nofun⟩
    cases h
    exact ⟨fun tid => by simp, fun tid h => nomatch h⟩
  · rw [if_neg hnone]
    have hcareful : Careful (Reconciling (givenIds tenantIds)) log
        (after (presentAliases srv) log) :=
      moves_presentAliases srv _ log
    rcases ok_or_error (presentAliases srv) log with ⟨present, hok⟩ | ⟨exc, herror⟩
    · rw [after_bind_ok (caught_of_ok hok), bind_of_ok (caught_of_ok hok)]
      have hrounds : ∀ s, ∀ tid ∈ givenIds tenantIds,
          Moves (Careful (Reconciling (givenIds tenantIds)))
          (ensureOne srv present s tid) :=
        fun s tid htid => moves_ensureOne srv present s htid (mem_givenIds htid)
      refine ⟨hcareful.trans (moves_foldlM hrounds _), fun s log' h => ?_, fun e log' h => ?_⟩
      · exact ensureAll_ok (fun tid htid => mem_givenIds htid)
          (fun key hkey => presentAliases_ok hok hkey)
          hcareful.grows h
      · obtain ⟨tid, -, s, t, hmoved, hround⟩ := foldlM_eq_error hrounds h
        exact (ensureOne_error hround).imp id fun hunread =>
          hunread.back (hcareful.trans hmoved).grows
    · rw [after_bind_ok (caught_of_error herror), bind_of_ok (caught_of_error herror)]
      refine ⟨hcareful, fun s log' h => ?_, nofun⟩
      cases h
      refine ⟨fun tid => ?_, fun tid h => nomatch h⟩
      show tid ∈ givenIds tenantIds ↔ tid ∈ [] ∨ tid ∈ [] ∨ tid ∈ (Dicts.ofPairs _).map Prod.fst
      rw [Dicts.keys_ofPairs]
      simp

end All

end Sams.Keycloak
