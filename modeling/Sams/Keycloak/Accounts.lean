import Sams.Keycloak.Provisioning
import Sams.Lib.Sessions

/-!
# Accounts

What the service keeps in Keycloak beside its own users: an account for each, with its role, its
password and its organization. All of it is best effort. A call that fails answers `False`, and the
request that made it goes on.
-/

namespace Sams.Keycloak

open Programs Clients

namespace Answer

/-- The users that a search lists. -/
def users (a : Answer) : Except Raised (List User) :=
  a.opened.bind fun r =>
    match r.body with
    | .users l => .ok l
    | .unreadable message => .error (.other message)
    | _ => .ok []

/-- The first user that is listed. -/
def Names (a : Answer) (u : String) : Prop := ∃ l, a.users = .ok (⟨some u⟩ :: l)

/-- `kc_user_ids` -/
def matching (a : Answer) : List String :=
  match a.users with
  | .ok l => l.filterMap fun u => Text.nonEmpty u.id
  | .error _ => []

def Acknowledged (a : Answer) : Prop := ∃ r, a.opened = .ok r

/-- The user is a member, since now or since before. -/
def Joined (a : Answer) : Prop :=
  a.Acknowledged ∨ ∃ r, a.opened = .error (.httpError r) ∧ r.status = 409

/-- The account that a creation names. -/
def Creates (a : Answer) (u : String) : Prop :=
  ∃ r, a.opened = .ok r ∧ (Text.nonEmpty r.location).map InvitationService.lastSegment = some u

end Answer

/-! ## The calls -/

section Calls

/-- What goes wrong is logged. -/
def bestEffort (m : Session Bool) : Session Bool := rescue m fun _ => pure false

variable (srv : Service Request Answer)

def searchUsers (email : String) (exact : Bool) : Session (List User) := do
  let a ← ask srv (.findUsers email exact)
  match a.users with
  | .ok l => pure l
  | .error e => throw e

/-- `users[0]["id"]`, where someone is listed. -/
def firstId : List User → Session (Option String)
  | [] => pure none
  | u :: _ =>
    match u.id with
    | some id => pure (some id)
    | none => throw (.other "\x27id\x27")

/-- `kc_user_id`. The search also lists those of whose email this one is a part. -/
def knownAccount (email : String) : Session (Option String) := do
  let found ← searchUsers srv email false
  let id ← firstId found
  pure (Text.nonEmpty id)

/-- The account that is found first is written to. -/
def updateFirst (email : String) (update : String → Request) : Session Bool :=
  bestEffort do
    adminToken srv
    let known ← knownAccount srv email
    match known with
    | none => pure false
    | some id => do
      let _ ← urlopen srv (update id)
      pure true

def updateUserRoleInKeycloak (email newRole tenantId : String) : Session Bool :=
  updateFirst srv email fun id => .updateUser id email (some tenantId) newRole

def updateUserPasswordInKeycloak (email newPassword : String) : Session Bool :=
  updateFirst srv email fun id => .resetPassword id newPassword

/-- One account after the other, also where one of them is not deleted. -/
def deleteAccount (allDeleted : Bool) (id : String) : Session Bool := do
  let deleted ← caught (urlopen srv (.deleteUser id))
  match deleted with
  | .ok _ => pure allDeleted
  | .error _ => pure false

def deleteUserFromKeycloak (email : String) : Session Bool :=
  bestEffort do
    adminToken srv
    let found ← searchUsers srv email true
    let ids := found.filterMap fun u => Text.nonEmpty u.id
    if ids = [] then pure false
    else ids.foldlM (deleteAccount srv) true

/-- Who is a member already is what was asked for. -/
def addMember (org : Organization) (userId : String) : Session Bool :=
  match org.id with
  | none => throw (.other "\x27id\x27")
  | some orgId => do
    let added ← caught (urlopen srv (.addMember orgId userId))
    match added with
    | .ok _ => pure true
    | .error (.httpError r) => if r.status = 409 then pure true else throw (.httpError r)
    | .error exc => throw exc

variable [Unicode]

def addUserToOrganization (email tenantId : String) : Session Bool :=
  if email = "" ∨ tenantId = "" then pure false
  else bestEffort do
    adminToken srv
    let found ← findOrganizationByAlias srv tenantId
    match found with
    | none => pure false
    | some org => do
      let users ← searchUsers srv email true
      let userId ← firstId users
      match userId with
      | none => pure false
      | some id => addMember srv org id

/-- An account is only created where none is known. -/
def findOrCreate (email password role : String) (tenantId : Option String) :
    Session (Option String) := do
  -- A search that fails counts as one that finds nobody.
  let known ← rescue (knownAccount srv email) fun _ => pure none
  match known with
  | some id => pure (some id)
  | none => do
    let r ← urlopen srv (.createUser email tenantId role (some password))
    pure ((Text.nonEmpty r.location).map InvitationService.lastSegment)

/-- The attributes, also of an account that was there. -/
def writeAttributes (email role : String) (tenantId : Option String) : Option String → Session Unit
  | none => pure ()
  | some id =>
    rescue (do
      let _ ← urlopen srv (.updateUser id email tenantId role)
      pure ()) fun _ => pure ()

def joinOrganization (email : String) : Option String → Session Unit
  | none => pure ()
  | some tenantId => do
    let _ ← addUserToOrganization srv email tenantId
    pure ()

def syncUserToKeycloak (email password role : String) (tenantId : Option String) : Session Bool :=
  bestEffort do
    adminToken srv
    let account ← findOrCreate srv email password role tenantId
    writeAttributes srv email role tenantId (Text.nonEmpty account)
    joinOrganization srv email (Text.nonEmpty tenantId)
    pure true

end Calls

/-- A call of the service. -/
inductive Call where
  | sync (email password role : String) (tenantId : Option String)
  | updateRole (email newRole tenantId : String)
  | updatePassword (email newPassword : String)
  | delete (email : String)
  | addToOrganization (email tenantId : String)

namespace Call

def run [Unicode] (srv : Service Request Answer) : Call → Session Bool
  | sync email password role tenantId => syncUserToKeycloak srv email password role tenantId
  | updateRole email newRole tenantId => updateUserRoleInKeycloak srv email newRole tenantId
  | updatePassword email newPassword => updateUserPasswordInKeycloak srv email newPassword
  | delete email => deleteUserFromKeycloak srv email
  | addToOrganization email tenantId => addUserToOrganization srv email tenantId

def email : Call → String
  | sync email _ _ _ => email
  | updateRole email _ _ => email
  | updatePassword email _ => email
  | delete email => email
  | addToOrganization email _ => email

/-- Only a deletion and a membership search for this email and no other. -/
def exact : Call → Bool
  | sync _ _ _ _ => false
  | updateRole _ _ _ => false
  | updatePassword _ _ => false
  | delete _ => true
  | addToOrganization _ _ => true

end Call

/-! ## What a call may ask for -/

section May

variable [Unicode] {own old : Log Request Answer}

/-- A search has named the account. -/
def Named (email : String) (exact : Bool) (own : Log Request Answer) (u : String) : Prop :=
  ∃ a, (Request.findUsers email exact, a) ∈ own ∧ a.Names u

/-- An organization of the alias has been listed, and has the id. -/
def Aliased (tenantId : String) (own : Log Request Answer) (o : String) : Prop :=
  ∃ a orgs, (Request.listOrganizations, a) ∈ own ∧ a.organizations = .ok orgs ∧
    ∃ org ∈ orgs, org.Has tenantId ∧ org.id = some o

/-- The requests of a call, after those it has made. -/
inductive May (own : Log Request Answer) : Call → Request → Prop where
  | token {c : Call} : May own c .token
  | findUsers {c : Call} : May own c (.findUsers c.email c.exact)
  /-- An account is created, with its password, where the search has named none. -/
  | createUser {email password role : String} {tenantId : Option String} :
      (∃ a, (Request.findUsers email false, a) ∈ own) → (∀ u, Named email false own u → u = "") →
      (∀ x ∈ own, ∀ e t r p, x.1 ≠ .createUser e t r p) →
      May own (.sync email password role tenantId) (.createUser email tenantId role (some password))
  /-- An account that was found or created gets the role, and keeps its password. -/
  | updateUser {email password role u : String} {tenantId : Option String} :
      (Named email false own u ∨
        ∃ a, (Request.createUser email tenantId role (some password), a) ∈ own ∧ a.Creates u) →
      May own (.sync email password role tenantId) (.updateUser u email tenantId role)
  | updateRole {email newRole tenantId u : String} : Named email false own u →
      May own (.updateRole email newRole tenantId) (.updateUser u email (some tenantId) newRole)
  | resetPassword {email newPassword u : String} : Named email false own u →
      May own (.updatePassword email newPassword) (.resetPassword u newPassword)
  | deleteUser {email u : String} :
      (∃ a, (Request.findUsers email true, a) ∈ own ∧ u ∈ a.matching) →
      May own (.delete email) (.deleteUser u)
  | listOrganizations {email tenantId : String} :
      May own (.addToOrganization email tenantId) .listOrganizations
  | addMember {email tenantId u o : String} : Named email true own u → Aliased tenantId own o →
      May own (.addToOrganization email tenantId) (.addMember o u)
  /-- The membership belongs to an account. -/
  | join {email password role tenantId : String} {q : Request} :
      May own (.addToOrganization email tenantId) q →
      May own (.sync email password role (some tenantId)) q

/-- What `True` says. Of `sync` it says no more than that there is an account, found or created: the
call does not look at what becomes of the update of its role and tenant, and of its membership. -/
def Call.Done (own : Log Request Answer) : Call → Prop
  | sync email password role tenantId => (∃ u, u ≠ "" ∧ Named email false own u) ∨
      ∃ a, (Request.createUser email tenantId role (some password), a) ∈ own ∧ a.Acknowledged
  | updateRole email newRole tenantId => ∃ u a, u ≠ "" ∧ Named email false own u ∧
      (Request.updateUser u email (some tenantId) newRole, a) ∈ own ∧ a.Acknowledged
  | updatePassword email newPassword => ∃ u a, u ≠ "" ∧ Named email false own u ∧
      (Request.resetPassword u newPassword, a) ∈ own ∧ a.Acknowledged
  | delete email => ∃ a, (Request.findUsers email true, a) ∈ own ∧ a.matching ≠ [] ∧
      (∀ u ∈ a.matching, ∃ b, (Request.deleteUser u, b) ∈ own) ∧
      ∀ u b, (Request.deleteUser u, b) ∈ own → b.Acknowledged
  | addToOrganization email tenantId => ∃ u o a, Named email true own u ∧ Aliased tenantId own o ∧
      (Request.addMember o u, a) ∈ own ∧ a.Joined

end May

/-! ## One request -/

section One

variable {srv : Service Request Answer} {start : Log Request Answer}
    {P : Log Request Answer → Request → Prop}
  {I : Log Request Answer → Prop} {E : Raised → Log Request Answer → Prop}

theorem conducts_urlopen {q : Request} {R : Reply → Log Request Answer → Prop}
    (hP : ∀ own, I own → P own q) (hR : ∀ own a r, I own → a.opened = .ok r → R r (own ++ [(q, a)]))
    (hE : ∀ own a e, I own → a.opened = .error e → E e (own ++ [(q, a)])) :
    Conducts start P I (urlopen srv q) R E := by
  refine conducts_at fun own hown => conducts_bind (M := fun a own' => own' = own ++ [(q, a)])
    (conducts_ask (fun own' h => h ▸ hP own hown) fun own' a h => by rw [h]) fun a => ?_
  cases hopened : a.opened with
  | ok r => exact conducts_pure fun own' h => h ▸ hR own a r hown hopened
  | error e => exact conducts_throw fun own' h => h ▸ hE own a e hown hopened

theorem conducts_adminToken {R : Unit → Log Request Answer → Prop}
    (hP : ∀ own, I own → P own .token)
    (hR : ∀ own a, I own → R () (own ++ [(.token, a)]))
    (hE : ∀ own a e, I own → E e (own ++ [(.token, a)])) :
    Conducts start P I (adminToken srv) R E := by
  refine conducts_bind (M := fun _ own' => ∃ own a, I own ∧ own' = own ++ [(.token, a)])
    (conducts_urlopen hP (fun own a r hown _ => ⟨own, a, hown, rfl⟩) fun own a e hown _ => hE own a
      e hown) fun r => ?_
  have hraise : ∀ e : Raised, Conducts start P (fun own' => ∃ own a, I own ∧
      own' = own ++ [(.token, a)])
      (throw e : Session Unit) R E := by
    intro e
    refine conducts_throw fun own' h => ?_
    obtain ⟨own, a, hown, rfl⟩ := h
    exact hE own a e hown
  cases r.body with
  | accessToken =>
    refine conducts_pure fun own' h => ?_
    obtain ⟨own, a, hown, rfl⟩ := h
    exact hR own a hown
  | users l => exact hraise _
  | groups l => exact hraise _
  | organizations l => exact hraise _
  | other => exact hraise _
  | unreadable message => exact hraise _

theorem conducts_searchUsers {email : String} {exact : Bool}
    {R : List User → Log Request Answer → Prop} (hP : ∀ own, I own → P own (.findUsers email exact))
    (hR : ∀ own a l, I own → a.users = .ok l → R l (own ++ [(.findUsers email exact, a)]))
    (hE : ∀ own a e, I own → a.users = .error e → E e (own ++ [(.findUsers email exact, a)])) :
    Conducts start P I (searchUsers srv email exact) R E := by
  refine conducts_at fun own hown =>
    conducts_bind (M := fun a own' => own' = own ++ [(.findUsers email exact, a)])
    (conducts_ask (fun own' h => h ▸ hP own hown) fun own' a h => by rw [h]) fun a => ?_
  cases husers : a.users with
  | ok l => exact conducts_pure fun own' h => h ▸ hR own a l hown husers
  | error e => exact conducts_throw fun own' h => h ▸ hE own a e hown husers

/-- The first of those who are listed. -/
theorem conducts_firstId {l : List User} {R : Option String → Log Request Answer → Prop}
    (hsome : ∀ own u l', I own → l = ⟨some u⟩ :: l' → R (some u) own)
    (hnone : ∀ own, I own → l = [] → R none own)
    (hE : ∀ own e, I own → (∀ u l', l ≠ ⟨some u⟩ :: l') → E e own) :
    Conducts start P I (firstId l) R E := by
  cases l with
  | nil => exact conducts_pure fun own hown => hnone own hown rfl
  | cons u l =>
    obtain ⟨id⟩ := u
    cases id with
    | some id => exact conducts_pure fun own hown => hsome own id l hown rfl
    | none => exact conducts_throw fun own hown => hE own _ hown (by simp)

theorem names_of_users {a : Answer} {l : List User} (h : a.users = .ok l) {u : String} :
    a.Names u ↔ ∃ l', l = ⟨some u⟩ :: l' := by
  unfold Answer.Names
  simp [h]

theorem not_names_of_error {a : Answer} {e : Raised} (h : a.users = .error e) (u : String) :
    ¬a.Names u := by
  unfold Answer.Names
  simp [h]

/-- The account that a search names, where it names one. -/
theorem conducts_knownAccount {email : String} {R : Option String → Log Request Answer → Prop}
    (hP : ∀ own, I own → P own (.findUsers email false))
    (hsome : ∀ own a u, I own → a.Names u → u ≠ "" →
      R (some u) (own ++ [(.findUsers email false, a)]))
    (hnone : ∀ own a, I own → (∀ u, a.Names u → u = "") →
      R none (own ++ [(.findUsers email false, a)]))
    (hE : ∀ own a e, I own → (∀ u, ¬a.Names u) → E e (own ++ [(.findUsers email false, a)])) :
    Conducts start P I (knownAccount srv email) R E := by
  refine conducts_bind (M := fun l own' => ∃ own a, I own ∧ a.users = .ok l ∧
    own' = own ++ [(.findUsers email false, a)]) (conducts_searchUsers hP ?_ ?_) fun l => ?_
  · exact fun own a l hown husers => ⟨own, a, hown, husers, rfl⟩
  · exact fun own a e hown husers => hE own a e hown (not_names_of_error husers)
  refine conducts_at fun own' h => ?_
  obtain ⟨own, a, hown, husers, rfl⟩ := h
  refine conducts_bind (M := fun o own' => own' = own ++ [(.findUsers email false, a)] ∧
    ∀ u, a.Names u ↔ o = some u)
    (conducts_firstId ?_ ?_ ?_) fun o => conducts_pure fun own' h => ?_
  · rintro _ u l' rfl rfl
    refine ⟨rfl, fun v => ?_⟩
    simp [names_of_users husers]
  · rintro _ rfl rfl
    refine ⟨rfl, fun v => ?_⟩
    simp [names_of_users husers]
  · rintro _ e rfl hl
    refine hE own a e hown fun u => ?_
    rw [names_of_users husers]
    rintro ⟨l', hl'⟩
    exact hl u l' hl'
  · obtain ⟨rfl, hnames⟩ := h
    cases hid : Text.nonEmpty o with
    | none =>
      refine hnone own a hown fun u hu => ?_
      by_contra hne
      rw [(hnames u).1 hu, Text.nonEmpty_some hne] at hid
      cases hid
    | some u =>
      obtain ⟨hu, hne⟩ := Option.filter_eq_some_iff.1 hid
      exact hsome own a u hown ((hnames u).2 hu) (of_decide_eq_true hne)

theorem not_acknowledged {a : Answer} {e : Raised} (h : a.opened = .error e) : ¬a.Acknowledged := by
  rintro ⟨r, hr⟩
  rw [h] at hr
  cases hr

theorem conducts_bestEffort {m : Session Bool} {R : Bool → Log Request Answer → Prop}
    (h : Conducts start P I m R fun _ => R false) : Conducts start P I (bestEffort m) R E :=
  conducts_rescue h fun _ => conducts_pure fun _ => id

end One

/-! ## The calls, one by one -/

section Each

variable [Unicode] {srv : Service Request Answer} {start : Log Request Answer}
    {E : Raised → Log Request Answer → Prop}

omit [Unicode] in
theorem named_iff {email : String} {exact : Bool} {own : Log Request Answer} {u : String} :
    Named email exact own u ↔ ∃ a, (Request.findUsers email exact, a) ∈ own ∧ a.Names u := Iff.rfl

/-- A call does what it may, and answers whether it is done. -/
def Kept (c : Call) (m : Session Bool) : Prop :=
  ∀ start E, Conducts start (fun own => May own c) (· = []) m (fun b own => b = true ↔ c.Done own) E

theorem kept_updateFirst {c : Call} {email : String} {update : String → Request}
    (hemail : c.email = email)
    (hexact : c.exact = false) (hmay : ∀ own u, Named email false own u → May own c (update u))
    (hnew : ∀ u, update u ≠ .token ∧ ∀ exact, update u ≠ .findUsers email exact)
    (hdone : ∀ own, c.Done own ↔ ∃ u a, u ≠ "" ∧ Named email false own u ∧ (update u, a) ∈ own ∧
      a.Acknowledged) :
    Kept c (updateFirst srv email update) := by
  intro start E
  have hfind : ∀ own, May own c (.findUsers email false) := by
    intro own
    rw [← hemail, ← hexact]
    exact .findUsers
  refine conducts_bestEffort (conducts_bind (M := fun _ own => ∃ a, own = [(.token, a)])
    (conducts_adminToken (fun _ _ => .token) ?_ ?_) fun _ => ?_)
  · rintro _ a rfl
    exact ⟨a, rfl⟩
  · rintro _ a e rfl
    simp [hdone, named_iff]
  refine conducts_bind (M := fun o own => (o = none → ¬c.Done own) ∧ ∀ u, o = some u → u ≠ "" ∧
      ∃ a b, own = [(.token, a), (.findUsers email false, b)] ∧ b.Names u)
    (conducts_knownAccount (fun own _ => hfind own) ?_ ?_ ?_) fun o => ?_
  · rintro _ b u ⟨a, rfl⟩ hnames hne
    refine ⟨nofun, fun v hv => ?_⟩
    cases hv
    exact ⟨hne, a, b, rfl, hnames⟩
  · rintro _ b ⟨a, rfl⟩ hnames
    have hnone : ∀ u, u ≠ "" → ¬b.Names u := fun u hne hu => hne (hnames u hu)
    refine ⟨fun _ => ?_, nofun⟩
    simp +contextual [hdone, named_iff, hnone]
  · rintro _ b e ⟨a, rfl⟩ hnames
    simp [hdone, named_iff, hnames]
  cases o with
  | none => exact conducts_pure fun own h => by simpa using h.1 rfl
  | some u =>
    refine conducts_bind (M := fun _ own => c.Done own)
      (conducts_urlopen (fun own h => ?_) ?_ ?_) fun r => conducts_pure fun own h => by
        simpa using h
    · obtain ⟨-, a, b, rfl, hnames⟩ := h.2 u rfl
      exact hmay _ u ⟨b, by simp, hnames⟩
    · intro own x r h hopened
      obtain ⟨hne, a, b, rfl, hnames⟩ := h.2 u rfl
      exact (hdone _).2 ⟨u, x, hne, ⟨b, by simp, hnames⟩, by simp, r, hopened⟩
    · intro own x e h hopened
      obtain ⟨hne, a, b, rfl, hnames⟩ := h.2 u rfl
      have hfailed := not_acknowledged hopened
      simp only [hdone, Bool.false_eq_true, false_iff]
      rintro ⟨u', x', -, -, hmem, hx'⟩
      simp only [List.cons_append, List.nil_append, List.mem_cons, Prod.mk.injEq, List.not_mem_nil,
        or_false] at hmem
      rcases hmem with ⟨h, -⟩ | ⟨h, -⟩ | ⟨-, rfl⟩
      · exact (hnew u').1 h
      · exact (hnew u').2 false h
      · exact hfailed hx'

theorem kept_updateRole (srv : Service Request Answer) (email newRole tenantId : String) :
    Kept (.updateRole email newRole tenantId)
      (updateUserRoleInKeycloak srv email newRole tenantId) :=
  kept_updateFirst rfl rfl (fun _ _ => .updateRole) (fun _ => by simp) fun _ => Iff.rfl

theorem kept_updatePassword (srv : Service Request Answer) (email newPassword : String) :
    Kept (.updatePassword email newPassword) (updateUserPasswordInKeycloak srv email newPassword) :=
  kept_updateFirst rfl rfl (fun _ _ => .resetPassword) (fun _ => by simp) fun _ => Iff.rfl

/-- What is exchanged on the way through the accounts `ids`, of which `done` have been gone
through. -/
structure Deleting (email : String) (a b : Answer) (done : List String) (allDeleted : Bool)
    (own : Log Request Answer) : Prop where
  requests : ∃ xs, own = (.token, a) :: (.findUsers email true, b) :: xs ∧
    xs.map Prod.fst = done.map .deleteUser
  answered : allDeleted = true ↔ ∀ u x, (Request.deleteUser u, x) ∈ own → x.Acknowledged

omit [Unicode] in
theorem Deleting.next {email : String} {a b x : Answer} {done : List String}
    {allDeleted allDeleted' : Bool}
    {own : Log Request Answer} (h : Deleting email a b done allDeleted own) (u : String)
    (hall : allDeleted' = true ↔ allDeleted = true ∧ x.Acknowledged) :
    Deleting email a b (done ++ [u]) allDeleted' (own ++ [(.deleteUser u, x)]) := by
  obtain ⟨⟨xs, rfl, hxs⟩, hanswered⟩ := h
  refine ⟨⟨xs ++ [(.deleteUser u, x)], rfl, by simp [hxs]⟩, ?_⟩
  rw [hall, hanswered]
  simp only [List.mem_append, List.mem_singleton, Prod.mk.injEq, Request.deleteUser.injEq]
  constructor
  · rintro ⟨hold, hx⟩ v y (hmem | ⟨rfl, rfl⟩)
    · exact hold v y hmem
    · exact hx
  · exact fun hnew => ⟨fun v y hmem => hnew v y (.inl hmem), hnew u x (.inr ⟨rfl, rfl⟩)⟩

omit [Unicode] in
theorem conducts_deleteAccount {P : Log Request Answer → Request → Prop} {email : String}
    {a b : Answer} {done : List String} (u : String) (allDeleted : Bool)
    (hP : ∀ own, Deleting email a b done allDeleted own → P own (.deleteUser u)) :
    Conducts start P (Deleting email a b done allDeleted) (deleteAccount srv allDeleted u)
      (Deleting email a b (done ++ [u])) E := by
  refine conducts_caught (M := fun _ => Deleting email a b (done ++ [u]) allDeleted)
    (F := fun _ => Deleting email a b (done ++ [u]) false) (conducts_urlopen hP ?_ ?_)
    (fun r => conducts_pure fun _ => id) fun e => conducts_pure fun _ => id
  · exact fun own x r h hopened => h.next u (by simp [Answer.Acknowledged, hopened])
  · exact fun own x e h hopened => h.next u (by simp [not_acknowledged hopened])

omit [Unicode] in
theorem matching_of_users {a : Answer} {l : List User} (h : a.users = .ok l) :
    a.matching = l.filterMap fun u => Text.nonEmpty u.id := by
  unfold Answer.matching
  rw [h]

omit [Unicode] in
theorem matching_of_error {a : Answer} {e : Raised} (h : a.users = .error e) : a.matching = [] := by
  unfold Answer.matching
  rw [h]

/-- A deletion that has ended: it has got no token, or has gone through all
accounts that were listed. -/
def Deleted (email : String) (b : Bool) (own : Log Request Answer) : Prop :=
  (b = false ∧ ∃ a, own = [(.token, a)]) ∨
    ∃ a c allDeleted, Deleting email a c c.matching allDeleted own ∧
      (b = true ↔ c.matching ≠ [] ∧ allDeleted = true)

omit [Unicode] in
theorem deleting_nil {email : String} {a c : Answer} :
    Deleting email a c [] true [(.token, a), (.findUsers email true, c)] :=
  ⟨⟨[], rfl, rfl⟩, by simp⟩

theorem conducts_deleteUser (srv : Service Request Answer) (email : String) :
    Conducts start (fun own => May own (.delete email)) (· = []) (deleteUserFromKeycloak srv email)
      (Deleted email) E := by
  refine conducts_bestEffort (conducts_bind (M := fun _ own => ∃ a, own = [(.token, a)])
    (conducts_adminToken (fun _ _ => .token) ?_ ?_) fun _ => ?_)
  · rintro _ a rfl
    exact ⟨a, rfl⟩
  · rintro _ a e rfl
    exact .inl ⟨rfl, a, rfl⟩
  refine conducts_bind (M := fun l own => ∃ a c, own = [(.token, a), (.findUsers email true, c)] ∧
    c.users = .ok l)
    (conducts_searchUsers (fun _ _ => .findUsers) ?_ ?_) fun l => ?_
  · rintro _ c l ⟨a, rfl⟩ husers
    exact ⟨a, c, rfl, husers⟩
  · rintro _ c e ⟨a, rfl⟩ husers
    refine .inr ⟨a, c, true, ?_, by simp [matching_of_error husers]⟩
    rw [matching_of_error husers]
    exact deleting_nil
  refine conducts_at fun own h => ?_
  obtain ⟨a, c, rfl, husers⟩ := h
  dsimp only
  rw [← matching_of_users husers]
  by_cases hnone : c.matching = []
  · rw [if_pos hnone]
    refine conducts_pure fun own h => .inr ⟨a, c, true, ?_, by simp [hnone]⟩
    rw [h, hnone]
    exact deleting_nil
  · rw [if_neg hnone]
    -- What has been gone through so far.
    refine (conducts_foldlM (fun rest allDeleted own => ∃ done, c.matching = done ++ rest ∧
      Deleting email a c done allDeleted own) (fun u rest allDeleted => ?_) c.matching true).mono
        (fun _ _ => id)
      (fun own h => ⟨[], rfl, h ▸ deleting_nil⟩) (fun b own h => ?_) fun e own => id
    · refine conducts_at fun own h => ?_
      obtain ⟨done, hdone, h⟩ := h
      refine (conducts_deleteAccount u allDeleted fun own h => ?_).mono (fun _ _ => id)
        (fun own' h' => h' ▸ h)
        (fun b own h => ⟨done ++ [u], by simp [hdone], h⟩) fun e own => id
      obtain ⟨xs, rfl, -⟩ := h.requests
      exact .deleteUser ⟨c, by simp, by simp [hdone]⟩
    · obtain ⟨done, hdone, h⟩ := h
      rw [List.append_nil] at hdone
      subst hdone
      exact .inr ⟨a, c, b, h, by simp [hnone]⟩

omit [Unicode] in
/-- The requests after the search are deletions. -/
theorem Deleting.mem_iff {email : String} {a c : Answer} {done : List String} {allDeleted : Bool}
    {own : Log Request Answer} (h : Deleting email a c done allDeleted own) :
    (∀ c', (Request.findUsers email true, c') ∈ own ↔ c' = c) ∧
      ∀ u, (∃ x, (Request.deleteUser u, x) ∈ own) ↔ u ∈ done := by
  obtain ⟨⟨xs, rfl, hxs⟩, -⟩ := h
  have hrequest : ∀ q, (∃ x, (q, x) ∈ xs) ↔ ∃ u ∈ done, Request.deleteUser u = q := by
    intro q
    rw [← List.mem_map, ← hxs]
    simp
  refine ⟨fun c' => ?_, fun u => ?_⟩
  · have hnot : (Request.findUsers email true, c') ∉ xs := by
      intro hmem
      obtain ⟨u, -, hu⟩ := (hrequest _).1 ⟨c', hmem⟩
      cases hu
    simp [hnot]
  · simpa using hrequest (.deleteUser u)

theorem kept_deleteUser (srv : Service Request Answer) (email : String) :
    Kept (.delete email) (deleteUserFromKeycloak srv email) := by
  intro start E
  refine (conducts_deleteUser srv email).mono (fun _ _ => id) (fun _ => id) (fun b own h => ?_)
    fun _ _ => id
  unfold Call.Done
  rcases h with ⟨rfl, a, rfl⟩ | ⟨a, c, allDeleted, h, hb⟩
  · simp
  · obtain ⟨hsearch, hdelete⟩ := h.mem_iff
    rw [hb, h.answered]
    simp only [hsearch, exists_eq_left, hdelete]
    exact ⟨fun ⟨hne, hall⟩ => ⟨hne, fun u => id, hall⟩, fun ⟨hne, _, hall⟩ => ⟨hne, hall⟩⟩

/-- An organization of the alias is listed. -/
theorem conducts_findOrganization {P : Log Request Answer → Request → Prop}
    {I : Log Request Answer → Prop}
    {tenantId : String} {R : Option Organization → Log Request Answer → Prop}
    (htenant : tenantId ≠ "") (hP : ∀ own, I own → P own .listOrganizations)
    (hsome : ∀ own a orgs org, I own → a.organizations = .ok orgs → org ∈ orgs → org.Has tenantId →
      R (some org) (own ++ [(.listOrganizations, a)]))
    (hnone : ∀ own a orgs, I own → a.organizations = .ok orgs → (∀ org ∈ orgs, ¬org.Has tenantId) →
      R none (own ++ [(.listOrganizations, a)]))
    (hE : ∀ own a e, I own → a.organizations = .error e → E e (own ++ [(.listOrganizations, a)])) :
    Conducts start P I (findOrganizationByAlias srv tenantId) R E := by
  unfold findOrganizationByAlias listOrganizations
  rw [if_neg htenant]
  refine conducts_at fun own hown => conducts_bind
    (M := fun orgs own' => ∃ a, own' = own ++ [(.listOrganizations, a)] ∧
      a.organizations = .ok orgs)
    (conducts_bind (M := fun a own' => own' = own ++ [(.listOrganizations, a)])
      (conducts_ask (fun own' h => h ▸ hP own hown) fun own' a h => by rw [h]) fun a =>
        ?_) fun orgs => ?_
  · cases horgs : a.organizations with
    | ok orgs => exact conducts_pure fun own' h => ⟨a, h, horgs⟩
    | error e => exact conducts_throw fun own' h => h ▸ hE own a e hown horgs
  · refine conducts_pure fun own' h => ?_
    obtain ⟨a, rfl, horgs⟩ := h
    cases hfind : orgs.find? fun org => org.Has tenantId with
    | none =>
      exact hnone own a orgs hown horgs fun org horg => by
        simpa using List.find?_eq_none.1 hfind org horg
    | some org =>
      exact hsome own a orgs org hown horgs (List.mem_of_find?_eq_some hfind)
        (by simpa using List.find?_some hfind)

omit [Unicode] in
theorem joined_iff {a : Answer} {e : Raised} (h : a.opened = .error e) :
    a.Joined ↔ ∃ r, e = .httpError r ∧ r.status = 409 := by
  unfold Answer.Joined
  simp [h, not_acknowledged h]

omit [Unicode] in
theorem conducts_addMember {P : Log Request Answer → Request → Prop} {I : Log Request Answer → Prop}
    {org : Organization} {userId : String} {R : Bool → Log Request Answer → Prop}
    (hP : ∀ own o, I own → org.id = some o → P own (.addMember o userId))
    (hR : ∀ own o a, I own → org.id = some o → a.Joined →
      R true (own ++ [(.addMember o userId, a)]))
    (hnone : ∀ own e, I own → org.id = none → E e own)
    (hE : ∀ own o a e, I own → org.id = some o → ¬a.Joined →
      E e (own ++ [(.addMember o userId, a)])) :
    Conducts start P I (addMember srv org userId) R E := by
  unfold addMember
  cases horg : org.id with
  | none => exact conducts_throw fun own hown => hnone own _ hown horg
  | some o =>
    refine conducts_at fun own hown => conducts_caught
      (M := fun _ own' => ∃ a, own' = own ++ [(.addMember o userId, a)] ∧ a.Acknowledged)
      (F := fun e own' => ∃ a, own' = own ++ [(.addMember o userId, a)] ∧ a.opened = .error e)
      (conducts_urlopen (fun own' h => h ▸ hP own o hown horg) ?_ ?_) (fun r => ?_) fun e => ?_
    · rintro _ a r rfl hopened
      exact ⟨a, rfl, r, hopened⟩
    · rintro _ a e rfl hopened
      exact ⟨a, rfl, hopened⟩
    · refine conducts_pure fun own' h => ?_
      obtain ⟨a, rfl, hack⟩ := h
      exact hR own o a hown horg (.inl hack)
    · refine conducts_at fun own' h => ?_
      obtain ⟨a, rfl, hopened⟩ := h
      have hjoined := joined_iff hopened
      cases e with
      | httpError r =>
        dsimp only
        by_cases hstatus : r.status = 409
        · rw [if_pos hstatus]
          exact conducts_pure fun own' h => h ▸ hR own o a hown horg (hjoined.2 ⟨r, rfl, hstatus⟩)
        · rw [if_neg hstatus]
          refine conducts_throw fun own' h => h ▸ hE own o a _ hown horg (mt hjoined.1 ?_)
          rintro ⟨r', hr, hstatus'⟩
          cases hr
          exact hstatus hstatus'
      | organizationError message =>
        exact conducts_throw fun own' h => h ▸ hE own o a _ hown horg (mt hjoined.1 (by simp))
      | other message =>
        exact conducts_throw fun own' h => h ▸ hE own o a _ hown horg (mt hjoined.1 (by simp))

theorem kept_addToOrganization (srv : Service Request Answer) (email tenantId : String) :
    Kept (.addToOrganization email tenantId) (addUserToOrganization srv email tenantId) := by
  intro start E
  have hdone : ∀ own, Call.Done own (.addToOrganization email tenantId) ↔
      ∃ u o a, Named email true own u ∧
      Aliased tenantId own o ∧ (Request.addMember o u, a) ∈ own ∧ a.Joined := fun own => Iff.rfl
  unfold addUserToOrganization
  by_cases hempty : email = "" ∨ tenantId = ""
  · rw [if_pos hempty]
    refine conducts_pure fun own h => ?_
    simp [hdone, h]
  rw [if_neg hempty]
  have htenant : tenantId ≠ "" := fun h => hempty (.inr h)
  refine conducts_bestEffort (conducts_bind (M := fun _ own => ∃ a, own = [(.token, a)])
    (conducts_adminToken (fun _ _ => .token) ?_ ?_) fun _ => ?_)
  · rintro _ a rfl
    exact ⟨a, rfl⟩
  · rintro _ a e rfl
    simp [hdone]
  refine conducts_bind (M := fun found own => ∃ a b orgs, own = [(.token, a),
    (.listOrganizations, b)] ∧
      b.organizations = .ok orgs ∧ ∀ org, found = some org → org ∈ orgs ∧ org.Has tenantId)
    (conducts_findOrganization htenant (fun _ _ => .listOrganizations) ?_ ?_ ?_) fun found => ?_
  · rintro _ b orgs org ⟨a, rfl⟩ horgs hmem hhas
    refine ⟨a, b, orgs, rfl, horgs, fun org' h => ?_⟩
    cases h
    exact ⟨hmem, hhas⟩
  · rintro _ b orgs ⟨a, rfl⟩ horgs -
    exact ⟨a, b, orgs, rfl, horgs, nofun⟩
  · rintro _ b e ⟨a, rfl⟩ -
    simp [hdone]
  cases found with
  | none =>
    refine conducts_pure fun own h => ?_
    obtain ⟨a, b, orgs, rfl, -⟩ := h
    simp [hdone]
  | some org =>
    refine conducts_at fun own h => ?_
    obtain ⟨a, b, orgs, rfl, horgs, hfound⟩ := h
    obtain ⟨hmem, hhas⟩ := hfound org rfl
    refine conducts_bind (M := fun l own => ∃ c, own = [(.token, a), (.listOrganizations, b),
      (.findUsers email true, c)] ∧
      c.users = .ok l) (conducts_searchUsers (fun _ _ => .findUsers) ?_ ?_) fun l => ?_
    · rintro _ c l rfl husers
      exact ⟨c, rfl, husers⟩
    · rintro _ c e rfl -
      simp [hdone]
    refine conducts_at fun own h => ?_
    obtain ⟨c, rfl, husers⟩ := h
    refine conducts_bind (M := fun o own => own = [(.token, a), (.listOrganizations, b),
      (.findUsers email true, c)] ∧
      ∀ u, o = some u → c.Names u) (conducts_firstId ?_ ?_ ?_) fun o => ?_
    · rintro _ u l' rfl hl
      refine ⟨rfl, fun v hv => ?_⟩
      cases hv
      exact (names_of_users husers).2 ⟨l', hl⟩
    · rintro _ rfl -
      exact ⟨rfl, nofun⟩
    · rintro _ e rfl -
      simp [hdone]
    cases o with
    | none =>
      refine conducts_pure fun own h => ?_
      simp [hdone, h.1]
    | some u =>
      refine conducts_at fun own h => ?_
      obtain ⟨rfl, hnames⟩ := h
      have hnamed : ∀ x, Named email true
          ([(Request.token, a), (.listOrganizations, b), (.findUsers email true, c)] ++ x) u :=
        fun x => ⟨c, by simp, hnames u rfl⟩
      have haliased : ∀ x o, org.id = some o →
          Aliased tenantId ([(Request.token, a), (.listOrganizations, b),
            (.findUsers email true, c)] ++ x) o :=
        fun x o horg => ⟨b, orgs, by simp, horgs, org, hmem, hhas, horg⟩
      refine conducts_addMember ?_ ?_ ?_ ?_
      · rintro _ o rfl horg
        exact .addMember (hnamed []) (haliased [] o horg)
      · rintro _ o x rfl horg hjoined
        simp only [true_iff]
        exact ⟨u, o, x, hnamed _, haliased _ o horg, by simp, hjoined⟩
      · rintro _ e rfl -
        simp [hdone]
      · rintro _ o x e rfl - hjoined
        simp [hdone, hjoined]

omit [Unicode] in
theorem Named.after {email : String} {exact : Bool} {own : Log Request Answer} {u : String}
    (h : Named email exact own u) (old : Log Request Answer) :
    Named email exact (old ++ own) u := by
  obtain ⟨a, ha, hnames⟩ := h
  exact ⟨a, List.mem_append_right old ha, hnames⟩

theorem Aliased.after {tenantId : String} {own : Log Request Answer} {o : String}
    (h : Aliased tenantId own o) (old : Log Request Answer) : Aliased tenantId (old ++ own) o := by
  obtain ⟨a, orgs, ha, horgs⟩ := h
  exact ⟨a, orgs, List.mem_append_right old ha, horgs⟩

/-- What a membership asks for it may ask for later. -/
theorem May.after {email tenantId : String} {own : Log Request Answer} {q : Request}
    (h : May own (.addToOrganization email tenantId) q) (old : Log Request Answer) :
    May (old ++ own) (.addToOrganization email tenantId) q := by
  cases h with
  | token => exact .token
  | findUsers => exact .findUsers
  | listOrganizations => exact .listOrganizations
  | addMember hnamed haliased => exact .addMember (hnamed.after old) (haliased.after old)

theorem done_sync_append {email password role : String} {tenantId : Option String}
    {own : Log Request Answer}
    (h : Call.Done own (.sync email password role tenantId)) (new : Log Request Answer) :
    Call.Done (own ++ new) (.sync email password role tenantId) := by
  rcases h with ⟨u, hne, a, ha, hnames⟩ | ⟨a, ha, hack⟩
  · exact .inl ⟨u, hne, a, List.mem_append_left new ha, hnames⟩
  · exact .inr ⟨a, List.mem_append_left new ha, hack⟩

theorem conducts_findOrCreate {email password role : String} {tenantId : Option String} :
    Conducts start (fun own => May own (.sync email password role tenantId))
      (fun own => ∃ a, own = [(.token, a)])
      (findOrCreate srv email password role tenantId)
      (fun account own => Call.Done own (.sync email password role tenantId) ∧
        ∀ u, account = some u → Named email false own u ∨
          ∃ a, (Request.createUser email tenantId role (some password), a) ∈ own ∧ a.Creates u)
      (fun _ own => ¬Call.Done own (.sync email password role tenantId)) := by
  have hdone : ∀ own, Call.Done own (.sync email password role tenantId) ↔
      (∃ u, u ≠ "" ∧ Named email false own u) ∨
        ∃ a, (Request.createUser email tenantId role (some password), a) ∈ own ∧ a.Acknowledged :=
          fun own => Iff.rfl
  refine conducts_bind (M := fun o own => ∃ a b, own = [(.token, a), (.findUsers email false, b)] ∧
      (∀ u, o = some u → b.Names u ∧ u ≠ "") ∧ (o = none → ∀ u, b.Names u → u = ""))
    (conducts_rescue (conducts_knownAccount (E := fun _ own => ∃ a b, own = [(.token, a),
      (.findUsers email false, b)] ∧
      ∀ u, ¬b.Names u) (fun _ _ => .findUsers) ?_ ?_ ?_) fun e => ?_) fun o => ?_
  · rintro _ b u ⟨a, rfl⟩ hnames hne
    refine ⟨a, b, rfl, fun v hv => ?_, nofun⟩
    cases hv
    exact ⟨hnames, hne⟩
  · rintro _ b ⟨a, rfl⟩ hnames
    exact ⟨a, b, rfl, nofun, fun _ => hnames⟩
  · rintro _ b e ⟨a, rfl⟩ hnames
    exact ⟨a, b, rfl, hnames⟩
  · refine conducts_pure fun own h => ?_
    obtain ⟨a, b, rfl, hnames⟩ := h
    exact ⟨a, b, rfl, nofun, fun _ u hu => absurd hu (hnames u)⟩
  cases o with
  | some u =>
    refine conducts_pure fun own h => ?_
    obtain ⟨a, b, rfl, hsome, -⟩ := h
    obtain ⟨hnames, hne⟩ := hsome u rfl
    have hnamed : Named email false [(.token, a), (.findUsers email false, b)] u :=
      ⟨b, by simp, hnames⟩
    refine ⟨.inl ⟨u, hne, hnamed⟩, fun v hv => ?_⟩
    cases hv
    exact .inl hnamed
  | none =>
    refine conducts_at fun own h => ?_
    obtain ⟨a, b, rfl, -, hnone⟩ := h
    have hunnamed : ∀ u, Named email false [(.token, a), (.findUsers email false, b)] u →
        u = "" := by
      intro u hu
      obtain ⟨c, hc, hnames⟩ := hu
      obtain rfl : c = b := by simpa using hc
      exact hnone rfl u hnames
    refine conducts_bind (M := fun r own => ∃ c, own = [(Request.token, a),
      (.findUsers email false, b), (.createUser email tenantId role (some password), c)] ∧
        c.opened = .ok r) (conducts_urlopen ?_ ?_ ?_) fun r => ?_
    · rintro _ rfl
      exact .createUser ⟨b, by simp⟩ hunnamed (by simp)
    · rintro _ c r rfl hopened
      exact ⟨c, rfl, hopened⟩
    · rintro _ c e rfl hopened
      rw [hdone]
      rintro (⟨u, hne, c', hc', hnames⟩ | ⟨c', hc', hack⟩)
      · obtain rfl : c' = b := by simpa using hc'
        exact hne (hnone rfl u hnames)
      · obtain rfl : c' = c := by simpa using hc'
        exact not_acknowledged hopened hack
    · refine conducts_pure fun own h => ?_
      obtain ⟨c, rfl, hopened⟩ := h
      exact ⟨.inr ⟨c, by simp, r, hopened⟩, fun u hu => .inr ⟨c, by simp, r, hopened, hu⟩⟩

theorem kept_sync (srv : Service Request Answer) (email password role : String)
    (tenantId : Option String) :
    Kept (.sync email password role tenantId)
      (syncUserToKeycloak srv email password role tenantId) := by
  intro start E
  refine conducts_bestEffort (conducts_bind (M := fun _ own => ∃ a, own = [(.token, a)])
    (conducts_adminToken (fun _ _ => .token) ?_ ?_) fun _ => ?_)
  · rintro _ a rfl
    exact ⟨a, rfl⟩
  · rintro _ a e rfl
    simp [Call.Done, named_iff]
  refine conducts_bind (conducts_findOrCreate.mono (fun _ _ => id) (fun _ => id) (fun _ _ => id) ?_)
    fun account => ?_
  · exact fun e own h => by simpa using h
  -- What is written from here on is best effort itself.
  refine conducts_bind (M := fun _ own => Call.Done own (.sync email password role tenantId)) ?_
    fun _ =>
    conducts_bind (M := fun _ own => Call.Done own (.sync email password role tenantId)) ?_ fun _ =>
      conducts_pure fun own h => by simpa using h
  · unfold writeAttributes
    cases haccount : Text.nonEmpty account with
    | none => exact conducts_pure fun own h => h.1
    | some u =>
      have hu : account = some u := (Option.filter_eq_some_iff.1 haccount).1
      refine conducts_rescue (F := fun _ own => Call.Done own (.sync email password role tenantId))
        (conducts_bind (M := fun _ own => Call.Done own (.sync email password role tenantId))
          (conducts_urlopen ?_ ?_ ?_) fun r => conducts_pure fun _ => id) fun e =>
            conducts_pure fun _ => id
      · exact fun own h => .updateUser (h.2 u hu)
      · exact fun own x r h _ => done_sync_append h.1 _
      · exact fun own x e h _ => done_sync_append h.1 _
  · unfold joinOrganization
    cases htenant : Text.nonEmpty tenantId with
    | none => exact conducts_pure fun _ => id
    | some tenant =>
      obtain rfl : tenantId = some tenant := (Option.filter_eq_some_iff.1 htenant).1
      refine conducts_bind
        (M := fun _ own => Call.Done own (.sync email password role (some tenant)))
        ((Conducts.call_answers (fun start => kept_addToOrganization srv email tenant start _)
          fun old new q _ h => .join (h.after old)).mono (fun _ _ => id) (fun _ => id) ?_ fun _ _ =>
            id) fun _ =>
            conducts_pure fun _ => id
      rintro b own ⟨old, new, rfl, hold, -⟩
      exact done_sync_append hold new

theorem kept_run (srv : Service Request Answer) (c : Call) : Kept c (c.run srv) := by
  cases c with
  | sync email password role tenantId => exact kept_sync srv email password role tenantId
  | updateRole email newRole tenantId => exact kept_updateRole srv email newRole tenantId
  | updatePassword email newPassword => exact kept_updatePassword srv email newPassword
  | delete email => exact kept_deleteUser srv email
  | addToOrganization email tenantId => exact kept_addToOrganization srv email tenantId

/-- **An account is kept** with care, whatever Keycloak answers. No call raises; each request of a
call is one that the answers to it allow, so that the account of the email is created once and with
its password, and a password is written to an account that is there by a change of the password
only; and a call answers `True` if and only if what `True` says of it is so. -/
theorem accounts_kept (srv : Service Request Answer) (c : Call) (log : Log Request Answer) :
    ∃ b own, c.run srv log = .ok b (log ++ own) ∧ Careful (fun before => May before c) [] own ∧
      (b = true ↔ c.Done own) := by
  have hkept : Conducts log (fun own => May own c) (· = []) (c.run srv)
      (fun b own => b = true ↔ c.Done own)
      fun _ _ => False := kept_run srv c log _
  exact hkept.answers

/-- **Every account of the email is deleted**, and no other: the search is for this email exactly,
all of those that it lists are gone through in their order, whatever becomes of the others, and
`True` says that there were some and that each deletion has been acknowledged. -/
theorem accounts_deleted (srv : Service Request Answer) (email : String)
    (log : Log Request Answer) :
    ∃ b own, deleteUserFromKeycloak srv email log = .ok b (log ++ own) ∧
      (b = false ∧ own.map Prod.fst = [.token] ∨
        ∃ c, (Request.findUsers email true, c) ∈ own ∧
          own.map Prod.fst = .token :: .findUsers email true :: c.matching.map .deleteUser ∧
          (b = true ↔ c.matching ≠ [] ∧
            ∀ u x, (Request.deleteUser u, x) ∈ own → x.Acknowledged)) := by
  obtain ⟨b, own, hrun, -, hb⟩ := (conducts_deleteUser srv email).answers
  refine ⟨b, own, hrun, ?_⟩
  rcases hb with ⟨rfl, a, rfl⟩ | ⟨a, c, allDeleted, h, hb⟩
  · exact .inl ⟨rfl, rfl⟩
  · rw [hb, h.answered]
    obtain ⟨⟨xs, rfl, hxs⟩, -⟩ := h
    exact .inr ⟨c, by simp, by simp [hxs], Iff.rfl⟩

end Each

end Sams.Keycloak
