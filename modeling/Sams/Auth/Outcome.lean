import Sams.Auth.Candidates
import Sams.Auth.Joining
import Sams.Lib.Twins

/-!
# What a request comes to

`get_current_user` writes while it resolves a request: the cache, pools that it opens, memberships
that it heals, users that it creates. None of this changes what the later steps read (`Steady`), so
the user of a request is a function of the state in which it arrives (`World.userOf`), but for the
identifier of a user that it creates (**`getCurrentUser_answers`**).
-/

namespace Sams.Auth

open Programs Rows Interleaving Authz ControlPlaneRepository

/-- The same but for the identifier. -/
structure Alike (r r' : Resolution) : Prop where
  role : r'.role = r.role
  extracted : r'.extracted = r.extracted
  tenantId : r'.tenantId = r.tenantId

theorem alike_refl (r : Resolution) : Alike r r := ⟨rfl, rfl, rfl⟩

section User

variable [Platform]

/-- But for the identifier, users depend on what the resolutions have in common. -/
theorem currentUser_alike {c : Caller} {r r' : Resolution} (h : Alike r r') :
    { currentUser c r' with id := r.userId } = currentUser c r := by
  unfold currentUser finalRoles
  rw [h.role, h.extracted, h.tenantId]

/-- The user of a resolution, but for the identifier. -/
def IsUser (x : Caller × Resolution) (u : CurrentUser) : Prop :=
  { u with id := x.2.userId } = currentUser x.1 x.2

end User

section Outcome

variable [Unicode]

/-! ## The function -/

/-- The school that the header selects, and whether it is another one than the
token's; `none` refuses. -/
def chosen (c : Caller) (selection : Option String) (r : Resolution) : Option (Resolution × Bool) :=
  match selection.filter fun t => Text.strip t ≠ "" with
  | none => some (r, false)
  | some t =>
    if c.isSuperAdmin then some ({ r with tenantId := Text.lower (Text.strip t) }, false)
    else (c.memberships.find? (selected (Text.lower (Text.strip t)))).map fun m =>
      ({ r with tenantId := m.tenantId }, m.tenantId ≠ r.tenantId)

/-- An unresolved school is left open to a super admin only. -/
def settled (c : Caller) (r : Resolution) : Option Resolution :=
  if unresolved r.tenantId then if c.isSuperAdmin then some { r with tenantId := "" } else none
  else some r

/-- Is the scan of every tenant needed? -/
def needsScan (c : Caller) (r : Resolution) : Bool :=
  unresolved r.tenantId ∧ c.email ≠ "" ∧ c.isSuperAdmin = false ∧ c.orgAmbiguous = false ∧
    c.memberships = []

namespace World

variable (w : World)

/-- The memberships that a request works with. -/
def membershipsOf (email : String) (isSuperAdmin : Bool) : List Membership :=
  if isSuperAdmin ∨ email = "" then []
  else (w.cachedMemberships email).getD (w.verifiedMemberships email)

def recognised (c : Claims) (isKeycloak : Bool) : Resolution :=
  recognise c isKeycloak (w.isSuperAdminEmail c.emailOr)

def callerOf (c : Claims) (isKeycloak : Bool) : Caller where
  email := c.emailOr
  isKeycloak := isKeycloak
  isSuperAdmin := (w.recognised c isKeycloak).isSuperAdmin
  orgAmbiguous := c.orgAmbiguous
  memberships := w.membershipsOf c.emailOr (w.recognised c isKeycloak).isSuperAdmin

def lookedUp (c : Caller) (r : Resolution) : Resolution :=
  if needsLastResort c r then (w.lastResort c.email r).1 else r

/-- The row that is found in a tenant's table, where its pool opens. -/
def rowIn (email tenantId : String) : Option UserRow :=
  if w.reachable tenantId then
    (w.usersIn tenantId).find? fun u => UpperEq u.email (Text.strip email)
  else none

def scanned (email : String) (r : Resolution) : List TenantRow → Resolution
  | [] => r
  | t :: ts =>
    if t.tenantId = "" then scanned email r ts
    else match w.rowIn email t.tenantId with
      | none => scanned email r ts
      | some u => takeFound t.tenantId u.role r

def searched (c : Caller) (r : Resolution) : Resolution :=
  if needsScan c r then w.scanned c.email r w.tenants else r

/-- The school of the request. -/
def schoolOf (c : Caller) (selection : Option String) (r : Resolution) :
    Option (Resolution × Bool) :=
  (chosen c selection (w.lookedUp c r)).bind fun x =>
    (settled c (w.searched c x.1)).map fun r => (r, x.2)

/-- What the tenant's table adds; a selection is refused where it has no row. -/
def placedIn (c : Caller) (switched : Bool) (r : Resolution) : Option Resolution :=
  if c.email = "" ∨ w.reachable r.tenantId = false then some r
  else match w.rowIn c.email r.tenantId with
    | some u => some (withUserRow c.isSuperAdmin switched u r)
    | none => if switched then none else some r

/-- The membership is suspended or revoked. -/
def barred (email tenantId : String) : Bool :=
  w.membershipStatus (normalize email) tenantId ∈ [some .suspended, some .revoked]

/-- Only super admins get into a school that bars them. -/
def shutOut (c : Caller) (tenantId : String) : Bool :=
  c.isSuperAdmin = false ∧ tenantId ≠ "" ∧ c.email ≠ "" ∧ w.barred c.email tenantId

/-- The caller and its resolution. -/
def handled (c : Caller) (selection : Option String) (r : Resolution) :
    Option (Caller × Resolution) :=
  (w.schoolOf c selection r).bind fun x =>
    (w.placedIn c x.2 x.1).bind fun r => if w.shutOut c r.tenantId then none else some (c, r)

def resolved (c : Claims) (isKeycloak : Bool) (selection : Option String) :
    Option (Caller × Resolution) :=
  w.handled (w.callerOf c isKeycloak) selection (w.recognised c isKeycloak)

/-- The payload of a token that is honoured, and whether the single sign-on issued it. -/
def claimsOf : Option Credentials → Option (Claims × Bool)
  | some (.internal token) => if token.exp ≤ w.now then none else some (token.claims, false)
  | some (.keycloak claims) => some (claims, true)
  | _ => none

/-- The user of a request. -/
def userOf (request : HttpRequest) : Option (Caller × Resolution) :=
  (w.claimsOf request.credentials).bind fun x => w.resolved x.1 x.2 request.selection

end World

/-! ## What the steps leave alone -/

/-- What the later steps of a request read is as before, but for memberships that were joined. -/
structure Steady (s s' : State) : Prop where
  superAdmins : s'.val.superAdmins = s.val.superAdmins
  unreachable : s'.val.unreachable = s.val.unreachable
  users : ∀ t, s'.val.usersIn t = s.val.usersIn t
  joins : Joins s s'

instance : IsPreorder State Steady where
  refl s := ⟨rfl, rfl, fun _ => rfl, refl_of Joins s⟩
  trans _ _ _ h h' := ⟨h'.superAdmins.trans h.superAdmins, h'.unreachable.trans h.unreachable,
    fun t => (h'.users t).trans (h.users t), trans_of Joins h.joins h'.joins⟩

theorem steady_of_prepares {s s' : State} (h : Prepares s.val s'.val) : Steady s s' :=
  ⟨h.superAdmins, h.unreachable, h.users, joins_of_same h.memberships⟩

theorem usersIn_of_same {w w' : World} (hadmins : w'.superAdmins = w.superAdmins)
    (hschemas : w'.schemas = w.schemas) (hopened : w'.opened = w.opened) (t : String) :
    w'.usersIn t = w.usersIn t := by
  unfold World.usersIn World.seeded World.mirrors World.missingSuperAdmins World.schemaOf
    World.schema?
  rw [hadmins, hschemas, hopened]

/-- The tenants are the same, too. -/
structure Healed (s s' : State) : Prop extends Steady s s' where
  tenants : s'.val.tenants = s.val.tenants

instance : IsPreorder State Healed where
  refl s := ⟨refl_of Steady s, rfl⟩
  trans _ _ _ h h' := ⟨trans_of Steady h.toSteady h'.toSteady, h'.tenants.trans h.tenants⟩

/-- A write of the control plane that only joins. -/
theorem moves_healed_exec {f : World → World} (hadmins : ∀ w, (f w).superAdmins = w.superAdmins)
    (hschemas : ∀ w, (f w).schemas = w.schemas) (hopened : ∀ w, (f w).opened = w.opened)
    (hunreachable : ∀ w, (f w).unreachable = w.unreachable)
    (htenants : ∀ w, (f w).tenants = w.tenants)
    (hjoins : Moves Joins (exec .databaseError f : EStateM PyError State Unit)) :
    Moves Healed (exec .databaseError f : EStateM PyError State Unit) := by
  refine moves_exec fun s hok => ?_
  have hj := hjoins s
  rw [after_ok (exec_of hok)] at hj
  exact ⟨⟨hadmins _, hunreachable _, usersIn_of_same (hadmins _) (hschemas _) (hopened _), hj⟩,
    htenants _⟩

theorem steady_openPool (tenantId : String) : Moves Steady (openPool tenantId) := by
  refine moves_bind ?_ fun _ => moves_bind (moves_query _) fun _ =>
    moves_bind (moves_raiseIf _ _) fun _ => ?_
  · exact moves_exec fun s _ => steady_of_prepares (World.prepares_register s.val tenantId)
  · exact moves_exec fun s _ => steady_of_prepares (World.prepares_initializeTables s.val tenantId)

theorem healed_upsertMap (email : String) (m : Option Membership) :
    Moves Healed (upsertMap email m) := by
  cases m with
  | none => exact moves_pure ()
  | some m =>
    show Moves Healed (upsertUserTenantMap email m.tenantId m.role).seq
    unfold upsertUserTenantMap getOrCreateIdentity stmt
    rw [Proc.seq_bind, Proc.seq_once]
    refine moves_bind (moves_bind ?_ fun _ => moves_bind (moves_query _) fun row => ?_)
      fun identity => ?_
    · refine moves_healed_exec ?_ ?_ ?_ ?_ ?_ (moves_upsertIdentity _) <;> intro w <;>
        unfold World.upsertIdentity <;> cases w.identityByEmail (normalize email) <;> rfl
    · cases row with
      | none => exact moves_throw _
      | some row => exact moves_pure _
    · rw [Proc.seq_bind, Proc.seq_once, Proc.seq_once]
      refine moves_bind ?_ fun _ => ?_
      · refine moves_healed_exec ?_ ?_ ?_ ?_ ?_ (moves_upsertMembership _ _ _ _) <;> intro w <;>
          unfold World.upsertMembership <;> split_ifs <;> rfl
      · exact moves_healed_exec (fun _ => rfl) (fun _ => rfl) (fun _ => rfl) (fun _ => rfl)
          (fun _ => rfl) (moves_joins_exec fun _ => rfl)

theorem reaches_ignoring {m : Prog Unit} {R : State → State → Prop} (h : Moves R m) (s : State) :
    Reaches (fun _ s' => R s s') (ignoring m) s := by
  refine reaches_bind (M := fun _ s' => R s s') ?_ fun _ _ h => reaches_pure h
  exact reaches_attempt (fun _ _ hok => after_ok hok ▸ h s) fun _ _ herr => after_error herr ▸ h s

theorem Steady.reachable {s s' : State} (h : Steady s s') (t : String) :
    s'.val.reachable t = s.val.reachable t := by
  unfold World.reachable
  rw [h.unreachable]

theorem Steady.rowIn {s s' : State} (h : Steady s s') (email t : String) :
    s'.val.rowIn email t = s.val.rowIn email t := by
  unfold World.rowIn
  rw [h.reachable, h.users]

/-- Who is barred has a membership that is suspended or revoked. -/
theorem barred_iff (s : State) (email t : String) :
    s.val.barred email t = true ↔
      ∃ m ∈ s.val.userTenantMap, CiEq m.email (normalize email) ∧ m.tenantId = t ∧
        (m.status = .suspended ∨ m.status = .revoked) := by
  unfold World.barred World.membershipStatus
  rw [decide_eq_true_eq]
  constructor
  · intro hmem
    cases hfind : s.val.userTenantMap.find? fun m => CiEq m.email (normalize email) ∧
      m.tenantId = t with
    | none =>
      rw [hfind] at hmem
      simp at hmem
    | some m =>
      rw [hfind] at hmem
      have hkey := List.find?_some hfind
      rw [decide_eq_true_eq] at hkey
      exact ⟨m, List.mem_of_find?_eq_some hfind, hkey.1, hkey.2, by simpa using hmem⟩
  · rintro ⟨m, hm, hemail, ht, hstatus⟩
    have hfind : s.val.userTenantMap.find? (fun m => CiEq m.email (normalize email) ∧
        m.tenantId = t) =
        some m := by
      have hkey := s.ok.keys.membership_email.find?_eq_some
        (k := (Unicode.sqlLower (normalize email), t)) (x := m)
      simp only [Prod.mk.injEq] at hkey
      exact hkey.2 ⟨hm, hemail, ht⟩
    rw [hfind]
    simpa using hstatus

/-- What only joins bars nobody and admits nobody. -/
theorem barred_of_joins {s s' : State} (h : Joins s s') (email t : String) :
    s'.val.barred email t = s.val.barred email t := by
  rw [Bool.eq_iff_iff, barred_iff, barred_iff]
  constructor
  · rintro ⟨m', hm', hemail, ht, hstatus⟩
    rcases h.added m' hm' with ⟨m, hm, hsame⟩ | ⟨hactive, -⟩
    · refine ⟨m, hm, ?_, hsame.tenantId ▸ ht, hsame.status ▸ hstatus⟩
      rw [← hsame.email]
      exact hemail
    · rcases hstatus with hstatus | hstatus
      · rw [hactive] at hstatus
        cases hstatus
      · rw [hactive] at hstatus
        cases hstatus
  · rintro ⟨m, hm, hemail, ht, hstatus⟩
    obtain ⟨m', hm', hsame⟩ := h.kept m hm
    refine ⟨m', hm', ?_, hsame.tenantId.trans ht, ?_⟩
    · rw [hsame.email]
      exact hemail
    · rw [hsame.status]
      exact hstatus

/-! ## The steps -/

theorem decodeCredentials_answers (c : Option Credentials) (s : State) :
    Answers (s.val.claimsOf c) (fun x y s' => y = x ∧ s = s') (decodeCredentials c) s := by
  match c with
  | none => exact raises_throw _ s
  | some .invalid => exact raises_throw _ s
  | some (.keycloak claims) => exact reaches_pure ⟨rfl, rfl⟩
  | some (.internal token) =>
    unfold World.claimsOf
    dsimp only
    by_cases hexp : token.exp ≤ s.val.now
    · rw [if_pos hexp]
      refine raises_bind (M := fun now s' => now = s.val.now ∧ s = s') (reaches_query ⟨rfl, rfl⟩) ?_
      rintro _ _ ⟨rfl, rfl⟩
      exact (raises_raiseIf hexp).bind _
    · rw [if_neg hexp]
      refine reaches_bind (M := fun now s' => now = s.val.now ∧
        s = s') (reaches_query ⟨rfl, rfl⟩) ?_
      rintro _ _ ⟨rfl, rfl⟩
      refine reaches_bind (M := fun _ s' => s = s') (reaches_raiseIf hexp rfl) ?_
      rintro _ _ rfl
      exact reaches_pure ⟨rfl, rfl⟩

/-- Only the cache was written. -/
def Cached (s s' : State) : Prop := ∃ cache, s'.val = { s.val with membershipCache := cache }

theorem Cached.steady {s s' : State} (h : Cached s s') : Steady s s' := by
  obtain ⟨cache, h⟩ := h
  refine ⟨by rw [h], by rw [h], fun t => ?_, joins_of_same (by rw [h])⟩
  rw [h]
  exact usersIn_of_same rfl rfl rfl t

theorem ok_cache {w : World} (hw : w.Ok) (cache : List CacheEntry) :
    ({ w with membershipCache := cache } : World).Ok :=
  { hw with keys := { hw.keys with }, refs := { hw.refs with }, drawn := { hw.drawn with } }

theorem resolveMemberships_reaches (email : String) (isSuperAdmin : Bool) (s : State) :
    Reaches (fun ms s' => ms = s.val.membershipsOf email isSuperAdmin ∧ Cached s s')
      (resolveMemberships email isSuperAdmin) s := by
  unfold resolveMemberships World.membershipsOf
  split_ifs with h
  · exact reaches_pure ⟨rfl, s.val.membershipCache, rfl⟩
  · refine reaches_bind (M := fun x s' => x = s.val.cachedMemberships email ∧ s = s')
      (reaches_query ⟨rfl, rfl⟩) ?_
    rintro _ _ ⟨rfl, rfl⟩
    cases s.val.cachedMemberships email with
    | some ms => exact reaches_pure ⟨rfl, s.val.membershipCache, rfl⟩
    | none =>
      refine reaches_bind (M := fun x s' => x = s.val.verifiedMemberships email ∧ s = s')
        (reaches_query ⟨rfl, rfl⟩) ?_
      rintro _ _ ⟨rfl, rfl⟩
      refine reaches_bind (M := fun _ s' => Cached s s') ?_ fun _ _ h => reaches_pure ⟨rfl, h⟩
      exact reaches_exec (ok_cache s.ok _) ⟨_, rfl⟩

theorem identify_reaches (c : Claims) (isKeycloak : Bool) (s : State) :
    Reaches (fun x s' => x = (s.val.callerOf c isKeycloak, s.val.recognised c isKeycloak) ∧
      Cached s s')
      (identify c isKeycloak) s := by
  refine reaches_bind (M := fun x s' => x = s.val.isSuperAdminEmail c.emailOr ∧ s = s')
    (reaches_query ⟨rfl, rfl⟩) ?_
  rintro _ _ ⟨rfl, rfl⟩
  refine reaches_bind (resolveMemberships_reaches _ _ s) ?_
  rintro _ s' ⟨rfl, hcached⟩
  exact reaches_pure ⟨rfl, hcached⟩

theorem tryLastResort_reaches (c : Caller) (r : Resolution) (s : State) :
    Reaches (fun r' s' => r' = s.val.lookedUp c r ∧ Healed s s')
      (tryLastResort c r) s := by
  unfold tryLastResort World.lookedUp
  split_ifs with h
  · refine reaches_bind (M := fun x s' => x = s.val.lastResort c.email r ∧ s = s')
      (reaches_query ⟨rfl, rfl⟩) ?_
    rintro _ _ ⟨rfl, rfl⟩
    refine reaches_bind (reaches_ignoring (healed_upsertMap c.email _) s) fun _ _ h => ?_
    exact reaches_pure ⟨rfl, h⟩
  · exact reaches_pure ⟨rfl, refl_of Healed s⟩

theorem applySelection_answers (c : Caller) (selection : Option String) (r : Resolution)
    (s : State) :
    Answers (chosen c selection r)
      (fun x y s' => y = x ∧ Steady s s' ∧ (c.isSuperAdmin = false → s = s'))
      (applySelection c selection r) s := by
  unfold chosen applySelection
  cases selection.filter fun t => Text.strip t ≠ "" with
  | none => exact reaches_pure ⟨rfl, refl_of Steady s, fun _ => rfl⟩
  | some t =>
    dsimp only
    unfold selectTenant
    cases hsuper : c.isSuperAdmin with
    | true =>
      exact reaches_pure ⟨rfl, refl_of Steady s, fun _ => rfl⟩
    | false =>
      cases c.memberships.find? (selected (Text.lower (Text.strip t))) with
      | some m => exact reaches_pure ⟨rfl, refl_of Steady s, fun _ => rfl⟩
      | none => exact raises_throw _ _

/-- The row of an email, from the pool of a tenant, if it opens. -/
theorem lookInto_reaches (email tenantId : String) (s : State) :
    Reaches (fun x s' => x.join = s.val.rowIn email tenantId ∧ Steady s s')
      (attempt (lookInto email tenantId)) s := by
  unfold World.rowIn
  cases hreach : s.val.reachable tenantId with
  | true =>
    have hlook : Reaches (fun u s' => u = (s.val.usersIn tenantId).find?
        (fun u => UpperEq u.email (Text.strip email)) ∧
          Steady s s') (lookInto email tenantId) s := by
      refine reaches_bind (openPool_reaches hreach) fun _ s' h => ?_
      refine reaches_query ⟨?_, steady_of_prepares h.1⟩
      show (s'.val.users tenantId).find? _ = _
      rw [h.2]
    obtain ⟨u, s', hok, hu, hsteady⟩ := hlook
    exact ⟨some u, s', rescue_of_ok (map_eq_ok.2 ⟨u, hok, rfl⟩), hu, hsteady⟩
  | false =>
    obtain ⟨e, s', herr⟩ := openPool_raises hreach
    have hsteady : Steady s s' := after_error herr ▸ steady_openPool tenantId s
    have hlook : lookInto email tenantId s = .error e s' := bind_eq_error.2 (.inl herr)
    exact ⟨none, s', rescue_of_error (map_eq_error.2 hlook), rfl, hsteady⟩

theorem Steady.scanned {s s' : State} (h : Steady s s') (email : String) (r : Resolution)
    (tenants : List TenantRow) :
    s'.val.scanned email r tenants = s.val.scanned email r tenants := by
  induction tenants with
  | nil => rfl
  | cons t ts ih =>
    unfold World.scanned
    rw [h.rowIn, ih]

theorem scanUsers_reaches (email : String) (r : Resolution) (tenants : List TenantRow) (s : State) :
    Reaches (fun r' s' => r' = s.val.scanned email r tenants ∧
      Steady s s') (scanUsers email r tenants) s := by
  induction tenants generalizing s with
  | nil => exact reaches_pure ⟨rfl, refl_of Steady s⟩
  | cons t ts ih =>
    unfold scanUsers World.scanned
    split_ifs
    · exact ih s
    · refine reaches_bind (lookInto_reaches email t.tenantId s) fun x s' h => ?_
      rw [h.1]
      cases s.val.rowIn email t.tenantId with
      | none =>
        refine (ih s').mono fun r' s'' h' => ⟨h'.1.trans (h.2.scanned email r ts), ?_⟩
        exact trans_of Steady h.2 h'.2
      | some u =>
        refine reaches_bind (M := fun _ s'' => Steady s s'') ?_ fun _ _ h' => reaches_pure ⟨rfl, h'⟩
        refine (reaches_ignoring (healed_upsertMap email _) s').mono fun _ s'' h' => ?_
        exact trans_of Steady h.2 h'.toSteady

theorem tryScan_reaches (c : Caller) (r : Resolution) (s : State) :
    Reaches (fun r' s' => r' = s.val.searched c r ∧ Steady s s') (tryScan c r) s := by
  unfold tryScan World.searched needsScan
  by_cases h : unresolved r.tenantId ∧ c.email ≠ "" ∧ c.isSuperAdmin = false ∧
      c.orgAmbiguous = false ∧ c.memberships = []
  · rw [if_pos h, if_pos (decide_eq_true h)]
    refine reaches_bind (M := fun x s' => x = s.val.tenants ∧ s = s') (reaches_query ⟨rfl, rfl⟩) ?_
    rintro _ _ ⟨rfl, rfl⟩
    exact scanUsers_reaches c.email r _ s
  · rw [if_neg h, if_neg (by simpa using h)]
    exact reaches_pure ⟨rfl, refl_of Steady s⟩

theorem failClosed_answers (c : Caller) (r : Resolution) (s : State) :
    Answers (settled c r) (fun x y s' => y = x ∧ s = s') (failClosed c r) s := by
  unfold settled failClosed
  split_ifs
  · exact reaches_pure ⟨rfl, rfl⟩
  · exact raises_throw _ s
  · exact raises_throw _ s
  · exact reaches_pure ⟨rfl, rfl⟩

/-! ## The school -/

/-- The school does not depend on the cache, once the memberships are known. -/
theorem Cached.schoolOf {s s' : State} (h : Cached s s') (c : Caller) (selection : Option String)
    (r : Resolution) : s'.val.schoolOf c selection r = s.val.schoolOf c selection r := by
  obtain ⟨cache, hval⟩ := id h
  have hlooked : s'.val.lookedUp c r = s.val.lookedUp c r := by
    rw [hval]
    rfl
  have hsearched : ∀ r, s'.val.searched c r = s.val.searched c r := by
    intro r
    have htenants : s'.val.tenants = s.val.tenants := by rw [hval]
    unfold World.searched
    rw [htenants, h.steady.scanned]
  unfold World.schoolOf
  rw [hlooked]
  simp only [hsearched]

theorem resolveTenant_answers (c : Caller) (selection : Option String) (r : Resolution)
    (s : State) :
    Answers (s.val.schoolOf c selection r) (fun x y s' => y = x ∧ Steady s s')
      (resolveTenant c selection r) s := by
  refine (tryLastResort_reaches c r s).answers ?_
  rintro _ s₁ ⟨rfl, hhealed⟩
  refine answers_bind (applySelection_answers c selection _ s₁) ?_
  rintro ⟨r₁, switched⟩ _ s₂ ⟨rfl, hsteady, hsame⟩
  have hsearched : s₂.val.searched c r₁ = s.val.searched c r₁ := by
    unfold World.searched
    split_ifs with hscan
    · have hsuper : c.isSuperAdmin = false := by
        simp only [needsScan, decide_eq_true_eq] at hscan
        exact hscan.2.2.1
      rw [← hsame hsuper, hhealed.tenants]
      exact hhealed.toSteady.scanned _ _ _
    · rfl
  refine (tryScan_reaches c r₁ s₂).answers ?_
  rintro _ s₃ ⟨rfl, hsteady'⟩
  have hall : Steady s s₃ := trans_of Steady (trans_of Steady hhealed.toSteady hsteady) hsteady'
  dsimp only
  rw [hsearched, Option.map_eq_bind]
  refine answers_bind (failClosed_answers c _ s₃) ?_
  rintro r₂ _ _ ⟨rfl, rfl⟩
  exact answers_pure ⟨rfl, hall⟩

/-! ## The user in the school -/

theorem provision_alike {email : String} {r r' : Resolution} {s s' : State}
    (h : provision email r s = .ok r' s') : Alike r r' := by
  obtain ⟨created, t, -, h⟩ := bind_eq_ok.1 h
  obtain ⟨localId, t', -, h⟩ := bind_eq_ok.1 h
  cases localId with
  | none =>
    cases (pure_eq_ok.1 h).1
    exact alike_refl r
  | some id =>
    obtain ⟨_, _, -, h⟩ := bind_eq_ok.1 h
    cases (pure_eq_ok.1 h).1
    exact ⟨rfl, rfl, rfl⟩

theorem lookUpUser_eq (c : Caller) (switched : Bool) {r : Resolution} {s : State}
    (hreach : s.val.reachable r.tenantId = true) :
    ∃ s', lookUpUser c switched r s =
      resolveUser c switched r (s.val.rowIn c.email r.tenantId) s' := by
  obtain ⟨_, s', hok, -, husers⟩ := openPool_reaches hreach
  refine ⟨s', ?_⟩
  have hrow : s'.val.localUser r.tenantId (Text.strip c.email) =
      s.val.rowIn c.email r.tenantId := by
    unfold World.localUser World.rowIn
    rw [husers, if_pos hreach]
  unfold lookUpUser
  rw [bind_of_ok hok, ← hrow]
  rfl

theorem readUser_answers (c : Caller) (switched : Bool) (r : Resolution) (s : State) :
    Answers (s.val.placedIn c switched r) (fun x y _ => Alike x y) (readUser c switched r) s := by
  unfold World.placedIn readUser
  by_cases hskip : c.email = "" ∨ r.tenantId = ""
  · have hplaced : c.email = "" ∨ s.val.reachable r.tenantId = false := by
      refine hskip.imp_right fun h => ?_
      simp [World.reachable, h]
    rw [if_pos hskip, if_pos hplaced]
    exact reaches_pure (alike_refl r)
  · rw [if_neg hskip]
    cases hreach : s.val.reachable r.tenantId with
    | false =>
      -- the pool does not open, and what is known is kept
      obtain ⟨e, s', herr⟩ := openPool_raises hreach
      have hlook : lookUpUser c switched r s = .error e s' := bind_eq_error.2 (.inl herr)
      rw [if_pos (.inr rfl)]
      exact ⟨r, s', bind_eq_ok.2 ⟨none, s', rescue_of_error (map_eq_error.2 hlook), rfl⟩,
        alike_refl r⟩
    | true =>
      obtain ⟨s', hlook⟩ := lookUpUser_eq c switched hreach
      have hplaced : ¬(c.email = "" ∨ true = false) := by
        simpa using fun h => hskip (.inl h)
      rw [if_neg hplaced]
      cases hrow : s.val.rowIn c.email r.tenantId with
      | some u =>
        rw [hrow] at hlook
        exact ⟨_, s', bind_eq_ok.2 ⟨_, s', rescue_of_ok (map_eq_ok.2 ⟨_, hlook, rfl⟩), rfl⟩,
          alike_refl _⟩
      | none =>
        rw [hrow] at hlook
        dsimp only [resolveUser] at hlook ⊢
        cases switched with
        | true =>
          exact ⟨notAMember, s', bind_eq_error.2 (.inr
            ⟨_, s', rescue_of_ok (map_eq_ok.2 ⟨_, hlook, rfl⟩), rfl⟩)⟩
        | false =>
          rw [if_neg Bool.false_ne_true] at hlook ⊢
          cases hsuper : c.isSuperAdmin with
          | true =>
            rw [hsuper, if_pos rfl] at hlook
            exact ⟨r, s', bind_eq_ok.2 ⟨_, s', rescue_of_ok (map_eq_ok.2 ⟨_, hlook, rfl⟩), rfl⟩,
              alike_refl r⟩
          | false =>
            rw [hsuper, if_neg Bool.false_ne_true] at hlook
            rcases ok_or_error (provision c.email r) s' with ⟨r', hok⟩ | ⟨e, herr⟩
            · have hmap := hlook.trans (map_eq_ok.2 ⟨r', hok, rfl⟩)
              exact ⟨r', _, bind_eq_ok.2 ⟨_, _, rescue_of_ok (map_eq_ok.2 ⟨_, hmap, rfl⟩), rfl⟩,
                provision_alike hok⟩
            · have hmap := hlook.trans (map_eq_error.2 herr)
              exact ⟨r, _, bind_eq_ok.2 ⟨none, _, rescue_of_error (map_eq_error.2 hmap), rfl⟩,
                alike_refl r⟩

theorem ensureParent_reaches (c : Caller) (r : Resolution) (s : State) :
    Reaches (fun r' _ => Alike r r') (ensureParent c r) s := by
  unfold ensureParent
  split_ifs
  · refine reaches_bind (M := fun _ _ => True) ?_ fun localId t _ => ?_
    · exact reaches_attempt (fun _ _ _ => trivial) fun _ _ _ => trivial
    · cases localId with
      | none => exact reaches_pure (alike_refl r)
      | some id =>
        refine reaches_bind (M := fun _ _ => True) ?_ fun _ _ _ => reaches_pure ⟨rfl, rfl, rfl⟩
        exact (reaches_ignoring (joins_upsertMap _ _) t).mono fun _ _ _ => trivial
  · exact reaches_pure (alike_refl r)

theorem checkMembership_answers (c : Caller) (r : Resolution) (s : State) :
    Answers (if s.val.shutOut c r.tenantId then none else some ()) (fun _ _ s' => s = s')
      (checkMembership c r) s := by
  have hcond : s.val.shutOut c r.tenantId = true ↔ c.isSuperAdmin = false ∧ r.tenantId ≠ "" ∧
      c.email ≠ "" ∧
      s.val.membershipStatus (normalize c.email) r.tenantId ∈ [some .suspended, some .revoked] := by
    simp only [World.shutOut, World.barred, decide_eq_true_eq]
  have hread : Reaches (fun x s' => x = s.val.membershipStatus (normalize c.email) r.tenantId ∧
      s = s')
      (ask fun w => w.membershipStatus (normalize c.email) r.tenantId) s := reaches_query ⟨rfl, rfl⟩
  by_cases h : s.val.shutOut c r.tenantId = true
  · rw [if_pos h]
    refine raises_bind hread ?_
    rintro _ _ ⟨rfl, rfl⟩
    exact raises_raiseIf (hcond.1 h)
  · rw [if_neg h]
    refine reaches_bind hread ?_
    rintro _ _ ⟨rfl, rfl⟩
    exact reaches_raiseIf (fun hc => h (hcond.2 hc)) rfl

/-! ## The user -/

section User

variable [Platform]

theorem resolveAccount_answers {c : Caller} {switched : Bool} {r : Resolution} {s₀ s : State}
    (h : Steady s₀ s) :
    Answers ((s₀.val.placedIn c switched r).bind fun r =>
        if s₀.val.shutOut c r.tenantId then none else some (c, r))
      (fun x u _ => IsUser x u) (resolveAccount c switched r) s := by
  have hplaced : s.val.placedIn c switched r = s₀.val.placedIn c switched r := by
    unfold World.placedIn
    rw [h.reachable, h.rowIn]
  rw [← hplaced]
  refine answers_bind
    ((readUser_answers c switched r s).moved (about_joins.resolving.readUser c switched r)) ?_
  rintro r₁ r₂ s₁ ⟨hr₂, hjoins₁⟩
  obtain ⟨r₃, s₂, hok, hr₃⟩ := ensureParent_reaches c r₂ s₁
  have hjoins₂ : Joins s₁ s₂ := after_ok hok ▸ about_joins.resolving.ensureParent c r₂ s₁
  have hjoins : Joins s₀ s₂ := trans_of Joins h.joins (trans_of Joins hjoins₁ hjoins₂)
  have hshut : s₀.val.shutOut c r₁.tenantId = s₂.val.shutOut c r₃.tenantId := by
    unfold World.shutOut
    rw [barred_of_joins hjoins, hr₃.tenantId, hr₂.tenantId]
  have hreaches : Reaches (fun r' s' => r' = r₃ ∧ s' = s₂) (ensureParent c r₂) s₁ :=
    ⟨r₃, s₂, hok, rfl, rfl⟩
  refine hreaches.answers ?_
  rintro r₃ s₂ ⟨rfl, rfl⟩
  rw [hshut]
  have huser : IsUser (c, r₁) (currentUser c r₃) :=
    currentUser_alike ⟨hr₃.role.trans hr₂.role, hr₃.extracted.trans hr₂.extracted,
      hr₃.tenantId.trans hr₂.tenantId⟩
  have hcheck := checkMembership_answers c r₃ s₂
  split_ifs at hcheck ⊢ with hshut'
  · exact Raises.bind hcheck _
  · exact reaches_bind hcheck fun _ _ _ => reaches_pure huser

/-- **The user of a request** is the one that the state in which it arrives determines, but for its
identifier; where it determines none, the request is refused. -/
theorem getCurrentUser_answers (request : HttpRequest) (s : State) :
    Answers (s.val.userOf request) (fun x u _ => IsUser x u) (getCurrentUser request) s := by
  refine answers_bind (decodeCredentials_answers request.credentials s) ?_
  rintro ⟨claims, isKeycloak⟩ _ _ ⟨rfl, rfl⟩
  refine (identify_reaches claims isKeycloak s).answers ?_
  rintro _ s₁ ⟨rfl, hcached⟩
  unfold World.resolved World.handled
  rw [← hcached.schoolOf]
  refine answers_bind (resolveTenant_answers _ _ _ s₁) ?_
  rintro ⟨r, switched⟩ _ s₂ ⟨rfl, hsteady⟩
  exact resolveAccount_answers (trans_of Steady hcached.steady hsteady)

/-- What is read off the user is read off the outcome, if it is not the identifier. -/
theorem returned_map_eq {β : Type} {f : CurrentUser → β} {g : Caller × Resolution → β}
    (hfg : ∀ x u, IsUser x u → f u = g x) (request : HttpRequest) (s : State) :
    (returned (getCurrentUser request) s).map f = (s.val.userOf request).map g := by
  have h := getCurrentUser_answers request s
  unfold returned
  cases hx : s.val.userOf request with
  | none =>
    rw [hx] at h
    obtain ⟨e, s', herr⟩ := h
    rw [herr]
    rfl
  | some x =>
    rw [hx] at h
    obtain ⟨u, s', hok, hu⟩ := h
    rw [hok]
    exact congrArg some (hfg x u hu)

end User

end Outcome

end Sams.Auth
