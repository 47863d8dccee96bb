import Sams.Auth.HomeSchool
import Sams.Auth.LoginSchool

/-!
# Where logins and requests arrive

A login or a request adds a membership of nobody but its own email, and of no school but the one
that it is completed in, or the ones that the resolution of the request finds: which these are is
read off the state before (`World.loginSchool`, `World.schoolsReached`).

**`arrives_loginUser`**, **`arrives_getCurrentUser`**: what is added is of an arrival that the
state before announces.
-/

namespace Sams.Auth

open Programs Rows Interleaving ControlPlaneRepository UserRepository

/-- An email comes to a school. -/
structure Arrival where
  email : String
  tenantId : String
  deriving DecidableEq, Repr

/-- The email comes to this school, if to any. -/
def arrivalAt (email : String) (school : Option String) : List Arrival :=
  school.toList.map fun t => ⟨email, t⟩

section Arrivals

variable [Unicode]

/-- The identity is that of the email, or not there yet. -/
def World.OfEmail (w : World) (email : String) (identityId : Nat) : Prop :=
  match w.identityByEmail (normalize email) with
  | some i => i.id = identityId
  | none => ∀ i ∈ w.identities, i.id ≠ identityId

instance (w : World) (email : String) (identityId : Nat) :
    Decidable (w.OfEmail email identityId) := by
  unfold World.OfEmail
  cases w.identityByEmail (normalize email) <;> infer_instance

/-- Memberships are joined, and those that are added are of these arrivals. -/
structure Arrives (arrivals : List Arrival) (s s' : State) : Prop extends Joins s s' where
  ofEmail : ∀ email i, s'.val.OfEmail email i → s.val.OfEmail email i
  arrived : ∀ m' ∈ s'.val.userTenantMap, (∃ m ∈ s.val.userTenantMap, m.SameEdge m') ∨
    ∃ a ∈ arrivals, CiEq m'.email (normalize a.email) ∧ m'.tenantId = a.tenantId ∧
      s.val.OfEmail a.email m'.identityId

theorem ofEmail_of_same {w w' : World} (h : w'.identities = w.identities) {email : String} {i : Nat}
    (hof : w'.OfEmail email i) : w.OfEmail email i := by
  unfold World.OfEmail World.identityByEmail at hof ⊢
  rwa [h] at hof

theorem arrives_of_same (arrivals : List Arrival) {s s' : State}
    (hidentities : s'.val.identities = s.val.identities)
    (hmap : s'.val.userTenantMap = s.val.userTenantMap) : Arrives arrivals s s' where
  toJoins := joins_of_same hmap
  ofEmail _ _ := ofEmail_of_same hidentities
  arrived m hm := .inl ⟨m, hmap ▸ hm, m.sameEdge_refl⟩

theorem arrives_of_prepares (arrivals : List Arrival) {s s' : State} (h : Prepares s.val s'.val) :
    Arrives arrivals s s' :=
  arrives_of_same arrivals h.identities h.memberships

instance (arrivals : List Arrival) : IsPreorder State (Arrives arrivals) where
  refl s := arrives_of_same arrivals rfl rfl
  trans s s' s'' h h' := by
    refine ⟨trans_of Joins h.toJoins h'.toJoins,
      fun e i hi => h.ofEmail e i (h'.ofEmail e i hi), ?_⟩
    intro m'' hm''
    rcases h'.arrived m'' hm'' with ⟨m', hm', hsame'⟩ | ⟨a, ha, hemail, ht, hof⟩
    · rcases h.arrived m' hm' with ⟨m, hm, hsame⟩ | ⟨a, ha, hemail, ht, hof⟩
      · exact .inl ⟨m, hm, hsame.trans hsame'⟩
      · refine .inr ⟨a, ha, ?_, hsame'.tenantId.trans ht, ?_⟩
        · rwa [hsame'.email]
        · rwa [hsame'.identityId]
    · exact .inr ⟨a, ha, hemail, ht, h.ofEmail _ _ hof⟩

theorem Arrives.mono {arrivals arrivals' : List Arrival} {s s' : State} (h : Arrives arrivals s s')
    (hsub : ∀ a ∈ arrivals, a ∈ arrivals') : Arrives arrivals' s s' where
  toJoins := h.toJoins
  ofEmail := h.ofEmail
  arrived m' hm' := by
    rcases h.arrived m' hm' with hthere | ⟨a, ha, hnew⟩
    · exact .inl hthere
    · exact .inr ⟨a, hsub a ha, hnew⟩

/-! ## Statements -/

/-- A write of other tables. -/
theorem arrives_exec {arrivals : List Arrival} {e : PyError} {f : World → World}
    (hidentities : ∀ w, (f w).identities = w.identities)
    (hmap : ∀ w, (f w).userTenantMap = w.userTenantMap) :
    Moves (Arrives arrivals) (exec e f : EStateM PyError State Unit) :=
  moves_exec fun s _ => arrives_of_same arrivals (hidentities s.val) (hmap s.val)

theorem arrives_openPool (arrivals : List Arrival) (tenantId : String) :
    Moves (Arrives arrivals) (openPool tenantId) :=
  (moves_prepares_openPool tenantId).mono fun _ _ => arrives_of_prepares arrivals

/-- An identity that is drawn is not there yet. -/
theorem ofEmail_upsertIdentity {s s' : State} {named : String}
    (hs' : s'.val = s.val.upsertIdentity (normalize named)) (email : String) (i : Nat)
    (h : s'.val.OfEmail email i) : s.val.OfEmail email i := by
  unfold World.upsertIdentity at hs'
  cases hknown : s.val.identityByEmail (normalize named) with
  | some known =>
    rw [hknown] at hs'
    have hfind : s'.val.identityByEmail (normalize email) =
        (s.val.identityByEmail (normalize email)).map fun x =>
          if CiEq x.email (normalize named) then { x with email := normalize named } else x := by
      unfold World.identityByEmail
      rw [hs']
      dsimp only
      unfold updateWhere
      rw [List.find?_map]
      congr 2
      · funext x
        simp
      · funext x
        by_cases hx : CiEq x.email (normalize named)
        · simp only [Function.comp_apply, hx, decide_true, if_true, decide_eq_decide]
          exact ⟨fun h => hx.trans h, fun h => hx.symm.trans h⟩
        · simp [hx]
    have hids : ∀ x ∈ s.val.identities, ∃ x' ∈ s'.val.identities, x'.id = x.id := by
      intro x hx
      rw [hs']
      refine ⟨_, mem_updateWhere_of_mem hx, ?_⟩
      split_ifs <;> rfl
    unfold World.OfEmail at h ⊢
    rw [hfind] at h
    cases hx : s.val.identityByEmail (normalize email) with
    | some x =>
      rw [hx, Option.map_some] at h
      dsimp only at h ⊢
      split_ifs at h <;> exact h
    | none =>
      rw [hx, Option.map_none] at h
      intro x hx
      obtain ⟨x', hx', hid⟩ := hids x hx
      exact hid ▸ h x' hx'
  | none =>
    rw [hknown] at hs'
    have hfind : s'.val.identityByEmail (normalize email) =
        (s.val.identityByEmail (normalize email)).or
          (if CiEq (normalize named) (normalize email) then some ⟨s.val.seq, normalize named⟩
            else none) := by
      unfold World.identityByEmail
      rw [hs']
      dsimp only
      rw [List.find?_append]
      by_cases he : CiEq (normalize named) (normalize email)
      · simp [he]
      · simp [he]
    unfold World.OfEmail at h ⊢
    rw [hfind] at h
    cases hx : s.val.identityByEmail (normalize email) with
    | some x =>
      rw [hx] at h
      exact h
    | none =>
      rw [hx, Option.none_or] at h
      intro x hx
      by_cases he : CiEq (normalize named) (normalize email)
      · rw [if_pos he] at h
        have hid : s.val.seq = i := h
        have hlt := s.ok.drawn.identity x hx
        omega
      · rw [if_neg he] at h
        exact h x (by rw [hs']; exact List.mem_append_left _ hx)

theorem arrives_upsertIdentity (arrivals : List Arrival) (email : String) :
    Moves (Arrives arrivals) (exec .databaseError fun w => w.upsertIdentity (normalize email) :
      EStateM PyError State Unit) := by
  refine moves_exec fun s hok => ?_
  have hmap : (s.val.upsertIdentity (normalize email)).userTenantMap = s.val.userTenantMap := by
    unfold World.upsertIdentity
    cases s.val.identityByEmail (normalize email) <;> rfl
  exact ⟨joins_of_same hmap, ofEmail_upsertIdentity rfl,
    fun m hm => .inl ⟨m, hmap ▸ hm, m.sameEdge_refl⟩⟩

theorem arrives_getOrCreateIdentity (arrivals : List Arrival) (email : String) :
    Moves (Arrives arrivals) (getOrCreateIdentity email).seq := by
  unfold getOrCreateIdentity
  rw [Proc.seq_once]
  refine moves_bind (arrives_upsertIdentity arrivals email) fun _ => moves_bind (moves_query _) ?_
  intro row
  cases row with
  | none => exact moves_throw _
  | some row => exact moves_pure _

/-- The identity that is returned is the email's. -/
theorem ofEmail_getOrCreateIdentity {email : String} {s s' : State} {row : IdentityRow}
    (h : (getOrCreateIdentity email).seq s = .ok row s') : s'.val.OfEmail email row.id := by
  unfold getOrCreateIdentity at h
  rw [Proc.seq_once] at h
  obtain ⟨_, t, -, h⟩ := bind_eq_ok.1 h
  rw [query_bind] at h
  unfold World.OfEmail
  cases hrow : t.val.identityByEmail (normalize email) with
  | none =>
    rw [hrow] at h
    cases h
  | some found =>
    rw [hrow] at h
    obtain ⟨rfl, rfl⟩ := pure_eq_ok.1 h
    rw [hrow]

/-- The row that an upsert adds is of the email and its identity. -/
theorem arrives_upsertMembership {email tenantId role : String} {identityId : Nat} {s s' : State}
    (hof : s.val.OfEmail email identityId)
    (hs' : s'.val = s.val.upsertMembership identityId (normalize email) tenantId role) :
    Arrives [⟨email, tenantId⟩] s s' := by
  have hidentities : s'.val.identities = s.val.identities := by
    rw [hs']
    unfold World.upsertMembership
    split_ifs <;> rfl
  by_cases hthere : s.val.userTenantMap.any fun m => CiEq m.email (normalize email) ∧
    m.tenantId = tenantId
  · have hmap : s'.val.userTenantMap = updateWhere
        (fun m => CiEq m.email (normalize email) ∧ m.tenantId = tenantId)
        (fun m => { m with role := role, updatedAt := s.val.now }) s.val.userTenantMap := by
      rw [hs', World.upsertMembership, if_pos hthere]
    have hjoins : Joins s s' := joins_of_updateWhere
      (f := fun m => { m with role := role, updatedAt := s.val.now })
      (fun _ => ⟨rfl, rfl, rfl, rfl, rfl⟩) hmap
    refine ⟨hjoins, fun _ _ => ofEmail_of_same hidentities, fun m' hm' => .inl ?_⟩
    rcases cases_of_mem_updateWhere (hmap ▸ hm') with ⟨hm, -⟩ | ⟨m, hm, -, rfl⟩
    · exact ⟨m', hm, m'.sameEdge_refl⟩
    · exact ⟨m, hm, rfl, rfl, rfl, rfl, rfl⟩
  · have hmap : s'.val.userTenantMap = s.val.userTenantMap ++ [
        { identityId := identityId, email := normalize email, tenantId := tenantId, role := role
          status := .active, updatedAt := s.val.now, lastActiveAt := none, isDefault :=
            false }] := by
      rw [hs', World.upsertMembership, if_neg hthere]
    refine ⟨⟨fun m hm => ⟨m, ?_, m.sameEdge_refl⟩, fun m hm => ?_⟩,
      fun _ _ => ofEmail_of_same hidentities, fun m hm => ?_⟩
    · exact hmap ▸ List.mem_append_left _ hm
    · rcases List.mem_append.1 (hmap ▸ hm) with hm | hm
      · exact .inl ⟨m, hm, m.sameEdge_refl⟩
      · rw [List.mem_singleton.1 hm]
        exact .inr ⟨rfl, rfl⟩
    · rcases List.mem_append.1 (hmap ▸ hm) with hm | hm
      · exact .inl ⟨m, hm, m.sameEdge_refl⟩
      · obtain rfl := List.mem_singleton.1 hm
        refine .inr ⟨⟨email, tenantId⟩, List.mem_cons_self, ?_, ?_, hof⟩
        · dsimp only
          rfl
        · rfl

/-- An upsert adds at most the membership of its email in its school. -/
theorem arrives_upsertUserTenantMap (email tenantId role : String) :
    Moves (Arrives [⟨email, tenantId⟩]) (upsertUserTenantMap email tenantId role).seq := by
  intro s
  unfold upsertUserTenantMap
  rw [Proc.seq_bind]
  have hidentity := arrives_getOrCreateIdentity [⟨email, tenantId⟩] email s
  refine moves_bind_of_ok hidentity fun row t hok => ?_
  rw [after_ok hok] at hidentity
  refine trans_of (Arrives _) hidentity ?_
  rw [Proc.seq_bind, stmt, Proc.seq_once]
  refine moves_bind_of_ok ?_ fun _ t' hok' => trans_of (Arrives _) (b := t') ?_ ?_
  · refine after_exec_ind (refl_of (Arrives _) t) fun t' ht' => ?_
    exact arrives_upsertMembership (ofEmail_getOrCreateIdentity hok) ht'
  · exact arrives_upsertMembership (ofEmail_getOrCreateIdentity hok) (exec_eq_ok.1 hok')
  · rw [stmt, Proc.seq_once]
    exact arrives_exec (f := fun w => w.invalidate email) (fun _ => rfl) (fun _ => rfl) t'

/-! ## Logins -/

open AuthService

section Login

variable {arrivals : List Arrival}

theorem arrives_stmt {f : World → World} (hidentities : ∀ w, (f w).identities = w.identities)
    (hmap : ∀ w, (f w).userTenantMap = w.userTenantMap) :
    Moves (Arrives arrivals) (stmt f).seq := by
  rw [stmt, Proc.seq_once]
  exact arrives_exec hidentities hmap

theorem arrives_draw : Moves (Arrives arrivals) draw.seq := by
  rw [draw, Proc.seq_once]
  exact moves_bind (moves_query _) fun _ =>
    moves_bind (arrives_exec (fun _ => rfl) fun _ => rfl) fun _ => moves_pure _

theorem arrives_look {α : Type} (f : State → α) :
    Moves (Arrives arrivals) (Proc.look f : Task α).seq := by
  rw [Proc.seq_look]
  exact moves_query f

theorem arrives_getDbPool (tenantId : String) :
    Moves (Arrives arrivals) (getDbPool tenantId).seq := by
  rw [getDbPool, Proc.seq_once]
  exact arrives_openPool arrivals tenantId

theorem arrives_createUser (tenantId email hash role : String) :
    Moves (Arrives arrivals) (createUser tenantId email hash role).seq := by
  have hc := Proc.compositional_moves (S := Arrives arrivals) (μ := Mark) (ε := PyError)
  refine hc.bind (hc.failIf _ _) fun _ => ?_
  rw [insertUser, Proc.seq_once]
  exact moves_bind (moves_query _) fun _ =>
    moves_bind (arrives_exec (fun _ => rfl) fun _ => rfl) fun _ => moves_pure _

variable [Platform]

theorem arrives_newOpaqueToken : Moves (Arrives arrivals) newOpaqueToken.seq :=
  (Proc.compositional_moves (S := Arrives arrivals)).bind arrives_draw fun _ => moves_pure _

theorem arrives_issueSession (userId : Nat) (tenantId role email : String) (roles : List String)
    (identityId : Nat) :
    Moves (Arrives arrivals) (issueSession userId tenantId role email roles identityId).seq := by
  have hc := Proc.compositional_moves (S := Arrives arrivals) (μ := Mark) (ε := PyError)
  refine hc.bind (hc.bind (arrives_look _) fun _ => hc.ret _) fun _ => hc.bind ?_ fun _ => hc.ret _
  refine hc.bind arrives_newOpaqueToken fun _ => hc.bind arrives_draw fun _ => ?_
  refine hc.bind (hc.bind (arrives_look _) fun _ => hc.ret _) fun _ => hc.bind ?_ fun _ => hc.ret _
  exact arrives_stmt (fun _ => rfl) fun _ => rfl

theorem arrives_completeLogin (chosen : Candidate) (email : String) :
    Moves (Arrives (arrivalAt email chosen.school)) (completeLogin chosen email).seq := by
  obtain ⟨tenantId, record⟩ := chosen
  have hc := Proc.compositional_moves (μ := Mark) (ε := PyError)
    (S := Arrives (arrivalAt email (Candidate.school ⟨tenantId, record⟩)))
  refine hc.bind (arrives_getOrCreateIdentity _ email) fun identity => ?_
  cases record with
  | superAdmin a => exact arrives_issueSession _ _ _ _ _ _
  | parent parent =>
    refine hc.bind (arrives_look _) fun _ => hc.bind (hc.failIf _ _) fun _ => ?_
    refine hc.bind (arrives_getDbPool _) fun _ => hc.bind (arrives_look _) fun localUser => ?_
    refine hc.bind ?_ fun _ => hc.bind (arrives_upsertUserTenantMap _ _ _) fun _ =>
      arrives_issueSession _ _ _ _ _ _
    cases localUser with
    | none => exact arrives_createUser _ _ _ _
    | some user => exact hc.ret _
  | tenantUser user =>
    exact hc.bind (arrives_upsertUserTenantMap _ _ _) fun _ => arrives_issueSession _ _ _ _ _ _

/-- Of a candidate whose password is not accepted, nothing comes. -/
theorem arrives_loginCandidate (email password : String) (chosen : Option Candidate) :
    Moves
      (Arrives
      (arrivalAt email ((chosen.filter fun c => c.accepts password).bind Candidate.school)))
      (loginCandidate email password chosen).seq := by
  cases chosen with
  | none => exact moves_throw _
  | some chosen =>
    refine Proc.compositional_moves.failIf_bind fun haccepts => ?_
    rw [Option.filter_some_pos (by simpa using haccepts)]
    exact Proc.compositional_moves.bind (arrives_completeLogin chosen email) fun _ => moves_pure _

theorem arrives_loginMatched (email : String) (matched : List Candidate) :
    Moves (Arrives (arrivalAt email ((onlyOne matched).bind Candidate.school)))
      (loginMatched email matched).seq := by
  have hc := Proc.compositional_moves (μ := Mark) (ε := PyError)
    (S := Arrives (arrivalAt email ((onlyOne matched).bind Candidate.school)))
  match matched with
  | [] => exact hc.fail _
  | [chosen] => exact hc.bind (arrives_completeLogin chosen email) fun _ => hc.ret _
  | _ :: _ :: _ =>
    refine hc.bind (arrives_getOrCreateIdentity _ email) fun _ => ?_
    refine hc.bind arrives_newOpaqueToken fun _ => hc.bind (arrives_look _) fun _ => ?_
    exact hc.bind (arrives_stmt (fun _ => rfl) fun _ => rfl) fun _ => hc.ret _

/-- **A login arrives** where the state before says. -/
theorem arrives_loginUser (email password : String) (tenantId : Option String) (s : State) :
    Arrives (arrivalAt (normalize email) (s.val.loginSchool (normalize email) password tenantId))
      s (after (loginUser email password tenantId).seq s) := by
  obtain ⟨_, _, hfound, rfl, rfl⟩ := enumerateLoginTenants_reaches (normalize email) s
  unfold loginUser World.loginSchool World.loginChosen
  rw [Proc.seq_bind, after_bind_ok hfound]
  dsimp only
  generalize s.val.loginTenants (normalize email) = found
  cases Text.nonEmpty tenantId with
  | some t =>
    dsimp only [loginNamed]
    rw [Proc.seq_bind, Proc.seq_failIf, after_raiseIf_bind]
    by_cases ht : t ∈ found.tenantIds
    · rw [if_neg (not_not.2 ht), if_pos ht, Proc.seq_bind]
      obtain ⟨_, s', hok, rfl, hprepares⟩ := fetchLoginCandidate_reaches (normalize email) t found s
      rw [after_bind_ok hok]
      exact trans_of (Arrives _) (arrives_of_prepares _ hprepares) (arrives_loginCandidate _ _ _ s')
    · rw [if_pos ht, if_neg ht]
      exact refl_of (Arrives _) s
  | none =>
    dsimp only [loginUnnamed]
    split_ifs with hnone
    · rw [Proc.seq_bind]
      obtain ⟨_, s', hok, rfl, hprepares⟩ := scanTenants_reaches (normalize email) s.val.tenants s
      have hscan : (legacyScanForCandidate (normalize email)).seq s =
          .ok (s.val.scannedCandidate (normalize email) s.val.tenants) s' := by
        unfold legacyScanForCandidate getAllTenants read
        rw [Proc.seq_bind, Proc.seq_look, query_bind]
        exact hok
      rw [after_bind_ok hscan]
      refine trans_of (Arrives _) (arrives_of_prepares _ hprepares) ?_
      cases s.val.scannedCandidate (normalize email) s.val.tenants with
      | none => exact refl_of (Arrives _) s'
      | some c => exact arrives_loginCandidate _ _ (some c) s'
    · unfold loginEverywhere
      rw [Proc.seq_bind]
      obtain ⟨_, s', hok, rfl, hprepares⟩ := loginCandidates_reaches (normalize email) found s
      rw [after_bind_ok hok, Proc.seq_bind]
      refine trans_of (Arrives _) (arrives_of_prepares _ hprepares) ?_
      obtain ⟨_, t, hmatched, rfl, hval⟩ := verifyCandidatesPadded_reaches
        ((s.val.loginCandidates (normalize email) found).filterMap id) password s'
      rw [after_bind_ok hmatched]
      refine trans_of (Arrives _) (arrives_of_same _ ?_ ?_) (arrives_loginMatched _ _ t)
      · rw [hval]
      · rw [hval]

end Login

/-! ## Requests -/

/-- The school in which a parent of the single sign-on gets an account. -/
def parentSchool (c : Caller) (r : Resolution) : Option String :=
  if r.role = "parent" ∧ c.email ≠ "" ∧ c.isKeycloak then some r.tenantId else none

namespace World

variable (w : World)

/-- The school of the invitation that the last resort finds. -/
def invitedSchool (c : Caller) (r : Resolution) : Option String :=
  if needsLastResort c r then (w.lastResort c.email r).2.map Authz.Membership.tenantId else none

/-- The first school in whose table the email is, where every table is searched. -/
def scannedSchool (c : Caller) (r : Resolution) : Option String :=
  if needsScan c r then w.schoolByTable c.email w.tenants else none

/-- The school in whose table the user is created. -/
def provisionedSchool (c : Caller) (switched : Bool) (r : Resolution) : Option String :=
  if c.email ≠ "" ∧ w.reachable r.tenantId ∧ w.rowIn c.email r.tenantId = none ∧ switched = false ∧
      c.isSuperAdmin = false then some r.tenantId
  else none

/-- The schools in which the user of a request is created. -/
def accountSchools (c : Caller) (switched : Bool) (r : Resolution) : List String :=
  (w.provisionedSchool c switched r).toList ++
    ((w.placedIn c switched r).bind (parentSchool c)).toList

/-- The schools that the resolution of a request adds to the caller's. -/
def schoolsReached (c : Caller) (selection : Option String) (r : Resolution) : List String :=
  (w.invitedSchool c r).toList ++
    match chosen c selection (w.lookedUp c r) with
    | none => []
    | some (r, switched) => (w.scannedSchool c r).toList ++
        match settled c (w.searched c r) with
        | none => []
        | some r => w.accountSchools c switched r

/-- Where a request arrives. -/
def requestArrivals (request : HttpRequest) : List Arrival :=
  match w.claimsOf request.credentials with
  | none => []
  | some (claims, isKeycloak) =>
    (w.schoolsReached (w.callerOf claims isKeycloak) request.selection
      (w.recognised claims isKeycloak)).map fun t => ⟨claims.emailOr, t⟩

end World

omit [Unicode] in
theorem mem_arrivalAt {email : String} {school : Option String} {a : Arrival} :
    a ∈ arrivalAt email school ↔ ∃ t ∈ school, ⟨email, t⟩ = a := by
  unfold arrivalAt
  simp

theorem arrives_upsertMap (email : String) (m : Option Authz.Membership) :
    Moves (Arrives (arrivalAt email (m.map Authz.Membership.tenantId))) (upsertMap email m) := by
  cases m with
  | none => exact moves_pure ()
  | some m => exact arrives_upsertUserTenantMap email m.tenantId m.role

theorem arrives_decodeCredentials (arrivals : List Arrival) (c : Option Credentials) :
    Moves (Arrives arrivals) (decodeCredentials c) := by
  match c with
  | none => exact moves_throw _
  | some .invalid => exact moves_throw _
  | some (.keycloak claims) => exact moves_pure _
  | some (.internal token) =>
    exact moves_bind (moves_query _) fun _ => moves_bind (moves_raiseIf _ _) fun _ => moves_pure _

theorem arrives_tryLastResort (c : Caller) (r : Resolution) (s : State) :
    Arrives (arrivalAt c.email (s.val.invitedSchool c r)) s (after (tryLastResort c r) s) := by
  unfold tryLastResort World.invitedSchool
  split_ifs with h
  · unfold ask
    rw [after_query_bind, after_bind_idle fun _ _ => rfl]
    exact moves_ignoring (arrives_upsertMap _ _) s
  · exact refl_of (Arrives _) s

theorem arrives_applySelection (arrivals : List Arrival) (c : Caller) (selection : Option String)
    (r : Resolution) : Moves (Arrives arrivals) (applySelection c selection r) := by
  unfold applySelection
  cases selection.filter fun t => Text.strip t ≠ "" with
  | none => exact moves_pure _
  | some t =>
    dsimp only
    unfold selectTenant
    split_ifs
    · exact moves_pure _
    · cases c.memberships.find? (selected (Text.lower (Text.strip t))) with
      | none => exact moves_throw _
      | some m => exact moves_pure _

theorem Steady.schoolByTable {s s' : State} (h : Steady s s') (email : String)
    (tenants : List TenantRow) :
    s'.val.schoolByTable email tenants = s.val.schoolByTable email tenants := by
  induction tenants with
  | nil => rfl
  | cons t ts ih =>
    unfold World.schoolByTable
    rw [h.rowIn, ih]

theorem arrives_scanUsers (email : String) (r : Resolution) (tenants : List TenantRow) (s : State) :
    Arrives (arrivalAt email (s.val.schoolByTable email tenants)) s
      (after (scanUsers email r tenants) s) := by
  induction tenants generalizing s with
  | nil => exact refl_of (Arrives _) s
  | cons t ts ih =>
    unfold scanUsers World.schoolByTable
    by_cases ht : t.tenantId = ""
    · rw [if_pos ht, if_neg fun h => h.1 ht]
      exact ih s
    · rw [if_neg ht]
      obtain ⟨found, s', hok, hfound, hsteady⟩ := lookInto_reaches email t.tenantId s
      rw [after_bind_ok hok, hfound]
      have hlook : ∀ arrivals, Arrives arrivals s s' := fun arrivals => by
        have hmoves : Moves (Arrives arrivals) (attempt (lookInto email t.tenantId)) :=
          moves_rescue (moves_map (moves_bind (arrives_openPool arrivals _) fun _ => moves_query _))
            fun _ => moves_pure _
        exact after_ok hok ▸ hmoves s
      cases hrow : s.val.rowIn email t.tenantId with
      | none =>
        rw [if_neg (by simp)]
        have hrest := ih s'
        rw [hsteady.schoolByTable] at hrest
        exact trans_of (Arrives _) (hlook _) hrest
      | some u =>
        rw [if_pos ⟨ht, rfl⟩]
        refine trans_of (Arrives _) (hlook _) ?_
        unfold foundIn
        exact moves_bind (moves_ignoring (arrives_upsertMap email (some ⟨t.tenantId, _⟩)))
          (fun _ => moves_pure _) s'

theorem arrives_tryScan (c : Caller) (r : Resolution) (s : State) :
    Arrives (arrivalAt c.email (s.val.scannedSchool c r)) s (after (tryScan c r) s) := by
  unfold tryScan World.scannedSchool needsScan
  by_cases h : unresolved r.tenantId ∧ c.email ≠ "" ∧ c.isSuperAdmin = false ∧
      c.orgAmbiguous = false ∧ c.memberships = []
  · rw [if_pos h, if_pos (decide_eq_true h)]
    unfold ask
    rw [after_query_bind]
    exact arrives_scanUsers c.email r s.val.tenants s
  · rw [if_neg h, if_neg (by simpa using h)]
    exact refl_of (Arrives _) s

/-- Creating the user adds the membership of the school at most. -/
theorem arrives_provision (email : String) (r : Resolution) :
    Moves (Arrives [⟨email, r.tenantId⟩]) (provision email r) := by
  refine moves_bind ?_ fun created => moves_bind ?_ fun localId => ?_
  · refine moves_bind (moves_query _) fun there => ?_
    split_ifs
    · exact moves_pure _
    · exact moves_bind (moves_query _) fun _ =>
        moves_bind (arrives_exec (fun _ => rfl) fun _ => rfl) fun _ => moves_pure _
  · cases created with
    | some id => exact moves_pure _
    | none => exact moves_bind (moves_query _) fun _ => moves_pure _
  · cases localId with
    | none => exact moves_pure _
    | some id =>
      exact moves_bind (moves_ignoring (arrives_upsertMap email (some ⟨r.tenantId, r.role⟩)))
        fun _ => moves_pure _

theorem arrives_readUser (c : Caller) (switched : Bool) (r : Resolution) (s : State) :
    Arrives (arrivalAt c.email (s.val.provisionedSchool c switched r)) s
      (after (readUser c switched r) s) := by
  have hrefuse : ∀ (x : Option (Option Resolution)) (t : State),
      after (refuseSelection (x.getD (some r))) t = t := by
    intro x t
    cases x.getD (some r) <;> rfl
  unfold readUser
  split_ifs with hskip
  · exact refl_of (Arrives _) s
  rw [after_bind_idle hrefuse, after_attempt]
  unfold lookUpUser
  refine moves_bind_of_ok (arrives_openPool _ _ s) fun _ t hok => ?_
  have hopen : ∀ arrivals, Arrives arrivals s t := fun arrivals =>
    after_ok hok ▸ arrives_openPool arrivals r.tenantId s
  refine trans_of (Arrives _) (hopen _) ?_
  have hreach : s.val.reachable r.tenantId = true := by
    by_contra hne
    exact (openPool_raises (by simpa using hne)).not_ok hok
  obtain ⟨_, t', hok', -, husers⟩ := openPool_reaches hreach
  rw [hok] at hok'
  cases hok'
  have hrow : t.val.localUser r.tenantId (Text.strip c.email) = s.val.rowIn c.email r.tenantId := by
    unfold World.localUser World.rowIn
    rw [husers, if_pos hreach]
  unfold ask
  rw [after_query_bind]
  dsimp only
  rw [hrow]
  unfold World.provisionedSchool
  cases hfound : s.val.rowIn c.email r.tenantId with
  | some u => exact refl_of (Arrives _) t
  | none =>
    dsimp only [resolveUser]
    by_cases hswitched : switched = true
    · rw [if_pos hswitched]
      exact refl_of (Arrives _) t
    by_cases hsuper : c.isSuperAdmin = true
    · rw [if_neg hswitched, if_pos hsuper]
      exact refl_of (Arrives _) t
    · have hnew : c.email ≠ "" ∧ s.val.reachable r.tenantId = true ∧
          (none : Option UserRow) = none ∧ switched = false ∧ c.isSuperAdmin = false :=
        ⟨fun h => hskip (.inl h), hreach, rfl, by simpa using hswitched, by simpa using hsuper⟩
      rw [if_neg hswitched, if_neg hsuper, if_pos hnew, after_map]
      exact arrives_provision c.email r t

theorem arrives_ensureParent (c : Caller) (r : Resolution) :
    Moves (Arrives (arrivalAt c.email (parentSchool c r))) (ensureParent c r) := by
  unfold ensureParent parentSchool
  split_ifs with hparent
  · refine moves_bind (moves_rescue (moves_map ?_) fun _ => moves_pure _) fun localId => ?_
    · refine moves_bind ?_ fun parentId => moves_bind ?_ fun _ => ?_
      · refine moves_bind (moves_query _) fun row => ?_
        cases row with
        | some p => exact moves_pure _
        | none =>
          exact moves_bind (moves_query _) fun _ =>
            moves_bind (arrives_exec (fun _ => rfl) fun _ => rfl) fun _ => moves_pure _
      · exact moves_bind (moves_query _) fun _ =>
          moves_onlyIf fun _ => arrives_exec (fun _ => rfl) fun _ => rfl
      · refine moves_bind (arrives_openPool _ _) fun _ => moves_bind (moves_query _) fun there => ?_
        cases there with
        | some u => exact moves_pure _
        | none =>
          exact moves_bind (moves_query _) fun _ =>
            moves_bind (arrives_exec (fun _ => rfl) fun _ => rfl) fun _ => moves_pure _
    · cases localId with
      | none => exact moves_pure _
      | some id =>
        exact moves_bind (moves_ignoring (arrives_upsertMap c.email (some ⟨r.tenantId, "parent"⟩)))
          fun _ => moves_pure _
  · exact moves_pure _

theorem Arrives.among {email : String} {school : Option String} {s s' : State}
    (h : Arrives (arrivalAt email school) s s') (schools : List String)
    (hsub : ∀ t ∈ school, t ∈ schools) :
    Arrives (schools.map fun t => ⟨email, t⟩) s s' :=
  h.mono fun a ha => by
    obtain ⟨t, ht, rfl⟩ := mem_arrivalAt.1 ha
    exact List.mem_map_of_mem (hsub t ht)

theorem Steady.placedIn {s s' : State} (h : Steady s s') (c : Caller) (switched : Bool)
    (r : Resolution) :
    s'.val.placedIn c switched r = s.val.placedIn c switched r := by
  unfold World.placedIn
  rw [h.reachable, h.rowIn]

theorem Steady.accountSchools {s s' : State} (h : Steady s s') (c : Caller) (switched : Bool)
    (r : Resolution) : s'.val.accountSchools c switched r = s.val.accountSchools c switched r := by
  unfold World.accountSchools World.provisionedSchool
  rw [h.reachable, h.rowIn, h.placedIn]

variable [Platform]

/-- The user's account is created in the school of the request. -/
theorem arrives_resolveAccount (c : Caller) (switched : Bool) (r : Resolution) (s : State) :
    Arrives ((s.val.accountSchools c switched r).map fun t => ⟨c.email, t⟩) s
      (after (resolveAccount c switched r) s) := by
  have hread := (arrives_readUser c switched r s).among (s.val.accountSchools c switched r)
    fun t ht => List.mem_append_left _ (Option.mem_toList.2 ht)
  refine moves_bind_of_ok hread fun r₂ t hok => ?_
  rw [after_ok hok] at hread
  obtain ⟨r₁, hplaced, halike⟩ := (readUser_answers c switched r s).of_ok hok
  have hparent : parentSchool c r₂ = parentSchool c r₁ := by
    unfold parentSchool
    rw [halike.role, halike.tenantId]
  have hensure := (arrives_ensureParent c r₂ t).among (s.val.accountSchools c switched r)
    fun x hx => by
      refine List.mem_append_right _ (Option.mem_toList.2 ?_)
      rw [hplaced, Option.bind_some, ← hparent]
      exact hx
  refine trans_of (Arrives _) hread (moves_bind_of_ok hensure fun r₃ t' hok' => ?_)
  rw [after_ok hok'] at hensure
  refine trans_of (Arrives _) hensure ?_
  exact moves_bind (moves_bind (moves_query _) fun _ => moves_raiseIf _ _)
    (fun _ => moves_pure _) t'

/-- The schools of a caller, from the state in which they are looked for. -/
theorem arrives_resolveTenant (c : Caller) (selection : Option String) (r : Resolution)
    (s : State) :
    Arrives ((s.val.schoolsReached c selection r).map fun t => ⟨c.email, t⟩) s
      (after (resolveTenant c selection r >>= fun x => resolveAccount c x.2 x.1) s) := by
  have hlast := (arrives_tryLastResort c r s).among (s.val.schoolsReached c selection r)
    fun t ht => List.mem_append_left _ (Option.mem_toList.2 ht)
  unfold resolveTenant
  simp only [bind_assoc, pure_bind]
  obtain ⟨_, s₁, hok, rfl, hhealed⟩ := tryLastResort_reaches c r s
  rw [after_ok hok] at hlast
  rw [after_bind_ok hok]
  refine trans_of (Arrives _) hlast ?_
  have hselect : ∀ arrivals, Arrives arrivals s₁
      (after (applySelection c selection (s.val.lookedUp c r)) s₁) :=
    fun arrivals => arrives_applySelection arrivals c selection _ s₁
  refine moves_bind_of_ok (hselect _) fun x s₂ hok₂ => ?_
  rw [after_ok hok₂] at hselect
  refine trans_of (Arrives _) (hselect _) ?_
  obtain ⟨⟨r₁, switched⟩, hchosen, rfl, hsteady, hsame⟩ :=
    (applySelection_answers c selection _ s₁).of_ok hok₂
  have hreached : s.val.schoolsReached c selection r = (s.val.invitedSchool c r).toList ++
      ((s.val.scannedSchool c r₁).toList ++
        match settled c (s.val.searched c r₁) with
        | none => []
        | some r => s.val.accountSchools c switched r) := by
    unfold World.schoolsReached
    rw [hchosen]
  have htenants : needsScan c r₁ = true → s₂.val.tenants = s.val.tenants := fun hscan => by
    simp only [needsScan, decide_eq_true_eq] at hscan
    rw [← hsame hscan.2.2.1, hhealed.tenants]
  have hsteady' : Steady s s₂ := trans_of Steady hhealed.toSteady hsteady
  have hsearched : s₂.val.searched c r₁ = s.val.searched c r₁ := by
    unfold World.searched
    split_ifs with hscan
    · rw [htenants hscan]
      exact hsteady'.scanned _ _ _
    · rfl
  have hscanned : s₂.val.scannedSchool c r₁ = s.val.scannedSchool c r₁ := by
    unfold World.scannedSchool
    split_ifs with hscan
    · rw [htenants hscan]
      exact hsteady'.schoolByTable _ _
    · rfl
  have hscan := (arrives_tryScan c r₁ s₂).among (s.val.schoolsReached c selection r)
    fun t ht => by
      rw [hreached, ← hscanned]
      exact List.mem_append_right _ (List.mem_append_left _ (Option.mem_toList.2 ht))
  dsimp only
  obtain ⟨_, s₃, hok₃, rfl, hsteady₃⟩ := tryScan_reaches c r₁ s₂
  rw [after_ok hok₃] at hscan
  rw [after_bind_ok hok₃]
  refine trans_of (Arrives _) hscan ?_
  rw [hsearched]
  have hfail := failClosed_answers c (s.val.searched c r₁) s₃
  cases hsettled : settled c (s.val.searched c r₁) with
  | none =>
    rw [hsettled] at hfail
    obtain ⟨e, t, herr⟩ := hfail
    have hclosed : t = s₃ := by
      have hafter := after_error herr
      unfold failClosed at hafter
      split_ifs at hafter <;> exact hafter.symm
    rw [after_bind_error herr, hclosed]
    exact refl_of (Arrives _) s₃
  | some r₂ =>
    rw [hsettled] at hfail
    obtain ⟨y, _, hok₄, hy, rfl⟩ := hfail
    rw [after_bind_ok hok₄, hy]
    refine (arrives_resolveAccount c switched r₂ s₃).mono fun a ha => ?_
    rw [(trans_of Steady hsteady' hsteady₃).accountSchools] at ha
    rw [hreached, hsettled, List.map_append, List.map_append]
    exact List.mem_append_right _ (List.mem_append_right _ ha)

omit [Platform] in
/-- What is reached does not depend on the cache, once the memberships are known. -/
theorem Cached.schoolsReached {s s' : State} (h : Cached s s') (c : Caller)
    (selection : Option String)
    (r : Resolution) :
    s'.val.schoolsReached c selection r = s.val.schoolsReached c selection r := by
  obtain ⟨cache, hval⟩ := id h
  have htenants : s'.val.tenants = s.val.tenants := by rw [hval]
  have hinvited : s'.val.invitedSchool c r = s.val.invitedSchool c r := by
    rw [hval]
    rfl
  have hlooked : s'.val.lookedUp c r = s.val.lookedUp c r := by
    rw [hval]
    rfl
  unfold World.schoolsReached World.scannedSchool World.searched
  rw [hinvited, hlooked, htenants]
  simp only [h.steady.schoolByTable, h.steady.scanned, h.steady.accountSchools]

/-- **A request arrives** where the state before says. -/
theorem arrives_getCurrentUser (request : HttpRequest) (s : State) :
    Arrives (s.val.requestArrivals request) s (after (getCurrentUser request) s) := by
  have hdecode := decodeCredentials_answers request.credentials s
  unfold getCurrentUser World.requestArrivals
  cases hclaims : s.val.claimsOf request.credentials with
  | none =>
    rw [hclaims] at hdecode
    obtain ⟨e, t, herr⟩ := hdecode
    rw [after_bind_error herr]
    exact after_error herr ▸ arrives_decodeCredentials [] request.credentials s
  | some x =>
    rw [hclaims] at hdecode
    obtain ⟨⟨claims, isKeycloak⟩, _, hok, rfl, rfl⟩ := hdecode
    rw [after_bind_ok hok]
    dsimp only
    obtain ⟨_, s₁, hidentify, rfl, hcached⟩ := identify_reaches claims isKeycloak s
    rw [after_bind_ok hidentify]
    have hcache :
        Arrives ((s.val.schoolsReached (s.val.callerOf claims isKeycloak) request.selection
        (s.val.recognised claims isKeycloak)).map fun t => ⟨claims.emailOr, t⟩) s s₁ := by
      obtain ⟨cache, hval⟩ := hcached
      exact arrives_of_same _ (by rw [hval]) (by rw [hval])
    refine trans_of (Arrives _) hcache ?_
    rw [← hcached.schoolsReached]
    exact arrives_resolveTenant (s.val.callerOf claims isKeycloak) request.selection
      (s.val.recognised claims isKeycloak) s₁

end Arrivals

end Sams.Auth
