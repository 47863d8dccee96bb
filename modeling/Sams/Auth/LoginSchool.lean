import Sams.Auth.Candidates

/-!
# Whom a login is completed for

Before it issues anything, a login only opens pools and draws numbers, and neither changes
whose password counts for a tenant. So the candidate that it is completed for, and the
school of this candidate, are functions of the state in which it arrives
(`World.loginChosen`, `World.loginSchool`).

**`loginCandidates_reaches`**: the candidates that a login fetches are those of
the state it started in.
-/

namespace Sams.Auth

open Programs Rows Interleaving AuthService ControlPlaneRepository UserRepository

variable [Unicode]

/-! ## Candidates as functions of the state -/

namespace World

variable (w : World)

/-- What `_enumerate_login_tenants` finds. -/
def loginTenants (email : String) : LoginTenants :=
  let parent := w.parentByEmail email
  let links := match parent with
    | none => []
    | some p => w.tenantsForParent p.id
  ⟨loginTenantIds (w.tenantsForEmail email) links (w.superAdminByEmail email), parent,
    w.superAdminByEmail email⟩

/-- The user of the tenant's own table, where its pool opens. -/
def tenantCandidate (email tenantId : String) : Option Candidate :=
  if w.reachable tenantId then userCandidate tenantId (findUser (w.usersIn tenantId) email)
    else none

/-- The parent, where it is linked, or else the user of the tenant's own table. -/
def linkedCandidate (email tenantId : String) : Option ParentRow → Option Candidate
  | none => w.tenantCandidate email tenantId
  | some parent =>
    if w.linked parent.id tenantId then some ⟨tenantId, .parent parent⟩
    else w.tenantCandidate email tenantId

/-- The account whose password counts for a tenant. -/
def candidate (email tenantId : String) (found : LoginTenants) : Option Candidate :=
  match found.superAdmin with
  | none => w.linkedCandidate email tenantId found.parent
  | some a =>
    if tenantId = "" then some ⟨"", .superAdmin a⟩
    else w.linkedCandidate email tenantId found.parent

/-- The first tenant in whose table the email has a password. -/
def scannedCandidate (email : String) : List TenantRow → Option Candidate
  | [] => none
  | t :: ts =>
    if t.tenantId = "" then scannedCandidate email ts
    else (w.tenantCandidate email t.tenantId).or (scannedCandidate email ts)

end World

/-- A single match. -/
def onlyOne : List Candidate → Option Candidate
  | [chosen] => some chosen
  | _ => none

namespace World

variable [Platform] (w : World)

/-- The accounts that the password is compared with, of those that are listed. -/
def loginCandidates (email : String) (found : LoginTenants) : List (Option Candidate) :=
  ((Platform.listed found.tenantIds).take 8).map fun t => w.candidate email t found

/-- The account that a login is completed for. -/
def loginChosen (email password : String) (tenantId : Option String) : Option Candidate :=
  let found := w.loginTenants email
  match Text.nonEmpty tenantId with
  | some t =>
    if t ∈ found.tenantIds then (w.candidate email t found).filter fun c =>
      c.accepts password else none
  | none =>
    if found.tenantIds = [] then
      (w.scannedCandidate email w.tenants).filter fun c => c.accepts password
    else
      onlyOne (((w.loginCandidates email found).filterMap id).filter fun c => c.accepts password)

end World

/-- The school of a candidate; a super admin has none. -/
def Candidate.school (c : Candidate) : Option String :=
  match c.record with
  | .superAdmin _ => none
  | _ => some c.tenantId

/-- The school that a login is completed in. -/
def World.loginSchool [Platform] (w : World) (email password : String) (tenantId : Option String) :
    Option String :=
  (w.loginChosen email password tenantId).bind Candidate.school

/-! ## What is fetched -/

section Preparing

variable {w w' : World}

theorem Prepares.tenantCandidate (h : Prepares w w') (email tenantId : String) :
    w'.tenantCandidate email tenantId = w.tenantCandidate email tenantId := by
  unfold World.tenantCandidate World.reachable
  rw [h.unreachable, h.users]

theorem Prepares.linkedCandidate (h : Prepares w w') (email tenantId : String)
    (parent : Option ParentRow) :
    w'.linkedCandidate email tenantId parent = w.linkedCandidate email tenantId parent := by
  unfold World.linkedCandidate World.linked
  rw [h.links, h.tenantCandidate]

theorem Prepares.candidate (h : Prepares w w') (email tenantId : String) (found : LoginTenants) :
    w'.candidate email tenantId found = w.candidate email tenantId found := by
  unfold World.candidate
  rw [h.linkedCandidate]

theorem Prepares.scannedCandidate (h : Prepares w w') (email : String) (tenants : List TenantRow) :
    w'.scannedCandidate email tenants = w.scannedCandidate email tenants := by
  induction tenants with
  | nil => rfl
  | cons t ts ih =>
    unfold World.scannedCandidate
    rw [h.tenantCandidate, ih]

end Preparing

theorem moves_prepares_openPool (tenantId : String) :
    Moves (fun s s' : State => Prepares s.val s'.val) (openPool tenantId) := by
  have : IsPreorder State fun s s' : State => Prepares s.val s'.val :=
    { refl := fun s => prepares_refl s.val, trans := fun _ _ _ h h' => trans_of Prepares h h' }
  refine moves_bind ?_ fun _ => moves_bind (moves_query _) fun _ =>
    moves_bind (moves_raiseIf _ _) fun _ => ?_
  · exact moves_exec fun s _ => World.prepares_register s.val tenantId
  · exact moves_exec fun s _ => World.prepares_initializeTables s.val tenantId

theorem enumerateLoginTenants_reaches (email : String) (s : State) :
    Reaches (fun found s' => found = s.val.loginTenants email ∧ s = s')
      (enumerateLoginTenants email).seq s := by
  refine Proc.reaches_bind (M := fun a s' => a = s.val.superAdminByEmail email ∧ s = s')
    (Proc.reaches_look ⟨rfl, rfl⟩) ?_
  rintro _ _ ⟨rfl, rfl⟩
  refine Proc.reaches_bind (M := fun ms s' => ms = s.val.tenantsForEmail email ∧ s = s')
    (Proc.reaches_look ⟨rfl, rfl⟩) ?_
  rintro _ _ ⟨rfl, rfl⟩
  refine Proc.reaches_bind (M := fun p s' => p = s.val.parentByEmail email ∧ s = s')
    (Proc.reaches_look ⟨rfl, rfl⟩) ?_
  rintro _ _ ⟨rfl, rfl⟩
  unfold World.loginTenants
  cases s.val.parentByEmail email with
  | none => exact Proc.reaches_ret ⟨rfl, rfl⟩
  | some p =>
    refine Proc.reaches_bind (M := fun links s' => links = s.val.tenantsForParent p.id ∧ s = s')
      (Proc.reaches_look ⟨rfl, rfl⟩) ?_
    rintro _ _ ⟨rfl, rfl⟩
    exact Proc.reaches_ret ⟨rfl, rfl⟩

/-- The user of a tenant is that of the state before, and its pool is open. -/
theorem fetchTenantUser_reaches (email tenantId : String) (s : State) :
    Reaches (fun c s' => c = s.val.tenantCandidate email tenantId ∧ Prepares s.val s'.val)
      (fetchTenantUser email tenantId).seq s := by
  unfold World.tenantCandidate
  cases hreach : s.val.reachable tenantId with
  | true =>
    obtain ⟨_, s', hok, hprepares, husers⟩ := openPool_reaches hreach
    refine Proc.reaches_bind (M := fun pool t => pool = some () ∧ s' = t)
      (Proc.reaches_once ⟨_, s', rescue_of_ok (map_eq_ok.2 ⟨(), hok, rfl⟩), rfl, rfl⟩) ?_
    rintro _ _ ⟨rfl, rfl⟩
    refine Proc.reaches_bind (M := fun user t => user = findUser (s.val.usersIn tenantId) email ∧
      s' = t)
      (Proc.reaches_look ⟨?_, rfl⟩) ?_
    · show findUser (s'.val.users tenantId) email = _
      rw [husers]
    · rintro _ _ ⟨rfl, rfl⟩
      exact Proc.reaches_ret ⟨rfl, hprepares⟩
  | false =>
    obtain ⟨e, s', herr⟩ := openPool_raises hreach
    have hprepares : Prepares s.val s'.val := after_error herr ▸ moves_prepares_openPool tenantId s
    refine Proc.reaches_bind (M := fun pool t => pool = none ∧ s' = t)
      (Proc.reaches_once ⟨_, s', rescue_of_error (map_eq_error.2 herr), rfl, rfl⟩) ?_
    rintro _ _ ⟨rfl, rfl⟩
    exact Proc.reaches_ret ⟨rfl, hprepares⟩

theorem fetchParentOrUser_reaches (email tenantId : String) (parent : Option ParentRow)
    (s : State) :
    Reaches (fun c s' => c = s.val.linkedCandidate email tenantId parent ∧ Prepares s.val s'.val)
      (fetchParentOrUser email tenantId parent).seq s := by
  cases parent with
  | none => exact fetchTenantUser_reaches email tenantId s
  | some parent =>
    refine Proc.reaches_bind (M := fun linked s' => linked = s.val.linked parent.id tenantId ∧
      s = s')
      (Proc.reaches_look ⟨rfl, rfl⟩) ?_
    rintro _ _ ⟨rfl, rfl⟩
    dsimp only [World.linkedCandidate]
    cases s.val.linked parent.id tenantId with
    | true => exact Proc.reaches_ret ⟨rfl, prepares_refl s.val⟩
    | false => exact fetchTenantUser_reaches email tenantId s

/-- The candidate of a tenant is that of the state before. -/
theorem fetchLoginCandidate_reaches (email tenantId : String) (found : LoginTenants) (s : State) :
    Reaches (fun c s' => c = s.val.candidate email tenantId found ∧ Prepares s.val s'.val)
      (fetchLoginCandidate email tenantId found.parent found.superAdmin).seq s := by
  unfold World.candidate fetchLoginCandidate
  cases found.superAdmin with
  | none => exact fetchParentOrUser_reaches email tenantId found.parent s
  | some a =>
    dsimp only
    split_ifs
    · exact Proc.reaches_ret ⟨rfl, prepares_refl s.val⟩
    · exact fetchParentOrUser_reaches email tenantId found.parent s

theorem scanTenants_reaches (email : String) (tenants : List TenantRow) (s : State) :
    Reaches (fun c s' => c = s.val.scannedCandidate email tenants ∧ Prepares s.val s'.val)
      (scanTenants email tenants).seq s := by
  induction tenants generalizing s with
  | nil => exact Proc.reaches_ret ⟨rfl, prepares_refl s.val⟩
  | cons t ts ih =>
    unfold scanTenants World.scannedCandidate
    split_ifs
    · exact ih s
    · refine Proc.reaches_bind (fetchTenantUser_reaches email t.tenantId s) ?_
      rintro _ s' ⟨rfl, hprepares⟩
      cases s.val.tenantCandidate email t.tenantId with
      | some candidate => exact Proc.reaches_ret ⟨rfl, hprepares⟩
      | none =>
        refine (ih s').mono fun c s'' h => ⟨?_, trans_of Prepares hprepares h.2⟩
        rw [h.1, hprepares.scannedCandidate]
        rfl

variable [Platform]

/-- **The candidates of a login** are those of the state it started in. -/
theorem loginCandidates_reaches (email : String) (found : LoginTenants) (s : State) :
    Reaches (fun cs s' => cs = s.val.loginCandidates email found ∧ Prepares s.val s'.val)
      (((Platform.listed found.tenantIds).take 8).mapM fun t =>
        fetchLoginCandidate email t found.parent found.superAdmin).seq s := by
  rw [Proc.seq_mapM]
  refine reaches_mapM (I := fun s' : State => Prepares s.val s'.val) (fun t _ s' hs' => ?_)
    (prepares_refl s.val)
  refine (fetchLoginCandidate_reaches email t found s').mono fun c s'' h => ?_
  exact ⟨h.1.trans (hs'.candidate email t found), trans_of Prepares hs' h.2⟩

/-- The passwords that count are those that are accepted. -/
theorem verifyCandidatesPadded_reaches (candidates : List Candidate) (password : String)
    (s : State) :
    Reaches (fun matched s' => matched = candidates.filter (fun c => c.accepts password) ∧
        s'.val = { s.val with seq := s.val.seq + 1 })
      (verifyCandidatesPadded candidates password).seq s := by
  have hok : ({ s.val with seq := s.val.seq + 1 } : World).Ok :=
    { s.ok with
      keys := { s.ok.keys with }
      refs := { s.ok.refs with }
      drawn :=
        { identity := fun i hi => Nat.lt_succ_of_lt (s.ok.drawn.identity i hi)
          refresh := fun r hr => Nat.lt_succ_of_lt (s.ok.drawn.refresh r hr) } }
  refine Proc.reaches_bind (M := fun _ s' => s'.val = { s.val with seq := s.val.seq + 1 }) ?_ ?_
  · refine Proc.reaches_map (Proc.reaches_once ?_)
    refine reaches_bind (M := fun _ s' => s = s') (reaches_query rfl) ?_
    rintro n _ rfl
    exact reaches_bind (M := fun _ s' => s'.val = { s.val with seq := s.val.seq + 1 })
      (reaches_exec hok rfl) fun _ _ h => reaches_pure h
  · intro dummyHash s' h
    exact Proc.reaches_ret ⟨padded_eq_filter candidates _ _, h⟩

end Sams.Auth
