import Sams.Auth.Selection

/-!
# Switching to another school

A token carries the roles that its holder had at home. Where the holder selects another school, the
row of that school's table replaces them, unless the pool of the school does not open, or the role
in the row is none that the program knows: then what the token carries is kept (**`governed_iff`**).
-/

namespace Sams.Auth

open Programs Authz

/-- The token with other roles baked into it. -/
def AccessToken.bearing (token : AccessToken) (role : String) (roles : List String) : AccessToken :=
  { token with role := role, roles := roles }

/-- A request with `X-Tenant-ID`. -/
def switchRequest (token : AccessToken) (selection : String) : HttpRequest :=
  { credentials := some (.internal token), xTenantId := some selection }

/-- A known role replaces what the token carries. -/
theorem withUserRow_known {u : UserRow} (h : u.role ∈ unplaced ∨ u.role ∈ validRoles) :
    ∃ role extracted, ∀ r : Resolution, (withUserRow false true u r).role = role ∧
      (withUserRow false true u r).extracted = extracted := by
  by_cases hunplaced : u.role ∈ unplaced
  · refine ⟨u.role, ["pending"], fun r => ?_⟩
    simp [withUserRow, hunplaced]
  · have hvalid : u.role ∈ validRoles := h.resolve_left hunplaced
    refine ⟨u.role, rowRoles [] u, fun r => ?_⟩
    simp [withUserRow, hunplaced, hvalid]

/-- Any other role leaves the one of the token. -/
theorem withUserRow_unknown {u : UserRow} (hunplaced : u.role ∉ unplaced) (h : u.role ∉ validRoles)
    (r : Resolution) : (withUserRow false true u r).role = r.role := by
  simp [withUserRow, hunplaced, h]

theorem finalRoles_congr [Platform] {r r' : Resolution} (hrole : r.role = r'.role)
    (hextracted : r.extracted = r'.extracted) : finalRoles r = finalRoles r' := by
  unfold finalRoles
  rw [hrole, hextracted]

section Switching

variable [Unicode]

/-- The membership that a selection finds. -/
def World.selectedSchool (w : World) (email selection : String) : Option Membership :=
  (w.membershipsOf email false).find? (selected (Text.lower (Text.strip selection)))

/-- The token is no super admin's, and its email does not lead to the school that is selected. -/
structure Free (w : World) (token : AccessToken) (selection : String) : Prop where
  ordinary : (w.holder token).isSuperAdmin = false
  elsewhere : ∀ m, w.selectedSchool token.email selection = some m →
    m.tenantId ≠ (w.lookedUp (w.holder token) (w.recognised token.claims false)).tenantId

theorem holder_of_ordinary {w : World} {token : AccessToken}
    (h : (w.holder token).isSuperAdmin = false) :
    w.holder token = ⟨token.email, false, false, false, w.membershipsOf token.email false⟩ := by
  unfold World.holder World.callerOf at *
  dsimp only at h
  rw [h, emailOr_claims, orgAmbiguous_claims]

theorem email_of_selected {w : World} {email selection : String} {m : Membership}
    (h : w.selectedSchool email selection = some m) : email ≠ "" := by
  rintro rfl
  cases h

/-- What becomes of a selection with such a token. -/
theorem userOf_switch {w : World} {token : AccessToken} {selection : String}
    (h : Free w token selection) (hstated : Text.strip selection ≠ "") (hexp : w.now < token.exp) :
    w.userOf (switchRequest token selection) =
      (w.selectedSchool token.email selection).bind fun m =>
        if unresolved m.tenantId then none
        else (w.placedIn (w.holder token) true
            { w.lookedUp (w.holder token) (w.recognised token.claims false) with
              tenantId := m.tenantId }).bind fun r' =>
          if w.barred token.email m.tenantId then none else some (w.holder token, r') := by
  have hne : selection ≠ "" := by
    rintro rfl
    exact hstated (by decide)
  have hselection : (switchRequest token selection).selection = some selection := by
    unfold HttpRequest.selection switchRequest
    rw [Text.nonEmpty_some hne]
    rfl
  rw [userOf_internal rfl hexp, hselection, handled_selects h.ordinary hstated]
  have hselects : (w.holder token).selects selection = w.selectedSchool token.email selection := by
    rw [holder_of_ordinary h.ordinary]
    rfl
  rw [hselects]
  refine Option.bind_congr fun m hm => ?_
  have hswitched : decide (m.tenantId ≠ (w.lookedUp (w.holder token)
      (w.recognised token.claims false)).tenantId) = true := decide_eq_true (h.elsewhere m hm)
  rw [hswitched]
  by_cases hunresolved : unresolved m.tenantId = true
  · rw [if_pos hunresolved, if_pos hunresolved]
  · rw [if_neg hunresolved, if_neg hunresolved]
    refine Option.bind_congr fun r' _ => ?_
    have hshut : w.shutOut (w.holder token) m.tenantId = w.barred token.email m.tenantId := by
      unfold World.shutOut
      rw [holder_of_ordinary h.ordinary]
      simp [ne_empty_of_resolved hunresolved, email_of_selected hm]
    rw [hshut]

/-- What the token's holder is placed in, once a school is selected. -/
theorem placedIn_switched (w : World) (c : Caller) (r : Resolution) (hemail : c.email ≠ "") :
    w.placedIn c true r = if w.reachable r.tenantId
      then (w.rowIn c.email r.tenantId).map fun u => withUserRow c.isSuperAdmin true u r
      else some r := by
  unfold World.placedIn
  cases w.reachable r.tenantId with
  | false => simp
  | true =>
    rw [if_neg (by simp [hemail]), if_pos rfl]
    cases w.rowIn c.email r.tenantId <;> rfl

/-- The selection keeps what the token carries: the pool of the school does not open, or the role in
its table is none that the program knows. -/
def Carries (s : State) (token : AccessToken) (selection : String) : Prop :=
  s.val.now < token.exp ∧ ∃ m, s.val.selectedSchool token.email selection = some m ∧
    unresolved m.tenantId = false ∧ s.val.barred token.email m.tenantId = false ∧
      (s.val.reachable m.tenantId = false ∨
        ∃ u, s.val.rowIn token.email m.tenantId = some u ∧ u.role ∉ unplaced ∧ u.role ∉ validRoles)

variable [Platform]

/-- The role and the roles that a request is handled with. -/
def given (s : State) (request : HttpRequest) : Option (String × List String) :=
  (returned (getCurrentUser request) s).map fun u => (u.role, u.roles)

theorem given_eq (s : State) (request : HttpRequest) :
    given s request = (s.val.userOf request).map fun x => (x.2.role, finalRoles x.2) := by
  refine returned_map_eq (fun x u hu => ?_) request s
  have hrole : u.role = x.2.role := congrArg CurrentUser.role hu
  have hroles : u.roles = finalRoles x.2 := congrArg CurrentUser.roles hu
  rw [hrole, hroles]

/-- Whatever is baked into a token, the selected school decides the roles. -/
def Governed (s : State) (token : AccessToken) (selection : String) : Prop :=
  ∀ role roles role' roles', Free s.val (token.bearing role roles) selection →
    Free s.val (token.bearing role' roles') selection →
      given s (switchRequest (token.bearing role roles) selection) =
        given s (switchRequest (token.bearing role' roles') selection)

/-- What a selection that is not refused is handled with, from what the token says (`r`). -/
theorem given_switch {s : State} {token : AccessToken} {selection : String} {m : Membership}
    (h : Free s.val token selection) (hstated : Text.strip selection ≠ "")
    (hexp : s.val.now < token.exp) (hselected : s.val.selectedSchool token.email selection = some m)
    (hresolved : unresolved m.tenantId = false)
    (hopen : s.val.barred token.email m.tenantId = false) :
    ∃ r : Resolution,
      r.role = (s.val.lookedUp (s.val.holder token) (s.val.recognised token.claims false)).role ∧
      given s (switchRequest token selection) =
        (if s.val.reachable m.tenantId
          then (s.val.rowIn token.email m.tenantId).map fun u => withUserRow false true u r
          else some r).map fun r => (r.role, finalRoles r) := by
  have hemail : (s.val.holder token).email = token.email := emailOr_claims token
  have hne : (s.val.holder token).email ≠ "" := by
    rw [hemail]
    exact email_of_selected hselected
  have huser := userOf_switch h hstated hexp
  have hplaced := fun r => placedIn_switched s.val (s.val.holder token) r hne
  rw [hselected, Option.bind_some, if_neg (by simp [hresolved])] at huser
  simp only [hopen, Bool.false_eq_true, if_false, hplaced, hemail, h.ordinary] at huser
  rw [given_eq, huser]
  generalize s.val.lookedUp (s.val.holder token) (s.val.recognised token.claims false) = r
  refine ⟨{ r with tenantId := m.tenantId }, rfl, ?_⟩
  generalize (if s.val.reachable m.tenantId = true then _ else _ : Option Resolution) = placed
  cases placed <;> rfl

/-- A selection that is refused, whatever is baked into the token. -/
theorem given_refused {s : State} {token : AccessToken} {selection : String}
    (h : Free s.val token selection) (hstated : Text.strip selection ≠ "")
    (hrefused : ¬(s.val.now < token.exp ∧ ∃ m, s.val.selectedSchool token.email selection = some m ∧
      unresolved m.tenantId = false ∧ s.val.barred token.email m.tenantId = false)) :
    given s (switchRequest token selection) = none := by
  rw [given_eq]
  by_cases hexp : s.val.now < token.exp
  · rw [userOf_switch h hstated hexp]
    cases hselected : s.val.selectedSchool token.email selection with
    | none => rfl
    | some m =>
      rw [Option.bind_some]
      by_cases hunresolved : unresolved m.tenantId = true
      · rw [if_pos hunresolved]
        rfl
      · have hbarred : s.val.barred token.email m.tenantId = true := by
          by_contra hopen
          exact hrefused ⟨hexp, m, hselected, by simpa using hunresolved, by simpa using hopen⟩
        rw [if_neg hunresolved]
        simp [hbarred]
  · rw [userOf_expired rfl (Nat.le_of_not_lt hexp)]
    rfl

/-- The roles are those of the school's table, where the table is read and its role is known. -/
theorem given_eq_of_not_carries {s : State} {token token' : AccessToken} {selection : String}
    (hstated : Text.strip selection ≠ "") (hemail : token'.email = token.email)
    (hexp : token'.exp = token.exp) (h : Free s.val token selection)
    (h' : Free s.val token' selection) (hcarries : ¬Carries s token selection) :
    given s (switchRequest token selection) = given s (switchRequest token' selection) := by
  by_cases hhandled : s.val.now < token.exp ∧
    ∃ m, s.val.selectedSchool token.email selection = some m ∧
      unresolved m.tenantId = false ∧ s.val.barred token.email m.tenantId = false
  · obtain ⟨hlive, m, hselected, hresolved, hopen⟩ := hhandled
    have hkept := fun h => hcarries ⟨hlive, m, hselected, hresolved, hopen, h⟩
    obtain ⟨r, -, hgiven⟩ := given_switch h hstated hlive hselected hresolved hopen
    rw [← hemail] at hselected hopen
    rw [← hexp] at hlive
    obtain ⟨r', -, hgiven'⟩ := given_switch h' hstated hlive hselected hresolved hopen
    rw [hgiven, hgiven', hemail]
    have hreach : s.val.reachable m.tenantId = true := by
      by_contra hreach
      exact hkept (.inl (by simpa using hreach))
    rw [hreach, if_pos rfl, if_pos rfl, Option.map_map, Option.map_map]
    refine Option.map_congr fun u hu => ?_
    have hknown : u.role ∈ unplaced ∨ u.role ∈ validRoles := by
      by_contra hunknown
      rw [not_or] at hunknown
      exact hkept (.inr ⟨u, hu, hunknown⟩)
    obtain ⟨role, extracted, hsame⟩ := withUserRow_known hknown
    have hrole := (hsame r).1.trans (hsame r').1.symm
    have hroles := finalRoles_congr hrole ((hsame r).2.trans (hsame r').2.symm)
    exact Prod.ext hrole hroles
  · rw [given_refused h hstated hhandled, given_refused h' hstated]
    rw [hemail, hexp]
    exact hhandled

end Switching

section Switching

variable [Unicode]

/-! ## Tokens of a teacher and of a manager -/

/-- A role in plain lower case is what it says. -/
theorem tokenRole_of_ascii {role : String}
    (hascii : (role.toList.all fun c => c.toNat < 128) = true)
    (hclean : Text.strip (String.ofList (role.toList.map Char.toLower)) = role ∧ role ∈ validRoles ∧
      role ∉ ["admin", "administrator", "school_admin"]) : tokenRole (some role) = role := by
  have hlower : Text.lower role = String.ofList (role.toList.map Char.toLower) := if_pos hascii
  unfold tokenRole
  dsimp only
  rw [hlower, hclean.1, if_neg hclean.2.2, if_pos hclean.2.1]

theorem recognise_of_placed {c : Claims} {isKeycloak known : Bool}
    (hplaced : ownRole c isKeycloak ≠ "pending") : recognise c isKeycloak known =
      ⟨c.sub, ownRole c isKeycloak, ownRoles c isKeycloak, c.hintedTenant⟩ := by
  unfold recognise
  exact if_neg fun h => hplaced h.1

/-- A token that carries a role is taken at its word. -/
theorem recognised_of_placed {w : World} {token : AccessToken} {role : String}
    (hrole : tokenRole (some token.role) = role) (hplaced : role ≠ "pending") :
    w.recognised token.claims false =
      ⟨token.sub, role, tokenRoles role token.roles, token.tenantId⟩ := by
  have hown : ownRole token.claims false = role := (if_neg Bool.false_ne_true).trans hrole
  have howns : ownRoles token.claims false = tokenRoles role token.roles := by
    unfold ownRoles
    rw [hown]
    exact congrArg (tokenRoles role) (if_neg Bool.false_ne_true)
  refine (recognise_of_placed (hown ▸ hplaced)).trans ?_
  rw [hown, howns, hintedTenant_claims]
  rfl

/-- Where it has a school and no role that is still open, nothing is looked up. -/
theorem lookedUp_of_placed {w : World} {c : Caller} {r : Resolution}
    (hhome : unresolved r.tenantId = false)
    (hrole : r.role ∉ ["student", "pending"]) : w.lookedUp c r = r := by
  unfold World.lookedUp
  rw [if_neg]
  simp [needsLastResort, hhome, hrole]

theorem free_bearing {w : World} {token : AccessToken} {selection : String} (role : String)
    (hrole : role = "teacher" ∨ role = "manager") (hhome : unresolved token.tenantId = false)
    (hother : ∀ m, w.selectedSchool token.email selection = some m → m.tenantId ≠ token.tenantId) :
    Free w (token.bearing role []) selection ∧ (w.lookedUp (w.holder (token.bearing role []))
      (w.recognised (token.bearing role []).claims false)).role = role := by
  have htoken : tokenRole (some role) = role := by
    rcases hrole with rfl | rfl
    · exact tokenRole_of_ascii (by decide) ⟨by decide, valid_of_named (by decide), by decide⟩
    · exact tokenRole_of_ascii (by decide) ⟨by decide, valid_of_named (by decide), by decide⟩
  have hopen : role ∉ ["student", "pending"] := by
    rcases hrole with rfl | rfl <;> decide
  have hadmin : role ≠ "super_admin" ∧ "super_admin" ∉ tokenRoles role [] := by
    rcases hrole with rfl | rfl <;> decide
  have hrecognised : w.recognised (token.bearing role []).claims false =
      ⟨token.sub, role, tokenRoles role [], token.tenantId⟩ :=
    recognised_of_placed htoken fun h => hopen (by simp [h])
  have hlookedUp : w.lookedUp (w.holder (token.bearing role []))
      (w.recognised (token.bearing role []).claims false) =
        ⟨token.sub, role, tokenRoles role [], token.tenantId⟩ := by
    rw [hrecognised]
    exact lookedUp_of_placed hhome hopen
  rw [hlookedUp]
  refine ⟨⟨?_, fun m hm => ?_⟩, rfl⟩
  · unfold World.holder World.callerOf Resolution.isSuperAdmin
    rw [hrecognised]
    simpa using hadmin
  · rw [hlookedUp]
    exact hother m hm

variable [Platform]

/-- **A switch is governed by the school that is selected**, whatever the token carries,
exactly where nothing of it is kept. -/
theorem governed_iff (s : State) (token : AccessToken) (selection : String)
    (hstated : Text.strip selection ≠ "") (hhome : unresolved token.tenantId = false)
    (hother : ∀ m, s.val.selectedSchool token.email selection = some m →
      m.tenantId ≠ token.tenantId) :
    Governed s token selection ↔ ¬Carries s token selection := by
  constructor
  · rintro hgoverned ⟨hexp, m, hselected, hresolved, hopen, hkept⟩
    obtain ⟨hteacher, hteacherRole⟩ := free_bearing "teacher" (.inl rfl) hhome hother
    obtain ⟨hmanager, hmanagerRole⟩ := free_bearing "manager" (.inr rfl) hhome hother
    have hsame := hgoverned "teacher" [] "manager" [] hteacher hmanager
    obtain ⟨r, hr, hgiven⟩ := given_switch hteacher hstated hexp hselected hresolved hopen
    obtain ⟨r', hr', hgiven'⟩ := given_switch hmanager hstated hexp hselected hresolved hopen
    rw [hteacherRole] at hr
    rw [hmanagerRole] at hr'
    rw [hgiven, hgiven'] at hsame
    have hdiffer : r.role ≠ r'.role := by
      rw [hr, hr']
      decide
    by_cases hreach : s.val.reachable m.tenantId = true
    · obtain ⟨u, hu, hunplaced, hunknown⟩ := hkept.resolve_left (by simp [hreach])
      rw [if_pos hreach, if_pos hreach] at hsame
      have hrow : s.val.rowIn (token.bearing "teacher" []).email m.tenantId = some u := hu
      have hrow' : s.val.rowIn (token.bearing "manager" []).email m.tenantId = some u := hu
      rw [hrow, hrow', Option.map_some, Option.map_some, Option.map_some, Option.map_some,
        Option.some_inj] at hsame
      have hrole := congrArg Prod.fst hsame
      dsimp only at hrole
      rw [withUserRow_unknown hunplaced hunknown, withUserRow_unknown hunplaced hunknown] at hrole
      exact hdiffer hrole
    · rw [if_neg hreach, if_neg hreach, Option.map_some, Option.map_some, Option.some_inj] at hsame
      exact hdiffer (congrArg Prod.fst hsame)
  · intro hcarries role roles role' roles' h h'
    exact given_eq_of_not_carries hstated rfl rfl h h' hcarries

end Switching

/-! ## An accountant elsewhere -/

section Example

attribute [local instance] ascii plain

/-- An administrator of the first school, who keeps the books of the second. -/
def accountantElsewhere : State where
  val :=
    { tenants := [⟨"north"⟩, ⟨"south"⟩]
      schemas := [⟨"north", [⟨1, "a@x", "school_admin", [], [], "$p"⟩], 2⟩,
        ⟨"south", [⟨1, "a@x", "finance", [], [], "$p"⟩], 2⟩]
      superAdmins := [], parents := [], parentTenantLinks := [], identities := [⟨2, "a@x"⟩]
      userTenantMap := [⟨2, "a@x", "north", "school_admin", .active, 0, none, true⟩,
        ⟨2, "a@x", "south", "finance", .active, 5, none, false⟩]
      invitations := [], userInvitations := [], selectionChallenges := [], refreshTokens := []
      opened := [], unreachable := [], membershipCache := [], seq := 3, now := 10 }
  ok := by decide +kernel

def adminToken : AccessToken :=
  ⟨"1", "north", "school_admin", ["school_admin"], "a@x", 900, some 2⟩

theorem selected_south : accountantElsewhere.val.selectedSchool "a@x" "south" =
    some ⟨"south", "finance"⟩ := by
  decide +kernel

theorem free_south {role : String} (hordinary : (accountantElsewhere.val.holder
      (adminToken.bearing role [])).isSuperAdmin = false)
    (helsewhere : (accountantElsewhere.val.lookedUp (accountantElsewhere.val.holder
      (adminToken.bearing role [])) (accountantElsewhere.val.recognised
        (adminToken.bearing role []).claims false)).tenantId = "north") :
    Free accountantElsewhere.val (adminToken.bearing role []) "south" := by
  refine ⟨hordinary, fun m hm => ?_⟩
  have hsouth : some m = some ⟨"south", "finance"⟩ := hm.symm.trans selected_south
  cases hsouth
  rw [helsewhere]
  decide

/-- The administrator administers the second school. -/
theorem accountantElsewhere_carries : ¬Governed accountantElsewhere adminToken "south" := by
  intro h
  have hsame :=
    h "school_admin" [] "teacher" [] (free_south (by decide +kernel) (by decide +kernel))
    (free_south (by decide +kernel) (by decide +kernel))
  have hdiffer :
      (given accountantElsewhere (switchRequest (adminToken.bearing "school_admin" []) "south")).map
      Prod.fst = some "school_admin" ∧
      (given accountantElsewhere (switchRequest (adminToken.bearing "teacher" []) "south")).map
        Prod.fst = some "teacher" := by
    decide +kernel
  rw [hsame, hdiffer.2] at hdiffer
  exact absurd hdiffer.1 (by decide)

theorem twoSchoolStudent_governed : Governed twoSchoolStudent northToken "south" := by
  have hselected : twoSchoolStudent.val.selectedSchool northToken.email "south" =
      some ⟨"south", "student"⟩ := by
    decide +kernel
  refine (governed_iff twoSchoolStudent northToken "south" (by decide) (by decide) ?_).2 ?_
  · intro m hm
    rw [hselected] at hm
    cases hm
    decide
  · rintro ⟨-, m, hm, -, -, hunreachable | ⟨u, hu, -, hunknown⟩⟩
    · rw [hselected] at hm
      cases hm
      exact absurd hunreachable (by decide +kernel)
    · rw [hselected] at hm
      cases hm
      have hrow : (twoSchoolStudent.val.rowIn northToken.email "south").map UserRow.role =
          some "student" := by
        decide +kernel
      rw [hu, Option.map_some, Option.some_inj] at hrow
      rw [hrow] at hunknown
      exact hunknown (by decide)

end Example

end Sams.Auth
