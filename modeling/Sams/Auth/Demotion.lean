import Mathlib.Data.List.Dedup
import Sams.Auth.Switching

/-!
# Tokens that outlive a demotion

At home the row of the tenant's table adds to the roles that are baked into a token, and takes none
of them away, unless it has nobody placed. So the tokens of one account agree exactly where the row
alone grants whatever a token may carry, or the request is refused anyway (**`agreeing_iff`**).
-/

namespace Sams.Auth

open Programs Authz CurrentUser

/-! ## What roles grant -/

/-- Spelling out what the roles carry grants nothing more. -/
theorem grants_of_expanded {held held' : List String} {q : String}
    (h : ∀ r ∈ held', r ∈ held ∨ ∃ x ∈ held, r ∈ permissionsOf x) (hgrants : Grants held' q) :
    Grants held q := by
  have hrole : ∀ r ∈ held', r ∈ ["super_admin", "school_admin", "admin", "student"] → r ∈ held := by
    intro r hr hname
    rcases h r hr with hr | ⟨x, -, hx⟩
    · exact hr
    · exact absurd hname (permission_plain hx).2.1
  rcases hgrants with hs | hs | ⟨hname, ha | ha⟩ | hr | ⟨r, hr, hp⟩
  · exact .inl (hrole _ hs (by decide))
  · rcases h _ hs with hs | ⟨x, hx, hp⟩
    · exact .inr (.inl hs)
    · obtain ⟨-, -, ⟨-, rfl⟩ | hvalid⟩ := permission_plain hp
      · exact .inl hx
      · exact absurd hvalid star_not_valid
  · exact .inr (.inr (.inl ⟨hname, .inl (hrole _ ha (by decide))⟩))
  · exact .inr (.inr (.inl ⟨hname, .inr (hrole _ ha (by decide))⟩))
  · rcases h q hr with hr | ⟨x, hx, hp⟩
    · exact .inr (.inr (.inr (.inl hr)))
    · exact .inr (.inr (.inr (.inr ⟨x, hx, hp⟩)))
  · rcases h r hr with hr | ⟨x, hx, hp'⟩
    · exact .inr (.inr (.inr (.inr ⟨r, hr, hp⟩)))
    · rw [(permission_plain hp').1] at hp
      cases hp

theorem mem_expand {roles : List String} {x : String} :
    x ∈ expand roles ↔ x ∈ roles ∨ ∃ r ∈ roles, x ∈ permissionsOf r := by
  unfold expand
  rw [List.mem_append, List.mem_flatMap]

/-! ## The roles of a user -/

section User

variable [Platform]

theorem mem_finalRoles {r : Resolution} (h : r.extracted ≠ []) {x : String} :
    x ∈ finalRoles r ↔ x ∈ expand r.extracted := by
  unfold finalRoles
  rw [if_neg h, (Platform.listed_perm _).mem_iff, List.mem_dedup]

/-- What the user of a resolution may do. -/
theorem hasRole_currentUser {c : Caller} {r : Resolution} (hrole : r.role ≠ "")
    (h : r.extracted ≠ [])
    (q : String) : (currentUser c r).hasRole q = true ↔ Grants (r.role :: r.extracted) q := by
  rw [hasRole_iff]
  have hheld : (currentUser c r).held = r.role :: finalRoles r := if_neg hrole
  rw [hheld]
  constructor
  · refine grants_of_expanded fun x hx => ?_
    rcases List.mem_cons.1 hx with rfl | hx
    · exact .inl List.mem_cons_self
    · rcases mem_expand.1 ((mem_finalRoles h).1 hx) with hx | ⟨y, hy, hx⟩
      · exact .inl (List.mem_cons_of_mem _ hx)
      · exact .inr ⟨y, List.mem_cons_of_mem _ hy, hx⟩
  · refine grants_mono fun x hx => ?_
    rcases List.mem_cons.1 hx with rfl | hx
    · exact List.mem_cons_self
    · exact List.mem_cons_of_mem _ ((mem_finalRoles h).2 (mem_expand.2 (.inl hx)))

theorem hasRole_congr {c c' : Caller} {r r' : Resolution} (hrole : r.role = r'.role)
    (hextracted : r.extracted = r'.extracted) (q : String) :
    (currentUser c r).hasRole q = (currentUser c' r').hasRole q := by
  have hheld : (currentUser c r).held = (currentUser c' r').held := by
    unfold CurrentUser.held currentUser
    dsimp only
    rw [hrole, finalRoles_congr hrole hextracted]
  unfold CurrentUser.hasRole
  rw [hheld]

end User

/-- What the row adds, and what it leaves of the rest: all but the role of a student. -/
theorem mem_rowRoles {extracted : List String} {u : UserRow} {x : String} :
    x ∈ rowRoles extracted u ↔ x ∈ rowRoles [] u ∨
      (x ∈ extracted ∧ (x ≠ "student" ∨ u.role = "student" ∨ "student" ∈ u.roles)) := by
  unfold rowRoles
  dsimp only
  by_cases hstudent : u.role ≠ "student" ∧ "student" ∉ u.roles
  · rw [if_pos hstudent, if_pos hstudent]
    by_cases hvalid : u.role ∈ validRoles
    · simp only [hvalid, if_true, List.mem_append, List.mem_filter, List.mem_cons]
      simp only [hstudent.1, hstudent.2, or_false, decide_eq_true_eq]
      tauto
    · simp only [hvalid, if_false, List.mem_append, List.mem_filter]
      simp only [hstudent.1, hstudent.2, or_false, decide_eq_true_eq]
      tauto
  · rw [if_neg hstudent, if_neg hstudent]
    have hkeeps : u.role = "student" ∨ "student" ∈ u.roles := by
      by_contra h
      rw [not_or] at h
      exact hstudent h
    by_cases hvalid : u.role ∈ validRoles
    · simp only [hvalid, if_true, List.mem_append, List.mem_cons, hkeeps, or_true, and_true]
      tauto
    · simp only [hvalid, if_false, List.mem_append, hkeeps, or_true, and_true]
      tauto

/-- A row of a student makes its holder one. -/
theorem student_mem_rowRoles {u : UserRow} (h : u.role = "student" ∨ "student" ∈ u.roles) :
    "student" ∈ rowRoles [] u := by
  have hnot : ¬(u.role ≠ "student" ∧ "student" ∉ u.roles) := by
    rintro ⟨hne, hnotin⟩
    exact h.elim hne hnotin
  unfold rowRoles
  dsimp only
  rw [if_neg hnot]
  refine List.mem_append_left _ ?_
  rcases h with h | h
  · refine List.mem_append_left _ ?_
    rw [h, if_pos (valid_of_named (by decide))]
    exact List.mem_cons_self
  · refine List.mem_append_right _ (List.mem_filter.2 ⟨h, decide_eq_true ⟨?_, by decide⟩⟩)
    exact valid_of_named (by decide)

/-- The row alone grants whatever a token may carry. -/
def UserRow.Covers (u : UserRow) : Prop :=
  ∀ q ∈ validRoles, q ∉ ["super_admin", "student"] → Grants (rowRoles [] u) q

/-- What a token adds to such a row is granted by the row. -/
theorem grants_row_iff {u : UserRow} (hcovers : u.Covers) {extracted : List String}
    (hvalid : ∀ x ∈ extracted, x ∈ validRoles ∧ x ≠ "super_admin") {role : String}
    (hrole : role ∈ extracted) (hopen : role ≠ "student") (q : String) :
    Grants (role :: rowRoles extracted u) q ↔ Grants (rowRoles [] u) q := by
  have hmem : ∀ x ∈ role :: rowRoles extracted u, x ∈ rowRoles [] u ∨ x ∈ validRoles ∧
      x ∉ ["super_admin", "student"] := by
    intro x hx
    rcases List.mem_cons.1 hx with rfl | hx
    · obtain ⟨hv, hne⟩ := hvalid _ hrole
      exact .inr ⟨hv, by simp [hne, hopen]⟩
    · rcases mem_rowRoles.1 hx with hx | ⟨hx, hstudent⟩
      · exact .inl hx
      · obtain ⟨hv, hne⟩ := hvalid _ hx
        by_cases heq : x = "student"
        · rw [heq]
          exact .inl (student_mem_rowRoles (hstudent.resolve_left (not_not.2 heq)))
        · exact .inr ⟨hv, by simp [hne, heq]⟩
  constructor
  · rintro (hs | hs | ⟨hname, ha⟩ | hr | ⟨r, hr, hp⟩)
    · rcases hmem _ hs with hs | ⟨-, hs⟩
      · exact .inl hs
      · exact absurd hs (by decide)
    · rcases hmem _ hs with hs | ⟨hs, -⟩
      · exact .inr (.inl hs)
      · exact absurd hs star_not_valid
    · have hcovered : ∀ x, x ∈ role :: rowRoles extracted u → x ∈ ["admin", "school_admin"] →
          Grants (rowRoles [] u) q := by
        intro x hx hname'
        rcases hmem x hx with hx | -
        · refine .inr (.inr (.inl ⟨hname, ?_⟩))
          rcases (by simpa using hname') with rfl | rfl
          · exact .inr hx
          · exact .inl hx
        · refine hcovers q ?_ ?_
          · rcases (by simpa using hname) with rfl | rfl <;> exact valid_of_named (by decide)
          · rcases (by simpa using hname) with rfl | rfl <;> decide
      exact ha.elim (fun h => hcovered _ h (by decide)) fun h => hcovered _ h (by decide)
    · rcases hmem q hr with hr | ⟨hv, hne⟩
      · exact .inr (.inr (.inr (.inl hr)))
      · exact hcovers q hv hne
    · rcases hmem r hr with hr | ⟨hv, hne⟩
      · exact .inr (.inr (.inr (.inr ⟨r, hr, hp⟩)))
      · obtain ⟨-, hplain, ⟨-, rfl⟩ | hq⟩ := permission_plain hp
        · exact absurd hne (by decide)
        · exact hcovers q hq fun h => hplain (by simp at h ⊢; tauto)
  · exact grants_mono fun x hx => List.mem_cons_of_mem _ (mem_rowRoles.2 (.inl hx))

/-- A permission that no role carries, and that carries nothing. -/
theorem grants_of_extra {a q : String} (ha : a = "tenant:view" ∨ a = "system:write") (hq : q ≠ a)
    {held held' : List String} (h : ∀ x ∈ held', x ∈ held ∨ x = a) (hgrants : Grants held' q) :
    Grants held q := by
  have hplain : permissionsOf a = [] ∧ a ∉ ["super_admin", "*", "school_admin", "admin"] := by
    rcases ha with rfl | rfl <;> decide
  have hname : ∀ x ∈ held', x ∈ ["super_admin", "*", "school_admin", "admin"] → x ∈ held := by
    intro x hx hname
    refine (h x hx).resolve_right ?_
    rintro rfl
    exact hplain.2 hname
  rcases hgrants with hs | hs | ⟨hn, ha | ha⟩ | hr | ⟨r, hr, hp⟩
  · exact .inl (hname _ hs (by decide))
  · exact .inr (.inl (hname _ hs (by decide)))
  · exact .inr (.inr (.inl ⟨hn, .inl (hname _ ha (by decide))⟩))
  · exact .inr (.inr (.inl ⟨hn, .inr (hname _ ha (by decide))⟩))
  · exact .inr (.inr (.inr (.inl ((h _ hr).resolve_right hq))))
  · rcases h r hr with hr | rfl
    · exact .inr (.inr (.inr (.inr ⟨r, hr, hp⟩)))
    · rw [hplain.1] at hp
      cases hp

theorem withUserRow_home {u : UserRow} (hplaced : u.role ∉ unplaced) {r : Resolution}
    (hrole : r.roleOpen = false) : (withUserRow false false u r).role = r.role ∧
      (withUserRow false false u r).extracted = rowRoles r.extracted u := by
  unfold withUserRow
  dsimp only
  rw [if_neg fun h => hplaced h.1]
  refine ⟨if_neg ?_, rfl⟩
  rintro ⟨-, h | h⟩
  · cases h
  · have hopen : r.roleOpen = true := h
    rw [hrole] at hopen
    cases hopen

/-! ## The roles of a token -/

/-- What is baked into a token is known, and makes no super admin of an ordinary caller. -/
theorem mem_tokenRoles {role : String} {roles : List String} (hrole : role ∈ validRoles)
    (hordinary : "super_admin" ∉ tokenRoles role roles) :
    ∀ x ∈ tokenRoles role roles, x ∈ validRoles ∧ x ≠ "super_admin" := by
  intro x hx
  refine ⟨?_, fun h => hordinary (h ▸ hx)⟩
  have haliased : ∀ y ∈ aliased role (role :: roles.filter fun r => r ∈ validRoles),
      y ∈ validRoles := by
    have hown : ∀ y ∈ role :: roles.filter fun r => r ∈ validRoles, y ∈ validRoles := by
      intro y hy
      rcases List.mem_cons.1 hy with rfl | hy
      · exact hrole
      · exact of_decide_eq_true (List.mem_filter.1 hy).2
    intro y hy
    unfold aliased at hy
    split_ifs at hy
    · rcases List.mem_cons.1 hy with rfl | hy
      · exact valid_of_named (by decide)
      · exact hown y hy
    · rcases List.mem_cons.1 hy with rfl | hy
      · exact valid_of_named (by decide)
      · exact hown y hy
    · exact hown y hy
  rcases mem_expand.1 hx with hx | ⟨y, hy, hp⟩
  · exact haliased x hx
  · obtain ⟨-, -, ⟨-, rfl⟩ | hvalid⟩ := permission_plain hp
    · exact absurd (mem_expand.2 (.inl hy)) hordinary
    · exact hvalid

theorem mem_tokenRoles_of {role : String} {roles : List String} {x : String}
    (hx : x = role ∨ x ∈ roles ∧ x ∈ validRoles) : x ∈ tokenRoles role roles := by
  refine mem_expand.2 (.inl ?_)
  have hown : x ∈ role :: roles.filter fun r => r ∈ validRoles := by
    rcases hx with rfl | ⟨hx, hvalid⟩
    · exact List.mem_cons_self
    · exact List.mem_cons_of_mem _ (List.mem_filter.2 ⟨hx, decide_eq_true hvalid⟩)
  unfold aliased
  split_ifs
  · exact List.mem_cons_of_mem _ hown
  · exact List.mem_cons_of_mem _ hown
  · exact hown

/-- Nobody is placed by such a row, whatever the token carries. -/
theorem withUserRow_unplaced {u : UserRow} (hunplaced : u.role ∈ unplaced) (r : Resolution) :
    (withUserRow false false u r).role = u.role ∧
      (withUserRow false false u r).extracted = ["pending"] := by
  unfold withUserRow
  dsimp only
  rw [if_pos ⟨hunplaced, rfl⟩]
  exact ⟨rfl, rfl⟩

/-- Two answers with the same meaning are the same. -/
theorem eq_of_grants {x y : Option Bool} {p : Prop} (hx : ∃ b, x = some b ∧ (b = true ↔ p))
    (hy : ∃ b, y = some b ∧ (b = true ↔ p)) : x = y := by
  obtain ⟨b, rfl, hb⟩ := hx
  obtain ⟨b', rfl, hb'⟩ := hy
  rw [Option.some_inj, Bool.eq_iff_iff, hb, hb']

theorem tokenRoles_extra {a : String} (ha : a = "tenant:view" ∨ a = "system:write") :
    tokenRoles a [] = [a] := by
  rcases ha with rfl | rfl <;> decide +kernel

section Demotion

variable [Unicode]

/-! ## Requests at home -/

def homeRequest (token : AccessToken) : HttpRequest := { credentials := some (.internal token) }

/-- The token is no super admin's, and carries a role, so nothing is looked up. -/
structure Own (w : World) (token : AccessToken) : Prop where
  ordinary : (w.holder token).isSuperAdmin = false
  placed : tokenRole (some token.role) ∉ ["student", "pending"]

theorem Own.recognised {w : World} {token : AccessToken} (h : Own w token) :
    w.recognised token.claims false = ⟨token.sub, tokenRole (some token.role),
      tokenRoles (tokenRole (some token.role)) token.roles, token.tenantId⟩ :=
  recognised_of_placed rfl fun hp => h.placed (by simp [hp])

/-- The row of the token's account in its own tenant, where it is read. -/
def World.ownRow (w : World) (token : AccessToken) : Option UserRow :=
  if token.email = "" then none else w.rowIn token.email token.tenantId

/-- The account is refused at home. -/
def World.refusedAtHome (w : World) (token : AccessToken) : Bool :=
  token.email ≠ "" ∧ w.barred token.email token.tenantId

theorem tokenRole_valid (role : Option String) : tokenRole role ∈ validRoles := by
  unfold tokenRole
  cases role with
  | none =>
    show "pending" ∈ validRoles
    exact valid_of_named (by decide)
  | some r =>
    dsimp only
    split_ifs with hadmin hvalid
    · exact valid_of_named (by decide)
    · exact hvalid
    · exact valid_of_named (by decide)

/-- Where a caller has a school and a role, only the table of the school is read. -/
theorem handled_placed {w : World} {c : Caller} {r : Resolution}
    (hhome : unresolved r.tenantId = false)
    (hrole : r.role ∉ ["student", "pending"]) : w.handled c none r =
      (w.placedIn c false r).bind fun r' => if w.shutOut c r.tenantId then none
        else some (c, r') := by
  have hsearched : w.searched c r = r := by
    unfold World.searched
    rw [if_neg]
    simp [needsScan, hhome]
  have hsettled : settled c r = some r := by
    unfold settled
    rw [if_neg (by simp [hhome])]
  have hschool : w.schoolOf c none r = some (r, false) := by
    show (settled c (w.searched c (w.lookedUp c r))).map _ = _
    rw [lookedUp_of_placed hhome hrole, hsearched, hsettled]
    rfl
  unfold World.handled
  rw [hschool, Option.bind_some]
  refine Option.bind_congr fun r' hr' => ?_
  rw [placedIn_tenantId hr']

/-- What the row of the own tenant makes of what the token says. -/
def World.atHome (w : World) (token : AccessToken) (r : Resolution) : Resolution :=
  match w.ownRow token with
  | some u => withUserRow false false u r
  | none => r

theorem placedIn_atHome {w : World} {token : AccessToken} {c : Caller} {r : Resolution}
    (hsuper : c.isSuperAdmin = false) (hemail : c.email = token.email)
    (htenant : r.tenantId = token.tenantId) : w.placedIn c false r = some (w.atHome token r) := by
  unfold World.placedIn World.atHome World.ownRow
  rw [hemail, htenant, hsuper]
  by_cases hskip : token.email = "" ∨ w.reachable token.tenantId = false
  · rw [if_pos hskip]
    rcases hskip with hskip | hskip
    · rw [if_pos hskip]
    · have hrow : w.rowIn token.email token.tenantId = none := if_neg (by simp [hskip])
      rw [hrow, ite_self]
  · rw [if_neg hskip]
    rw [not_or] at hskip
    rw [if_neg hskip.1]
    cases w.rowIn token.email token.tenantId <;> rfl

theorem userOf_home {w : World} {token : AccessToken} (h : Own w token)
    (hhome : unresolved token.tenantId = false) (hexp : w.now < token.exp) :
    w.userOf (homeRequest token) = if w.refusedAtHome token then none
      else some (w.holder token, w.atHome token (w.recognised token.claims false)) := by
  have htenant := recognised_tenantId w token
  have hrole : (w.recognised token.claims false).role ∉ ["student", "pending"] := by
    rw [h.recognised]
    dsimp only
    exact h.placed
  have hemail : (w.holder token).email = token.email := emailOr_claims token
  have hordinary := h.ordinary
  have huser : w.userOf (homeRequest token) =
      w.handled (w.holder token) none (w.recognised token.claims false) := userOf_internal rfl hexp
  rw [huser]
  generalize w.recognised token.claims false = r at *
  generalize w.holder token = c at *
  have hshut : w.shutOut c token.tenantId = w.refusedAtHome token := by
    have hne : token.tenantId ≠ "" := ne_empty_of_resolved (by simp [hhome])
    unfold World.shutOut World.refusedAtHome
    rw [hordinary, hemail]
    simp [hne]
  rw [handled_placed (htenant ▸ hhome) hrole, placedIn_atHome hordinary hemail htenant,
    htenant, hshut, Option.bind_some]

/-! ## Tokens that differ in one role -/

theorem tokenRole_extra {a : String} (ha : a = "tenant:view" ∨ a = "system:write") :
    tokenRole (some a) = a := by
  rcases ha with rfl | rfl
  · exact tokenRole_of_ascii (by decide) ⟨by decide, valid_of_named (by decide), by decide⟩
  · exact tokenRole_of_ascii (by decide) ⟨by decide, valid_of_named (by decide), by decide⟩

theorem own_bearing {w : World} {token : AccessToken} {a : String}
    (ha : a = "tenant:view" ∨ a = "system:write") {roles : List String}
    (hroles : "super_admin" ∉ roles) : Own w (token.bearing a roles) := by
  have htoken := tokenRole_extra ha
  have hplain : a ∉ ["super_admin", "student", "pending", "school_admin", "admin"] := by
    rcases ha with rfl | rfl <;> decide
  simp only [List.mem_cons, List.not_mem_nil, or_false, not_or] at hplain
  obtain ⟨hsuper, hstudent, hpending, -⟩ := hplain
  have hextracted : "super_admin" ∉ tokenRoles a roles := by
    intro hmem
    have hown : "super_admin" ∉ a :: roles.filter fun r => r ∈ validRoles := by
      simp [Ne.symm hsuper, hroles]
    rcases mem_expand.1 hmem with hmem | ⟨x, -, hp⟩
    · unfold aliased at hmem
      split_ifs at hmem
      · exact hown ((List.mem_cons.1 hmem).resolve_left (by decide))
      · exact hown ((List.mem_cons.1 hmem).resolve_left (by decide))
      · exact hown hmem
    · exact (permission_plain hp).2.1 (by decide)
  refine ⟨?_, ?_⟩
  · have hrecognised : w.recognised (token.bearing a roles).claims false =
        ⟨token.sub, a, tokenRoles a roles, token.tenantId⟩ := recognised_of_placed htoken hpending
    unfold World.holder World.callerOf Resolution.isSuperAdmin
    rw [hrecognised]
    exact decide_eq_false (not_or.2 ⟨hsuper, hextracted⟩)
  · show tokenRole (some a) ∉ _
    rw [htoken]
    simp [hstudent, hpending]

theorem Own.extracted {w : World} {token : AccessToken} (h : Own w token) :
    "super_admin" ∉ tokenRoles (tokenRole (some token.role)) token.roles := by
  have hordinary := h.ordinary
  unfold World.holder World.callerOf Resolution.isSuperAdmin at hordinary
  dsimp only at hordinary
  rw [h.recognised] at hordinary
  exact fun hmem => of_decide_eq_false hordinary (.inr hmem)

/-! ## What the row decides -/

variable [Platform]

/-- What a user may do, where the request is handled. -/
def asks (s : State) (request : HttpRequest) (q : String) : Option Bool :=
  (returned (getCurrentUser request) s).map fun u => u.hasRole q

theorem asks_eq (s : State) (request : HttpRequest) (q : String) :
    asks s request q = (s.val.userOf request).map fun x => (currentUser x.1 x.2).hasRole q := by
  refine returned_map_eq (fun x u hu => ?_) request s
  rw [← hu]
  rfl

/-- All tokens of the account for its own tenant let their holder do the same. -/
def Agreeing (s : State) (token : AccessToken) : Prop :=
  ∀ role roles role' roles', Own s.val (token.bearing role roles) →
    Own s.val (token.bearing role' roles') → ∀ q,
      asks s (homeRequest (token.bearing role roles)) q =
        asks s (homeRequest (token.bearing role' roles')) q

/-- The row decides alone, or nothing is decided. -/
def RowDecides (s : State) (token : AccessToken) : Prop :=
  token.exp ≤ s.val.now ∨ s.val.refusedAtHome token = true ∨
    ∃ u, s.val.ownRow token = some u ∧ (u.role ∈ unplaced ∨ u.Covers)

/-- What an own token lets its holder do, where the request is not refused. -/
theorem asks_home {s : State} {token : AccessToken} (h : Own s.val token)
    (hhome : unresolved token.tenantId = false) (hexp : s.val.now < token.exp)
    (hopen : s.val.refusedAtHome token ≠ true) :
    ∃ c : Caller, ∃ r : Resolution, r.role = tokenRole (some token.role) ∧
      r.extracted = tokenRoles (tokenRole (some token.role)) token.roles ∧
        ∀ q, asks s (homeRequest token) q =
          some ((currentUser c (s.val.atHome token r)).hasRole q) := by
  refine ⟨s.val.holder token, s.val.recognised token.claims false, ?_, ?_, fun q => ?_⟩
  · rw [h.recognised]
  · rw [h.recognised]
  · rw [asks_eq, userOf_home h hhome hexp, if_neg hopen]
    rfl

/-- A row that has somebody placed adds to what the token carries. -/
theorem asks_placed {s : State} {token : AccessToken} (h : Own s.val token)
    (hhome : unresolved token.tenantId = false) (hexp : s.val.now < token.exp)
    (hopen : s.val.refusedAtHome token ≠ true) {u : UserRow} (hrow : s.val.ownRow token = some u)
    (hplaced : u.role ∉ unplaced) (q : String) :
    ∃ b, asks s (homeRequest token) q = some b ∧
      (b = true ↔ Grants (tokenRole (some token.role) ::
        rowRoles (tokenRoles (tokenRole (some token.role)) token.roles) u) q) := by
  obtain ⟨c, r, hrole, hextracted, hasks⟩ := asks_home h hhome hexp hopen
  refine ⟨_, hasks q, ?_⟩
  have hvalid := tokenRole_valid (some token.role)
  have hne : tokenRole (some token.role) ≠ "" := fun h => absurd (h ▸ hvalid) empty_not_valid
  have hclosed : r.roleOpen = false := by
    unfold Resolution.roleOpen
    rw [hrole]
    exact decide_eq_false (not_or.2 ⟨hne, h.placed⟩)
  obtain ⟨hrole', hextracted'⟩ := withUserRow_home hplaced hclosed
  have hatHome : s.val.atHome token r = withUserRow false false u r := by
    unfold World.atHome
    rw [hrow]
  rw [hatHome]
  have hmem : r.role ∈ rowRoles r.extracted u := by
    refine mem_rowRoles.2 (.inr ⟨?_, .inl fun hstudent => h.placed ?_⟩)
    · rw [hextracted, hrole]
      exact mem_tokenRoles_of (.inl rfl)
    · rw [← hrole, hstudent]
      decide
  rw [hasRole_currentUser (by rw [hrole', hrole]; exact hne)
    (by rw [hextracted']; exact List.ne_nil_of_mem hmem), hrole', hextracted', hrole, hextracted]

/-- Without a row there is nothing but what the token carries. -/
theorem asks_absent {s : State} {token : AccessToken} (h : Own s.val token)
    (hhome : unresolved token.tenantId = false) (hexp : s.val.now < token.exp)
    (hopen : s.val.refusedAtHome token ≠ true) (hrow : s.val.ownRow token = none) (q : String) :
    ∃ b, asks s (homeRequest token) q = some b ∧ (b = true ↔ Grants (tokenRole (some token.role) ::
      tokenRoles (tokenRole (some token.role)) token.roles) q) := by
  obtain ⟨c, r, hrole, hextracted, hasks⟩ := asks_home h hhome hexp hopen
  refine ⟨_, hasks q, ?_⟩
  have hvalid := tokenRole_valid (some token.role)
  have hne : r.role ≠ "" := fun h => absurd (h ▸ hrole ▸ hvalid) empty_not_valid
  have hmem : r.role ∈ r.extracted := by
    rw [hextracted, hrole]
    exact mem_tokenRoles_of (.inl rfl)
  have hatHome : s.val.atHome token r = r := by
    unfold World.atHome
    rw [hrow]
  rw [hatHome, hasRole_currentUser hne (List.ne_nil_of_mem hmem), hrole, hextracted]

theorem asks_expired {s : State} (token : AccessToken) (hexp : token.exp ≤ s.val.now) (q : String) :
    asks s (homeRequest token) q = none := by
  rw [asks_eq, userOf_expired rfl hexp]
  rfl

theorem asks_refused {s : State} (token : AccessToken) (h : Own s.val token)
    (hhome : unresolved token.tenantId = false) (hexp : s.val.now < token.exp)
    (hrefused : s.val.refusedAtHome token = true) (q : String) :
    asks s (homeRequest token) q = none := by
  rw [asks_eq, userOf_home h hhome hexp, if_pos hrefused]
  rfl

/-- A row that grants whatever a token may carry decides alone. -/
theorem asks_covered {s : State} {token : AccessToken} (h : Own s.val token)
    (hhome : unresolved token.tenantId = false) (hexp : s.val.now < token.exp)
    (hopen : s.val.refusedAtHome token ≠ true) {u : UserRow} (hrow : s.val.ownRow token = some u)
    (hplaced : u.role ∉ unplaced) (hcovers : u.Covers) (q : String) :
    ∃ b, asks s (homeRequest token) q = some b ∧ (b = true ↔ Grants (rowRoles [] u) q) := by
  obtain ⟨b, hb, hgrants⟩ := asks_placed h hhome hexp hopen hrow hplaced q
  refine ⟨b, hb, hgrants.trans (grants_row_iff hcovers ?_ ?_ ?_ q)⟩
  · exact mem_tokenRoles (tokenRole_valid _) h.extracted
  · exact mem_tokenRoles_of (.inl rfl)
  · exact fun hstudent => h.placed (by simp [hstudent])

/-- Where there is no row, two tokens disagree. -/
theorem not_agreeing_of_absent {s : State} {token : AccessToken}
    (hhome : unresolved token.tenantId = false) (hexp : s.val.now < token.exp)
    (hopen : s.val.refusedAtHome token ≠ true) (hrow : s.val.ownRow token = none) :
    ¬Agreeing s token := by
  intro hagree
  have hview : Own s.val (token.bearing "tenant:view" []) := own_bearing (.inl rfl) (by simp)
  have hwrite : Own s.val (token.bearing "system:write" []) := own_bearing (.inr rfl) (by simp)
  have hsame := hagree _ _ _ _ hview hwrite "system:write"
  obtain ⟨b, hb, hgrants⟩ := asks_absent hview hhome hexp hopen hrow "system:write"
  obtain ⟨b', hb', hgrants'⟩ := asks_absent hwrite hhome hexp hopen hrow "system:write"
  have hyes : b' = true := by
    refine hgrants'.2 (.inr (.inr (.inr (.inl ?_))))
    show "system:write" ∈ tokenRole (some "system:write") :: _
    rw [tokenRole_extra (.inr rfl)]
    exact List.mem_cons_self
  rw [hb, hb', Option.some_inj] at hsame
  have hno := hgrants.1 (hsame.trans hyes)
  have hnone : Grants [] "system:write" := by
    refine grants_of_extra (.inl rfl) (by decide) (fun x hx => ?_) hno
    have hx : x ∈ tokenRole (some "tenant:view") ::
        tokenRoles (tokenRole (some "tenant:view")) [] := hx
    rw [tokenRole_extra (.inl rfl), tokenRoles_extra (.inl rfl)] at hx
    exact .inr (by simpa using hx)
  simp [Grants] at hnone

/-- Where the row does not grant something that a token may carry, two tokens disagree on it. -/
theorem not_agreeing_of_uncovered {s : State} {token : AccessToken}
    (hhome : unresolved token.tenantId = false) (hexp : s.val.now < token.exp)
    (hopen : s.val.refusedAtHome token ≠ true) {u : UserRow} (hrow : s.val.ownRow token = some u)
    (hplaced : u.role ∉ unplaced) {q : String} (hvalid : q ∈ validRoles)
    (hname : q ∉ ["super_admin", "student"]) (huncovered : ¬Grants (rowRoles [] u) q) :
    ¬Agreeing s token := by
  intro hagree
  obtain ⟨a, ha, hne⟩ : ∃ a, (a = "tenant:view" ∨ a = "system:write") ∧ q ≠ a := by
    by_cases hq : q = "tenant:view"
    · exact ⟨"system:write", .inr rfl, by rw [hq]; decide⟩
    · exact ⟨"tenant:view", .inl rfl, hq⟩
  simp only [List.mem_cons, List.not_mem_nil, or_false, not_or] at hname
  have hwith : Own s.val (token.bearing a [q]) := own_bearing ha (by simpa using Ne.symm hname.1)
  have hwithout : Own s.val (token.bearing a []) := own_bearing ha (by simp)
  have hsame := hagree _ _ _ _ hwith hwithout q
  obtain ⟨b, hb, hgrants⟩ := asks_placed hwith hhome hexp hopen hrow hplaced q
  obtain ⟨b', hb', hgrants'⟩ := asks_placed hwithout hhome hexp hopen hrow hplaced q
  have hyes : b = true := by
    refine hgrants.2
      (.inr (.inr (.inr (.inl (List.mem_cons_of_mem _ (mem_rowRoles.2 (.inr ⟨?_, .inl ?_⟩)))))))
    · exact mem_tokenRoles_of (.inr ⟨List.mem_singleton_self q, hvalid⟩)
    · exact hname.2
  rw [hb, hb', Option.some_inj] at hsame
  have hno := hgrants'.1 (hsame.symm.trans hyes)
  refine huncovered (grants_of_extra ha hne (fun x hx => ?_) hno)
  have hx : x ∈ tokenRole (some a) :: rowRoles (tokenRoles (tokenRole (some a)) []) u := hx
  rw [tokenRole_extra ha, tokenRoles_extra ha] at hx
  rcases List.mem_cons.1 hx with hx | hx
  · exact .inr hx
  · rcases mem_rowRoles.1 hx with hx | ⟨hx, -⟩
    · exact .inl hx
    · exact .inr (List.mem_singleton.1 hx)

/-- **The tokens of an account agree** exactly where the row of its tenant decides alone. -/
theorem agreeing_iff (s : State) (token : AccessToken) (hhome : unresolved token.tenantId = false) :
    Agreeing s token ↔ RowDecides s token := by
  constructor
  · intro hagree
    by_contra hrow
    unfold RowDecides at hrow
    rw [not_or, not_or, not_exists] at hrow
    obtain ⟨hexp, hopen, hrow⟩ := hrow
    have hlive := Nat.lt_of_not_le hexp
    cases hown : s.val.ownRow token with
    | none => exact not_agreeing_of_absent hhome hlive hopen hown hagree
    | some u =>
      have hu := hrow u
      rw [hown, not_and, not_or] at hu
      obtain ⟨hplaced, huncovered⟩ := hu rfl
      unfold UserRow.Covers at huncovered
      push Not at huncovered
      obtain ⟨q, hvalid, hname, hgrants⟩ := huncovered
      exact not_agreeing_of_uncovered hhome hlive hopen hown hplaced hvalid hname hgrants hagree
  · intro hdecides role roles role' roles' h h' q
    by_cases hexp : token.exp ≤ s.val.now
    · rw [asks_expired (token.bearing role roles) hexp,
        asks_expired (token.bearing role' roles') hexp]
    have hlive := Nat.lt_of_not_le hexp
    by_cases hopen : s.val.refusedAtHome token = true
    · rw [asks_refused _ h hhome hlive hopen, asks_refused _ h' hhome hlive hopen]
    obtain ⟨u, hu, hcase⟩ := (hdecides.resolve_left hexp).resolve_left hopen
    by_cases hplaced : u.role ∈ unplaced
    · obtain ⟨c, r, -, -, hasks⟩ := asks_home h hhome hlive hopen
      obtain ⟨c', r', -, -, hasks'⟩ := asks_home h' hhome hlive hopen
      have hatHome : ∀ role roles r, s.val.atHome (token.bearing role roles) r =
          withUserRow false false u r := by
        intro role roles r
        have hu : s.val.ownRow (token.bearing role roles) = some u := hu
        unfold World.atHome
        rw [hu]
      obtain ⟨hrole, hextracted⟩ := withUserRow_unplaced hplaced r
      obtain ⟨hrole', hextracted'⟩ := withUserRow_unplaced hplaced r'
      rw [hasks, hasks', hatHome, hatHome]
      exact congrArg some
        (hasRole_congr (hrole.trans hrole'.symm) (hextracted.trans hextracted'.symm) q)
    · have hcovers := hcase.resolve_left hplaced
      exact eq_of_grants (asks_covered h hhome hlive hopen hu hplaced hcovers q)
        (asks_covered h' hhome hlive hopen hu hplaced hcovers q)

end Demotion

/-! ## An administrator who is one no more -/

section Example

attribute [local instance] ascii plain

/-- The administrator of the first school is a teacher there now. -/
def demotedAdmin : State where
  val :=
    { accountantElsewhere.val with
      schemas := [⟨"north", [⟨1, "a@x", "teacher", [], [], "$p"⟩], 2⟩] }
  ok := by decide +kernel

/-- The token of the administrator still deletes users, the token of a teacher does not. -/
theorem demotedAdmin_deletes : ¬Agreeing demotedAdmin adminToken := by
  intro h
  have hsame := h "school_admin" [] "teacher" [] ⟨by decide +kernel, by decide +kernel⟩
    ⟨by decide +kernel, by decide +kernel⟩ "user:delete"
  have hadmin : asks demotedAdmin (homeRequest (adminToken.bearing "school_admin" []))
      "user:delete" =
      some true := by
    decide +kernel
  have hteacher : asks demotedAdmin (homeRequest (adminToken.bearing "teacher" [])) "user:delete" =
      some false := by
    decide +kernel
  rw [hadmin, hteacher] at hsame
  cases hsame

/-- The account waits to be placed again. -/
def unplacedAdmin : State where
  val :=
    { accountantElsewhere.val with
      schemas := [⟨"north", [⟨1, "a@x", "pending", [], [], "$p"⟩], 2⟩] }
  ok := by decide +kernel

theorem unplacedAdmin_agreeing : Agreeing unplacedAdmin adminToken := by
  have hrow : unplacedAdmin.val.ownRow adminToken = some ⟨1, "a@x", "pending", [], [], "$p"⟩ := by
    decide +kernel
  exact (agreeing_iff unplacedAdmin adminToken (by decide)).2
    (.inr (.inr ⟨_, hrow, .inl (by decide)⟩))

end Example

end Sams.Auth
