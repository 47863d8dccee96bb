import Sams.Auth.CurrentUser

/-!
# The two role gates

Services ask `require` of the list of roles that a request carries, routers ask `has_role` of its
user. Both expand a composite role to its permissions. They differ in what they take for granted:
`has_role` counts the user's primary role in, and takes a `school_admin` for an `admin`; `require`
takes an `admin` for a `school_admin` and not the other way.

* **`gates_agree_iff`** — the gates answer alike exactly when the list carries the primary role, and
  `admin` beside `school_admin`.
-/

namespace Sams.Auth

open Programs Authz CurrentUser

/-- The roles that pass the gate of a school's administrators. -/
def administrators : List String := ["super_admin", "*", "admin", "school_admin"]

/-- The gates give one answer to every question, and no for `school_admin` where the list holds no
administrator's role. -/
structure GatesAgree (u : CurrentUser) : Prop where
  same : ∀ q, require u.roles [q] = u.hasRole q
  strict : (∀ r ∈ administrators, r ∉ u.roles) →
    require u.roles ["school_admin"] = false ∧ u.hasRole "school_admin" = false

/-- The list carries the primary role, itself or as a permission of one of its roles; and it holds
`admin` where it or the primary role is `school_admin`. -/
structure ListsAll (u : CurrentUser) : Prop where
  role : u.role = "" ∨ u.role = "school_admin" ∨ u.role ∈ u.roles ∨
    ∃ r ∈ u.roles, u.role ∈ permissionsOf r
  alias_ : "school_admin" ∈ u.held → "admin" ∈ u.roles

section Gates

variable {u : CurrentUser} {q : String}

/-- Both spellings of an administrator carry the same. -/
theorem permissionsOf_school_admin : permissionsOf "school_admin" = permissionsOf "admin" := by
  decide +kernel

/-- What `require` grants on a list of no super admin. -/
theorem require_one (hs : "super_admin" ∉ u.roles) (hw : "*" ∉ u.roles) :
    require u.roles [q] = true ↔
      q ∈ u.roles ∨ (q = "school_admin" ∧ "admin" ∈ u.roles) ∨
        ∃ r ∈ u.roles, q ∈ permissionsOf r := by
  have hmem : ∀ r, r ∈ withAdminAlias u.roles ↔
      r ∈ u.roles ∨ r = "school_admin" ∧ "admin" ∈ u.roles := by
    intro r
    unfold withAdminAlias
    by_cases h : "admin" ∈ u.roles <;> simp [h]
  rw [require_iff hs hw]
  constructor
  · intro h
    obtain ⟨q', hq', r, hr, h⟩ := h
    rw [List.mem_singleton.1 hq'] at h
    rcases (hmem r).1 hr with hr | ⟨hr, hadmin⟩
    · rcases h with h | h
      · exact .inl (h ▸ hr)
      · exact .inr (.inr ⟨r, hr, h⟩)
    · rw [hr] at h
      rcases h with h | h
      · exact .inr (.inl ⟨h, hadmin⟩)
      · rw [permissionsOf_school_admin] at h
        exact .inr (.inr ⟨"admin", hadmin, h⟩)
  · intro h
    refine ⟨q, by simp, ?_⟩
    rcases h with h | h | ⟨r, hr, h⟩
    · exact ⟨q, (hmem q).2 (.inl h), .inl rfl⟩
    · exact ⟨q, (hmem q).2 (.inr h), .inl rfl⟩
    · exact ⟨r, (hmem r).2 (.inl hr), .inr h⟩

/-- No composite role carries an administrator's role. -/
theorem admin_not_carried {r : String} (h : q ∈ permissionsOf r)
    (hq : q ∈ ["super_admin", "school_admin", "admin", "student"]) : False :=
  (permission_plain h).2.1 hq

theorem star_carried {r : String} (h : "*" ∈ permissionsOf r) : r = "super_admin" := by
  rcases (permission_plain h).2.2 with h | h
  · exact h.2
  · exact absurd h star_not_valid

/-- The gates answer alike where the list carries what the user holds. -/
theorem same_of_listsAll (hs : "super_admin" ∉ u.roles) (hw : "*" ∉ u.roles) (h : ListsAll u)
    (q : String) :
    require u.roles [q] = true ↔ u.hasRole q = true := by
  have hheld : ∀ x ∈ ["super_admin", "*", "admin"], x ∈ u.held → x ∈ u.roles := by
    intro x hx hmem
    rcases mem_held.1 hmem with ⟨hne, rfl⟩ | hmem
    · rcases h.role with h' | h' | h' | ⟨r, hr, h'⟩
      · exact absurd h' hne
      · rw [h'] at hx
        exact absurd hx (by decide)
      · exact h'
      · -- a permission is no role, and only a super admin carries the star
        rcases List.mem_cons.1 hx with hx | hx
        · exact (admin_not_carried h' (by rw [hx]; decide)).elim
        · rcases List.mem_cons.1 hx with hx | hx
          · rw [hx] at h'
            exact absurd (star_carried h' ▸ hr) hs
          · exact (admin_not_carried h' (by rw [List.mem_singleton.1 hx]; decide)).elim
    · exact hmem
  have hadmin : "school_admin" ∈ u.held ∨ "admin" ∈ u.held → "admin" ∈ u.roles := by
    intro hmem
    rcases hmem with hmem | hmem
    · exact h.alias_ hmem
    · exact hheld _ (by decide) hmem
  rw [require_one hs hw, hasRole_iff]
  constructor
  · intro hq
    rcases hq with hq | ⟨hq, hmem⟩ | ⟨r, hr, hq⟩
    · exact .inr (.inr (.inr (.inl (mem_held.2 (.inr hq)))))
    · exact .inr (.inr (.inl ⟨by simp [hq], .inr (mem_held.2 (.inr hmem))⟩))
    · exact .inr (.inr (.inr (.inr ⟨r, mem_held.2 (.inr hr), hq⟩)))
  · intro hq
    rcases hq with hq | hq | ⟨hname, hq⟩ | hq | ⟨r, hr, hq⟩
    · exact absurd (hheld _ (by decide) hq) hs
    · exact absurd (hheld _ (by decide) hq) hw
    · have hmem := hadmin hq
      rcases List.mem_cons.1 hname with hname | hname
      · exact .inl (hname ▸ hmem)
      · exact .inr (.inl ⟨List.mem_singleton.1 hname, hmem⟩)
    · rcases mem_held.1 hq with ⟨hne, rfl⟩ | hq
      · rcases h.role with h' | h' | h' | h'
        · exact absurd h' hne
        · exact .inr (.inl ⟨h', hadmin (.inl (h' ▸ hq))⟩)
        · exact .inl h'
        · exact .inr (.inr h')
      · exact .inl hq
    · rcases mem_held.1 hr with ⟨hne, rfl⟩ | hr
      · rcases h.role with h' | h' | h' | ⟨r, hr', h'⟩
        · exact absurd h' hne
        · have hmem := hadmin (.inl (h' ▸ hr))
          rw [h', permissionsOf_school_admin] at hq
          exact .inr (.inr ⟨"admin", hmem, hq⟩)
        · exact .inr (.inr ⟨u.role, h', hq⟩)
        · rw [(permission_plain h').1] at hq
          cases hq
      · exact .inr (.inr ⟨r, hr, hq⟩)

/-- Where the gates answer alike, the list carries what the user holds. -/
theorem listsAll_of_same (hs : "super_admin" ∉ u.roles) (hw : "*" ∉ u.roles)
    (h : ∀ q, require u.roles [q] = u.hasRole q) : ListsAll u := by
  have hgrants : ∀ q, Grants u.held q → q ∈ u.roles ∨ (q = "school_admin" ∧ "admin" ∈ u.roles) ∨
      ∃ r ∈ u.roles, q ∈ permissionsOf r := by
    intro q hq
    rw [← require_one hs hw, h q]
    exact hasRole_iff.2 hq
  constructor
  · by_cases hempty : u.role = ""
    · exact .inl hempty
    · have hmem : u.role ∈ u.held := mem_held.2 (.inl ⟨hempty, rfl⟩)
      rcases hgrants u.role (.inr (.inr (.inr (.inl hmem)))) with hq | ⟨hq, -⟩ | hq
      · exact .inr (.inr (.inl hq))
      · exact .inr (.inl hq)
      · exact .inr (.inr (.inr hq))
  · intro hmem
    rcases hgrants "admin" (.inr (.inr (.inl ⟨by decide, .inl hmem⟩))) with hq |
      ⟨hq, -⟩ | ⟨r, hr, hq⟩
    · exact hq
    · exact absurd hq (by decide)
    · exact (admin_not_carried hq (by decide)).elim

/-- **The two gates agree** exactly on the users whose list says everything: the list of a super
admin, and one that carries the primary role and both spellings of an administrator. -/
theorem gates_agree_iff (u : CurrentUser) :
    GatesAgree u ↔ "super_admin" ∈ u.roles ∨ "*" ∈ u.roles ∨ ListsAll u := by
  by_cases hsuper : "super_admin" ∈ u.roles ∨ "*" ∈ u.roles
  · refine iff_of_true ⟨fun q => ?_, fun hnone => ?_⟩ (or_assoc.1 (.inl hsuper))
    · have hne : u.roles ≠ [] := hsuper.elim List.ne_nil_of_mem List.ne_nil_of_mem
      have hrequire : require u.roles [q] = true := by
        unfold require
        rw [if_neg hne, if_pos hsuper]
      have hhas : u.hasRole q = true := by
        rw [hasRole_iff]
        rcases hsuper with hs | hw
        · exact .inl (mem_held.2 (.inr hs))
        · exact .inr (.inl (mem_held.2 (.inr hw)))
      rw [hrequire, hhas]
    · rcases hsuper with hs | hw
      · exact absurd hs (hnone _ (by decide))
      · exact absurd hw (hnone _ (by decide))
  · obtain ⟨hs, hw⟩ := not_or.1 hsuper
    rw [or_iff_right hs, or_iff_right hw]
    constructor
    · intro h
      exact listsAll_of_same hs hw h.same
    · intro h
      have hsame : ∀ q, require u.roles [q] = u.hasRole q := fun q =>
        Bool.eq_iff_iff.2 (same_of_listsAll hs hw h q)
      refine ⟨hsame, fun hnone => ?_⟩
      have hno : require u.roles ["school_admin"] = false := by
        rw [Bool.eq_false_iff]
        intro hyes
        rcases (require_one hs hw).1 hyes with hq | ⟨-, hq⟩ | ⟨r, -, hq⟩
        · exact hnone _ (by decide) hq
        · exact hnone _ (by decide) hq
        · exact admin_not_carried hq (by decide)
      exact ⟨hno, hsame "school_admin" ▸ hno⟩

end Gates

/-! ## An administrator of the single sign-on -/

section Example

attribute [local instance] ascii plain

/-- A school whose administrator signs on by Keycloak. -/
def oneAdmin : State where
  val :=
    { tenants := [⟨"north"⟩]
      schemas := [⟨"north", [⟨1, "a@x", "school_admin", [], [], "keycloak_managed"⟩], 2⟩]
      superAdmins := [], parents := [], parentTenantLinks := []
      identities := [⟨2, "a@x"⟩]
      userTenantMap := [⟨2, "a@x", "north", "school_admin", .active, 0, none, false⟩]
      invitations := [], userInvitations := [], selectionChallenges := [], refreshTokens := []
      opened := ["north"], unreachable := [], membershipCache := [], seq := 3, now := 10 }
  ok := by decide +kernel

def adminRequest : HttpRequest :=
  { credentials := some (.keycloak { sub := "k", email := some "a@x" }) }

theorem adminRequest_asks : (returned (getCurrentUser adminRequest) oneAdmin).map
    (fun u => (require u.roles ["admin"], u.hasRole "admin")) = some (false, true) := by
  decide +kernel

/-- The routers take the administrator for an `admin`, the services do not. -/
theorem gates_disagree :
    ∃ u s', getCurrentUser adminRequest oneAdmin = .ok u s' ∧ ¬GatesAgree u := by
  obtain ⟨u, hu, hasks⟩ := Option.map_eq_some_iff.1 adminRequest_asks
  obtain ⟨s', hok⟩ := returned_eq_some.1 hu
  rw [Prod.mk.injEq] at hasks
  refine ⟨u, s', hok, fun h => ?_⟩
  have hsame := h.same "admin"
  rw [hasks.1, hasks.2] at hsame
  cases hsame

end Example

end Sams.Auth
