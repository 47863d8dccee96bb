import Sams.Text

/-!
# Roles, permissions and the authorization gate

The permission catalogue that ships with the program, the role names a token may carry, and
`require`, the in-process gate that every service operation asks first.

A caller's role argument is a list of role and permission strings; a single role string is the
list with that one element.
-/

namespace Sams

namespace Authz

/-- The permission catalogue: what each composite role carries. -/
def compositeRolePermissions : List (String × List String) :=
  [("admin",
    ["announcement:manage", "audit:view", "billing:audit", "billing:invoice",
     "billing:view_payment", "class:assign_teacher", "class:create", "class:edit", "class:read",
     "class:update", "enrollment:cancel", "enrollment:read", "enrollment:teacher_approve",
     "enrollment:view_roster", "event:archive", "event:audience_edit", "event:audience_predict",
     "event:clone", "event:create", "event:delete", "event:edit", "event:patch", "event:propose",
     "event:publish", "event:read", "event:review", "event:submit", "event:view",
     "event:view_draft", "feedback:view", "health:manage", "health:view", "level:create",
     "level:manage", "level:read", "notification:mark_read", "notification:read",
     "notification:send", "parent:read", "report:view", "resource:create", "resource:delete",
     "resource:edit", "resource:price", "resource:read", "resource:set_cost", "resource:update",
     "resource:view", "resource_type:create", "resource_type:read", "safety:manage",
     "school:read", "school:write", "student:create", "student:read", "subsidy:manage",
     "teacher:create", "teacher:read", "teacher:write", "user:create", "user:delete",
     "user:invite", "user:link", "user:profile_edit", "user:profile_read", "user:read",
     "user:view"]),
   ("manager",
    ["announcement:manage", "billing:audit", "billing:invoice", "billing:pay", "billing:refund",
     "billing:view_payment", "class:assign_teacher", "class:create", "class:edit", "class:read",
     "class:update", "enrollment:read", "enrollment:view_roster", "event:audience_predict",
     "event:publish", "event:read", "event:review", "event:view", "event:view_draft",
     "feedback:view", "level:create", "level:manage", "level:read", "notification:mark_read",
     "notification:read", "notification:send", "parent:read", "resource:price", "resource:read",
     "resource:set_cost", "resource:view", "resource_type:read", "school:read", "student:read",
     "subsidy:manage", "teacher:read", "user:create", "user:profile_edit", "user:profile_read",
     "user:read", "user:view"]),
   ("parent",
    ["billing:pay", "billing:view_payment", "enrollment:cancel", "enrollment:parent_approve",
     "enrollment:read", "event:read", "event:view", "family:overview_read", "feedback:create",
     "health:manage_child", "notification:mark_read", "notification:read", "school:read",
     "student:view_linked", "user:profile_edit", "user:profile_read"]),
   ("school_admin",
    ["announcement:manage", "audit:view", "billing:audit", "billing:invoice",
     "billing:view_payment", "class:assign_teacher", "class:create", "class:edit", "class:read",
     "class:update", "enrollment:cancel", "enrollment:read", "enrollment:teacher_approve",
     "enrollment:view_roster", "event:archive", "event:audience_edit", "event:audience_predict",
     "event:clone", "event:create", "event:delete", "event:edit", "event:patch", "event:propose",
     "event:publish", "event:read", "event:review", "event:submit", "event:view",
     "event:view_draft", "feedback:view", "health:manage", "health:view", "level:create",
     "level:manage", "level:read", "notification:mark_read", "notification:read",
     "notification:send", "parent:read", "report:view", "resource:create", "resource:delete",
     "resource:edit", "resource:price", "resource:read", "resource:set_cost", "resource:update",
     "resource:view", "resource_type:create", "resource_type:read", "safety:manage",
     "school:read", "school:write", "student:create", "student:read", "subsidy:manage",
     "teacher:create", "teacher:read", "teacher:write", "user:create", "user:delete",
     "user:invite", "user:link", "user:profile_edit", "user:profile_read", "user:read",
     "user:view"]),
   ("student",
    ["enrollment:read", "enrollment:request", "event:read", "event:view", "feedback:create",
     "notification:mark_read", "notification:read", "school:read", "user:profile_edit",
     "user:profile_read"]),
   ("super_admin",
    ["*"]),
   ("teacher",
    ["class:read", "enrollment:read", "enrollment:teacher_approve", "enrollment:view_roster",
     "event:audience_edit", "event:audience_predict", "event:clone", "event:create",
     "event:delete", "event:edit", "event:patch", "event:propose", "event:read", "event:submit",
     "event:view", "event:view_draft", "feedback:create", "feedback:view", "health:manage",
     "health:view", "level:read", "notification:mark_read", "notification:read",
     "resource:create", "resource:delete", "resource:edit", "resource:read", "resource:update",
     "resource:view", "resource_type:create", "resource_type:read", "school:read",
     "student:read", "teacher:read", "user:profile_edit", "user:profile_read", "user:read",
     "user:view"])]

/-- What `role` carries in the catalogue; nothing when it is not a composite role. -/
def permissionsOf (role : String) : List String :=
  (compositeRolePermissions.lookup role).getD []

theorem mem_permissionsOf {role p : String} (h : p ∈ permissionsOf role) :
    ∃ permissions, (role, permissions) ∈ compositeRolePermissions ∧ p ∈ permissions := by
  unfold permissionsOf at h
  cases hlookup : compositeRolePermissions.lookup role with
  | none =>
    rw [hlookup] at h
    cases h
  | some permissions =>
    rw [hlookup] at h
    obtain ⟨l, l', hsplit, -⟩ := List.lookup_eq_some_iff.1 hlookup
    refine ⟨permissions, ?_, h⟩
    rw [hsplit]
    simp

/-- The role names a token may carry. -/
def roleNames : List String :=
  ["super_admin", "school_admin", "admin", "administrator", "manager", "teacher", "event_teacher",
   "parent", "student", "pending"]

/-- Permissions a token may carry that belong to no composite role. -/
def extraPermissions : List String :=
  ["system:write", "system:read", "tenant:manage", "tenant:view", "academic:direct",
   "academic:view", "content:create", "content:publish"]

/-- The strings accepted off a token: role names, extra permissions, and the permissions of the
catalogue that have a colon in them. -/
def validRoles : List String :=
  roleNames ++ extraPermissions ++
    (compositeRolePermissions.flatMap Prod.snd).filter fun p => p.toList.contains ':'

/-- What a token may carry is named, or has a colon. -/
theorem valid_named {r : String} (h : r ∈ validRoles) :
    r ∈ roleNames ++ extraPermissions ∨ r.toList.contains ':' = true := by
  rcases List.mem_append.1 h with h | h
  · exact .inl h
  · exact .inr (List.mem_filter.1 h).2

theorem valid_of_named {r : String} (h : r ∈ roleNames ++ extraPermissions) : r ∈ validRoles :=
  List.mem_append_left _ h

theorem star_not_valid : "*" ∉ validRoles := fun h => (valid_named h).elim (by decide) (by decide)

theorem empty_not_valid : "" ∉ validRoles := fun h => (valid_named h).elim (by decide) (by decide)

/-- What a composite role carries is no role itself. -/
theorem permission_plain {r p : String} (h : p ∈ permissionsOf r) :
    permissionsOf p = [] ∧ p ∉ ["super_admin", "school_admin", "admin", "student"] ∧
      (p = "*" ∧ r = "super_admin" ∨ p ∈ validRoles) := by
  have hall : ∀ e ∈ compositeRolePermissions, ∀ p ∈ e.2, permissionsOf p = [] ∧
      p ∉ ["super_admin", "school_admin", "admin", "student"] ∧
        (p = "*" ∧ e.1 = "super_admin" ∨ p.toList.contains ':' = true) := by
    decide +kernel
  obtain ⟨permissions, hentry, hp⟩ := mem_permissionsOf h
  obtain ⟨hnone, hplain, hstar | hcolon⟩ := hall _ hentry p hp
  · exact ⟨hnone, hplain, .inl hstar⟩
  · refine ⟨hnone, hplain, .inr (List.mem_append_right _ (List.mem_filter.2 ⟨?_, hcolon⟩))⟩
    exact List.mem_flatMap.2 ⟨_, hentry, hp⟩

/-- The caller's roles with `school_admin` added to an `admin`. -/
def withAdminAlias (roles : List String) : List String :=
  if "admin" ∈ roles then roles ++ ["school_admin"] else roles

/-- Does a caller with `userRole` hold one of `allowed`? Forward expansion only: a composite role
grants its permissions, a permission never grants a role. -/
def require (userRole allowed : List String) : Bool :=
  if userRole = [] then false
  else if "super_admin" ∈ userRole ∨ "*" ∈ userRole then true
  else
    let roles := withAdminAlias userRole
    (roles ++ roles.flatMap permissionsOf).any allowed.contains

/-- Anyone else passes exactly on a role or permission held directly, through the `admin` alias,
or through a composite role. -/
theorem require_iff {userRole allowed : List String} (hs : "super_admin" ∉ userRole)
    (hw : "*" ∉ userRole) :
    require userRole allowed = true ↔
      ∃ q ∈ allowed, ∃ r ∈ withAdminAlias userRole, q = r ∨ q ∈ permissionsOf r := by
  unfold require
  split_ifs with hnil hsup
  · subst hnil
    simp [withAdminAlias]
  · exact absurd hsup (by simp [hs, hw])
  · simp only [List.any_eq_true, List.mem_append, List.mem_flatMap, List.contains_iff_mem]
    constructor
    · rintro ⟨q, hq | ⟨r, hr, hqr⟩, hqa⟩
      · exact ⟨q, hqa, q, hq, .inl rfl⟩
      · exact ⟨q, hqa, r, hr, .inr hqr⟩
    · rintro ⟨q, hqa, r, hr, rfl | hqr⟩
      · exact ⟨q, .inl hr, hqa⟩
      · exact ⟨q, .inr ⟨r, hr, hqr⟩, hqa⟩

/-- A school the user is a member of, and as what. -/
structure Membership where
  tenantId : String
  role : String
  deriving DecidableEq, Repr

/-- The authenticated user of a request. -/
structure CurrentUser where
  id : String
  tenantId : Option String
  role : String
  email : String
  roles : List String
  memberships : List Membership := []
  deriving DecidableEq, Repr

namespace CurrentUser

/-- The roles and permissions the user holds, the primary role among them. -/
def held (u : CurrentUser) : List String := if u.role = "" then u.roles else u.role :: u.roles

theorem mem_held {u : CurrentUser} {r : String} :
    r ∈ u.held ↔ u.role ≠ "" ∧ r = u.role ∨ r ∈ u.roles := by
  unfold held
  by_cases h : u.role = "" <;> simp [h]

/-- Does the user have a role or a permission? -/
def hasRole (u : CurrentUser) (roleName : String) : Bool :=
  if "super_admin" ∈ u.held ∨ "*" ∈ u.held then true
  else if roleName ∈ ["admin", "school_admin"] ∧ ("school_admin" ∈ u.held ∨ "admin" ∈ u.held) then
    true
  else if roleName ∈ u.held then true
  else u.held.any fun r => roleName ∈ permissionsOf r

/-- What a list of roles and permissions lets its holder do. -/
def Grants (held : List String) (roleName : String) : Prop :=
  "super_admin" ∈ held ∨ "*" ∈ held ∨
    (roleName ∈ ["admin", "school_admin"] ∧ ("school_admin" ∈ held ∨ "admin" ∈ held)) ∨
      roleName ∈ held ∨ ∃ r ∈ held, roleName ∈ permissionsOf r

theorem hasRole_iff {u : CurrentUser} {roleName : String} :
    u.hasRole roleName = true ↔ Grants u.held roleName := by
  have hpermissions : (u.held.any fun r => roleName ∈ permissionsOf r) = true ↔
      ∃ r ∈ u.held, roleName ∈ permissionsOf r := by
    rw [List.any_eq_true]
    simp only [decide_eq_true_eq]
  unfold hasRole Grants
  split_ifs with hsuper halias hheld
  · exact iff_of_true rfl (or_assoc.1 (.inl hsuper))
  · exact iff_of_true rfl (.inr (.inr (.inl halias)))
  · exact iff_of_true rfl (.inr (.inr (.inr (.inl hheld))))
  · rw [hpermissions, or_iff_right (fun h => hsuper (.inl h)),
      or_iff_right (fun h => hsuper (.inr h)), or_iff_right halias, or_iff_right hheld]

theorem grants_mono {held held' : List String} {roleName : String} (h : ∀ r ∈ held, r ∈ held')
    (hgrants : Grants held roleName) : Grants held' roleName := by
  rcases hgrants with hs | hs | ⟨hname, ha | ha⟩ | hr | ⟨r, hr, hp⟩
  · exact .inl (h _ hs)
  · exact .inr (.inl (h _ hs))
  · exact .inr (.inr (.inl ⟨hname, .inl (h _ ha)⟩))
  · exact .inr (.inr (.inl ⟨hname, .inr (h _ ha)⟩))
  · exact .inr (.inr (.inr (.inl (h _ hr))))
  · exact .inr (.inr (.inr (.inr ⟨r, h _ hr, hp⟩)))

def hasAnyRole (u : CurrentUser) (roleNames : List String) : Bool := roleNames.any u.hasRole

end CurrentUser

example : require ["teacher"] ["school_admin", "class:update"] = false := by decide

example : require ["manager"] ["school_admin", "class:update"] = true := by decide

end Authz

end Sams
