import Sams.Auth.Demotion

/-!
# The policy and its fallback

`can` asks the policy, and `has_role` where the policy cannot be reached. The policy knows the
tenant of the resource, and has a list of permissions for every role of its own; the fallback has
the catalogue. On a resource without a status they agree exactly where neither grants something that
the other does not know of (**`agreesOn_iff`**).
-/

namespace Sams.Auth

open Programs Authz

/-! ## The policy -/

/-- What is decided about. -/
structure Resource where
  tenantId : Option String := none
  status : Option String := none
  deriving DecidableEq, Repr

/-- The input of a decision on an action. -/
structure PolicyInput where
  tenantId : String
  roles : List String
  action : String
  resource : Resource
  deriving DecidableEq, Repr

namespace Policy

def schoolAdminPermission : List String :=
  ["school:write", "school:read", "level:create", "level:manage", "level:read", "class:create",
   "class:edit", "class:update", "class:read", "class:assign_teacher", "user:create",
   "user:invite", "user:delete", "user:link", "user:view", "user:read", "user:profile_read",
   "user:profile_edit", "teacher:create", "teacher:read", "teacher:write", "parent:read",
   "student:create", "student:read", "event:create", "event:read", "event:view", "event:edit",
   "event:patch", "event:delete", "event:clone", "event:propose", "event:submit", "event:review",
   "event:publish", "event:view_draft", "event:archive", "event:audience_edit",
   "event:audience_predict", "resource:create", "resource:view", "resource:read", "resource:edit",
   "resource:update", "resource:delete", "resource:price", "resource:set_cost",
   "resource_type:create", "resource_type:read", "enrollment:teacher_approve", "enrollment:cancel",
   "enrollment:view_roster", "enrollment:read", "billing:audit", "billing:invoice",
   "billing:view_payment", "subsidy:manage", "audit:view", "health:view", "health:manage",
   "safety:manage", "announcement:manage", "notification:send", "notification:read",
   "notification:mark_read", "feedback:view", "report:view"]

def managerPermission : List String :=
  ["school:read", "level:read", "level:create", "level:manage", "class:read", "class:create",
   "class:update", "class:edit", "class:assign_teacher", "user:create", "teacher:read",
   "parent:read", "student:read", "user:view", "user:read", "user:profile_read",
   "user:profile_edit", "event:read", "event:view", "event:review", "event:publish",
   "event:view_draft", "event:audience_predict", "resource:view", "resource:read",
   "resource:price", "resource:set_cost", "resource_type:read", "billing:invoice", "billing:pay",
   "billing:refund", "billing:audit", "billing:view_payment", "subsidy:manage",
   "enrollment:view_roster", "enrollment:read", "announcement:manage", "notification:send",
   "notification:read", "notification:mark_read", "feedback:view"]

def teacherPermission : List String :=
  ["school:read", "level:read", "class:read", "teacher:read", "student:read", "user:view",
   "user:read", "user:profile_read", "user:profile_edit", "event:create", "event:read",
   "event:view", "event:edit", "event:patch", "event:delete", "event:clone", "event:propose",
   "event:submit", "event:view_draft", "event:audience_edit", "event:audience_predict",
   "resource:create", "resource:view", "resource:read", "resource:edit", "resource:update",
   "resource:delete", "resource_type:create", "resource_type:read", "enrollment:teacher_approve",
   "enrollment:view_roster", "enrollment:read", "health:view", "health:manage",
   "notification:read", "notification:mark_read", "feedback:view", "feedback:create"]

def parentPermission : List String :=
  ["school:read", "user:profile_read", "user:profile_edit", "student:view_linked", "event:read",
   "event:view", "enrollment:parent_approve", "enrollment:cancel", "enrollment:read",
   "billing:pay", "billing:view_payment", "health:manage_child", "notification:read",
   "notification:mark_read", "feedback:create"]

def studentPermission : List String :=
  ["school:read", "user:profile_read", "user:profile_edit", "event:read", "event:view",
   "enrollment:request", "enrollment:read", "notification:read", "notification:mark_read",
   "feedback:create"]

def financePermission : List String :=
  ["resource:price", "resource:set_cost", "resource:view", "resource:read", "billing:invoice",
   "billing:pay", "billing:refund", "billing:audit", "billing:view_payment", "subsidy:manage",
   "notification:read", "notification:mark_read"]

def crossTenantAction : List String := ["family:overview_read"]

/-- The actions on a draft. -/
def draftActions : List String :=
  ["event:edit", "event:patch", "event:delete", "event:propose", "event:submit",
   "event:audience_edit", "resource:create", "resource:edit", "resource:update", "resource:delete"]

end Policy

namespace PolicyInput

open Policy

variable (i : PolicyInput)

/-- A resource without a tenant belongs to none. -/
def validTenant : Bool := i.resource.tenantId = some i.tenantId

def validManagerResourceStatus : Bool :=
  i.resource.status = none ∨ i.action = "event:review" ∧ i.resource.status = some "proposed" ∨
    i.action = "event:publish" ∧ i.resource.status = some "proposed" ∨
      i.action ≠ "event:review" ∧ i.action ≠ "event:publish"

def validTeacherResourceStatus : Bool :=
  i.resource.status = none ∨ i.action ∈ draftActions ∧ i.resource.status = some "draft" ∨
    i.action ∉ draftActions

def validParentResourceStatus : Bool :=
  i.resource.status = none ∨ i.resource.status = some "published"

def validStudentResourceStatus : Bool :=
  i.resource.status = none ∨ i.resource.status = some "published"

def validActionResourceStatus : Bool :=
  i.resource.status = none ∨ i.action ∈ draftActions ∧ i.resource.status = some "draft" ∨
    i.action ∈ ["event:review", "event:publish"] ∧ i.resource.status = some "proposed" ∨
      i.action ∈ ["event:read", "event:view"] ∧
          i.resource.status ∈ [some "draft", some "proposed", some "published"] ∨
        i.action ∉ draftActions ++ ["event:review", "event:publish"]

/-- The rule of a role. -/
def roleAllows (role : String) (permission : List String) (validStatus : Bool) : Bool :=
  i.validTenant ∧ role ∈ i.roles ∧ i.action ∈ permission ∧ validStatus

/-- `action_allow`. The permissions of the input are never sent. -/
def actionAllow : Bool :=
  i.roleAllows "school_admin" schoolAdminPermission true ||
  i.roleAllows "manager" managerPermission i.validManagerResourceStatus ||
  i.roleAllows "teacher" teacherPermission i.validTeacherResourceStatus ||
  i.roleAllows "parent" parentPermission i.validParentResourceStatus ||
  (i.action ∈ crossTenantAction ∧ "parent" ∈ i.roles ∧ i.resource.tenantId = none : Bool) ||
  i.roleAllows "student" studentPermission i.validStudentResourceStatus ||
  i.roleAllows "finance" financePermission true ||
  (i.validTenant ∧ i.action ∈ i.roles ∧ i.validActionResourceStatus : Bool)

/-- `allow`. -/
def allow : Bool := "super_admin" ∈ i.roles || i.actionAllow

end PolicyInput

/-- What `can` sends. -/
def policyInput (u : CurrentUser) (action : String) (resource : Option Resource) : PolicyInput :=
  { tenantId := u.tenantId.getD "", roles := u.roles, action := action
    resource := resource.getD {} }

/-- `can`: the policy where it is reached, `has_role` where it is not. -/
def can (u : CurrentUser) (reached : Bool) (action : String) (resource : Option Resource) : Bool :=
  if reached then (policyInput u action resource).allow else u.hasRole action

/-! ## What either grants -/

open Policy

/-- The lists that the policy and the catalogue have in common. -/
def Shared (role action : String) : Prop :=
  role = "school_admin" ∧ action ∈ schoolAdminPermission ∨ role = "manager" ∧
    action ∈ managerPermission ∨
    role = "teacher" ∧ action ∈ teacherPermission ∨ role = "parent" ∧ action ∈ parentPermission ∨
      role = "student" ∧ action ∈ studentPermission

instance (role action : String) : Decidable (Shared role action) :=
  inferInstanceAs (Decidable (_ ∨ _))

/-- What the catalogue has and the policy has not. -/
theorem mem_permissionsOf_iff {role action : String} :
    action ∈ permissionsOf role ↔ Shared role action ∨ role = "admin" ∧
      action ∈ permissionsOf "admin" ∨
      role = "parent" ∧ action = "family:overview_read" ∨ role = "super_admin" ∧ action = "*" := by
  constructor
  · intro h
    have hall : ∀ e ∈ compositeRolePermissions, ∀ p ∈ e.2, Shared e.1 p ∨ e.1 = "admin" ∨
        e.1 = "parent" ∧ p = "family:overview_read" ∨ e.1 = "super_admin" ∧ p = "*" := by
      decide +kernel
    obtain ⟨permissions, hentry, hp⟩ := mem_permissionsOf h
    rcases hall _ hentry action hp with hshared | rfl | hparent | hsuper
    · exact .inl hshared
    · exact .inr (.inl ⟨rfl, h⟩)
    · exact .inr (.inr (.inl hparent))
    · exact .inr (.inr (.inr hsuper))
  · have hadmin : ∀ p ∈ schoolAdminPermission, p ∈ permissionsOf "school_admin" := by decide +kernel
    have hmanager : ∀ p ∈ managerPermission, p ∈ permissionsOf "manager" := by decide +kernel
    have hteacher : ∀ p ∈ teacherPermission, p ∈ permissionsOf "teacher" := by decide +kernel
    have hparent : ∀ p ∈ parentPermission, p ∈ permissionsOf "parent" := by decide +kernel
    have hstudent : ∀ p ∈ studentPermission, p ∈ permissionsOf "student" := by decide +kernel
    rintro ((⟨rfl, h⟩ | ⟨rfl, h⟩ | ⟨rfl, h⟩ | ⟨rfl, h⟩ | ⟨rfl, h⟩) |
      ⟨rfl, h⟩ | ⟨rfl, rfl⟩ | ⟨rfl, rfl⟩)
    · exact hadmin _ h
    · exact hmanager _ h
    · exact hteacher _ h
    · exact hparent _ h
    · exact hstudent _ h
    · exact h
    · decide
    · decide

/-- The action is among the roles, or in a list that both have for one of them. -/
def Listed (u : CurrentUser) (action : String) : Prop :=
  action ∈ u.roles ∨ ∃ r ∈ u.roles, Shared r action

/-- What only the policy grants. -/
def PolicyOnly (u : CurrentUser) (action : String) : Prop :=
  "finance" ∈ u.roles ∧ action ∈ financePermission

/-- What only the fallback grants: everything by the star, the two names of an administrator, what
the primary role carries, and what the policy has no list for. -/
def FallbackOnly (u : CurrentUser) (action : String) : Prop :=
  u.role = "super_admin" ∨ "*" ∈ u.held ∨
    (action ∈ ["admin", "school_admin"] ∧ ("school_admin" ∈ u.held ∨ "admin" ∈ u.held)) ∨
      (u.role ≠ "" ∧ (action = u.role ∨ action ∈ permissionsOf u.role)) ∨
        ("admin" ∈ u.roles ∧ action ∈ permissionsOf "admin") ∨
          ("parent" ∈ u.roles ∧ action = "family:overview_read")

theorem exists_shared {roles : List String} {action : String} :
    (∃ r ∈ roles, Shared r action) ↔ "school_admin" ∈ roles ∧ action ∈ schoolAdminPermission ∨
      "manager" ∈ roles ∧ action ∈ managerPermission ∨ "teacher" ∈ roles ∧
        action ∈ teacherPermission ∨ "parent" ∈ roles ∧ action ∈ parentPermission ∨
          "student" ∈ roles ∧ action ∈ studentPermission := by
  unfold Shared
  constructor
  · rintro ⟨r, hr, ⟨rfl, h⟩ | ⟨rfl, h⟩ | ⟨rfl, h⟩ | ⟨rfl, h⟩ | ⟨rfl, h⟩⟩
    · exact .inl ⟨hr, h⟩
    · exact .inr (.inl ⟨hr, h⟩)
    · exact .inr (.inr (.inl ⟨hr, h⟩))
    · exact .inr (.inr (.inr (.inl ⟨hr, h⟩)))
    · exact .inr (.inr (.inr (.inr ⟨hr, h⟩)))
  · rintro (⟨hr, h⟩ | ⟨hr, h⟩ | ⟨hr, h⟩ | ⟨hr, h⟩ | ⟨hr, h⟩)
    · exact ⟨_, hr, .inl ⟨rfl, h⟩⟩
    · exact ⟨_, hr, .inr (.inl ⟨rfl, h⟩)⟩
    · exact ⟨_, hr, .inr (.inr (.inl ⟨rfl, h⟩))⟩
    · exact ⟨_, hr, .inr (.inr (.inr (.inl ⟨rfl, h⟩)))⟩
    · exact ⟨_, hr, .inr (.inr (.inr (.inr ⟨rfl, h⟩)))⟩

/-- A resource of a tenant, without a status. -/
def ofTenant (tenantId : String) : Option Resource := some { tenantId := some tenantId }

theorem roleAllows_ofTenant {u : CurrentUser} {action tenantId role : String}
    {permission : List String} {validStatus : Bool} (hstatus : validStatus = true) :
    (policyInput u action (ofTenant tenantId)).roleAllows role permission validStatus = true ↔
      tenantId = u.tenantId.getD "" ∧ role ∈ u.roles ∧ action ∈ permission := by
  unfold PolicyInput.roleAllows PolicyInput.validTenant policyInput ofTenant
  simp [hstatus]

/-- The decision of the policy. -/
theorem allow_iff (u : CurrentUser) (action tenantId : String) :
    can u true action (ofTenant tenantId) = true ↔ "super_admin" ∈ u.roles ∨
      tenantId = u.tenantId.getD "" ∧ (Listed u action ∨ PolicyOnly u action) := by
  have htenant : (policyInput u action (ofTenant tenantId)).validTenant = true ↔
      tenantId = u.tenantId.getD "" := by
    unfold PolicyInput.validTenant policyInput ofTenant
    simp
  have hstatus : (policyInput u action (ofTenant tenantId)).validActionResourceStatus = true :=
    decide_eq_true (.inl rfl)
  have hmanager : (policyInput u action (ofTenant tenantId)).validManagerResourceStatus = true :=
    decide_eq_true (.inl rfl)
  have hteacher : (policyInput u action (ofTenant tenantId)).validTeacherResourceStatus = true :=
    decide_eq_true (.inl rfl)
  have hparent : (policyInput u action (ofTenant tenantId)).validParentResourceStatus = true :=
    decide_eq_true (.inl rfl)
  have hstudent : (policyInput u action (ofTenant tenantId)).validStudentResourceStatus = true :=
    decide_eq_true (.inl rfl)
  show (policyInput u action (ofTenant tenantId)).allow = true ↔ _
  unfold PolicyInput.allow PolicyInput.actionAllow
  rw [hstatus, hmanager, hteacher, hparent, hstudent]
  simp only [Bool.or_eq_true, roleAllows_ofTenant rfl, decide_eq_true_eq, htenant, and_true]
  have hinput : (policyInput u action (ofTenant tenantId)).roles = u.roles ∧
      (policyInput u action (ofTenant tenantId)).action = action ∧
      (policyInput u action (ofTenant tenantId)).resource.tenantId = some tenantId :=
        ⟨rfl, rfl, rfl⟩
  rw [hinput.1, hinput.2.1, hinput.2.2]
  unfold Listed PolicyOnly
  rw [exists_shared]
  -- the two sides differ in the order of the rules only
  by_cases ht : tenantId = u.tenantId.getD ""
  · simp only [ht, true_and, reduceCtorEq, and_false, or_false]
    exact iff_of_eq (by ac_rfl)
  · simp only [ht, false_and, reduceCtorEq, and_false, or_false]

/-- The decision of the fallback. -/
theorem fallback_iff (u : CurrentUser) (action : String) (resource : Option Resource) :
    can u false action resource = true ↔
      "super_admin" ∈ u.roles ∨ Listed u action ∨ FallbackOnly u action := by
  show u.hasRole action = true ↔ _
  rw [CurrentUser.hasRole_iff]
  constructor
  · rintro (hs | hs | halias | hr | ⟨r, hr, hp⟩)
    · rcases CurrentUser.mem_held.1 hs with ⟨-, hs⟩ | hs
      · exact .inr (.inr (.inl hs.symm))
      · exact .inl hs
    · exact .inr (.inr (.inr (.inl hs)))
    · exact .inr (.inr (.inr (.inr (.inl halias))))
    · rcases CurrentUser.mem_held.1 hr with ⟨hne, hr⟩ | hr
      · exact .inr (.inr (.inr (.inr (.inr (.inl ⟨hne, .inl hr⟩)))))
      · exact .inr (.inl (.inl hr))
    · rcases CurrentUser.mem_held.1 hr with ⟨hne, rfl⟩ | hr
      · exact .inr (.inr (.inr (.inr (.inr (.inl ⟨hne, .inr hp⟩)))))
      · rcases mem_permissionsOf_iff.1 hp with hshared | ⟨rfl, hadmin⟩ | ⟨rfl, hparent⟩ | ⟨rfl, -⟩
        · exact .inr (.inl (.inr ⟨r, hr, hshared⟩))
        · exact .inr (.inr (.inr (.inr (.inr (.inr (.inl ⟨hr, hadmin⟩))))))
        · exact .inr (.inr (.inr (.inr (.inr (.inr (.inr ⟨hr, hparent⟩))))))
        · exact .inl hr
  · have hroles : ∀ r ∈ u.roles, r ∈ u.held := fun r hr => CurrentUser.mem_held.2 (.inr hr)
    rintro (hs | (hr | ⟨r, hr, hshared⟩) | hs | hs | halias | ⟨hne, rfl | hp⟩ | ⟨hr, hp⟩ | ⟨hr, hp⟩)
    · exact .inl (hroles _ hs)
    · exact .inr (.inr (.inr (.inl (hroles _ hr))))
    · exact .inr (.inr (.inr (.inr ⟨r, hroles r hr, mem_permissionsOf_iff.2 (.inl hshared)⟩)))
    · exact .inl (CurrentUser.mem_held.2 (.inl ⟨by rw [hs]; decide, hs.symm⟩))
    · exact .inr (.inl hs)
    · exact .inr (.inr (.inl halias))
    · exact .inr (.inr (.inr (.inl (CurrentUser.mem_held.2 (.inl ⟨hne, rfl⟩)))))
    · exact .inr (.inr (.inr (.inr ⟨u.role, CurrentUser.mem_held.2 (.inl ⟨hne, rfl⟩), hp⟩)))
    · exact .inr (.inr (.inr (.inr ⟨_, hroles _ hr, hp⟩)))
    · exact .inr
        (.inr (.inr (.inr ⟨_, hroles _ hr,
        mem_permissionsOf_iff.2 (.inr (.inr (.inl ⟨rfl, hp⟩)))⟩)))

/-! ## Agreement -/

/-- The decision on a resource of the tenant does not depend on whether the policy is reached. -/
def AgreesOn (u : CurrentUser) (action tenantId : String) : Prop :=
  can u true action (ofTenant tenantId) = can u false action (ofTenant tenantId)

instance (u : CurrentUser) (action tenantId : String) : Decidable (AgreesOn u action tenantId) :=
  inferInstanceAs (Decidable (_ = _))

/-- Neither grants what the other does not know of: at home the lists decide, or the rest that
either has comes to the same; abroad nothing is granted at all. -/
def SameGrants (u : CurrentUser) (action tenantId : String) : Prop :=
  "super_admin" ∈ u.roles ∨
    if tenantId = u.tenantId.getD "" then Listed u action ∨
      (PolicyOnly u action ↔ FallbackOnly u action)
    else ¬Listed u action ∧ ¬FallbackOnly u action

/-- **The fallback decides like the policy** exactly where neither grants something of its own. -/
theorem agreesOn_iff (u : CurrentUser) (action tenantId : String) :
    AgreesOn u action tenantId ↔ SameGrants u action tenantId := by
  unfold AgreesOn SameGrants
  rw [Bool.eq_iff_iff, allow_iff, fallback_iff]
  by_cases hsuper : "super_admin" ∈ u.roles
  · simp only [hsuper, true_or]
  by_cases htenant : tenantId = u.tenantId.getD ""
  · rw [if_pos htenant]
    by_cases hlisted : Listed u action
    · simp [hsuper, htenant, hlisted]
    · simp [hsuper, htenant, hlisted]
  · rw [if_neg htenant]
    simp [hsuper, htenant]

section Example

attribute [local instance] ascii plain

/-- A teacher of the first school with a star among the permissions of the account. -/
def starredTeacher : State where
  val :=
    { accountantElsewhere.val with
      schemas := [⟨"north", [⟨1, "a@x", "teacher", [], ["*"], "$p"⟩], 2⟩] }
  ok := by decide +kernel

/-- Without the policy this teacher deletes users, with the policy not. -/
theorem starredTeacher_disagrees : ∃ u, returned (getCurrentUser (homeRequest
    (adminToken.bearing "teacher" []))) starredTeacher = some u ∧
      ¬AgreesOn u "user:delete" "north" := by
  have hasked : (returned (getCurrentUser (homeRequest (adminToken.bearing "teacher" [])))
      starredTeacher).map (fun u => decide (AgreesOn u "user:delete" "north")) = some false := by
    decide +kernel
  obtain ⟨u, hu, hdisagrees⟩ := Option.map_eq_some_iff.1 hasked
  exact ⟨u, hu, of_decide_eq_false hdisagrees⟩

end Example

end Sams.Auth
