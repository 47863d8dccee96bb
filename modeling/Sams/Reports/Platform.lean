import Mathlib.Algebra.Order.BigOperators.Group.List
import Sams.Lib.Fanout
import Sams.School.Tables

/-!
# The report of the platform

The counts of every school, asked for side by side, and their sums. A school that does not answer
has an entry of zeros with its error, and the others theirs.

**`platform_sums`**: whatever the order in which the schools answer, the report has each school
once, in the order of the tenants, with what it answered, and the totals are the sums over the
schools that did answer.
-/

namespace Sams.Reports

open School Runs

/-! ## The counts -/

structure Counts where
  studentCount : Nat
  classCount : Nat
  enrollmentCount : Nat
  eventCount : Nat
  deriving DecidableEq, Repr

namespace Counts

def zero : Counts := ⟨0, 0, 0, 0⟩

def add (a b : Counts) : Counts where
  studentCount := a.studentCount + b.studentCount
  classCount := a.classCount + b.classCount
  enrollmentCount := a.enrollmentCount + b.enrollmentCount
  eventCount := a.eventCount + b.eventCount

/-- The counts of a school's tables. -/
def of (t : Tables) : Counts where
  studentCount := t.students.length
  classCount := t.classes.length
  enrollmentCount := t.enrollments.length
  eventCount := t.events.length

end Counts

namespace TenantRepository

abbrev getAnalyticsSummary : Prog Counts := read Counts.of

end TenantRepository

/-! ## The schools -/

structure Tenant where
  tenantId : String
  name : String
  deriving DecidableEq, Repr

inductive Status where
  | success
  | error (message : String)
  deriving DecidableEq, Repr

structure Summary where
  tenantId : String
  name : String
  status : Status
  counts : Counts
  deriving DecidableEq, Repr

/-- What comes of asking a school: its database, or the exception with which its pool
or its query fails. -/
abbrev Sites := String → Except String Db

/-- `fetch_tenant_data`: no exception leaves it. -/
def fetchTenantData (sites : Sites) (tenant : Tenant) : Summary :=
  match sites tenant.tenantId with
  | .error message => ⟨tenant.tenantId, tenant.name, .error message, .zero⟩
  | .ok d =>
    match TenantRepository.getAnalyticsSummary d with
    | .ok counts _ => ⟨tenant.tenantId, tenant.name, .success, counts⟩
    | .error _ _ => ⟨tenant.tenantId, tenant.name, .error "", .zero⟩

structure PlatformReport where
  totalTenants : Nat
  totals : Counts
  tenants : List Summary
  deriving DecidableEq, Repr

/-- The totals are summed as the summaries come. -/
def process (tenants : List Tenant) (results : List Summary) : PlatformReport where
  totalTenants := tenants.length
  totals := results.foldl (fun totals summary => totals.add summary.counts) .zero
  tenants := results

namespace AnalyticsService

/-- `get_platform_analytics` under a schedule; `none` while there are schools that have not
answered. Nothing bounds the number of those that are asked at a time. -/
def getPlatformAnalytics (requestingUserRole : String) (sites : Sites) (tenants : List Tenant)
    (turns : List Fanout.Turn) : Except PyError (Option PlatformReport) :=
  if requestingUserRole ≠ "super_admin" then
    .error (.permissionError "Only super_admins can access platform analytics")
  else
    let tasks := tenants.map (fetchTenantData sites)
    .ok ((Fanout.results (run (Fanout.step tenants.length tasks) (Fanout.initial tasks) turns)).map
      (process tenants))

end AnalyticsService

open AnalyticsService

/-! ## The sums -/

section Sums

/-- A count, as one of the four. -/
inductive Column where
  | students
  | classes
  | enrollments
  | events
  deriving DecidableEq, Repr

def Counts.get (c : Counts) : Column → Nat
  | .students => c.studentCount
  | .classes => c.classCount
  | .enrollments => c.enrollmentCount
  | .events => c.eventCount

def rowsOf (t : Tables) : Column → Nat
  | .students => t.students.length
  | .classes => t.classes.length
  | .enrollments => t.enrollments.length
  | .events => t.events.length

theorem get_add (a b : Counts) (column : Column) :
    (a.add b).get column = a.get column + b.get column := by
  cases column <;> rfl

theorem foldl_get (results : List Summary) (start : Counts) (column : Column) :
    (results.foldl (fun totals summary => totals.add summary.counts) start).get column =
      start.get column + (results.map fun summary => summary.counts.get column).sum := by
  induction results generalizing start with
  | nil => rfl
  | cons summary results ih =>
    rw [List.foldl_cons, ih, get_add, List.map_cons, List.sum_cons, Nat.add_assoc]

variable {sites : Sites}

/-- The database of a school that answers. -/
def answer (sites : Sites) (tenant : Tenant) : Option Db := (sites tenant.tenantId).toOption

theorem fetchTenantData_get (tenant : Tenant) (column : Column) :
    (fetchTenantData sites tenant).counts.get column =
    ((answer sites tenant).map fun d => rowsOf d.val column).getD 0 := by
  unfold fetchTenantData answer
  cases sites tenant.tenantId with
  | error message => cases column <;> rfl
  | ok d => cases column <;> rfl

theorem sum_answers (tenants : List Tenant) (column : Column) :
    (tenants.map fun tenant => (fetchTenantData sites tenant).counts.get column).sum =
      ((tenants.filterMap (answer sites)).map fun d => rowsOf d.val column).sum := by
  induction tenants with
  | nil => rfl
  | cons tenant tenants ih =>
    rw [List.map_cons, List.sum_cons, ih, fetchTenantData_get]
    cases hanswer : answer sites tenant with
    | none =>
      rw [List.filterMap_cons_none hanswer]
      simp
    | some d =>
      rw [List.filterMap_cons_some hanswer, List.map_cons, List.sum_cons]
      rfl

/-- What the report says of the schools. -/
structure SumsUp (sites : Sites) (tenants : List Tenant) (report : PlatformReport) : Prop where
  entries : report.totalTenants = tenants.length ∧
    report.tenants.map (fun s => (s.tenantId, s.name)) = tenants.map fun t => (t.tenantId, t.name)
  answered : ∀ (i : Nat) (t : Tenant) (d : Db), tenants[i]? = some t → sites t.tenantId = .ok d →
    ∃ s, report.tenants[i]? = some s ∧ s.status = .success ∧
      ∀ column, s.counts.get column = rowsOf d.val column
  failed : ∀ (i : Nat) (t : Tenant) (message : String), tenants[i]? = some t →
    sites t.tenantId = .error message →
    ∃ s, report.tenants[i]? = some s ∧ s.status = .error message ∧ s.counts = .zero
  totals : ∀ column, report.totals.get column =
    ((tenants.filterMap (answer sites)).map fun d => rowsOf d.val column).sum

theorem process_sumsUp (sites : Sites) (tenants : List Tenant) :
    SumsUp sites tenants (process tenants (tenants.map (fetchTenantData sites))) where
  entries := by
    refine ⟨rfl, ?_⟩
    show (tenants.map (fetchTenantData sites)).map _ = _
    rw [List.map_map]
    refine List.map_congr_left fun t _ => ?_
    show ((fetchTenantData sites t).tenantId, (fetchTenantData sites t).name) = _
    unfold fetchTenantData
    cases sites t.tenantId <;> rfl
  answered i t d hi hsite := by
    refine ⟨fetchTenantData sites t, ?_, ?_, fun column => ?_⟩
    · show (tenants.map (fetchTenantData sites))[i]? = _
      rw [List.getElem?_map, hi]
      rfl
    · unfold fetchTenantData
      rw [hsite]
      rfl
    · rw [fetchTenantData_get, answer, hsite]
      rfl
  failed i t message hi hsite := by
    refine ⟨fetchTenantData sites t, ?_, ?_, ?_⟩
    · show (tenants.map (fetchTenantData sites))[i]? = _
      rw [List.getElem?_map, hi]
      rfl
    · unfold fetchTenantData
      rw [hsite]
    · unfold fetchTenantData
      rw [hsite]
  totals column := by
    show Counts.get (List.foldl _ _ _) column = _
    rw [foldl_get, List.map_map]
    have hzero : Counts.zero.get column = 0 := by cases column <;> rfl
    rw [hzero, Nat.zero_add]
    exact sum_answers tenants column

theorem platform_of_admin (sites : Sites) (tenants : List Tenant) (turns : List Fanout.Turn) :
    getPlatformAnalytics "super_admin" sites tenants turns =
      .ok ((Fanout.results (run (Fanout.step tenants.length (tenants.map (fetchTenantData sites)))
        (Fanout.initial (tenants.map (fetchTenantData sites))) turns)).map (process tenants)) :=
  if_neg (by simp)

/-- **The report sums up the schools**, for any schedule of the requests: it can be brought to
an end, and where it has ended the report accounts for every school. -/
theorem platform_sums (sites : Sites) (tenants : List Tenant) (turns : List Fanout.Turn) :
    (∃ more report, getPlatformAnalytics "super_admin" sites tenants (turns ++ more) =
      .ok (some report)) ∧
    ∀ report, getPlatformAnalytics "super_admin" sites tenants turns = .ok (some report) →
      SumsUp sites tenants report := by
  constructor
  · by_cases hempty : tenants = []
    · subst hempty
      refine ⟨[], process [] [], ?_⟩
      have hsound := (Fanout.sound_initial ([] : List Summary)).run 0 (turns ++ [])
      have hnil := List.length_eq_zero_iff.1 hsound.length
      rw [platform_of_admin]
      show Except.ok ((Fanout.results (run (Fanout.step 0 []) (Fanout.initial []) _)).map _) = _
      rw [hnil]
      rfl
    · have hcap : 0 < tenants.length := List.length_pos_iff.2 hempty
      obtain ⟨more, hmore⟩ := Fanout.completes hcap
        ((Fanout.sound_initial (tenants.map (fetchTenantData sites))).run _ turns)
      refine ⟨more, process tenants (tenants.map (fetchTenantData sites)), ?_⟩
      rw [platform_of_admin, run_append, hmore]
      rfl
  · intro report hreport
    rw [platform_of_admin, Except.ok.injEq, Option.map_eq_some_iff] at hreport
    obtain ⟨results, hresults, rfl⟩ := hreport
    rw [Fanout.gathered hresults]
    exact process_sumsUp sites tenants

end Sums

end Sams.Reports
