import Sams.Family.Facts
import Sams.Lib.Unions
import Sams.Trips.Consent

/-!
# Whose enrollments are listed

`get_enrollments_for_user` lists what each role of the user is shown: the school's administrators
all enrollments but requests and refusals of parents, a teacher those in their own trips, a
parent those of the students linked to them and a student their own. An enrollment that two roles
are shown is listed once.

* **`roster_shown`** — an enrollment is on the list if and only if one of the roles is shown it,
  once, with the names of its own student, class and trip.
* **`decisions_shown`** — whoever has decided on an enrollment has it on their list,
  before and afterwards.
-/

namespace Sams.Trips

open School Programs Rows Interleaving TenantRepository Family Unions

/-! ## The listings -/

/-- An enrollment as it is listed. The email of the student is read for the staff only. -/
structure RosterEntry extends EnrollmentListing where
  studentEmail : Option String := none
  deriving DecidableEq, Repr

/-- The trip that an enrollment is in. -/
def tripOf (t : Tables) (n : EnrollmentRow) : Option EventRow := do
  let m ← getClassMapById t n.eventClassMapId
  t.event? m.eventId

/-- An enrollment joined with the user of its student as well. -/
def staffListing (t : Tables) (n : EnrollmentRow) : Option RosterEntry := do
  let listing ← enrollmentListing t n
  let u ← t.users.find? fun u => u.id = n.studentId
  return { toEnrollmentListing := listing, studentEmail := some u.email }

/-- An enrollment joined without its user. -/
def ownListing (t : Tables) (n : EnrollmentRow) : Option RosterEntry :=
  (enrollmentListing t n).map fun listing => { toEnrollmentListing := listing }

namespace TenantRepository

/-- `WHERE en.state NOT IN ('requested_by_student', 'rejected_by_parent')`. -/
def getAllEnrollments (t : Tables) : List RosterEntry :=
  (t.enrollments.filter fun n => n.state ∉ [.requestedByStudent, .rejectedByParent]).filterMap
    (staffListing t)

/-- `WHERE e.created_by = $1 AND en.state != 'rejected_by_parent'`. -/
def getEnrollmentsForTeacher (t : Tables) (teacherId : Nat) : List RosterEntry :=
  (t.enrollments.filter fun n =>
    (tripOf t n).any (fun e => e.createdBy = teacherId) ∧
      n.state ≠ .rejectedByParent).filterMap (staffListing t)

def getEnrollmentsForParent (t : Tables) (parentId : Nat) : List RosterEntry :=
  (t.enrollments.filter fun n => isStudentLinkedToParent t n.studentId parentId).filterMap
    (ownListing t)

def getEnrollmentsForStudent (t : Tables) (studentId : Nat) : List RosterEntry :=
  (t.enrollments.filter fun n => n.studentId = studentId).filterMap (ownListing t)

end TenantRepository

/-- `if e["id"] not in enroll_ids`. -/
abbrev addEnrollments : Seen RosterEntry Nat → List RosterEntry → Seen RosterEntry Nat :=
  addNew fun e => e.row.id

/-- A listing by the id of the user, for those with the role. -/
def listingFor (role : String) (userId : ParsedId) (roles : List String)
    (f : Tables → Nat → List RosterEntry) :
    Task (List RosterEntry) :=
  if role ∈ roles then do
    let id ← ofExcept userId.column
    Proc.look fun d => f d.val id
  else return []

/-- `roles.intersection({"school_admin", "super_admin"})`. -/
def IsSchoolAdmin (roles : List String) : Prop := "school_admin" ∈ roles ∨ "super_admin" ∈ roles

instance (roles : List String) : Decidable (IsSchoolAdmin roles) :=
  inferInstanceAs (Decidable (_ ∨ _))

namespace TenantService

/-- What the staff of the school is shown. -/
def staffEnrollments (userId : ParsedId) (roles : List String) : Task (List RosterEntry) :=
  if IsSchoolAdmin roles then Proc.look fun d => getAllEnrollments d.val
  else listingFor "teacher" userId roles getEnrollmentsForTeacher

def getEnrollmentsForUser (userId : ParsedId) (roles : List String) : Task (List RosterEntry) := do
  let staff ← staffEnrollments userId roles
  let acc := addEnrollments ([], []) staff
  let parent ← listingFor "parent" userId roles getEnrollmentsForParent
  let acc := addEnrollments acc parent
  let student ← listingFor "student" userId roles getEnrollmentsForStudent
  return (addEnrollments acc student).1

end TenantService

open TenantService

/-! ## Who is shown what -/

/-- One of the roles is shown the enrollment. An administrator is shown nothing more as a
teacher. -/
def OnRoster (t : Tables) (userId : ParsedId) (roles : List String) (n : EnrollmentRow) : Prop :=
  (IsSchoolAdmin roles ∧ n.state ∉ [EnrollmentState.requestedByStudent, .rejectedByParent]) ∨
  (¬IsSchoolAdmin roles ∧ "teacher" ∈ roles ∧ n.state ≠ .rejectedByParent ∧
    ∃ e, tripOf t n = some e ∧ userId = .number e.createdBy) ∨
  ("parent" ∈ roles ∧ ∃ p, userId = .number p ∧ isStudentLinkedToParent t n.studentId p = true) ∨
  ("student" ∈ roles ∧ userId = .number n.studentId)

/-- One of the listings asks for the id. -/
def AsksForId (roles : List String) : Prop :=
  ¬IsSchoolAdmin roles ∧ "teacher" ∈ roles ∨ "parent" ∈ roles ∨ "student" ∈ roles

/-- The entry has the columns of its own enrollment. -/
def Describes (t : Tables) (e : RosterEntry) : Prop :=
  enrollmentListing t e.row = some e.toEnrollmentListing

/-! ## Single listings -/

/-- The entries are of the enrollments with the property, and of all of them. -/
structure Lists (d : Db) (P : EnrollmentRow → Prop) (xs : List RosterEntry) : Prop where
  sound : ∀ e ∈ xs, e.row ∈ d.val.enrollments ∧ P e.row ∧ Describes d.val e
  complete : ∀ n ∈ d.val.enrollments, P n → n.id ∈ xs.map fun e => e.row.id

section Listings

variable {d : Db} {P Q : EnrollmentRow → Prop} {xs : List RosterEntry}

theorem lists_nil (h : ∀ n, ¬P n) : Lists d P [] := ⟨by simp, fun n _ hn => absurd hn (h n)⟩

theorem Lists.congr (h : Lists d P xs) (hPQ : ∀ n, P n ↔ Q n) : Lists d Q xs where
  sound e he := by
    obtain ⟨hrow, hP, hdescribes⟩ := h.sound e he
    exact ⟨hrow, (hPQ _).1 hP, hdescribes⟩
  complete n hn hQ := h.complete n hn ((hPQ n).2 hQ)

/-- The enrollments listed are those with the property. -/
theorem Lists.mem_rows (h : Lists d P xs) {n : EnrollmentRow} :
    n ∈ xs.map (fun e => e.row) ↔ n ∈ d.val.enrollments ∧ P n := by
  rw [List.mem_map]
  constructor
  · rintro ⟨e, he, rfl⟩
    obtain ⟨hrow, hP, -⟩ := h.sound e he
    exact ⟨hrow, hP⟩
  · intro ⟨hn, hP⟩
    obtain ⟨e, he, hid⟩ := List.mem_map.1 (h.complete n hn hP)
    exact ⟨e, he, d.ok.keys.enrollments.eq_of_key_eq (h.sound e he).1 hn hid⟩

/-- Every enrollment can be joined. -/
theorem lists_filterMap {f : EnrollmentRow → Option RosterEntry}
    (hf : ∀ n ∈ d.val.enrollments, ∃ e, f n = some e ∧ e.row = n ∧ Describes d.val e)
    (p : EnrollmentRow → Bool) :
    Lists d (fun n => p n = true) ((d.val.enrollments.filter p).filterMap f) where
  sound e he := by
    obtain ⟨n, hn, hjoined⟩ := List.mem_filterMap.1 he
    obtain ⟨hn, hp⟩ := List.mem_filter.1 hn
    obtain ⟨e', hjoined', hrow, hdescribes⟩ := hf n hn
    obtain rfl : e = e' := Option.some.inj (hjoined.symm.trans hjoined')
    exact ⟨hrow ▸ hn, hrow ▸ hp, hdescribes⟩
  complete n hn hp := by
    obtain ⟨e, hjoined, hrow, -⟩ := hf n hn
    refine List.mem_map.2 ⟨e, List.mem_filterMap.2 ⟨n, List.mem_filter.2 ⟨hn, hp⟩, hjoined⟩, ?_⟩
    exact congrArg EnrollmentRow.id hrow

/-- The trip of an enrollment is there. -/
theorem classMap_some {n : EnrollmentRow} (hn : n ∈ d.val.enrollments) :
    ∃ m, getClassMapById d.val n.eventClassMapId = some m ∧ m ∈ d.val.eventClasses := by
  obtain ⟨m, hm, hid⟩ := d.ok.rollovers.enrollment_event_class.exists_row hn rfl
  exact ⟨m, d.ok.keys.eventClasses.find?_eq_some.2 ⟨hm, hid⟩, hm⟩

theorem ownListing_some {n : EnrollmentRow} (hn : n ∈ d.val.enrollments) :
    ∃ e, ownListing d.val n = some e ∧ e.row = n ∧ Describes d.val e := by
  obtain ⟨m, hm, -⟩ := classMap_some hn
  obtain ⟨listing, hlisting, hrow⟩ := enrollmentListing_some hn hm
  refine ⟨{ toEnrollmentListing := listing }, by rw [ownListing, hlisting]; rfl, hrow, ?_⟩
  unfold Describes
  rw [hrow]
  exact hlisting

theorem staffListing_some {n : EnrollmentRow} (hn : n ∈ d.val.enrollments) :
    ∃ e, staffListing d.val n = some e ∧ e.row = n ∧ Describes d.val e := by
  obtain ⟨m, hm, -⟩ := classMap_some hn
  obtain ⟨listing, hlisting, hrow⟩ := enrollmentListing_some hn hm
  obtain ⟨s, hs, hstudent⟩ := d.ok.rollovers.enrollment_student.exists_row hn rfl
  obtain ⟨u, hu, huser⟩ := d.ok.placements.student_user.exists_row hs rfl
  have hfind : d.val.users.find? (fun u => u.id = n.studentId) = some u :=
    d.ok.keys.users.find?_eq_some.2 ⟨hu, huser.trans hstudent⟩
  refine ⟨{ toEnrollmentListing := listing, studentEmail := some u.email }, ?_, hrow, ?_⟩
  · rw [staffListing, hlisting, hfind]
    rfl
  · unfold Describes
    rw [hrow]
    exact hlisting

theorem lists_all :
    Lists d (fun n => n.state ∉ [EnrollmentState.requestedByStudent, .rejectedByParent])
    (getAllEnrollments d.val) :=
  (lists_filterMap (fun _ hn => staffListing_some hn) _).congr fun n => by simp

theorem lists_teacher (teacherId : Nat) : Lists d (fun n => n.state ≠ .rejectedByParent ∧
    ∃ e, tripOf d.val n = some e ∧
      e.createdBy = teacherId) (getEnrollmentsForTeacher d.val teacherId) := by
  refine (lists_filterMap (fun _ hn => staffListing_some hn) _).congr fun n => ?_
  simp only [decide_eq_true_eq, Option.any_eq_true]
  exact and_comm

theorem lists_parent (parentId : Nat) :
    Lists d (fun n => isStudentLinkedToParent d.val n.studentId parentId = true)
      (getEnrollmentsForParent d.val parentId) :=
  lists_filterMap (fun _ hn => ownListing_some hn) _

theorem lists_student (studentId : Nat) :
    Lists d (fun n => n.studentId = studentId) (getEnrollmentsForStudent d.val studentId) :=
  (lists_filterMap (fun _ hn => ownListing_some hn) _).congr fun n => by simp

/-- Two listings joined. -/
theorem Lists.add {acc : Seen RosterEntry Nat} (hacc : Collected (fun e => e.row.id) acc)
    (h : Lists d P acc.1)
    (hxs : Lists d Q xs) : Lists d (fun n => P n ∨ Q n) (addEnrollments acc xs).1 where
  sound e he := by
    rcases mem_of_mem_addNew he with he | he
    · obtain ⟨hrow, hP, hdescribes⟩ := h.sound e he
      exact ⟨hrow, .inl hP, hdescribes⟩
    · obtain ⟨hrow, hQ, hdescribes⟩ := hxs.sound e he
      exact ⟨hrow, .inr hQ, hdescribes⟩
  complete n hn hPQ := by
    rw [mem_keys_addNew hacc]
    exact hPQ.imp (h.complete n hn) (hxs.complete n hn)

end Listings

/-! ## The list of a user -/

section Roster

variable {d d' : Db} {userId : ParsedId} {roles : List String}

theorem listingFor_eq_ok {role : String} {f : Tables → Nat → List RosterEntry}
    {xs : List RosterEntry} :
    (listingFor role userId roles f).seq d = .ok xs d' ↔
      (role ∈ roles ∧ (∃ k, userId = .number k ∧ xs = f d.val k) ∨ role ∉ roles ∧ xs = []) ∧
        d = d' := by
  unfold listingFor
  by_cases hrole : role ∈ roles
  · rw [if_pos hrole, Proc.seq_bind, bind_eq_ok]
    constructor
    · intro ⟨k, t, hk, hxs⟩
      obtain ⟨hid, rfl⟩ := ofExcept_eq_ok.1 hk
      rw [Proc.seq_look] at hxs
      obtain ⟨rfl, rfl⟩ := query_eq_ok.1 hxs
      exact ⟨.inl ⟨hrole, k, column_eq_ok.1 hid, rfl⟩, rfl⟩
    · rintro ⟨⟨-, k, hk, rfl⟩ | ⟨h, -⟩, rfl⟩
      · refine ⟨k, d, ofExcept_eq_ok.2 ⟨column_eq_ok.2 hk, rfl⟩, ?_⟩
        rw [Proc.seq_look]
        exact query_eq_ok.2 ⟨rfl, rfl⟩
      · exact absurd hrole h
  · rw [if_neg hrole]
    constructor
    · intro h
      obtain ⟨rfl, rfl⟩ := pure_eq_ok.1 h
      exact ⟨.inr ⟨hrole, rfl⟩, rfl⟩
    · rintro ⟨⟨h, -⟩ | ⟨-, rfl⟩, rfl⟩
      · exact absurd h hrole
      · exact pure_eq_ok.2 ⟨rfl, rfl⟩

theorem listingFor_returns (role : String) (f : Tables → Nat → List RosterEntry) :
    (∃ xs d', (listingFor role userId roles f).seq d = .ok xs d') ↔
      (role ∈ roles → ∃ k, userId = .number k) := by
  simp only [listingFor_eq_ok]
  constructor
  · rintro ⟨xs, d', ⟨-, k, hk, -⟩ | ⟨h, -⟩, -⟩ hrole
    · exact ⟨k, hk⟩
    · exact absurd hrole h
  · intro h
    by_cases hrole : role ∈ roles
    · obtain ⟨k, hk⟩ := h hrole
      exact ⟨_, d, .inl ⟨hrole, k, hk, rfl⟩, rfl⟩
    · exact ⟨_, d, .inr ⟨hrole, rfl⟩, rfl⟩

theorem lists_listingFor {role : String} {f : Tables → Nat → List RosterEntry}
    {P : Nat → EnrollmentRow → Prop} {xs : List RosterEntry} (hf : ∀ k, Lists d (P k) (f d.val k))
    (h : (listingFor role userId roles f).seq d = .ok xs d') :
    Lists d (fun n => role ∈ roles ∧ ∃ k, userId = .number k ∧ P k n) xs ∧ d = d' := by
  obtain ⟨⟨hrole, k, hk, rfl⟩ | ⟨hrole, rfl⟩, rfl⟩ := listingFor_eq_ok.1 h
  · refine ⟨(hf k).congr fun n => ?_, rfl⟩
    constructor
    · intro hP
      exact ⟨hrole, k, hk, hP⟩
    · rintro ⟨-, k', hk', hP⟩
      obtain rfl : k = k' := ParsedId.number.inj (hk.symm.trans hk')
      exact hP
  · exact ⟨lists_nil fun n h => hrole h.1, rfl⟩

/-- What the staff is shown. -/
def OnStaffRoster (t : Tables) (userId : ParsedId) (roles : List String)
    (n : EnrollmentRow) : Prop :=
  (IsSchoolAdmin roles ∧ n.state ∉ [EnrollmentState.requestedByStudent, .rejectedByParent]) ∨
  (¬IsSchoolAdmin roles ∧ "teacher" ∈ roles ∧ ∃ k, userId = .number k ∧
    n.state ≠ .rejectedByParent ∧ ∃ e, tripOf t n = some e ∧ e.createdBy = k)

theorem lists_staff {xs : List RosterEntry}
    (h : (staffEnrollments userId roles).seq d = .ok xs d') :
    Lists d (OnStaffRoster d.val userId roles) xs ∧ d = d' := by
  unfold staffEnrollments at h
  by_cases hadmin : IsSchoolAdmin roles
  · rw [if_pos hadmin, Proc.seq_look] at h
    obtain ⟨rfl, rfl⟩ := query_eq_ok.1 h
    exact ⟨lists_all.congr fun n => by simp [OnStaffRoster, hadmin], rfl⟩
  · rw [if_neg hadmin] at h
    obtain ⟨hlists, rfl⟩ := lists_listingFor lists_teacher h
    exact ⟨hlists.congr fun n => by simp [OnStaffRoster, hadmin], rfl⟩

theorem onRoster_iff {t : Tables} {n : EnrollmentRow} : OnRoster t userId roles n ↔
    (OnStaffRoster t userId roles n ∨
      "parent" ∈ roles ∧ ∃ k, userId = .number k ∧ isStudentLinkedToParent t n.studentId k = true) ∨
      "student" ∈ roles ∧ ∃ k, userId = .number k ∧ n.studentId = k := by
  have hteacher : (∃ k, userId = .number k ∧ n.state ≠ .rejectedByParent ∧
      ∃ e, tripOf t n = some e ∧ e.createdBy = k) ↔
      n.state ≠ .rejectedByParent ∧ ∃ e, tripOf t n = some e ∧ userId = .number e.createdBy := by
    constructor
    · rintro ⟨k, hk, hstate, e, he, rfl⟩
      exact ⟨hstate, e, he, hk⟩
    · intro ⟨hstate, e, he, hk⟩
      exact ⟨_, hk, hstate, e, he, rfl⟩
  have hstudent : (∃ k, userId = .number k ∧ n.studentId = k) ↔ userId = .number n.studentId := by
    constructor
    · rintro ⟨k, hk, rfl⟩
      exact hk
    · intro h
      exact ⟨_, h, rfl⟩
  unfold OnRoster OnStaffRoster
  rw [hteacher, hstudent, or_assoc, or_assoc]

/-- **The list of a user** has what each of the roles is shown, once. -/
theorem getEnrollmentsForUser_spec {rows : List RosterEntry}
    (h : (getEnrollmentsForUser userId roles).seq d = .ok rows d') :
    Lists d (OnRoster d.val userId roles) rows ∧ (rows.map fun e => e.row.id).Nodup ∧ d = d' := by
  unfold getEnrollmentsForUser at h
  simp only [Proc.seq_bind, Proc.seq_pure] at h
  obtain ⟨staff, t, hfirst, h⟩ := bind_eq_ok.1 h
  obtain ⟨parent, t', hsecond, h⟩ := bind_eq_ok.1 h
  obtain ⟨student, t'', hthird, h⟩ := bind_eq_ok.1 h
  obtain ⟨hstaff, rfl⟩ := lists_staff hfirst
  obtain ⟨hparent, rfl⟩ := lists_listingFor lists_parent hsecond
  obtain ⟨hstudent, rfl⟩ := lists_listingFor lists_student hthird
  obtain ⟨rfl, rfl⟩ := pure_eq_ok.1 h
  have hnil : Collected (fun e : RosterEntry => e.row.id) (([], []) : Seen RosterEntry Nat) :=
    collected_nil
  have hstaffed := Collected.addNew hnil staff
  have hjoined := Collected.addNew hstaffed parent
  refine ⟨?_, (Collected.addNew hjoined student).nodup, rfl⟩
  refine (Lists.add hjoined
    (Lists.add hstaffed (Lists.add hnil (lists_nil fun _ h => h) hstaff) hparent) hstudent).congr ?_
  intro n
  rw [onRoster_iff, false_or]

/-- The list is answered where the id is a number, or nobody asks for it. -/
theorem getEnrollmentsForUser_returns :
    (∃ rows d', (getEnrollmentsForUser userId roles).seq d = .ok rows d') ↔
    (AsksForId roles → ∃ k, userId = .number k) := by
  have hstaff : (∃ xs d', (staffEnrollments userId roles).seq d = .ok xs d') ↔
      (¬IsSchoolAdmin roles → "teacher" ∈ roles → ∃ k, userId = .number k) := by
    unfold staffEnrollments
    by_cases hadmin : IsSchoolAdmin roles
    · rw [if_pos hadmin, Proc.seq_look]
      exact iff_of_true ⟨_, d, query_eq_ok.2 ⟨rfl, rfl⟩⟩ fun h => absurd hadmin h
    · rw [if_neg hadmin, listingFor_returns]
      exact ⟨fun h _ => h, fun h => h hadmin⟩
  have hparts : (∃ rows d', (getEnrollmentsForUser userId roles).seq d = .ok rows d') ↔
      (∃ xs d', (staffEnrollments userId roles).seq d = .ok xs d') ∧
      (∃ xs d', (listingFor "parent" userId roles getEnrollmentsForParent).seq d = .ok xs d') ∧
      ∃ xs d', (listingFor "student" userId roles getEnrollmentsForStudent).seq d = .ok xs d' := by
    unfold getEnrollmentsForUser
    simp only [Proc.seq_bind, Proc.seq_pure]
    constructor
    · intro ⟨rows, d', h⟩
      obtain ⟨staff, t, hstaff, h⟩ := bind_eq_ok.1 h
      obtain ⟨parent, t', hparent, h⟩ := bind_eq_ok.1 h
      obtain ⟨student, t'', hstudent, -⟩ := bind_eq_ok.1 h
      obtain ⟨-, rfl⟩ := lists_staff hstaff
      obtain ⟨-, rfl⟩ := listingFor_eq_ok.1 hparent
      exact ⟨⟨_, _, hstaff⟩, ⟨_, _, hparent⟩, ⟨_, _, hstudent⟩⟩
    · rintro ⟨⟨staff, t, hstaff⟩, ⟨parent, t', hparent⟩, student, t'', hstudent⟩
      obtain ⟨-, rfl⟩ := lists_staff hstaff
      obtain ⟨-, rfl⟩ := listingFor_eq_ok.1 hparent
      obtain ⟨-, rfl⟩ := listingFor_eq_ok.1 hstudent
      refine ⟨(addEnrollments (addEnrollments (addEnrollments ([], []) staff) parent) student).1, d,
        ?_⟩
      rw [bind_of_ok hstaff, bind_of_ok hparent, bind_of_ok hstudent]
      rfl
  rw [hparts, hstaff, listingFor_returns, listingFor_returns]
  unfold AsksForId
  rw [or_imp, or_imp, and_imp]

/-- **Who is shown which enrollments.** The list is answered where the id of the user is a number,
or no role asks for it; it has the enrollments that one of the roles is shown and no others, each of
them once, with the columns of its own student, class and trip. -/
theorem roster_shown (d : Db) (userId : ParsedId) (roles : List String) :
    ((∃ rows d', (getEnrollmentsForUser userId roles).seq d = .ok rows d') ↔
      (AsksForId roles → ∃ k, userId = .number k)) ∧
    ∀ rows d', (getEnrollmentsForUser userId roles).seq d = .ok rows d' →
      d = d' ∧ (rows.map fun e => e.row.id).Nodup ∧
      (∀ n, n ∈ rows.map (fun e => e.row) ↔ n ∈ d.val.enrollments ∧ OnRoster d.val userId roles n) ∧
      ∀ e ∈ rows, Describes d.val e := by
  refine ⟨getEnrollmentsForUser_returns, fun rows d' h => ?_⟩
  obtain ⟨hlists, hnodup, hsame⟩ := getEnrollmentsForUser_spec h
  exact ⟨hsame, hnodup, fun n => hlists.mem_rows, fun e he => (hlists.sound e he).2.2⟩

end Roster

/-! ## Decisions -/

/-- An ordinary user of the school: the primary role is one of the roles, and no operator's. -/
structure Ordinary (user : Authz.CurrentUser) : Prop where
  primary : user.role ∈ user.roles
  notSuper : "super_admin" ∉ user.roles
  notAll : "*" ∉ user.roles

/-- No role stands for that of a parent or of a teacher. -/
theorem Ordinary.mem_of_hasRole {user : Authz.CurrentUser} (h : Ordinary user) {role : String}
    (hrole : role ∈ ["parent", "teacher"]) (hhas : user.hasRole role = true) :
    role ∈ user.roles := by
  have hheld : ∀ r, r ∈ user.held → r ∈ user.roles := by
    intro r hr
    rcases Authz.CurrentUser.mem_held.1 hr with ⟨-, rfl⟩ | hr
    · exact h.primary
    · exact hr
  have hcarried : ∀ x ∈ Authz.compositeRolePermissions, role ∉ x.2 := by
    simp only [List.mem_cons, List.not_mem_nil, or_false] at hrole
    rcases hrole with rfl | rfl <;> decide +kernel
  rcases Authz.CurrentUser.hasRole_iff.1 hhas with hr | hr | ⟨hname, -⟩ | hr | ⟨r, -, hr⟩
  · exact absurd (hheld _ hr) h.notSuper
  · exact absurd (hheld _ hr) h.notAll
  · simp only [List.mem_cons, List.not_mem_nil, or_false] at hrole hname
    rcases hrole with rfl | rfl <;> simp at hname
  · exact hheld _ hr
  · obtain ⟨permissions, hmem, hr⟩ := Authz.mem_permissionsOf hr
    exact absurd hr (hcarried _ hmem)

section Decided

variable {d d' : Db} {actor : Actor} {enrollmentId : Nat}

/-- The details are of the enrollment, and of the trip that it is in. -/
theorem details_some {details : EnrollmentDetails}
    (h : getEnrollmentById d.val enrollmentId = some details) :
    details.row ∈ d.val.enrollments ∧ details.row.id = enrollmentId ∧
      ∃ e, tripOf d.val details.row = some e ∧ details.eventCreatedBy = e.createdBy := by
  unfold getEnrollmentById enrollment? at h
  obtain ⟨row, hrow, h⟩ := Option.bind_eq_some_iff.1 h
  obtain ⟨s, -, h⟩ := Option.bind_eq_some_iff.1 h
  obtain ⟨m, hm, h⟩ := Option.bind_eq_some_iff.1 h
  obtain ⟨c, -, h⟩ := Option.bind_eq_some_iff.1 h
  obtain ⟨e, he, h⟩ := Option.bind_eq_some_iff.1 h
  obtain rfl := Option.some.inj h
  refine ⟨List.mem_of_find?_eq_some hrow, by simpa using List.find?_some hrow, e, ?_, rfl⟩
  unfold tripOf
  rw [hm]
  exact he

/-- A parent who may approve is linked to the student. -/
theorem linked_of_canApprove {t : Tables} {studentId parentId : Nat}
    (h : canParentApproveForStudent t studentId parentId = true) :
    isStudentLinkedToParent t studentId parentId = true := by
  unfold canParentApproveForStudent at h
  unfold isStudentLinkedToParent
  obtain ⟨m, hm, hlink⟩ := List.any_eq_true.1 h
  refine List.any_eq_true.2 ⟨m, hm, ?_⟩
  simp only [decide_eq_true_eq] at hlink ⊢
  exact ⟨hlink.1, hlink.2.1⟩

/-- What the actor is to the student is read off the tables. -/
theorem parenthood_ok {studentId : Nat} {parent : StudentsRouter.Parenthood}
    (h : (StudentsRouter.parenthood actor studentId).seq d = .ok parent d') : d = d' ∧
      (parent.mayApprove = true → actor.user.hasRole "parent" = true ∧
        ∃ p, actor.id = .number p ∧ isStudentLinkedToParent d.val studentId p = true) := by
  unfold StudentsRouter.parenthood at h
  by_cases hparent : actor.user.hasRole "parent" = true
  · rw [if_pos hparent, Proc.seq_bind] at h
    obtain ⟨p, t, hp, h⟩ := bind_eq_ok.1 h
    obtain ⟨hid, rfl⟩ := ofExcept_eq_ok.1 hp
    rw [Proc.seq_bind, Proc.seq_look, query_bind] at h
    by_cases hmay : canParentApproveForStudent d.val studentId p = true
    · rw [if_pos hmay] at h
      obtain ⟨-, rfl⟩ := pure_eq_ok.1 h
      exact ⟨rfl, fun _ => ⟨hparent, p, column_eq_ok.1 hid, linked_of_canApprove hmay⟩⟩
    · rw [if_neg hmay, Proc.seq_bind, Proc.seq_look, query_bind] at h
      obtain ⟨rfl, rfl⟩ := pure_eq_ok.1 h
      exact ⟨rfl, nofun⟩
  · rw [if_neg hparent] at h
    obtain ⟨rfl, rfl⟩ := pure_eq_ok.1 h
    exact ⟨rfl, nofun⟩

/-- The creator of the trip decides on what a parent has approved. -/
theorem teacherDecision_creator {details : EnrollmentDetails} {requested : StudentsRouter.StateName}
    {st : EnrollmentState} (h : StudentsRouter.teacherDecision actor details requested = .ok st) :
    actor.id = .number details.eventCreatedBy ∧ details.row.state = .approvedByParent := by
  unfold StudentsRouter.teacherDecision at h
  split_ifs at h with hcreator hrequest happroved
  · refine ⟨?_, not_not.1 happroved⟩
    cases hid : actor.id with
    | other asInt =>
      rw [hid] at hcreator
      cases hcreator
    | number n =>
      rw [hid] at hcreator
      exact congrArg ParsedId.number (of_decide_eq_true hcreator)

/-- A value that is mapped. -/
theorem exceptMap_eq_ok {α β ε : Type} {f : α → β} {x : Except ε α} {b : β} :
    f <$> x = .ok b ↔ ∃ a, x = .ok a ∧ f a = b := by
  cases x with
  | error e => exact iff_of_false nofun nofun
  | ok a =>
    exact ⟨fun h => ⟨a, rfl, Except.ok.inj h⟩,
    fun ⟨a', ha, hb⟩ => Except.ok.inj ha ▸ congrArg Except.ok hb⟩

/-- Who decides is linked to the student, or has created the trip. -/
theorem decision_by {parent : StudentsRouter.Parenthood} {details : EnrollmentDetails}
    {requested : StudentsRouter.StateName} {st : EnrollmentState} {teacherId : Option ParsedId}
    (h : StudentsRouter.decision actor parent details requested = .ok (st, teacherId)) :
    parent.mayApprove = true ∨
      actor.user.hasRole "teacher" = true ∧ actor.id = .number details.eventCreatedBy ∧
        details.row.state = .approvedByParent ∧ st ∈ teacherStage := by
  unfold StudentsRouter.decision at h
  split_ifs at h with hmay hteacher
  · exact .inl hmay
  · obtain ⟨s, hdecision, hs⟩ := exceptMap_eq_ok.1 h
    obtain ⟨rfl, -⟩ := Prod.mk.inj hs
    obtain ⟨hid, hstate⟩ := teacherDecision_creator hdecision
    exact .inr ⟨hteacher, hid, hstate, teacherDecision_stage hdecision⟩

theorem oneOf_requested {name : StudentsRouter.StateName} {s s' st : EnrollmentState}
    (h : name.oneOf s s' = some st) : name = .state st := by
  unfold StudentsRouter.StateName.oneOf at h
  split_ifs at h with hs hs'
  · rw [hs, Option.some.inj h]
  · rw [hs', Option.some.inj h]

theorem parentDecision_requested {current st : EnrollmentState}
    {requested : StudentsRouter.StateName}
    (h : StudentsRouter.parentDecision current requested = .ok st) : requested = .state st := by
  unfold StudentsRouter.parentDecision at h
  split_ifs at h
  cases hone : requested.oneOf .approvedByParent .rejectedByParent with
  | none =>
    rw [hone] at h
    cases h
  | some s =>
    rw [hone] at h
    cases h
    exact oneOf_requested hone

theorem teacherDecision_requested {details : EnrollmentDetails}
    {requested : StudentsRouter.StateName}
    {st : EnrollmentState} (h : StudentsRouter.teacherDecision actor details requested = .ok st) :
    requested = .state st := by
  unfold StudentsRouter.teacherDecision at h
  split_ifs at h
  cases hone : requested.oneOf .approvedByTeacher .rejectedByTeacher with
  | none =>
    rw [hone] at h
    cases h
  | some s =>
    rw [hone] at h
    cases h
    exact oneOf_requested hone

/-- The state that is written is the one asked for. -/
theorem decision_requested {parent : StudentsRouter.Parenthood} {details : EnrollmentDetails}
    {requested : StudentsRouter.StateName} {st : EnrollmentState} {teacherId : Option ParsedId}
    (h : StudentsRouter.decision actor parent details requested = .ok (st, teacherId)) :
    requested = .state st := by
  unfold StudentsRouter.decision at h
  split_ifs at h
  · obtain ⟨s, hdecision, hs⟩ := exceptMap_eq_ok.1 h
    obtain ⟨rfl, -⟩ := Prod.mk.inj hs
    exact parentDecision_requested hdecision
  · obtain ⟨s, hdecision, hs⟩ := exceptMap_eq_ok.1 h
    obtain ⟨rfl, -⟩ := Prod.mk.inj hs
    exact teacherDecision_requested hdecision

/-- What a decision that is answered has read and written. -/
theorem updateEnrollmentApproval_ok {requested : StudentsRouter.StateName}
    {details : EnrollmentDetails}
    (h : (StudentsRouter.updateEnrollmentApproval actor enrollmentId requested).seq d =
      .ok details d') :
    ∃ found parent st teacherId teacher parentId, getEnrollmentById d.val enrollmentId =
      some found ∧ (StudentsRouter.parenthood actor found.row.studentId).seq d = .ok parent d ∧
      StudentsRouter.decision actor parent found requested = .ok (st, teacherId) ∧
      updateEnrollmentState enrollmentId st teacher parentId d = .ok () d' := by
  unfold StudentsRouter.updateEnrollmentApproval at h
  rw [Proc.seq_bind, Proc.seq_look, query_bind] at h
  cases hfound : getEnrollmentById d.val enrollmentId with
  | none =>
    rw [hfound] at h
    cases h
  | some found =>
    rw [hfound] at h
    dsimp only at h
    rw [Proc.seq_bind] at h
    obtain ⟨parent, t, hparent, h⟩ := bind_eq_ok.1 h
    obtain ⟨rfl, -⟩ := parenthood_ok hparent
    rw [Proc.seq_bind] at h
    obtain ⟨⟨st, teacherId⟩, t, hdecision, h⟩ := bind_eq_ok.1 h
    obtain ⟨hdecided, rfl⟩ := ofExcept_eq_ok.1 hdecision
    dsimp only at h
    rw [Proc.seq_bind] at h
    obtain ⟨teacher, t, hteacher, h⟩ := bind_eq_ok.1 h
    obtain ⟨-, rfl⟩ := ofExcept_eq_ok.1 hteacher
    rw [Proc.seq_bind] at h
    obtain ⟨parentId, t, hparentId, h⟩ := bind_eq_ok.1 h
    obtain ⟨-, rfl⟩ := ofExcept_eq_ok.1 hparentId
    rw [Proc.seq_bind, Proc.seq_marked] at h
    obtain ⟨_, t, hwrite, h⟩ := bind_eq_ok.1 h
    rw [Proc.seq_bind, Proc.seq_look, query_bind] at h
    have hsame : t = d' := by
      cases hafter : getEnrollmentById t.val enrollmentId with
      | none =>
        rw [hafter] at h
        cases h
      | some after =>
        rw [hafter] at h
        exact (pure_eq_ok.1 h).2
    subst hsame
    exact ⟨found, parent, st, teacherId, teacher, parentId, rfl, hparent, hdecided, hwrite⟩

end Decided

section Seen

variable {d d' : Db} {actor : Actor} {enrollmentId : Nat}

/-- The user is answered a list with such an enrollment on it. -/
def Sees (d : Db) (actor : Actor) (P : EnrollmentRow → Prop) : Prop :=
  ∃ rows, (getEnrollmentsForUser actor.id actor.user.roles).seq d = .ok rows d ∧ ∃ e ∈ rows, P e.row

theorem sees_of_onRoster {P : EnrollmentRow → Prop} {k : Nat} (hid : actor.id = .number k)
    {n : EnrollmentRow}
    (hn : n ∈ d.val.enrollments) (hP : P n) (h : OnRoster d.val actor.id actor.user.roles n) :
    Sees d actor P := by
  obtain ⟨rows, t, hrun⟩ := getEnrollmentsForUser_returns.2 fun _ => ⟨k, hid⟩
  obtain ⟨hlists, -, rfl⟩ := getEnrollmentsForUser_spec hrun
  obtain ⟨e, he, rfl⟩ := List.mem_map.1 (hlists.mem_rows.2 ⟨hn, h⟩)
  exact ⟨rows, hrun, e, he, hP⟩

/-- Who may decide is shown the enrollment, whatever state but a parent's refusal it has. -/
theorem onRoster_of_decision (hactor : Ordinary actor.user) {t : Tables} {n : EnrollmentRow}
    (h : actor.user.hasRole "parent" = true ∧
          (∃ p, actor.id = .number p ∧ isStudentLinkedToParent t n.studentId p = true) ∨
        actor.user.hasRole "teacher" = true ∧
          n.state ∉ [EnrollmentState.requestedByStudent, .rejectedByParent] ∧
          ∃ e, tripOf t n = some e ∧ actor.id = .number e.createdBy) :
    OnRoster t actor.id actor.user.roles n := by
  rcases h with ⟨hrole, hlinked⟩ | ⟨hrole, hstate, htrip⟩
  · exact .inr (.inr (.inl ⟨hactor.mem_of_hasRole (by decide) hrole, hlinked⟩))
  · by_cases hadmin : IsSchoolAdmin actor.user.roles
    · exact .inl ⟨hadmin, hstate⟩
    · refine .inr (.inl ⟨hadmin, hactor.mem_of_hasRole (by decide) hrole, ?_, htrip⟩)
      intro hrejected
      exact hstate (by simp [hrejected])

/-- **Decisions are shown** to who has made them: whoever has decided on an enrollment had it on
their list, and has it there afterwards in the state that they have asked for. -/
theorem decisions_shown (hactor : Ordinary actor.user) {requested : StudentsRouter.StateName}
    {details : EnrollmentDetails}
    (h : (StudentsRouter.updateEnrollmentApproval actor enrollmentId requested).seq d =
      .ok details d') :
    Sees d actor (fun n => n.id = enrollmentId) ∧
      Sees d' actor fun n => n.id = enrollmentId ∧ requested = .state n.state := by
  obtain ⟨found, parent, st, teacherId, teacher, parentId, hfound, hparent, hdecision, hwrite⟩ :=
    updateEnrollmentApproval_ok h
  obtain ⟨hrow, hid, e, he, hcreated⟩ := details_some hfound
  obtain ⟨-, hmay⟩ := parenthood_ok hparent
  have hrequested := decision_requested hdecision
  -- the row afterwards, of the same student and in the same trip
  unfold updateEnrollmentState at hwrite
  have hval := exec_eq_ok.1 hwrite
  let written : EnrollmentRow := { found.row with
    state := st, teacherId := teacher.or found.row.teacherId, parentId :=
      parentId.or found.row.parentId }
  have hafter : written ∈ d'.val.enrollments := by
    rw [hval]
    exact mem_updateWhere_of_pos hrow (by simp [hid])
  have hlinks : ∀ p, isStudentLinkedToParent d'.val written.studentId p =
      isStudentLinkedToParent d.val found.row.studentId p := by
    intro p
    rw [hval]
    rfl
  have htrip : tripOf d'.val written = tripOf d.val found.row := by
    rw [hval]
    rfl
  rcases decision_by hdecision with hmayApprove | ⟨hteacher, hcreator, hstate, hstage⟩
  · obtain ⟨hrole, p, hp, hlinked⟩ := hmay hmayApprove
    refine ⟨sees_of_onRoster hp hrow hid
      (onRoster_of_decision hactor (.inl ⟨hrole, p, hp, hlinked⟩)), ?_⟩
    exact sees_of_onRoster hp hafter ⟨hid, hrequested⟩
      (onRoster_of_decision hactor (.inl ⟨hrole, p, hp, (hlinks p).trans hlinked⟩))
  · rw [hcreated] at hcreator
    refine ⟨sees_of_onRoster hcreator hrow hid
      (onRoster_of_decision hactor (.inr ⟨hteacher, ?_, e, he, hcreator⟩)), ?_⟩
    · simp [hstate]
    · refine sees_of_onRoster hcreator hafter ⟨hid, hrequested⟩
        (onRoster_of_decision hactor (.inr ⟨hteacher, ?_, e, htrip.trans he, hcreator⟩))
      show st ∉ _
      intro hmem
      have hboth : ∀ s ∈ teacherStage, s ∉ [EnrollmentState.requestedByStudent,
          .rejectedByParent] := by decide
      exact hboth st hstage hmem

theorem parent_ordinary (n : Nat) : Ordinary (parent n).user where
  primary := List.mem_singleton.2 rfl
  notSuper := by simp [parent]
  notAll := by simp [parent]

/-- One of two parents approves what the student has requested. -/
theorem decisions_shown_requestedTrip : ∃ details d',
    (StudentsRouter.updateEnrollmentApproval (parent 5) 1 (.state .approvedByParent)).seq
      requestedTrip = .ok details d' ∧ Sees requestedTrip (parent 5) (fun n => n.id = 1) ∧
      Sees d' (parent 5) fun n => n.id = 1 ∧ StudentsRouter.StateName.state .approvedByParent =
        .state n.state := by
  have hreturns :
      returns (StudentsRouter.updateEnrollmentApproval (parent 5) 1 (.state .approvedByParent)).seq
      requestedTrip = true := by decide +kernel
  obtain ⟨details, d', h⟩ := returns_iff.1 hreturns
  exact ⟨details, d', h, decisions_shown (parent_ordinary 5) h⟩

end Seen

end Sams.Trips
