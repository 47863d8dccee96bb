import Sams.School.Roster

/-!
# Removing classes

`removeClasses` is what the deletion of a class, the deletion of a level and the structure editor
share: refuse if an enrollment hangs on the classes, take their students out, record each change,
delete the event maps and the classes. **`removeClasses_ok`** is its whole effect; what it does to
a table is read off that.
-/

namespace Sams.School

open Programs Rows TenantRepository

/-! ## Placements and their history -/

/-- The class a student is in. -/
def Tables.classOf (t : Tables) (sid : Nat) : Option Nat := (t.student? sid).bind StudentRow.classId

/-- The changes recorded for a student, oldest first: the old class and the new one. -/
def Tables.changesOf (t : Tables) (sid : Nat) : List (Option Nat × Option Nat) :=
  (t.history.filter fun h => h.studentId = sid).map fun h => (h.oldClassId, h.newClassId)

/-- The placement history as entries: the student, the old class and the new one. -/
def Tables.log (t : Tables) : List (Nat × Option Nat × Option Nat) :=
  t.history.map fun h => (h.studentId, h.oldClassId, h.newClassId)

theorem changesOf_eq (t : Tables) (sid : Nat) :
    t.changesOf sid = (t.log.filter fun e => e.1 = sid).map Prod.snd := by
  unfold Tables.changesOf Tables.log
  rw [List.filter_map, List.map_map]
  rfl

/-- The class of a student after an update of students. -/
theorem classOf_setStudents {t : Tables} {p : StudentRow → Bool} {f : StudentRow → StudentRow}
    (hid : ∀ s, (f s).id = s.id) (sid : Nat) : (t.setStudents p f).classOf sid =
      (t.student? sid).bind fun s => if p s then (f s).classId else s.classId := by
  unfold Tables.classOf Tables.student? Tables.setStudents
  rw [find?_updateWhere hid, Option.bind_map]
  congr 1
  funext s
  simp only [Function.comp]
  split_ifs <;> rfl

/-! ## Nulling deleted ids -/

namespace Tables

@[simp]
theorem setNull_none (gone : Nat → Bool) : setNull gone none = none := rfl

@[simp]
theorem setNull_some (gone : Nat → Bool) (id : Nat) :
    setNull gone (some id) = if gone id then none else some id := by
  cases h : gone id <;> simp [setNull, h]

theorem setNull_setNull (gone gone' : Nat → Bool) (k : Option Nat) :
    setNull gone' (setNull gone k) = setNull (fun id => gone id || gone' id) k := by
  cases k with
  | none => rfl
  | some id =>
    by_cases h : gone id = true <;> simp [h]

/-- Nulling none of the ids changes nothing. -/
theorem setNull_never (k : Option Nat) : setNull (fun _ => false) k = k := by
  cases k <;> simp

end Tables

open Tables (setNull)

/-! ## Recording -/

/-- Nothing but the history, which grew by the changes in `new`. -/
structure Records (new : List (Nat × Option Nat × Option Nat)) (d d' : Db) : Prop where
  only : ∃ history seq, d'.val = { d.val with history, seq }
  log : d'.val.log = d.val.log ++ new

theorem Records.changesOf {new : List (Nat × Option Nat × Option Nat)} {d d' : Db}
    (h : Records new d d') (sid : Nat) : d'.val.changesOf sid =
      d.val.changesOf sid ++ (new.filter fun e => e.1 = sid).map Prod.snd := by
  rw [changesOf_eq, changesOf_eq, h.log, List.filter_append, List.map_append]

theorem Records.classOf {new : List (Nat × Option Nat × Option Nat)} {d d' : Db}
    (h : Records new d d') (sid : Nat) : d'.val.classOf sid = d.val.classOf sid := by
  obtain ⟨history, seq, hval⟩ := h.only
  rw [hval]
  rfl

theorem recordClassChange_records {sid : Nat} {o n c : Option Nat} {d d' : Db} {u : Unit}
    (h : recordClassChange sid o n c d = .ok u d') : Records [(sid, o, n)] d d' := by
  unfold recordClassChange at h
  have hval := exec_eq_ok.1 h
  exact ⟨⟨_, _, hval⟩, by rw [hval]; simp [Tables.log, Tables.insertHistory]⟩

/-- A loop over students that records a change for those that `p` selects. -/
theorem record_loop {p : StudentRow → Bool} (new : Option Nat) {f : StudentRow → Prog PUnit}
    (hf : ∀ s d d', f s d = .ok ⟨⟩ d' →
      Records (if p s then [(s.id, s.classId, new)] else []) d d')
    {xs : List StudentRow} {d d' : Db} {u : PUnit} (h : xs.forM f d = .ok u d') :
    Records ((xs.filter p).map fun s => (s.id, s.classId, new)) d d' := by
  induction xs generalizing d with
  | nil =>
    obtain ⟨-, rfl⟩ := pure_eq_ok.1 h
    exact ⟨⟨_, _, rfl⟩, by simp⟩
  | cons x xs ih =>
    obtain ⟨⟨⟩, d₁, hx, hxs⟩ := bind_eq_ok.1 h
    have h₁ := hf x d d₁ hx
    have h₂ := ih hxs
    refine ⟨?_, ?_⟩
    · obtain ⟨history, seq, hval⟩ := h₁.only
      obtain ⟨history', seq', hval'⟩ := h₂.only
      exact ⟨history', seq', by rw [hval', hval]⟩
    · rw [h₂.log, h₁.log]
      by_cases hp : p x = true <;> simp [hp]

/-- The ids that are those of classes. -/
def Tables.among (t : Tables) (ids : List Nat) (id : Nat) : Bool :=
  t.classes.any fun c => c.id ∈ ids ∧ c.id = id

/-- What removing classes does: students out, one change recorded for each, classes gone. -/
theorem removeClasses_ok {ids : List Nat} {changedBy : Option Nat} {d d' : Db} {u : Unit}
    (h : removeClasses ids changedBy d = .ok u d') :
    ∃ d₁ d₂ : Db,
      d₁.val = d.val.setStudents (fun s => s.classId.any fun c => c ∈ ids)
        (fun s => { s with classId := none }) ∧
      Records ((d.val.students.filter fun s => s.classId.any fun c => c ∈ ids).map
        fun s => (s.id, s.classId, none)) d₁ d₂ ∧
      d'.val = (d₂.val.deleteEventClasses fun e => e.classId ∈ ids).deleteClasses
        fun c => c.id ∈ ids := by
  unfold removeClasses blockIfClassesHaveEnrollmentHistory at h
  simp only [bind_assoc, query_bind] at h
  obtain ⟨_, _, hraise, h⟩ := bind_eq_ok.1 h
  obtain ⟨-, rfl⟩ := raiseIf_eq_ok.1 hraise
  simp only [query_bind] at h
  obtain ⟨_, d₁, hset, h⟩ := bind_eq_ok.1 h
  obtain ⟨_, d₂, hloop, h⟩ := bind_eq_ok.1 h
  obtain ⟨_, d₃, hmaps, hdel⟩ := bind_eq_ok.1 h
  have hrec := record_loop (p := fun _ => true) none
    (fun s t t' ht => by simpa using recordClassChange_records ht) hloop
  rw [List.filter_true] at hrec
  refine ⟨d₁, d₂, exec_eq_ok.1 hset, hrec, ?_⟩
  rw [exec_eq_ok.1 hdel, exec_eq_ok.1 hmaps]

/-- A student's class is one of the ids exactly when it is a class among them. -/
theorem setNull_among {d : Db} (ids : List Nat) {s : StudentRow} (hs : s ∈ d.val.students) :
    setNull (d.val.among ids) s.classId =
      if s.classId.any (fun c => c ∈ ids) then none else s.classId := by
  cases hc : s.classId with
  | none => rfl
  | some cid =>
    obtain ⟨c, hcm, rfl⟩ := d.ok.placements.student_class.exists_row hs hc
    have hamong : d.val.among ids c.id = decide (c.id ∈ ids) := by
      by_cases hin : c.id ∈ ids
      · simp only [hin, decide_true]
        exact List.any_eq_true.2 ⟨c, hcm, by simp [hin]⟩
      · simp only [hin, decide_false]
        refine List.any_eq_false.2 fun c' _ hc' => hin ?_
        have hc' : c'.id ∈ ids ∧ c'.id = c.id := by simpa using hc'
        exact hc'.2 ▸ hc'.1
    by_cases hin : c.id ∈ ids <;> simp [hamong, hin]

theorem removed_classOf {ids : List Nat} {changedBy : Option Nat} {d d' : Db} {u : Unit}
    (h : removeClasses ids changedBy d = .ok u d') (sid : Nat) :
    d'.val.classOf sid = setNull (d.val.among ids) (d.val.classOf sid) := by
  obtain ⟨d₁, d₂, hset, hrec, hdel⟩ := removeClasses_ok h
  have hsame : d'.val.classOf sid = d₁.val.classOf sid := by
    rw [hdel, ← hrec.classOf]
    rfl
  rw [hsame, hset, classOf_setStudents (by intro _; rfl)]
  unfold Tables.classOf
  cases hs : d.val.student? sid with
  | none => rfl
  | some s => exact (setNull_among ids (List.mem_of_find?_eq_some hs)).symm

end Sams.School
