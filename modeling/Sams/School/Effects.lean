import Sams.School.Editing

/-!
# What an operation leaves alone

Two preorders on databases say what the operations other than the rollover's own can do.

* `Quiet`: years, rollovers and the identity of the lines stay, no student changes status, and a
  student who is placed after was placed there before. Every write to levels and classes is quiet.
* `Places P new`: the same, with the classes as they were, except that the students and classes
  related by `P` may have been brought together, and that students may have come if `new`. The
  operations that place students are of this kind.

Each operation gets one lemma that says which, and the invariants are derived from those.
-/

namespace Sams.School

open Programs Rows

/-! ## Placements -/

/-- The student `sid` is enrolled. -/
def Tables.Enrolled (t : Tables) (sid : Nat) : Prop :=
  ∃ s ∈ t.students, s.id = sid ∧ s.status = .enrolled

/-- The class `cid` belongs to the year `y`. -/
def Tables.ClassIn (t : Tables) (cid y : Nat) : Prop :=
  ∃ c ∈ t.classes, c.id = cid ∧ c.academicYearId = y

/-- The student `sid` is placed in the class `cid` of the year `y`. -/
def Tables.Placed (t : Tables) (sid cid y : Nat) : Prop :=
  (∃ s ∈ t.students, s.id = sid ∧ s.classId = some cid) ∧ t.ClassIn cid y

/-- The rollover `rid` has a line for the student `sid`. -/
def Tables.HasLine (t : Tables) (rid sid : Nat) : Prop :=
  ∃ l ∈ t.lines, l.rolloverId = rid ∧ l.studentId = sid

/-- What identifies a line, and what its application depends on besides the target. -/
def LineRow.core (l : LineRow) : Nat × Nat × Nat × RolloverAction × Bool :=
  (l.id, l.rolloverId, l.studentId, l.effective, l.applied)

theorem hasLine_of_core {t t' : Tables} (h : t'.lines.map LineRow.core = t.lines.map LineRow.core)
    {rid sid : Nat} (hl : t.HasLine rid sid) : t'.HasLine rid sid := by
  obtain ⟨l, hl, rfl, rfl⟩ := hl
  have hm : l.core ∈ t'.lines.map LineRow.core := h ▸ List.mem_map_of_mem hl
  obtain ⟨l', hl', he⟩ := List.mem_map.1 hm
  simp only [LineRow.core, Prod.mk.injEq] at he
  exact ⟨l', hl', he.2.1, he.2.2.1⟩

/-- A class a student is placed in exists, in some year. -/
theorem Db.placed_of_classId {d : Db} {s : StudentRow} (hs : s ∈ d.val.students) {cid : Nat}
    (hc : s.classId = some cid) : ∃ c ∈ d.val.classes, c.id = cid ∧
      d.val.Placed s.id cid c.academicYearId := by
  obtain ⟨c, hm, rfl⟩ := d.ok.placements.student_class.exists_row hs hc
  exact ⟨c, hm, rfl, ⟨s, hs, rfl, hc⟩, c, hm, rfl, rfl⟩

/-! ## Quiet writes -/

/-- The statuses of the students, by id. -/
def Tables.statuses (t : Tables) : List (Nat × StudentStatus) :=
  t.students.map fun s => (s.id, s.status)

/-- Nothing about years, rollovers and statuses changed, and no student was placed. -/
structure Quiet (d d' : Db) : Prop where
  years : d'.val.years = d.val.years
  rollovers : d'.val.rollovers = d.val.rollovers
  lines : d'.val.lines.map LineRow.core = d.val.lines.map LineRow.core
  statuses : d'.val.statuses = d.val.statuses
  placed : ∀ sid cid y, d'.val.Placed sid cid y → d.val.Placed sid cid y

instance : IsPreorder Db Quiet where
  refl _ := ⟨rfl, rfl, rfl, rfl, fun _ _ _ h => h⟩
  trans _ _ _ h h' :=
    ⟨h'.years.trans h.years, h'.rollovers.trans h.rollovers, h'.lines.trans h.lines,
      h'.statuses.trans h.statuses, fun _ _ _ hp => h.placed _ _ _ (h'.placed _ _ _ hp)⟩

/-- A statement that writes neither students nor classes nor lines nor years nor rollovers. -/
theorem quiet_stmt {f : Tables → Tables} (hy : ∀ t, (f t).years = t.years)
    (hr : ∀ t, (f t).rollovers = t.rollovers) (hl : ∀ t, (f t).lines = t.lines)
    (hs : ∀ t, (f t).students = t.students) (hc : ∀ t, (f t).classes = t.classes) :
    Moves Quiet (stmt f) :=
  moves_exec fun d _ =>
    { years := hy _, rollovers := hr _, lines := congrArg (List.map LineRow.core) (hl d.val)
      statuses := by simp only [Tables.statuses, hs]
      placed := fun sid cid y hp => by
        simpa only [Tables.Placed, Tables.ClassIn, hs, hc] using hp }

/-- A statement that writes classes but not their ids and years. -/
theorem quiet_setClasses {p : ClassRow → Bool} {f : ClassRow → ClassRow}
    (hid : ∀ c, (f c).id = c.id) (hyear : ∀ c, (f c).academicYearId = c.academicYearId) :
    Moves Quiet (stmt fun t => t.setClasses p f) :=
  moves_exec fun d hf =>
    { years := rfl, rollovers := rfl, lines := rfl, statuses := rfl
      placed := by
        rintro sid cid y ⟨hs, c, hc, rfl, rfl⟩
        refine ⟨hs, ?_⟩
        rcases cases_of_mem_updateWhere hc with ⟨hm, -⟩ | ⟨c', hm, -, rfl⟩
        · exact ⟨c, hm, rfl, rfl⟩
        · exact ⟨c', hm, (hid c').symm, (hyear c').symm⟩ }

/-- A class that is inserted holds no student. -/
theorem quiet_insertClass (c₀ : ClassRow) : Moves Quiet (stmt fun t => t.insertClass c₀) :=
  moves_exec fun d hf =>
    { years := rfl, rollovers := rfl, lines := rfl, statuses := rfl
      placed := by
        rintro sid cid y ⟨⟨s, hs, hid, hcid⟩, c, hc, rfl, rfl⟩
        obtain ⟨c', hc', hce, hp⟩ := Db.placed_of_classId (d := d) hs hcid
        -- the student's class was there before, and two classes of one id are the same
        have hmem : c' ∈ (d.val.insertClass c₀).classes := List.mem_append_left _ hc'
        have heq : c' = c := hf.keys.classes.eq_of_key_eq hmem hc hce
        exact ⟨⟨s, hs, hid, hcid⟩, c', hc', hce, by rw [heq]⟩ }

/-- Students may lose their class. -/
theorem quiet_unplace (p : StudentRow → Bool) :
    Moves Quiet (stmt fun t => t.setStudents p fun s => { s with classId := none }) :=
  moves_exec fun d hf =>
    { years := rfl, rollovers := rfl, lines := rfl
      statuses := map_updateWhere fun _ _ _ => rfl
      placed := by
        rintro sid cid y ⟨⟨s, hs, rfl, hcid⟩, hc⟩
        rcases cases_of_mem_updateWhere hs with ⟨hm, -⟩ | ⟨s', hm, -, rfl⟩
        · exact ⟨⟨s, hm, rfl, hcid⟩, hc⟩
        · simp at hcid }

theorem quiet_deleteEventClasses (p : EventClassRow → Bool) :
    Moves Quiet (stmt fun t => t.deleteEventClasses p) :=
  quiet_stmt (fun _ => rfl) (fun _ => rfl) (fun _ => rfl) (fun _ => rfl) fun _ => rfl

theorem quiet_deleteClasses (p : ClassRow → Bool) :
    Moves Quiet (stmt fun t => t.deleteClasses p) :=
  moves_exec fun d hf =>
    { years := rfl, rollovers := rfl
      lines := by
        simp only [Tables.deleteClasses, List.map_map]
        rfl
      statuses := rfl
      placed := by
        rintro sid cid y ⟨hs, c, hc, rfl, rfl⟩
        exact ⟨hs, c, (List.mem_filter.1 hc).1, rfl, rfl⟩ }

theorem quiet_deleteLevels (lid : Nat) : Moves Quiet (stmt fun t => t.deleteLevels lid) :=
  moves_exec fun d hf =>
    { years := rfl, rollovers := rfl
      lines := by
        simp only [Tables.deleteLevels, List.map_map]
        rfl
      statuses := rfl, placed := fun _ _ _ hp => hp }

namespace TenantRepository

theorem quiet_recordClassChange (sid : Nat) (o n c : Option Nat) :
    Moves Quiet (recordClassChange sid o n c) := by
  unfold recordClassChange
  exact quiet_stmt (fun _ => rfl) (fun _ => rfl) (fun _ => rfl) (fun _ => rfl) fun _ => rfl

theorem quiet_removeClasses (ids : List Nat) (c : Option Nat) :
    Moves Quiet (removeClasses ids c) := by
  unfold removeClasses blockIfClassesHaveEnrollmentHistory
  refine moves_bind (moves_bind (moves_query _) fun _ => moves_raiseIf _ _) fun _ => ?_
  refine moves_bind (moves_query _) fun affected => ?_
  refine moves_bind (quiet_unplace _) fun _ => ?_
  refine moves_bind (moves_forM fun s _ => quiet_recordClassChange _ _ _ _) fun _ => ?_
  exact moves_bind (quiet_deleteEventClasses _) fun _ => quiet_deleteClasses _

end TenantRepository

/-- Editing levels and classes is quiet. -/
theorem quiet_editable [Unicode] : Editable Quiet where
  peripheral h := moves_exec fun d _ => by
    obtain ⟨levels, settings, blackouts, auditLog, seq, hval⟩ := h d.val
    constructor <;> simp only [hval, Tables.statuses, Tables.Placed, Tables.ClassIn]
    exact fun _ _ _ hp => hp
  setClasses _ _ h := quiet_setClasses (fun c => (h c).1) fun c => (h c).2.1
  insertClass c _ := quiet_insertClass c
  removeClasses ids c := (TenantRepository.quiet_removeClasses ids c).yields

/-! ## Writes that place students -/

/-- Nothing but placements changed, and only the students and classes related by `P` may have been
brought together. Students keep their status; new ones, if any may come, are enrolled. -/
structure Places (P : Nat → Option Nat → Prop) (new : Prop) (d d' : Db) : Prop where
  years : d'.val.years = d.val.years
  rollovers : d'.val.rollovers = d.val.rollovers
  lines : d'.val.lines = d.val.lines
  classes : d'.val.classes = d.val.classes
  kept : ∀ s ∈ d.val.students, ∃ s' ∈ d'.val.students, s'.id = s.id ∧ s'.status = s.status
  origin : ∀ s' ∈ d'.val.students,
    (∃ s ∈ d.val.students, s.id = s'.id ∧ s.status = s'.status ∧
      (s'.classId = s.classId ∨ P s'.id s'.classId)) ∨
    (new ∧ (∀ s ∈ d.val.students, s.id ≠ s'.id) ∧ s'.status = .enrolled ∧ P s'.id s'.classId)

variable {P : Nat → Option Nat → Prop} {new : Prop}

instance : IsPreorder Db (Places P new) where
  refl d := ⟨rfl, rfl, rfl, rfl, fun s hs => ⟨s, hs, rfl, rfl⟩,
    fun s hs => .inl ⟨s, hs, rfl, rfl, .inl rfl⟩⟩
  trans d d' d'' h h' := by
    refine ⟨h'.years.trans h.years, h'.rollovers.trans h.rollovers, h'.lines.trans h.lines,
      h'.classes.trans h.classes, fun s hs => ?_, fun s'' hs'' => ?_⟩
    · obtain ⟨s', hs', hid, hst⟩ := h.kept s hs
      obtain ⟨s'', hs'', hid', hst'⟩ := h'.kept s' hs'
      exact ⟨s'', hs'', hid'.trans hid, hst'.trans hst⟩
    · rcases h'.origin s'' hs'' with ⟨s', hs', hid', hst', hc'⟩ | ⟨hn', hnew', hst', hP'⟩
      · rcases h.origin s' hs' with ⟨s, hs, hid, hst, hc⟩ | ⟨hn, hnew, hst, hP⟩
        · refine .inl ⟨s, hs, hid.trans hid', hst.trans hst', ?_⟩
          rcases hc' with hc' | hP'
          · rw [hc', ← hid']
            exact hc
          · exact .inr hP'
        · refine .inr ⟨hn, fun s hs => hid' ▸ hnew s hs, hst' ▸ hst, ?_⟩
          rcases hc' with hc' | hP'
          · rw [hc', ← hid']
            exact hP
          · exact hP'
      · refine .inr ⟨hn', fun s hs he => ?_, hst', hP'⟩
        obtain ⟨s', hs', hid, -⟩ := h.kept s hs
        exact hnew' s' hs' (hid.trans he)

/-- A quiet statement that writes neither students nor classes nor lines places nobody. -/
theorem places_stmt {f : Tables → Tables} (hy : ∀ t, (f t).years = t.years)
    (hr : ∀ t, (f t).rollovers = t.rollovers) (hl : ∀ t, (f t).lines = t.lines)
    (hs : ∀ t, (f t).students = t.students) (hc : ∀ t, (f t).classes = t.classes) :
    Moves (Places P new) (stmt f) :=
  moves_exec fun d _ =>
    { years := hy _, rollovers := hr _, lines := hl _, classes := hc _
      kept := fun s h => ⟨s, (hs d.val).symm ▸ h, rfl, rfl⟩
      origin := fun s h => .inl ⟨s, (hs d.val) ▸ h, rfl, rfl, .inl rfl⟩ }

/-- Students are given the class that `P` allows them. -/
theorem places_setStudents {p : StudentRow → Bool} {f : StudentRow → StudentRow}
    (hid : ∀ s, (f s).id = s.id) (hst : ∀ s, (f s).status = s.status)
    (hP : ∀ s, p s = true → P s.id (f s).classId) :
    Moves (Places P new) (stmt fun t => t.setStudents p f) :=
  moves_exec fun d _ =>
    { years := rfl, rollovers := rfl, lines := rfl, classes := rfl
      kept := fun s h => by
        refine ⟨_, mem_updateWhere_of_mem h, ?_⟩
        split_ifs
        · exact ⟨hid s, hst s⟩
        · exact ⟨rfl, rfl⟩
      origin := fun s' h => by
        rcases cases_of_mem_updateWhere h with ⟨hm, -⟩ | ⟨s, hm, hp, rfl⟩
        · exact .inl ⟨s', hm, rfl, rfl, .inl rfl⟩
        · exact .inl ⟨s, hm, (hid s).symm, (hst s).symm, .inr ((hid s).symm ▸ hP s hp)⟩ }

/-- A student who is inserted is enrolled in the class that `P` allows. -/
theorem places_insertStudent {s₀ : StudentRow} (hnew : new) (hst : s₀.status = .enrolled)
    (hP : P s₀.id s₀.classId) :
    Moves (Places P new) (stmt fun t => { t with students := t.students ++ [s₀] }) :=
  moves_exec fun d hf =>
    { years := rfl, rollovers := rfl, lines := rfl, classes := rfl
      kept := fun s h => ⟨s, List.mem_append_left _ h, rfl, rfl⟩
      origin := fun s' h => by
        rcases List.mem_append.1 h with hm | hm
        · exact .inl ⟨s', hm, rfl, rfl, .inl rfl⟩
        · rw [List.mem_singleton] at hm
          subst hm
          refine .inr ⟨hnew, fun s hs he => ?_, hst, hP⟩
          -- the statement passed the check, so the id is new
          exact hf.keys.students.ne_of_append s hs he }

namespace TenantRepository

theorem places_recordClassChange (sid : Nat) (o n c : Option Nat) :
    Moves (Places P new) (recordClassChange sid o n c) := by
  unfold recordClassChange
  exact places_stmt (fun _ => rfl) (fun _ => rfl) (fun _ => rfl) (fun _ => rfl) fun _ => rfl

theorem places_createStudent (i : Nat) (n : String) (cl : Option Nat) (g b : Option String)
    (c : Option Nat) :
    Moves (Places (fun sid o => sid = i ∧ o = Text.nonZero cl) True)
      (createStudent i n cl g b c) := by
  unfold createStudent
  refine moves_bind (moves_transaction (moves_bind (moves_query _) fun existing => ?_)) fun _ =>
    moves_pure _
  refine moves_bind ?_ fun _ => moves_onlyIf fun _ => places_recordClassChange _ _ _ _
  cases existing with
  | none => exact places_insertStudent trivial rfl ⟨rfl, rfl⟩
  | some row =>
    refine places_setStudents (fun _ => rfl) (fun _ => rfl) fun s hs => ?_
    exact ⟨by simpa using hs, rfl⟩

theorem places_reassignStudentClass (i : Nat) (cl c : Option Nat) :
    Moves (Places (fun sid o => sid = i ∧ o = Text.nonZero cl) False)
      (reassignStudentClass i cl c) := by
  unfold reassignStudentClass
  refine moves_bind (moves_transaction (moves_bind (moves_query _) fun row => ?_)) fun _ =>
    moves_pure _
  cases row with
  | none => exact moves_throw _
  | some row =>
    refine moves_onlyIf fun _ => moves_bind ?_ fun _ => places_recordClassChange _ _ _ _
    exact places_setStudents (fun _ => rfl) (fun _ => rfl) fun s hs => ⟨by simpa using hs, rfl⟩

theorem places_bulkReassignStudents (ids : List Nat) (cl c : Option Nat) :
    Moves (Places (fun sid o => sid ∈ ids ∧ o = Text.nonZero cl) False)
      (bulkReassignStudents ids cl c) := by
  unfold bulkReassignStudents
  refine moves_ite (moves_pure _) (moves_bind (moves_transaction ?_) fun _ => moves_pure _)
  refine moves_query_bind fun d => moves_bind (moves_onlyIf fun _ => ?_) fun _ => moves_pure _
  refine moves_bind (places_setStudents (fun _ => rfl) (fun _ => rfl) fun s hs => ⟨?_, rfl⟩) ?_
  · -- whoever is rewritten is among the students just found
    obtain ⟨s', hs', he⟩ := List.mem_map.1 (of_decide_eq_true hs)
    exact he ▸ of_decide_eq_true (List.mem_filter.1 hs').2
  · exact fun _ => moves_forM fun s _ => moves_onlyIf fun _ => places_recordClassChange _ _ _ _

end TenantRepository

/-! ## Each operation -/

section Operations

/-- The operations of the rollover itself. -/
def Op.isRollover : Op → Bool
  | .createAcademicYear .. | .generateRolloverPlan .. | .overrideRolloverLine .. => true
  | .previewRollover .. | .commitRollover .. => true
  | _ => false

/-- The student is in the table. -/
def Tables.Known (t : Tables) (sid : Nat) : Prop := ∃ s ∈ t.students, s.id = sid

/-- The student and the class (or none) that an operation may bring together, when its caller is
allowed to. -/
def Op.Target (d : Db) : Op → Nat → Option Nat → Prop
  | .createStudent u _ _ cl _ _ _, sid, o =>
    Authz.require u ["school_admin", "student:create"] ∧ ¬d.val.Known sid ∧
      o = Text.nonZero (some cl)
  | .placeStudent i _ cl _ _ _, sid, o => sid = i ∧ o = Text.nonZero cl
  | .reassignStudentClass u i cl _, sid, o =>
    Authz.require u (TenantService.adminRoles ++ ["student:manage"]) ∧ d.val.Known sid ∧
      sid = i ∧ o = Text.nonZero cl
  | .bulkReassignStudents u ids cl _, sid, o =>
    Authz.require u (TenantService.adminRoles ++ ["student:manage"]) ∧ d.val.Known sid ∧
      sid ∈ ids ∧ o = Text.nonZero cl
  | _, _, _ => False

theorem Places.mono {P Q : Nat → Option Nat → Prop} {new : Prop} {d d' : Db}
    (h : Places P new d d') (hPQ : ∀ sid o, P sid o → Q sid o) : Places Q True d d' where
  years := h.years
  rollovers := h.rollovers
  lines := h.lines
  classes := h.classes
  kept := h.kept
  origin s hs := (h.origin s hs).imp
    (fun ⟨s₀, h₀, hid, hst, hc⟩ => ⟨s₀, h₀, hid, hst, hc.imp_right (hPQ _ _)⟩)
    fun ⟨_, hnew, hst, hP⟩ => ⟨trivial, hnew, hst, hPQ _ _ hP⟩

/-- When no student may come, the students who are placed were there before. -/
theorem Places.known {P : Nat → Option Nat → Prop} {d d' : Db} (h : Places P False d d') :
    Places (fun sid o => d.val.Known sid ∧ P sid o) False d d' where
  years := h.years
  rollovers := h.rollovers
  lines := h.lines
  classes := h.classes
  kept := h.kept
  origin s hs := by
    rcases h.origin s hs with ⟨s₀, h₀, hid, hst, hc⟩ | ⟨hn, -⟩
    · exact .inl ⟨s₀, h₀, hid, hst, hc.imp_right fun hP => ⟨⟨s₀, h₀, hid⟩, hP⟩⟩
    · exact hn.elim

/-- A gated placement of students who are there. -/
theorem places_gated {α : Type} {f : α → Unit} {P : Nat → Option Nat → Prop} {u a : List String}
    {msg : String} {m : Prog α} (h : Moves (Places P False) m) (d : Db) :
    Places (fun sid o => Authz.require u a ∧ d.val.Known sid ∧ P sid o) True d
      (after (f <$> (TenantService.gate u a msg >>= fun _ => m)) d) := by
  rw [after_map]
  refine moves_bind_of_ok (moves_gate _ _ _ d) fun _ t hgate => ?_
  obtain ⟨hallowed, rfl⟩ := raiseIf_eq_ok.1 hgate
  exact (h d).known.mono fun sid o hP => ⟨not_not.1 hallowed, hP⟩

variable [Unicode]

theorem places_createStudentUser {P : Nat → Option Nat → Prop} {new : Prop} (email : String) :
    Moves (Places P new) (TenantService.createStudentUser email) := by
  unfold TenantService.createStudentUser
  refine moves_bind (moves_query _) fun _ => moves_bind (moves_raiseIf _ _) fun _ => ?_
  refine moves_bind (moves_query _) fun _ => moves_bind ?_ fun _ => moves_pure _
  exact places_stmt (fun _ => rfl) (fun _ => rfl) (fun _ => rfl) (fun _ => rfl) fun _ => rfl

/-- A user that was just created has no student row. -/
theorem createStudentUser_fresh {email : String} {d d' : Db} {uid : Nat}
    (h : TenantService.createStudentUser email d = .ok uid d') :
    ∀ s ∈ d.val.students, s.id ≠ uid := by
  unfold TenantService.createStudentUser at h
  simp only [query_bind] at h
  obtain ⟨_, t, hraise, h⟩ := bind_eq_ok.1 h
  obtain ⟨-, rfl⟩ := raiseIf_eq_ok.1 hraise
  simp only [query_bind] at h
  obtain ⟨_, t, hins, hret⟩ := bind_eq_ok.1 h
  obtain ⟨rfl, rfl⟩ := pure_eq_ok.1 hret
  have ht := exec_eq_ok.1 hins
  intro s hs he
  -- a student is a user, and the id of the new user was free
  obtain ⟨u, hu, hue⟩ := d.ok.placements.student_user.exists_row hs rfl
  have hk := t.ok.keys.users
  rw [ht] at hk
  exact hk.ne_of_append u hu (hue.trans he)

theorem places_serviceCreateStudent (d : Db) (u : List String) (e n : String) (cl : Nat)
    (g b : Option String) (c : Option Nat) :
    Places (fun sid o => Authz.require u ["school_admin", "student:create"] ∧ ¬d.val.Known sid ∧
        o = Text.nonZero (some cl)) True d
      (after (TenantService.createStudent u e n cl g b c) d) := by
  unfold TenantService.createStudent
  refine moves_bind_of_ok (moves_gate _ _ _ d) fun _ t hgate => ?_
  obtain ⟨hallowed, rfl⟩ := raiseIf_eq_ok.1 hgate
  refine moves_bind_of_ok (places_createStudentUser e d) fun uid t huser => ?_
  have hfresh := createStudentUser_fresh huser
  refine trans_of _ (after_ok huser ▸ places_createStudentUser e d) ?_
  refine (TenantRepository.places_createStudent uid n _ g b c t).mono ?_
  rintro sid o ⟨rfl, rfl⟩
  exact ⟨not_not.1 hallowed, fun ⟨s, hs, hid⟩ => hfresh s hs hid, rfl⟩

/-- The operations that neither edit nor plan place students. -/
theorem places_step (d : Db) {op : Op} (hediting : op.isEditing = false)
    (hroll : op.isRollover = false) : Places (op.Target d) True d (step d op) := by
  cases op with
  | createStudent u e n cl g b c =>
    have hp := places_serviceCreateStudent d u e n cl g b c
    rwa [← after_map fun _ => ()] at hp
  | placeStudent i n cl g b c =>
    exact moves_map (TenantRepository.places_createStudent i n cl g b c) d
  | reassignStudentClass u i cl c =>
    exact places_gated (TenantRepository.places_reassignStudentClass i cl c) d
  | bulkReassignStudents u ids cl c =>
    exact places_gated (TenantRepository.places_bulkReassignStudents ids cl c) d
  | createAcademicYear | generateRolloverPlan | overrideRolloverLine | previewRollover
  | commitRollover => cases hroll
  | _ => cases hediting

/-- **What an operation other than the rollover's does.** It writes quietly, or it places the
students it was asked to place. -/
theorem step_effect (d : Db) {op : Op} (h : op.isRollover = false) :
    Quiet d (step d op) ∨ Places (op.Target d) True d (step d op) := by
  cases hediting : op.isEditing with
  | true => exact .inl (quiet_editable.step hediting (fun _ l _ _ => quiet_deleteLevels l) d)
  | false => exact .inr (places_step d hediting h)

end Operations

end Sams.School
