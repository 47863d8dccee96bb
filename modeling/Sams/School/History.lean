import Sams.School.Planning
import Sams.School.Removal

/-!
# The placement history is a chain

Six operations write a student's class, one at a time, in bulk or by removing the class, and each
records the change. Deleting a class also rewrites old rows: the schema nulls the deleted id in
them. **`history_is_chain`**: in every run without a commit, from a tenant without students, the
changes recorded for each student lead from no class to the class the student is in, and each step
appends one row for every student whose class it changed and none for the others.

`Logged gone t t' sid` says what one step does to one student: the recorded changes are those of
before, with the ids in `gone` nulled, and one more if the class is another one.
-/

namespace Sams.School

open Programs Rows Runs TenantRepository

/-! ## Chains -/

/-- The changes lead from `c` to `c'`, each starting where the one before ended. -/
def Chain : Option Nat → List (Option Nat × Option Nat) → Option Nat → Prop
  | c, [], c' => c = c'
  | c, h :: hs, c' => h.1 = c ∧ Chain h.2 hs c'

theorem Chain.append_one {c c' : Option Nat} {hs : List (Option Nat × Option Nat)}
    (h : Chain c hs c') (c'' : Option Nat) : Chain c (hs ++ [(c', c'')]) c'' := by
  induction hs generalizing c with
  | nil => exact ⟨h.symm, rfl⟩
  | cons x hs ih => exact ⟨h.1, ih h.2⟩

/-- Rewriting every class of a chain, the ends included, gives a chain. -/
theorem Chain.map {c c' : Option Nat} {hs : List (Option Nat × Option Nat)} (h : Chain c hs c')
    (f : Option Nat → Option Nat) : Chain (f c) (hs.map (Prod.map f f)) (f c') := by
  induction hs generalizing c with
  | nil => exact congrArg f h
  | cons x hs ih => exact ⟨congrArg f h.1, ih h.2⟩

open Tables (setNull)

/-! ## One step, one student -/

/-- What a step does to the student: if the class is another one, one change more. -/
def Logged (gone : Nat → Bool) (t t' : Tables) (sid : Nat) : Prop :=
  setNull gone (t'.classOf sid) = t'.classOf sid ∧
    t'.changesOf sid = (t.changesOf sid).map (Prod.map (setNull gone) (setNull gone)) ++
      if t'.classOf sid = t.classOf sid then []
        else [(setNull gone (t.classOf sid), t'.classOf sid)]

/-- A step that logs what it does to every student. -/
def Logs (d d' : Db) : Prop := ∃ gone, ∀ sid, Logged gone d.val d'.val sid

/-- The recorded changes of the student lead to the class the student is in. -/
def Tables.Chained (t : Tables) (sid : Nat) : Prop := Chain none (t.changesOf sid) (t.classOf sid)

theorem Logged.chained {gone : Nat → Bool} {t t' : Tables} {sid : Nat} (h : Logged gone t t' sid)
    (hc : t.Chained sid) : t'.Chained sid := by
  obtain ⟨hkept, hlog⟩ := h
  have hmap := Chain.map hc (setNull gone)
  unfold Tables.Chained
  rw [hlog]
  split_ifs with hsame
  · rwa [List.append_nil, ← hkept, hsame]
  · exact hmap.append_one _

/-- One row was appended if the class is another one, and none otherwise. -/
def RowIfMoved (d d' : Db) : Prop :=
  ∀ sid, (d'.val.changesOf sid).length = (d.val.changesOf sid).length +
    if d'.val.classOf sid = d.val.classOf sid then 0 else 1

theorem Logs.rowIfMoved {d d' : Db} (h : Logs d d') : RowIfMoved d d' := by
  obtain ⟨gone, h⟩ := h
  intro sid
  rw [(h sid).2]
  split_ifs <;> simp

theorem map_setNull_never (hs : List (Option Nat × Option Nat)) :
    hs.map (Prod.map (setNull fun _ => false) (setNull fun _ => false)) = hs := by
  have hid : Prod.map (setNull fun _ => false) (setNull fun _ => false) = id := by
    funext p
    simp [Prod.map, Tables.setNull_never]
  rw [hid, List.map_id]

/-- Without deletions: the recorded changes are those of before and those of this step. -/
theorem logs_of {d d' : Db} (h : ∀ sid, d'.val.changesOf sid = d.val.changesOf sid ++
    if d'.val.classOf sid = d.val.classOf sid then []
    else [(d.val.classOf sid, d'.val.classOf sid)]) : Logs d d' :=
  ⟨fun _ => false, fun sid => ⟨Tables.setNull_never _, by
    rw [map_setNull_never, Tables.setNull_never]
    exact h sid⟩⟩

theorem logs_of_eq {d d' : Db} (hs : d'.val.students = d.val.students)
    (hh : d'.val.history = d.val.history) : Logs d d' :=
  logs_of fun sid => by
    simp [Tables.changesOf, Tables.classOf, Tables.student?, hs, hh]

/-- The student's part of what such a loop records. -/
theorem filter_student {d : Db} (p : StudentRow → Bool) (new : Option Nat) (sid : Nat) :
    ((((d.val.students.filter p).map fun s => (s.id, s.classId, new)).filter
        fun e => e.1 = sid).map Prod.snd) =
      ((d.val.student? sid).toList.filter p).map fun s => (s.classId, new) := by
  rw [List.filter_map, List.map_map]
  have hcomm : (d.val.students.filter p).filter (fun s => s.id = sid) =
      (d.val.students.filter fun s => s.id = sid).filter p := by
    rw [List.filter_filter, List.filter_filter]
    exact List.filter_congr fun s _ => Bool.and_comm _ _
  have hkey := d.ok.keys.students.filter_key sid
  show ((d.val.students.filter p).filter fun s => s.id = sid).map _ = _
  rw [hcomm, hkey]
  rfl

/-! ## Removing classes -/

/-- A step that logs what it does, and that places nobody. -/
def Unlinks (d d' : Db) : Prop :=
  ∃ gone, ∀ sid, Logged gone d.val d'.val sid ∧
    (d'.val.classOf sid = d.val.classOf sid ∨ d'.val.classOf sid = none)

theorem Unlinks.logs {d d' : Db} (h : Unlinks d d') : Logs d d' := by
  obtain ⟨gone, h⟩ := h
  exact ⟨gone, fun sid => (h sid).1⟩

theorem unlinks_of_eq {d d' : Db} (hs : d'.val.students = d.val.students)
    (hh : d'.val.history = d.val.history) : Unlinks d d' := by
  refine ⟨fun _ => false, fun sid => ⟨⟨Tables.setNull_never _, ?_⟩, .inl ?_⟩⟩
  · rw [map_setNull_never]
    simp [Tables.changesOf, Tables.classOf, Tables.student?, hs, hh]
  · simp [Tables.classOf, Tables.student?, hs]

/-- Two such steps are one: a student without a class is not moved again. -/
theorem Unlinks.trans {d d' d'' : Db} (h : Unlinks d d') (h' : Unlinks d' d'') :
    Unlinks d d'' := by
  obtain ⟨gone, h⟩ := h
  obtain ⟨gone', h'⟩ := h'
  refine ⟨fun id => gone id || gone' id, fun sid => ?_⟩
  obtain ⟨⟨hk, hlog⟩, hmove⟩ := h sid
  obtain ⟨⟨hk', hlog'⟩, hmove'⟩ := h' sid
  have hmap : ∀ hs : List (Option Nat × Option Nat),
      (hs.map (Prod.map (setNull gone) (setNull gone))).map
          (Prod.map (setNull gone') (setNull gone')) =
        hs.map (Prod.map (setNull fun id => gone id || gone' id)
          (setNull fun id => gone id || gone' id)) := by
    intro hs
    rw [List.map_map]
    refine List.map_congr_left fun e _ => ?_
    simp only [Function.comp, Prod.map, Tables.setNull_setNull]
  rw [hlog, List.map_append, hmap] at hlog'
  unfold Logged
  rw [hlog', ← Tables.setNull_setNull, ← Tables.setNull_setNull]
  by_cases hsame : d'.val.classOf sid = d.val.classOf sid
  · rw [hsame] at hk hlog' hmove' ⊢
    simp only [if_true, List.map_nil, List.append_nil, hk]
    refine ⟨⟨?_, trivial⟩, hmove'⟩
    rcases hmove' with he | he
    · rw [he] at hk' ⊢
      rw [hk, hk']
    · rw [he]
      rfl
  · have hnone := hmove.resolve_left hsame
    have hnone' : d''.val.classOf sid = none := by
      rcases hmove' with he | he
      · rw [he, hnone]
      · exact he
    rw [hnone] at hsame
    simp [hnone, hnone', hsame]

instance : IsPreorder Db Unlinks where
  refl _ := unlinks_of_eq rfl rfl
  trans _ _ _ := Unlinks.trans

/-- The deletion of classes nulls their ids in the history. -/
theorem changesOf_deleteClasses (t : Tables) (ids : List Nat) (sid : Nat) :
    (t.deleteClasses fun c => c.id ∈ ids).changesOf sid =
      (t.changesOf sid).map (Prod.map (setNull (t.among ids)) (setNull (t.among ids))) := by
  unfold Tables.changesOf Tables.deleteClasses Tables.among
  dsimp only
  rw [List.filter_map, List.map_map, List.map_map]
  simp only [decide_eq_true_eq]
  rfl

theorem removed_changesOf {ids : List Nat} {changedBy : Option Nat} {d d' : Db} {u : Unit}
    (h : removeClasses ids changedBy d = .ok u d') (sid : Nat) :
    d'.val.changesOf sid =
      (d.val.changesOf sid ++ ((d.val.student? sid).toList.filter fun s : StudentRow =>
        s.classId.any fun c => c ∈ ids).map fun s : StudentRow => (s.classId, none)).map
          (Prod.map (setNull (d.val.among ids)) (setNull (d.val.among ids))) := by
  obtain ⟨d₁, d₂, hset, hrec, hdel⟩ := removeClasses_ok h
  have hchanges := hrec.changesOf sid
  rw [filter_student] at hchanges
  -- the classes at the moment of the deletion are those of the start
  have hamong : (d₂.val.deleteEventClasses fun e => e.classId ∈ ids).among ids =
      d.val.among ids := by
    obtain ⟨history, seq, hval⟩ := hrec.only
    rw [hval, hset]
    rfl
  rw [hdel, changesOf_deleteClasses, hamong]
  congr 1
  have hsame : d₁.val.changesOf sid = d.val.changesOf sid := by
    rw [hset]
    rfl
  rw [← hsame, ← hchanges]
  rfl

/-- **Removing classes unlinks their students and says so.** -/
theorem unlinks_removeClasses (ids : List Nat) (changedBy : Option Nat) :
    Yields Unlinks (removeClasses ids changedBy) := by
  intro d u d' h
  refine ⟨d.val.among ids, fun sid => ?_⟩
  have hclass := removed_classOf h sid
  refine ⟨⟨?_, ?_⟩, ?_⟩
  · rw [hclass, Tables.setNull_setNull]
    simp
  · rw [removed_changesOf h, List.map_append, hclass]
    congr 1
    unfold Tables.classOf
    cases hs : d.val.student? sid with
    | none => simp
    | some s =>
      have hnull := setNull_among ids (List.mem_of_find?_eq_some hs)
      cases hc : s.classId with
      | none => simp [hc]
      | some cid =>
        rw [hc] at hnull
        by_cases hin : cid ∈ ids
        · simp [hc, hin, Prod.map, hnull]
        · simp [hc, hin, hnull]
  · rw [hclass]
    cases d.val.classOf sid with
    | none => exact .inl rfl
    | some cid =>
      rw [Tables.setNull_some]
      split_ifs
      · exact .inr rfl
      · exact .inl rfl

/-- **Editing levels and classes logs what it does.** -/
theorem unlinks_editable [Unicode] : Editable Unlinks where
  peripheral h := moves_exec fun d _ => by
    obtain ⟨levels, settings, blackouts, auditLog, seq, hval⟩ := h d.val
    exact unlinks_of_eq (by simp [hval]) (by simp [hval])
  setClasses _ _ _ := moves_exec fun _ _ => unlinks_of_eq rfl rfl
  insertClass _ _ := moves_exec fun _ _ => unlinks_of_eq rfl rfl
  removeClasses := unlinks_removeClasses

/-! ## Placing students -/

/-- A step between two states that log the same is logged by what it does to each student. -/
theorem Records.logs {d d₁ d' : Db} {new : List (Nat × Option Nat × Option Nat)}
    (h : Records new d₁ d') (hhist : d₁.val.history = d.val.history)
    (hnew : ∀ sid, (new.filter fun e => e.1 = sid).map Prod.snd =
      if d₁.val.classOf sid = d.val.classOf sid then []
      else [(d.val.classOf sid, d₁.val.classOf sid)]) : Logs d d' := by
  refine logs_of fun sid => ?_
  have hsame : d₁.val.changesOf sid = d.val.changesOf sid := by
    simp only [Tables.changesOf, hhist]
  rw [h.changesOf, h.classOf, hnew, hsame]

/-- One student is given a class and, if it is another one, the change is recorded. -/
theorem logs_place {d d₁ d' : Db} {sid : Nat} {new : Option Nat} (changedBy : Option Nat)
    (hhist : d₁.val.history = d.val.history) (hnew : d₁.val.classOf sid = new)
    (hother : ∀ i, i ≠ sid → d₁.val.classOf i = d.val.classOf i)
    (h : onlyIf (new ≠ d.val.classOf sid)
      (recordClassChange sid (d.val.classOf sid) new changedBy) d₁ = .ok () d') : Logs d d' := by
  have hmatch : ∀ i, i ≠ sid → d₁.val.classOf i = d.val.classOf i ∧ sid ≠ i :=
    fun i hi => ⟨hother i hi, fun he => hi he.symm⟩
  rcases onlyIf_eq_ok.1 h with ⟨hne, hrec⟩ | ⟨heq, rfl⟩
  · refine (recordClassChange_records hrec).logs hhist fun i => ?_
    by_cases hi : i = sid
    · subst hi
      rw [hnew, if_neg hne]
      simp
    · simp [hmatch i hi]
  · refine logs_of fun i => ?_
    have hclass : d₁.val.classOf i = d.val.classOf i := by
      by_cases hi : i = sid
      · subst hi
        rw [hnew, not_not.1 heq]
      · exact hother i hi
    simp [Tables.changesOf, hhist, hclass]

theorem classOf_update_one {d d₁ : Db} {sid : Nat} {new : Option Nat}
    {f : StudentRow → StudentRow} (hid : ∀ s, (f s).id = s.id) (hf : ∀ s, (f s).classId = new)
    (hset : d₁.val = d.val.setStudents (fun s => s.id = sid) f) {row : StudentRow}
    (hrow : d.val.student? sid = some row) :
    d₁.val.classOf sid = new ∧ ∀ i, i ≠ sid → d₁.val.classOf i = d.val.classOf i := by
  have hkey : ∀ {i s}, d.val.student? i = some s → s.id = i :=
    fun h => (d.ok.keys.students.find?_eq_some.1 h).2
  refine ⟨?_, fun i hi => ?_⟩
  · rw [hset, classOf_setStudents hid, hrow]
    simp [hkey hrow, hf]
  · rw [hset, classOf_setStudents hid]
    unfold Tables.classOf
    cases hs : d.val.student? i with
    | none => rfl
    | some s =>
      have hne : s.id ≠ sid := (hkey hs) ▸ hi
      simp [hne]

/-- A student who is inserted has the class of the new row; the others keep theirs. -/
theorem classOf_insert {d : Db} (d₁ : Db) (row : StudentRow) (hnone : d.val.student? row.id = none)
    (hset : d₁.val.students = d.val.students ++ [row]) :
    d₁.val.classOf row.id = row.classId ∧
      ∀ i, i ≠ row.id → d₁.val.classOf i = d.val.classOf i := by
  unfold Tables.classOf Tables.student? at *
  refine ⟨?_, fun i hi => ?_⟩
  · simp [hset, List.find?_append, hnone]
  · have hne : row.id ≠ i := fun he => hi he.symm
    simp [hset, List.find?_append, hne]

theorem logs_createStudent (i : Nat) (n : String) (cl : Option Nat) (g b : Option String)
    (c : Option Nat) (d : Db) : Logs d (after (createStudent i n cl g b c) d) := by
  unfold createStudent
  rw [after_bind_idle fun _ _ => rfl]
  refine after_transaction_ind (logs_of_eq rfl rfl) fun _ d' h => ?_
  simp only [query_bind] at h
  obtain ⟨_, d₁, hset, hrec⟩ := bind_eq_ok.1 h
  have hval := exec_eq_ok.1 hset
  cases hrow : d.val.student? i with
  | none =>
    simp only [hrow, Option.isSome_none, Bool.false_eq_true, if_false] at hval
    have hclass := classOf_insert d₁ ⟨i, n, Text.nonZero cl, g, b, .enrolled, none⟩ hrow
      (by rw [hval])
    refine logs_place c (by rw [hval]) hclass.1 hclass.2 ?_
    exact hrec
  | some row =>
    simp only [hrow, Option.isSome_some, if_true] at hval
    have hclass := classOf_update_one (by intro _; rfl) (by intro _; rfl) hval hrow
    refine logs_place c (by rw [hval]; rfl) hclass.1 hclass.2 ?_
    exact hrec

theorem logs_reassignStudentClass (i : Nat) (cl c : Option Nat) (d : Db) :
    Logs d (after (reassignStudentClass i cl c) d) := by
  unfold reassignStudentClass
  rw [after_bind_idle fun _ _ => rfl]
  refine after_transaction_ind (logs_of_eq rfl rfl) fun _ d' h => ?_
  simp only [query_bind] at h
  cases hrow : d.val.student? i with
  | none =>
    rw [hrow] at h
    exact (throw_eq_ok.1 h).elim
  | some row =>
    rw [hrow] at h
    rcases onlyIf_eq_ok.1 h with ⟨hne, h⟩ | ⟨-, rfl⟩
    · obtain ⟨_, d₁, hset, hrec⟩ := bind_eq_ok.1 h
      have hval := exec_eq_ok.1 hset
      have hclass := classOf_update_one (by intro _; rfl) (by intro _; rfl) hval hrow
      have hold : d.val.classOf i = row.classId := by simp [Tables.classOf, hrow]
      refine logs_place c (by rw [hval]; rfl) hclass.1 hclass.2 ?_
      rw [hold]
      exact onlyIf_eq_ok.2 (.inl ⟨hne, hrec⟩)
    · exact logs_of_eq rfl rfl

/-- **A bulk reassignment records each student once**, whatever the list of ids. -/
theorem logs_bulkReassignStudents (ids : List Nat) (cl c : Option Nat) (d : Db) :
    Logs d (after (bulkReassignStudents ids cl c) d) := by
  unfold bulkReassignStudents
  split_ifs
  · exact logs_of_eq rfl rfl
  rw [after_bind_idle fun _ _ => rfl]
  refine after_transaction_ind (logs_of_eq rfl rfl) fun _ d' h => ?_
  simp only [query_bind] at h
  obtain ⟨_, d₂, hdo, hret⟩ := bind_eq_ok.1 h
  obtain ⟨-, rfl⟩ := pure_eq_ok.1 hret
  rcases onlyIf_eq_ok.1 hdo with ⟨-, hdo⟩ | ⟨-, rfl⟩
  swap
  · exact logs_of_eq rfl rfl
  obtain ⟨_, d₁, hset, hloop⟩ := bind_eq_ok.1 hdo
  have hval := exec_eq_ok.1 hset
  have hrec := record_loop (p := fun s => s.classId ≠ Text.nonZero cl) (Text.nonZero cl)
    (fun s t t' ht => ?_) hloop
  · rw [List.filter_filter] at hrec
    refine hrec.logs (by rw [hval]; rfl) fun sid => ?_
    rw [filter_student, hval, classOf_setStudents (by intro _; rfl)]
    unfold Tables.classOf
    cases hs : d.val.student? sid with
    | none => simp
    | some s =>
      obtain ⟨hmem, rfl⟩ := d.ok.keys.students.find?_eq_some.1 hs
      have hfound : s.id ∈ (d.val.students.filter fun s => s.id ∈ ids).map StudentRow.id ↔
          s.id ∈ ids := by
        refine ⟨fun hm => ?_, fun hin => List.mem_map_of_mem (List.mem_filter.2 ⟨hmem, by simpa⟩)⟩
        obtain ⟨s', hs', he⟩ := List.mem_map.1 hm
        exact he ▸ by simpa using (List.mem_filter.1 hs').2
      simp only [hfound, Option.bind_some, Option.toList_some]
      by_cases hin : s.id ∈ ids
      · by_cases hsame : s.classId = Text.nonZero cl
        · simp [hin, hsame]
        · simp [hin, hsame, eq_comm (a := Text.nonZero cl)]
      · simp [hin]
  · rcases onlyIf_eq_ok.1 ht with ⟨hne, hrec⟩ | ⟨heq, rfl⟩
    · simpa [hne] using recordClassChange_records hrec
    · simpa [heq] using (⟨⟨_, _, rfl⟩, by simp⟩ : Records [] t t)

/-! ## Every step -/

theorem logs_refl (d : Db) : Logs d d := logs_of_eq rfl rfl

/-- What happened before to other tables does not matter. -/
theorem Logs.of_same {d d₁ d' : Db} (h : Logs d₁ d') (hs : d₁.val.students = d.val.students)
    (hh : d₁.val.history = d.val.history) : Logs d d' := by
  obtain ⟨gone, h⟩ := h
  refine ⟨gone, fun sid => ?_⟩
  have hsid := h sid
  simp only [Logged, Tables.changesOf, Tables.classOf, Tables.student?, hs, hh] at hsid ⊢
  exact hsid

theorem logs_serviceCreateStudent [Unicode] (u : List String) (e n : String) (cl : Nat)
    (g b : Option String) (c : Option Nat) (d : Db) :
    Logs d (after (TenantService.createStudent u e n cl g b c) d) := by
  unfold TenantService.createStudent
  simp only [after_gate_bind]
  split_ifs
  swap
  · exact logs_refl d
  unfold TenantService.createStudentUser
  simp only [bind_assoc, after_query_bind, after_raiseIf_bind]
  split_ifs
  · exact logs_refl d
  -- the new user changes neither students nor history
  rcases ok_or_error (stmt fun t =>
      { t with
        users := t.users ++ [⟨d.val.seq.user, Unicode.lower (Text.strip e), "student", []⟩]
        seq := { t.seq with user := d.val.seq.user + 1 } }) d with ⟨_, h⟩ | ⟨_, h⟩
  · rw [after_bind_ok h]
    have hval := exec_eq_ok.1 h
    exact (logs_createStudent _ n (some cl) g b c _).of_same (by rw [hval]) (by rw [hval])
  · rw [after_bind_error h, exec_eq_error h]
    exact logs_refl d

/-- The gate changes nothing. -/
theorem logs_gated {α : Type} {u a : List String} {msg : String} {m : Prog α} {d : Db}
    (h : Logs d (after m d)) :
    Logs d (after (TenantService.gate u a msg >>= fun _ => m) d) := by
  rw [after_gate_bind]
  split_ifs
  · exact h
  · exact logs_refl d

/-- The commit of a rollover. -/
def Op.isCommit : Op → Bool
  | .commitRollover .. => true
  | _ => false

theorem step_logs [Unicode] (d : Db) {op : Op} (hop : op.isCommit = false) :
    Logs d (step d op) := by
  have hplan : op.isPlanning = true → Logs d (step d op) := by
    intro h
    obtain ⟨years, rollovers, lines, seq, hval⟩ := planning_writes d h
    exact logs_of_eq (by rw [hval]) (by rw [hval])
  have hedit : op.isEditing = true → Logs d (step d op) := by
    intro h
    refine (unlinks_editable.step h (fun u l c _ => ?_) d).logs
    exact moves_exec fun _ _ => unlinks_of_eq rfl rfl
  cases op with
  | commitRollover => cases hop
  | createStudent u e n cl g b c =>
    rw [step, Op.program, after_discard]
    exact logs_serviceCreateStudent u e n cl g b c d
  | placeStudent i n cl g b c =>
    rw [step, Op.program, after_discard]
    exact logs_createStudent i n cl g b c d
  | reassignStudentClass u i cl c =>
    rw [step, Op.program, after_discard]
    exact logs_gated (logs_reassignStudentClass i cl c d)
  | bulkReassignStudents u ids cl c =>
    rw [step, Op.program, after_discard]
    exact logs_gated (logs_bulkReassignStudents ids cl c d)
  | createAcademicYear => exact hplan rfl
  | generateRolloverPlan => exact hplan rfl
  | overrideRolloverLine => exact hplan rfl
  | previewRollover => exact hplan rfl
  | _ => exact hedit rfl

/-- A tenant in which nobody has been placed. -/
structure NoPlacements (d : Db) : Prop where
  students : d.val.students = []
  history : d.val.history = []

/-- **The placement history is a chain**, and it has one row for each change. -/
theorem history_is_chain [Unicode] {d₀ : Db} (h₀ : NoPlacements d₀) {ops : List Op}
    (hops : ∀ op ∈ ops, op.isCommit = false) :
    (∀ sid, Chain none ((run step d₀ ops).val.changesOf sid) ((run step d₀ ops).val.classOf sid)) ∧
      EachStep step (fun d op => RowIfMoved d (step d op)) d₀ ops := by
  have hC : EachStep step (fun _ op => op.isCommit = false) d₀ ops := by
    clear h₀
    induction ops generalizing d₀ with
    | nil => trivial
    | cons op ops ih =>
      exact ⟨hops op List.mem_cons_self, ih fun o ho => hops o (List.mem_cons_of_mem _ ho)⟩
  constructor
  · refine run_inv (I := fun d => ∀ sid, d.val.Chained sid) (fun d op hI hop sid => ?_) ?_ hC
    · obtain ⟨gone, hlogs⟩ := step_logs d hop
      exact (hlogs sid).chained (hI sid)
    · intro sid
      simp [Tables.Chained, Tables.changesOf, Tables.classOf, Tables.student?, h₀.students,
        h₀.history, Chain]
  · exact run_each (I := fun _ => True) (fun _ _ _ _ => trivial)
      (fun d op _ hop => (step_logs d hop).rowIfMoved) trivial hC

/-- The small school before anyone is placed. -/
def emptySchool : Db := ⟨{ smallSchoolTables with students := [] }, by decide +kernel⟩

/-- A student is placed, and the class is deleted. -/
def placedAndUnlinked : List Op :=
  [.placeStudent 1 "S" (some 1) none none none, .deleteClass ["school_admin"] 1 none]

theorem history_is_chain_placedAndUnlinked :
    (∀ sid, Chain none ((run (@step ascii) emptySchool placedAndUnlinked).val.changesOf sid)
      ((run (@step ascii) emptySchool placedAndUnlinked).val.classOf sid)) ∧
      EachStep (@step ascii) (fun d op => RowIfMoved d (@step ascii d op)) emptySchool
        placedAndUnlinked :=
  @history_is_chain ascii emptySchool ⟨rfl, rfl⟩ placedAndUnlinked (by decide)

-- both rows are kept, with the deleted id nulled in them
example : (run (@step ascii) emptySchool placedAndUnlinked).val.changesOf 1 =
    [(none, none), (none, none)] := by decide +kernel

end Sams.School
