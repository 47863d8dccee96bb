import Sams.Family.Facts
import Sams.Lib.LastWrites
import Sams.Trips.Custody

/-!
# Who is put in charge of a child

A link between a student and a parent says whether the parent may approve for the student. It is
written by one request, of the staff, which writes it once more where it is there: so it is that the
staff take back what they have allowed.

* **`consent_granted`** — in every run of the school, whatever else is done in between, a parent who
  decides on an enrollment or cancels it was put in charge of the student by the last request for
  the two of them that succeeded, and that request came from an administrator, from one who may link
  users, or from the head teacher of the class that the student was in at that moment; or the link
  has been there since the start.
-/

namespace Sams.Family

open School Programs Rows Runs LastWrites Interleaving Trips Trips.TenantRepository

/-! ## Linking -/

/-- The student and the parent of a link. -/
def pair (m : StudentParentRow) : Nat × Nat := (m.studentId, m.parentId)

/-- `INSERT INTO student_parent_map … ON CONFLICT (student_id, parent_id) DO UPDATE SET …`. -/
def linked (new : StudentParentRow) (rows : List StudentParentRow) : List StudentParentRow :=
  if rows.any fun m => pair m = pair new then
    updateWhere (fun m => pair m = pair new) (fun _ => new) rows
  else rows ++ [new]

def addStudentParentLink (new : StudentParentRow) : Prog Unit :=
  stmt fun t => { t with studentParents := linked new t.studentParents }

/-- A teacher who is no administrator links the students of their own classes. -/
def headsOnly (userRole : List String) : Bool :=
  Authz.require userRole ["teacher"] && !Authz.require userRole ["school_admin"]

/-- `link_student_parent` -/
def linkStudentParent (new : StudentParentRow) (userRole : List String) (userId : ParsedId) :
    Trips.Task Unit := do
  Proc.failIf (¬Authz.require userRole ["school_admin", "teacher", "user:link"])
    (.permissionError "Only school admins and teachers can link students and parents")
  if headsOnly userRole then
    match ← Proc.look fun d => d.val.student? new.studentId with
    | none => Proc.fail (.valueError "Student not found")
    | some student =>
      let teacherId ← ofExcept userId.column
      let teacherClasses ← Proc.look fun d => getClassesByHeadTeacher d.val teacherId
      Proc.failIf (¬student.classId.any (· ∈ teacherClasses))
        (.permissionError "You can only link parents to students in your own class")
      Proc.once (addStudentParentLink new)
  else
    Proc.once (addStudentParentLink new)

/-- The actor may link the student to a parent. -/
structure MayLink (actor : Actor) (studentId : Nat) (t : Tables) : Prop where
  staff : Authz.require actor.user.roles ["school_admin", "teacher", "user:link"] = true
  head : headsOnly actor.user.roles = true → ∃ n s c, actor.id = .number n ∧
    t.student? studentId = some s ∧ s.classId = some c ∧ c ∈ getClassesByHeadTeacher t n

section Request

variable {new m : StudentParentRow} {actor : Actor} {d d' : Db}

/-- A link is the one that was written, or an other one of before. -/
theorem mem_linked {rows : List StudentParentRow} (h : m ∈ linked new rows) :
    m = new ∨ m ∈ rows ∧ pair m ≠ pair new := by
  unfold linked at h
  split_ifs at h with hany
  · rcases cases_of_mem_updateWhere h with ⟨hm, hpair⟩ | ⟨x, -, -, rfl⟩
    · exact .inr ⟨hm, of_decide_eq_false hpair⟩
    · exact .inl rfl
  · rcases List.mem_append.1 h with hm | hm
    · refine .inr ⟨hm, fun hpair => hany (List.any_eq_true.2 ⟨m, hm, ?_⟩)⟩
      exact decide_eq_true hpair
    · exact .inl (List.mem_singleton.1 hm)

/-- What is there after the statement. -/
theorem addStudentParentLink_ok {u : Unit} (h : addStudentParentLink new d = .ok u d') :
    d'.val = { d.val with studentParents := linked new d.val.studentParents } := by
  unfold addStudentParentLink at h
  exact exec_eq_ok.1 h

/-- **A request to link** is refused, and changes nothing, or it is from someone who may link the
student and writes the link. -/
theorem linkStudentParent_cases (new : StudentParentRow) (actor : Actor) (d : Db) :
    (∃ d', (linkStudentParent new actor.user.roles actor.id).seq d = .ok () d' ∧
      MayLink actor new.studentId d.val ∧
      d'.val = { d.val with studentParents := linked new d.val.studentParents }) ∨
    ∃ e, (linkStudentParent new actor.user.roles actor.id).seq d = .error e d := by
  have hwritten : MayLink actor new.studentId d.val →
      (∃ d', (Proc.once (addStudentParentLink new) : Trips.Task Unit).seq d = .ok () d' ∧
        MayLink actor new.studentId d.val ∧
        d'.val = { d.val with studentParents := linked new d.val.studentParents }) ∨
      ∃ e, (Proc.once (addStudentParentLink new) : Trips.Task Unit).seq d = .error e d := by
    intro hmay
    rw [Proc.seq_once]
    rcases ok_or_error (addStudentParentLink new) d with ⟨u, h⟩ | ⟨e, h⟩
    · exact .inl ⟨_, h, hmay, addStudentParentLink_ok h⟩
    · have hsame : after (addStudentParentLink new) d = d := by
        unfold addStudentParentLink at h ⊢
        exact exec_eq_error h
      rw [hsame] at h
      exact .inr ⟨e, h⟩
  unfold linkStudentParent
  rw [Proc.seq_bind, Proc.seq_failIf, raiseIf_bind]
  by_cases hstaff : Authz.require actor.user.roles ["school_admin", "teacher", "user:link"] = true
  swap
  · rw [if_pos hstaff]
    exact .inr ⟨_, rfl⟩
  rw [if_neg (not_not.2 hstaff)]
  by_cases hhead : headsOnly actor.user.roles = true
  swap
  · rw [if_neg hhead]
    exact hwritten ⟨hstaff, fun h => absurd h hhead⟩
  rw [if_pos hhead, Proc.seq_bind, Proc.seq_look, query_bind]
  cases hstudent : d.val.student? new.studentId with
  | none => exact .inr ⟨_, rfl⟩
  | some s =>
    dsimp only
    cases hid : actor.id with
    | other x => exact .inr ⟨_, rfl⟩
    | number n =>
      have hcolumn : (ofExcept (ParsedId.number n).column).seq d = .ok n d :=
        ofExcept_eq_ok.2 ⟨rfl, rfl⟩
      rw [Proc.seq_bind, bind_of_ok hcolumn, Proc.seq_bind, Proc.seq_look, query_bind,
        Proc.seq_bind, Proc.seq_failIf, raiseIf_bind]
      by_cases hown : s.classId.any (· ∈ getClassesByHeadTeacher d.val n) = true
      · rw [if_neg (not_not.2 hown)]
        obtain ⟨c, hc, hheads⟩ := (Option.any_eq_true _ _).1 hown
        exact hwritten ⟨hstaff, fun _ => ⟨n, s, c, hid, hstudent, hc, of_decide_eq_true hheads⟩⟩
      · rw [if_pos hown]
        exact .inr ⟨_, rfl⟩

end Request

/-! ## The other requests -/

/-- No link is there that was not before. -/
def Fewer (d d' : Db) : Prop := d'.val.studentParents ⊆ d.val.studentParents

instance : IsPreorder Db Fewer where
  refl _ := List.Subset.refl _
  trans _ _ _ h h' := List.Subset.trans h' h

theorem fewer_of_eq {d d' : Db} (h : d'.val.studentParents = d.val.studentParents) :
    Fewer d d' := by
  unfold Fewer
  rw [h]
  exact List.Subset.refl _

/-- A statement that leaves the links alone. -/
theorem fewer_stmt {f : Tables → Tables} (h : ∀ t, (f t).studentParents = t.studentParents) :
    Moves Fewer (stmt f) :=
  moves_exec fun d _ => fewer_of_eq (h d.val)

/-! ### The school -/

section School

theorem fewer_recompute (rid y : Nat) :
    Moves Fewer (School.TenantService.recomputeRolloverLines rid y) := by
  intro d
  obtain ⟨lines, seq, hval⟩ := onlyLines_recompute rid y d
  exact fewer_of_eq (by rw [hval])

theorem fewer_recordClassChange (i : Nat) (o n c : Option Nat) :
    Moves Fewer (School.TenantRepository.recordClassChange i o n c) := by
  unfold School.TenantRepository.recordClassChange
  exact fewer_stmt fun _ => rfl

theorem fewer_removeClasses (ids : List Nat) (c : Option Nat) :
    Moves Fewer (School.TenantRepository.removeClasses ids c) := by
  unfold School.TenantRepository.removeClasses
    School.TenantRepository.blockIfClassesHaveEnrollmentHistory
  refine moves_bind (moves_bind (moves_query _) fun _ => moves_raiseIf _ _) fun _ => ?_
  refine moves_bind (moves_query _) fun affected => moves_bind (fewer_stmt fun _ => rfl) fun _ => ?_
  refine moves_bind (moves_forM fun s _ => fewer_recordClassChange _ _ _ _) fun _ => ?_
  exact moves_bind (fewer_stmt fun _ => rfl) fun _ => fewer_stmt fun _ => rfl

theorem fewer_createStudent (i : Nat) (n : String) (cl : Option Nat) (g b : Option String)
    (c : Option Nat) :
    Moves Fewer (School.TenantRepository.createStudent i n cl g b c) := by
  unfold School.TenantRepository.createStudent
  refine moves_bind (moves_transaction (moves_bind (moves_query _) fun existing => ?_)) fun _ =>
    moves_pure _
  refine moves_bind ?_ fun _ => moves_onlyIf fun _ => fewer_recordClassChange _ _ _ _
  cases existing with
  | none => exact fewer_stmt fun _ => rfl
  | some row => exact fewer_stmt fun _ => rfl

theorem fewer_reassignStudentClass (i : Nat) (cl c : Option Nat) :
    Moves Fewer (School.TenantRepository.reassignStudentClass i cl c) := by
  unfold School.TenantRepository.reassignStudentClass
  refine moves_bind (moves_transaction (moves_bind (moves_query _) fun row => ?_)) fun _ =>
    moves_pure _
  cases row with
  | none => exact moves_throw _
  | some row =>
    refine moves_onlyIf fun _ => moves_bind (fewer_stmt fun _ => rfl) fun _ => ?_
    exact fewer_recordClassChange _ _ _ _

theorem fewer_bulkReassignStudents (ids : List Nat) (cl c : Option Nat) :
    Moves Fewer (School.TenantRepository.bulkReassignStudents ids cl c) := by
  unfold School.TenantRepository.bulkReassignStudents
  refine moves_ite (moves_pure _) (moves_bind (moves_transaction ?_) fun _ => moves_pure _)
  refine moves_bind (moves_query _) fun _ => moves_bind (moves_onlyIf fun _ => ?_) fun _ =>
    moves_pure _
  refine moves_bind (fewer_stmt fun _ => rfl) fun _ => ?_
  exact moves_forM fun s _ => moves_onlyIf fun _ => fewer_recordClassChange _ _ _ _

variable [Unicode]

theorem fewer_editable : Editable Fewer where
  peripheral h := fewer_stmt fun t => by
    obtain ⟨levels, settings, blackouts, auditLog, seq, hval⟩ := h t
    rw [hval]
  setClasses _ _ _ := fewer_stmt fun _ => rfl
  insertClass _ _ := fewer_stmt fun _ => rfl
  removeClasses ids c := (fewer_removeClasses ids c).yields

theorem fewer_createStudentUser (email : String) :
    Moves Fewer (School.TenantService.createStudentUser email) := by
  unfold School.TenantService.createStudentUser
  refine moves_bind (moves_query _) fun _ => moves_bind (moves_raiseIf _ _) fun _ => ?_
  refine moves_bind (moves_query _) fun _ => moves_bind ?_ fun _ => moves_pure _
  exact fewer_stmt fun _ => rfl

/-- No call on the school links anyone. -/
theorem fewer_step (d : Db) (op : School.Op) : Fewer d (School.step d op) := by
  by_cases hediting : op.isEditing = true
  · exact fewer_editable.step hediting (fun _ _ _ _ => fewer_stmt fun _ => rfl) d
  cases op with
  | createStudent u e n cl g b c =>
    refine moves_map ?_ d
    unfold School.TenantService.createStudent
    exact moves_gated (moves_bind (fewer_createStudentUser e) fun uid => fewer_createStudent
      _ _ _ _ _ _)
  | placeStudent i n cl g b c => exact moves_map (fewer_createStudent i n cl g b c) d
  | reassignStudentClass u i cl c =>
    exact moves_map (moves_gated (fewer_reassignStudentClass i cl c)) d
  | bulkReassignStudents u ids cl c =>
    exact moves_map (moves_gated (fewer_bulkReassignStudents ids cl c)) d
  | createAcademicYear u n s e =>
    rw [School.step, Op.program, after_discard]
    rcases createAcademicYear_cases u n s e d with h | ⟨row, seq, -, h⟩
    · rw [h]
      exact refl_of Fewer d
    · exact fewer_of_eq (by rw [h])
  | generateRolloverPlan u f t c =>
    rw [School.step, Op.program, after_discard]
    rcases generate_cases u f t c d with h | ⟨r, d₁, hcreated, h⟩
    · rw [h]
      exact refl_of Fewer d
    · rw [h]
      refine trans_of Fewer ?_ (fewer_recompute r.id f d₁)
      rcases hcreated.state with ⟨-, hsame⟩ | ⟨-, seq, hval⟩
      · rw [hsame]
        exact refl_of Fewer d
      · exact fewer_of_eq (by rw [hval])
  | overrideRolloverLine u l a lv sec =>
    rw [School.step, Op.program, after_discard]
    rcases override_ok u l a lv sec d with h | ⟨-, x, x', -, -, h⟩
    · rw [h]
      exact refl_of Fewer d
    · exact fewer_of_eq (by rw [h]; rfl)
  | previewRollover u rid =>
    rw [School.step, Op.program, after_discard]
    rcases preview_cases u rid d with h | ⟨r, -, -, -, h | ⟨d₁, hok, h⟩⟩
    · rw [h]
      exact refl_of Fewer d
    · rw [h]
      exact fewer_recompute rid r.fromYearId d
    · have hlines := fewer_recompute rid r.fromYearId d
      rw [after_ok hok] at hlines
      exact trans_of Fewer hlines (fewer_of_eq (by rw [h]; rfl))
  | commitRollover u rid c =>
    rw [School.step, Op.program, after_discard]
    rcases ok_or_error (School.TenantService.commitRollover u rid c) d with ⟨o, hok⟩ | ⟨e, herror⟩
    · obtain ⟨-, r, -, -, ⟨-, -, hsame⟩ | ⟨-, -, resolved, hperformed⟩⟩ := commit_ok hok
      · rw [hsame]
        exact refl_of Fewer d
      · obtain ⟨years, classes, students, history, rollovers, lines, seq, hval⟩ := hperformed.only
        exact fewer_of_eq (by rw [hval])
    · rw [commit_error herror]
      exact refl_of Fewer d
  | _ => exact absurd rfl hediting

end School

/-! ### Events -/

theorem fewer_createNotification (e u : Nat) (title : Option String) :
    Moves Fewer (createNotification e u title) := by
  unfold createNotification
  exact fewer_stmt fun _ => rfl

theorem fewer_setFieldsAndClasses (i : Nat) (fields : EventFields)
    (mappings : List ClassMappingRequest) :
    Moves Fewer (setFieldsAndClasses i fields mappings) := by
  unfold setFieldsAndClasses setFields
  refine moves_transaction (moves_bind (fewer_stmt fun _ => rfl) fun _ => moves_bind (moves_query _)
    fun existing => ?_)
  refine moves_forM fun m _ => ?_
  unfold upsertEventClass insertEventClass
  cases (existing.filter fun r => decide (r.classId = m.classId)).getLast? with
  | none => exact fewer_stmt fun _ => rfl
  | some row => exact fewer_stmt fun _ => rfl

theorem fewer_insertWithClasses (fields : EventFields) (createdBy : Nat)
    (mappings : List ClassMappingRequest)
    (now : Timestamp) : Moves Fewer (insertWithClasses fields createdBy mappings now) := by
  unfold insertWithClasses insertEvent
  refine moves_transaction (moves_bind (moves_bind (moves_query _) fun id =>
    moves_bind (fewer_stmt fun _ => rfl) fun _ => moves_pure _) fun _ => ?_)
  refine moves_bind (moves_forM fun m _ => ?_) fun _ => moves_pure _
  unfold insertEventClass
  exact fewer_stmt fun _ => rfl

theorem fewer_updateEventStatus (i : Nat) (fields : UpdateFields) :
    Moves Fewer (updateEventStatus i fields) := by
  rcases updateEventStatus_cases i fields with ⟨reviewer, hcase⟩ | hcase
  · rw [hcase]
    unfold writeEventStatus
    exact fewer_stmt fun _ => rfl
  · rw [hcase]
    exact fun d => refl_of Fewer d

theorem fewer_deleteEvent (u : Authz.CurrentUser) (i : Nat) :
    Moves Fewer (School.EventsRouter.deleteEvent u i) := by
  unfold School.EventsRouter.deleteEvent School.EventService.deleteEvent
  refine moves_bind (moves_raiseIf _ _) fun _ => moves_bind (moves_bind (moves_query _) fun e => ?_)
    fun _ => moves_raiseIf _ _
  cases e with
  | none => exact moves_pure _
  | some e => exact moves_bind (fewer_stmt fun _ => rfl) fun _ => moves_pure _

/-- A user who is deleted takes the links with them. -/
theorem fewer_deleteUserRow (i : Nat) : Moves Fewer (UserRepository.deleteUserRow i) := by
  unfold UserRepository.deleteUserRow
  refine moves_bind (moves_query _) fun _ => moves_bind (moves_raiseIf _ _) fun _ =>
    moves_exec fun d _ m hm => ?_
  exact List.mem_of_mem_filter (List.mem_of_mem_filter hm)

theorem fewer_deleteUser (u : Authz.CurrentUser) (i : Nat) :
    Moves Fewer (AuthRouter.deleteUser u i) := by
  unfold AuthRouter.deleteUser School.TenantService.deleteTenantUser
  refine moves_bind (moves_raiseIf _ _) fun _ => moves_bind (moves_raiseIf _ _) fun _ =>
    moves_bind (moves_query _) fun target => ?_
  cases target with
  | none => exact moves_throw _
  | some target =>
    refine moves_bind (moves_raiseIf _ _) fun _ => moves_bind (moves_raiseIf _ _) fun _ =>
      moves_bind ?_ fun deleted => ?_
    · unfold UserRepository.deleteUser
      refine moves_transaction (moves_bind (moves_query _) fun row => ?_)
      cases row with
      | none => exact moves_pure _
      | some row =>
        refine moves_bind (fewer_stmt fun _ => rfl) fun _ =>
          moves_bind (fewer_stmt fun _ => rfl) fun _ => ?_
        exact moves_bind (moves_rescue (fewer_deleteUserRow i) fun _ => moves_throw _) fun _ =>
          moves_pure _
    · cases deleted with
      | none => exact moves_throw _
      | some deleted => exact moves_pure _

/-- No request on an event links anyone. -/
theorem writable_fewer : Writable Fewer where
  status _ _ _ := fewer_updateEventStatus _ _
  set _ _ _ := fewer_setFieldsAndClasses _ _ _
  patch _ _ := by
    unfold Trips.TenantRepository.updateEvent setFields
    exact moves_bind (fewer_stmt fun _ => rfl) fun _ => moves_query _
  subsidy _ _ := by
    unfold Trips.TenantRepository.updateSubsidy
    exact fewer_stmt fun _ => rfl
  insert _ _ _ _ := fewer_insertWithClasses _ _ _ _
  notify _ _ _ := fewer_createNotification _ _ _
  clear _ := by
    unfold deleteResourcesForEvent
    exact fewer_stmt fun _ => rfl
  resource _ _ := by
    unfold createResource
    exact fewer_stmt fun _ => rfl
  deleteEvent _ _ := fewer_deleteEvent _ _
  deleteUser _ _ := fewer_deleteUser _ _

/-! ## Runs -/

/-- A request to link, or another request of the school. -/
inductive Act where
  | link (actor : Actor) (new : StudentParentRow)
  | other (op : FamilyOp)

namespace Act

variable [Unicode]

def step (d : Db) : Act → Db
  | link actor new => after (linkStudentParent new actor.user.roles actor.id).seq d
  | other op => op.onDb d

/-- The link that an act writes. -/
def writes (d : Db) : Act → Option StudentParentRow
  | link actor new =>
    if returns (linkStudentParent new actor.user.roles actor.id).seq d then some new else none
  | other _ => none

end Act

section Runs

variable [Unicode] {d : Db}

theorem fewer_onDb (d : Db) (op : FamilyOp) : Fewer d (op.onDb d) := by
  cases op with
  | enroll call =>
    rcases enrollStudent_cases call.by_ call.studentId call.eventClassMapId call.state
      call.teacherId call.parentId d with
      ⟨m, n, -, hseq⟩ | ⟨m, t, p, d₁, -, -, -, hval, hseq⟩ | ⟨-, -, e, hseq⟩
    · exact fewer_of_eq (congrArg (fun d : Db => d.val.studentParents) (after_ok hseq))
    · have hafter : after call.program.seq d = d₁ := by
        split_ifs at hseq
        · exact after_error hseq
        · exact after_ok hseq
      show Fewer d (after call.program.seq d)
      rw [hafter]
      exact fewer_of_eq (by rw [hval]; rfl)
    · exact fewer_of_eq (congrArg (fun d : Db => d.val.studentParents) (after_error hseq))
  | decide actor i requested =>
    exact fewer_of_eq (keepsSight_decide actor i requested d).studentParents
  | pay actor i => exact fewer_of_eq (keepsSight_pay actor i d).studentParents
  | cancel actor i => exact fewer_of_eq (keepsSight_cancel actor i d).studentParents
  | school op => exact fewer_step d op
  | event r => exact Proc.Valid.moves (writable_fewer.request r) trivial

omit [Unicode] in
/-- What a request to link writes, where it succeeds. -/
theorem writes_link {actor : Actor} {new m : StudentParentRow} :
    m ∈ Act.writes d (.link actor new) ↔ m = new ∧ MayLink actor new.studentId d.val ∧
      ∃ d', (linkStudentParent new actor.user.roles actor.id).seq d = .ok () d' := by
  have hwrites : Act.writes d (.link actor new) =
      if returns (linkStudentParent new actor.user.roles actor.id).seq d then some new
        else none := rfl
  rw [hwrites]
  rcases linkStudentParent_cases new actor d with ⟨d', hok, hmay, -⟩ | ⟨e, herror⟩
  · rw [if_pos (returns_iff.2 ⟨(), d', hok⟩), Option.mem_some_iff]
    exact ⟨fun h => ⟨h.symm, hmay, d', hok⟩, fun h => h.1.symm⟩
  · rw [if_neg (by simp [returns, herror])]
    constructor
    · exact nofun
    · rintro ⟨-, -, d', hok⟩
      rw [herror] at hok
      cases hok

/-- **One act**: a link that is there afterwards was written by it, or was there
and is of other two. -/
theorem mem_step {act : Act} {m : StudentParentRow} (h : m ∈ (act.step d).val.studentParents) :
    m ∈ act.writes d ∨ m ∈ d.val.studentParents ∧ Spares Act.writes pair (pair m) d act := by
  cases act with
  | link actor new =>
    change m ∈ (after (linkStudentParent new actor.user.roles actor.id).seq d).val.studentParents
      at h
    rcases linkStudentParent_cases new actor d with ⟨d', hok, hmay, hval⟩ | ⟨e, herror⟩
    · rw [after_ok hok, hval] at h
      rcases mem_linked h with rfl | ⟨hm, hpair⟩
      · exact .inl (writes_link.2 ⟨rfl, hmay, d', hok⟩)
      · refine .inr ⟨hm, fun e he heq => hpair ?_⟩
        rw [← heq, (writes_link.1 he).1]
    · rw [after_error herror] at h
      refine .inr ⟨h, fun e he => ?_⟩
      obtain ⟨-, -, d', hok⟩ := writes_link.1 he
      rw [herror] at hok
      cases hok
  | other op => exact .inr ⟨fewer_onDb d op h, nofun⟩

/-! ### In charge -/

/-- No later request for the two of them has succeeded. -/
def Unchanged (m : StudentParentRow) (d : Db) (acts : List Act) : Prop :=
  EachStep Act.step (Spares Act.writes pair (pair m)) d acts

/-- The link is as the staff have put it last, by someone who may link the student, or as
it was at the start. -/
def InForce (d : Db) (acts : List Act) (m : StudentParentRow) : Prop :=
  m ∈ d.val.studentParents ∧ Unchanged m d acts ∨
    ∃ before granter after, acts = before ++ .link granter m :: after ∧
      MayLink granter m.studentId (run Act.step d before).val ∧
      m ∈ Act.writes (run Act.step d before) (.link granter m) ∧
      Unchanged m (Act.step (run Act.step d before) (.link granter m)) after

/-- Every link of the end is in force. -/
theorem inForce_of_mem {acts : List Act} {m : StudentParentRow}
    (h : m ∈ (run Act.step d acts).val.studentParents) :
    InForce d acts m := by
  have hstands : Stands Act.step Act.writes pair
      (fun (d : Db) m => m ∈ d.val.studentParents) d acts m :=
    stands_of_has (fun _ _ _ => mem_step) h
  rcases hstands with ⟨hstart, hspares⟩ | ⟨before, act, after, rfl, hwrite, hspares⟩
  · exact .inl ⟨hstart, hspares⟩
  · cases act with
    | other op => cases hwrite
    | link granter new =>
      obtain ⟨rfl, hmay, -⟩ := writes_link.1 hwrite
      exact .inr ⟨before, granter, after, rfl, hmay, hwrite, hspares⟩

omit [Unicode] in
theorem canParentApprove_iff {t : Tables} {studentId parentId : Nat} :
    canParentApproveForStudent t studentId parentId = true ↔
      { studentId, parentId, canApprove := true } ∈ t.studentParents := by
  unfold canParentApproveForStudent
  rw [List.any_eq_true]
  constructor
  · rintro ⟨⟨s, p, may⟩, hm, heq⟩
    obtain ⟨rfl, rfl, rfl⟩ : s = studentId ∧ p = parentId ∧ may = true := by simpa using heq
    exact hm
  · intro h
    exact ⟨_, h, by simp⟩

/-- **Consent is granted** by the staff: in every run, a parent who decides on an enrollment or
cancels it may approve for its student by the last request for the two of them that succeeded, and
this was made by someone who could link the student when it was made; or the link is of before the
run, and no request for the two has succeeded. -/
theorem consent_granted (d : Db) (acts : List Act) {actor : Actor} (hparent : OnlyParent actor.user)
    {act : ParentAct}
    (hact : act ≠ .pay) {enrollmentId : Nat}
    (h : act.Succeeds actor enrollmentId (run Act.step d acts)) :
    ∃ n ∈ (run Act.step d acts).val.enrollments, n.id = enrollmentId ∧ ∃ p, actor.id = .number p ∧
      InForce d acts { studentId := n.studentId, parentId := p, canApprove := true } := by
  obtain ⟨n, hn, hid, p, hp, hmay⟩ := mayDecide_of_succeeded hparent hact h
  exact ⟨n, hn, hid, p, hp, inForce_of_mem (canParentApprove_iff.1 hmay)⟩

end Runs

section Example

attribute [local instance] ascii

/-- A parent of the small school who may not approve what the student has requested. -/
def withdrawnTrip : Db where
  val :=
    { requestedTrip.val with
    studentParents := [{ studentId := 1, parentId := 4, canApprove := false }] }
  ok := by decide +kernel

def principal : Actor where
  user :=
    { id := "3", tenantId := some "school", role := "school_admin", email := "a@school", roles :=
    ["school_admin"] }
  id := .number 3

/-- The administrator allows it again. -/
def allowsAgain : List Act := [.link principal { studentId := 1, parentId := 4 }]

theorem consent_granted_allowsAgain :
    ∃ n ∈ (run Act.step withdrawnTrip allowsAgain).val.enrollments, n.id = 1 ∧
      ∃ p, (parent 4).id = .number p ∧
      InForce withdrawnTrip allowsAgain
        { studentId := n.studentId, parentId := p, canApprove := true } := by
  have hparent : OnlyParent (parent 4).user := by decide
  have happroves : (ParentAct.decide (.state .approvedByParent)).Succeeds (parent 4) 1
      (run Act.step withdrawnTrip allowsAgain) := by
    unfold ParentAct.Succeeds
    decide +kernel
  have hact : ParentAct.decide (.state .approvedByParent) ≠ .pay := nofun
  exact consent_granted withdrawnTrip allowsAgain hparent hact happroves

end Example

end Sams.Family
