import Sams.School.Payments

/-!
# Guarded deletions of classes and levels

`delete_class`, `delete_level` and the structure editor remove classes through one guard: nothing
may be enrolled on them. What happens is all or nothing. Where the guard refuses, the call raises a
`ValueError` and the tenant is as it was; where it lets the classes go, `ClassesRemoved` says what
is gone, and that nothing is which an enrollment or a payment hangs on.

The audit row of a deletion is written last and in its transaction, so it is there exactly when the
deletion is.
-/

namespace Sams.School

open Programs Rows TenantRepository

/-! ## Removing classes, exactly -/

namespace Tables

variable {t : Tables}

/-- Deleting class maps on which nothing is enrolled deletes only the class maps. -/
theorem deleteEventClasses_of_unenrolled {p : EventClassRow → Bool}
    (h : ∀ n ∈ t.enrollments, ∀ m ∈ t.eventClasses, m.id = n.eventClassMapId → p m = false) :
    t.deleteEventClasses p = { t with eventClasses := t.eventClasses.filter fun e => ¬p e } := by
  have hpayments := payments_deleteEventClasses h
  have henrollments : (t.deleteEventClasses p).enrollments = t.enrollments := by
    apply List.filter_eq_self.2
    intro n hn
    simp only [decide_eq_true_eq, List.any_eq_true, not_exists, not_and]
    intro m hm hp hmn
    exact Bool.false_ne_true ((h n hn m hm hmn).symm.trans hp)
  calc t.deleteEventClasses p
      = { t with
          eventClasses := t.eventClasses.filter fun e => ¬p e
          enrollments := (t.deleteEventClasses p).enrollments
          payments := (t.deleteEventClasses p).payments } := rfl
    _ = _ := by rw [hpayments, henrollments]

/-- Deleting classes that no class map names deletes only the classes. -/
theorem deleteClasses_of_unmapped (ids : List Nat) (h : ∀ m ∈ t.eventClasses, m.classId ∉ ids) :
    ∃ history lines, t.deleteClasses (fun c => c.id ∈ ids) =
      { t with classes := t.classes.filter fun c => c.id ∉ ids, history, lines } := by
  have hgone : ∀ m ∈ t.eventClasses,
      (t.classes.any fun c => decide (c.id ∈ ids) ∧ c.id = m.classId) = false := by
    intro m hm
    simp only [List.any_eq_false, decide_eq_true_eq, not_and]
    exact fun c _ hc hcm => h m hm (hcm ▸ hc)
  have hsame : t.deleteEventClasses (fun e =>
      t.classes.any fun c => decide (c.id ∈ ids) ∧ c.id = e.classId) = t := by
    rw [deleteEventClasses_of_unenrolled fun n _ m hm _ => hgone m hm]
    congr 1
    apply List.filter_eq_self.2
    intro m hm
    rw [decide_eq_true_eq, hgone m hm]
    exact Bool.false_ne_true
  refine ⟨(t.deleteClasses fun c => c.id ∈ ids).history,
    (t.deleteClasses fun c => c.id ∈ ids).lines, ?_⟩
  unfold deleteClasses
  dsimp only
  rw [hsame]
  simp only [decide_not, decide_eq_true_eq]

/-- What the guard found: no enrollment hangs on a class map of the classes. -/
theorem Unenrolled.outside {ids : List Nat} (h : t.Unenrolled ids) :
    ∀ n ∈ t.enrollments, ∀ m ∈ t.eventClasses, m.id = n.eventClassMapId → m.classId ∉ ids := by
  unfold Unenrolled at h
  rw [List.countP_eq_zero] at h
  intro n hn m hm hmn hin
  exact h n hn (List.any_eq_true.2 ⟨m, hm, decide_eq_true ⟨hmn, hin⟩⟩)

end Tables

/-- The classes `ids` are gone with their class maps, and the students placed in them are unplaced.
Rows of the other tables are kept: only references to the classes, the levels and what is recorded
may differ. -/
structure ClassesRemoved (ids : List Nat) (d d' : Db) : Prop where
  classes : d'.val.classes = d.val.classes.filter fun c => c.id ∉ ids
  eventClasses : d'.val.eventClasses = d.val.eventClasses.filter fun m => m.classId ∉ ids
  students : d'.val.students = updateWhere (fun s => s.classId.any fun c => c ∈ ids)
    (fun s => { s with classId := none }) d.val.students
  only : ∃ levels classes students history lines eventClasses auditLog seq, d'.val =
    { d.val with levels, classes, students, history, lines, eventClasses, auditLog, seq }

/-- Removing no class. -/
theorem classesRemoved_nil (d : Db) : ClassesRemoved [] d d where
  classes := by simp
  eventClasses := by simp
  students := (updateWhere_eq_self fun s _ h => by simp at h).symm
  only := ⟨_, _, _, _, _, _, _, _, rfl⟩

/-- **What the guard lets go.** -/
theorem removeClasses_exact {ids : List Nat} {c : Option Nat} {d d' : Db} {u : Unit}
    (h : removeClasses ids c d = .ok u d') :
    ClassesRemoved ids d d' ∧ d'.val.auditLog = d.val.auditLog ∧ d'.val.levels = d.val.levels := by
  have hnone := (removeClasses_unenrolled h).outside
  obtain ⟨d₁, d₂, hset, hrec, hdel⟩ := removeClasses_ok h
  obtain ⟨history, seq, hval⟩ := hrec.only
  rw [hset] at hval
  have hmaps : d₂.val.deleteEventClasses (fun e => e.classId ∈ ids) =
      { d₂.val with
        eventClasses := d₂.val.eventClasses.filter fun e => ¬decide (e.classId ∈ ids) } := by
    apply Tables.deleteEventClasses_of_unenrolled
    rw [hval]
    exact fun n hn m hm hmn => decide_eq_false (hnone n hn m hm hmn)
  rw [hmaps] at hdel
  obtain ⟨history', lines', hgone⟩ := Tables.deleteClasses_of_unmapped
    (t := { d₂.val with
      eventClasses := d₂.val.eventClasses.filter fun e => ¬decide (e.classId ∈ ids) })
    ids fun m hm => by simpa using (List.mem_filter.1 hm).2
  rw [hgone, hval] at hdel
  simp only [decide_eq_true_eq] at hdel
  refine ⟨⟨?_, ?_, ?_, ⟨_, _, _, _, _, _, _, _, hdel⟩⟩, ?_, ?_⟩ <;> rw [hdel] <;> rfl

/-- **What the guard holds back.** -/
theorem removeClasses_guarded {ids : List Nat} {d : Db} (h : ¬d.val.Unenrolled ids)
    (c : Option Nat) : ∃ msg, removeClasses ids c d = .error (.valueError msg) d := by
  unfold removeClasses blockIfClassesHaveEnrollmentHistory
  simp only [bind_assoc, query_bind]
  exact ⟨_, bind_eq_error.2 (.inl (raiseIf_eq_error.2 ⟨h, rfl, rfl⟩))⟩

/-! ## Enrolled class maps while the editor works -/

/-- The class maps on which something is enrolled. -/
def Tables.enrolledMaps (t : Tables) : List EventClassRow :=
  t.eventClasses.filter fun m => t.enrollments.any fun n => m.id = n.eventClassMapId

/-- The guard asks only about the enrollments and the maps that they hang on. -/
theorem unenrolled_iff {t : Tables} {ids : List Nat} :
    t.Unenrolled ids ↔ ∀ n ∈ t.enrollments, ∀ m ∈ t.enrolledMaps, m.id = n.eventClassMapId →
      m.classId ∉ ids := by
  constructor
  · intro h n hn m hm
    exact h.outside n hn m (List.mem_of_mem_filter hm)
  · intro h
    unfold Tables.Unenrolled
    rw [List.countP_eq_zero]
    intro n hn hany
    obtain ⟨m, hm, hsel⟩ := List.any_eq_true.1 hany
    obtain ⟨hmn, hin⟩ := of_decide_eq_true hsel
    refine h n hn m (List.mem_filter.2 ⟨hm, ?_⟩) hmn hin
    exact List.any_eq_true.2 ⟨n, hn, decide_eq_true hmn⟩

/-- What the guard asks about. -/
def guardView (d : Db) : List EnrollmentRow × List EventClassRow :=
  (d.val.enrollments, d.val.enrolledMaps)

theorem unenrolled_congr {d d' : Db} (h : guardView d' = guardView d) (ids : List Nat) :
    d'.val.Unenrolled ids ↔ d.val.Unenrolled ids := by
  obtain ⟨henrollments, hmaps⟩ := Prod.mk.inj h
  rw [unenrolled_iff, unenrolled_iff, henrollments, hmaps]

/-- **Editing levels and classes leaves alone what the guard asks about.** -/
theorem guardView_editable [Unicode] : Editable (Same guardView) where
  peripheral h := moves_exec fun d _ => by
    obtain ⟨levels, settings, blackouts, auditLog, seq, hval⟩ := h d.val
    simp [Same, guardView, Tables.enrolledMaps, hval]
  setClasses _ _ _ := moves_exec fun _ _ => rfl
  insertClass _ _ := moves_exec fun _ _ => rfl
  removeClasses ids c d u d' h := by
    have hout := (removeClasses_unenrolled h).outside
    obtain ⟨hremoved, -, -⟩ := removeClasses_exact h
    obtain ⟨_, _, _, _, _, _, _, _, hval⟩ := hremoved.only
    have henrollments : d'.val.enrollments = d.val.enrollments := by rw [hval]
    refine Prod.ext henrollments ?_
    show d'.val.enrolledMaps = d.val.enrolledMaps
    unfold Tables.enrolledMaps
    rw [henrollments, hremoved.eventClasses, List.filter_filter]
    -- a map that something hangs on is none of those that went
    apply List.filter_congr
    intro m hm
    cases hany : d.val.enrollments.any fun n => decide (m.id = n.eventClassMapId) with
    | false => rfl
    | true =>
      obtain ⟨n, hn, hmn⟩ := List.any_eq_true.1 hany
      rw [Bool.true_and]
      exact decide_eq_true (hout n hn m hm (of_decide_eq_true hmn))

/-! ## The three operations -/

/-- A call of an operation that removes classes under the guard. -/
inductive GuardedDelete where
  | deleteClass (userRole : List String) (classId : Nat) (changedBy : Option Nat)
  | deleteLevel (userRole : List String) (levelId : Nat) (changedBy : Option Nat)
  | saveAcademicStructure (userRole : List String) (payload : StructureIn) (changedBy : Option Nat)
  deriving DecidableEq, Repr

section Operations

variable [Unicode]

/-- The program of a call, its result dropped. -/
def GuardedDelete.program : GuardedDelete → Prog Unit
  | .deleteClass u i c => discard (TenantService.deleteClass u i c)
  | .deleteLevel u l c => discard (TenantService.deleteLevel u l c)
  | .saveAcademicStructure u p c => TenantService.saveAcademicStructure u p c

/-- The editor is refused before it writes: the caller may not, or asks for another curriculum than
the one that is locked. -/
def EditorBarred (d : Db) (u : List String) (p : StructureIn) : Prop :=
  ¬Authz.require u (TenantService.adminRoles ++ ["level:manage", "level:create", "school:write"]) ∨
    d.val.curriculumLocked ∧
      (Text.nonEmpty p.system).any (· ≠ TenantService.currentSystem d.val)

/-- The call comes to remove the classes `ids`: the caller may, and what the call names is there.
The editor comes to several such lists, one for each level of its payload. -/
def GuardedDelete.WouldRemove (d : Db) : GuardedDelete → List Nat → Prop
  | .deleteClass u cid _, ids =>
    Authz.require u TenantService.adminRoles ∧ (∃ c ∈ d.val.classes, c.id = cid) ∧ ids = [cid]
  | .deleteLevel u lid _, ids =>
    Authz.require u TenantService.adminRoles ∧ (∃ l ∈ d.val.levels, l.levelId = lid) ∧
      ids = d.val.classesAt lid
  | .saveAcademicStructure u p c, ids => ¬EditorBarred d u p ∧ ∃ d', EditorReaches p c d ids d'

/-- The row that a deletion leaves in the log. -/
def deletionRow (id : Nat) (userRole : List String) (changedBy : Option Nat)
    (action entityType : String) (entityId : Nat) : AuditRow where
  id := id
  actorUserId := changedBy
  actorRole := if userRole.headD "unknown" = "" then "unknown" else userRole.headD "unknown"
  action := action
  entityType := entityType
  entityId := some (toString entityId)
  outcome := .allow

/-- What a call that returned has done. -/
def GuardedDelete.Exact (d d' : Db) : GuardedDelete → Prop
  | .deleteClass u cid c => ClassesRemoved [cid] d d' ∧ d'.val.levels = d.val.levels ∧
    ∃ id, d'.val.auditLog = d.val.auditLog ++ [deletionRow id u c "class.delete" "class" cid]
  | .deleteLevel u lid c => ClassesRemoved (d.val.classesAt lid) d d' ∧
    d'.val.levels = d.val.levels.filter (fun l => l.levelId ≠ lid) ∧
    ∃ id, d'.val.auditLog = d.val.auditLog ++ [deletionRow id u c "level.delete" "level" lid]
  | .saveAcademicStructure _ _ _ =>
    d'.val.enrollments = d.val.enrollments ∧ d'.val.payments = d.val.payments

theorem GuardedDelete.reverts (op : GuardedDelete) : Reverts op.program := by
  cases op with
  | deleteClass u i c => exact reverts_map (reverts_deleteClass u i c)
  | deleteLevel u l c => exact reverts_map (reverts_deleteLevel u l c)
  | saveAcademicStructure u p c => exact reverts_saveAcademicStructure u p c

/-! ### Refused -/

omit [Unicode] in
theorem transaction_raises {m : Prog Unit} {d t : Db} {e : PyError} (h : m d = .error e t) :
    transaction m d = .error e d := by
  unfold transaction
  rw [h]

omit [Unicode] in
theorem deleteClass_guarded {u : List String} {cid : Nat} {c : Option Nat} {d : Db}
    (hmay : Authz.require u TenantService.adminRoles = true) (h : ¬d.val.Unenrolled [cid]) :
    ∃ msg, TenantService.deleteClass u cid c d = .error (.valueError msg) d := by
  unfold TenantService.deleteClass TenantService.gate TenantRepository.deleteClass
  rw [raiseIf_bind, if_neg (not_not.2 hmay)]
  obtain ⟨msg, hremove⟩ := removeClasses_guarded h c
  by_cases hmissing : Text.nonZero ((d.val.class? cid).map ClassRow.id) = none
  · refine ⟨s!"Class {cid} not found", bind_eq_error.2 (.inl (transaction_raises (t := d) ?_))⟩
    rw [query_bind]
    exact bind_eq_error.2 (.inl (raiseIf_eq_error.2 ⟨hmissing, rfl, rfl⟩))
  · refine ⟨msg, bind_eq_error.2 (.inl (transaction_raises (t := d) ?_))⟩
    rw [query_bind, raiseIf_bind, if_neg hmissing]
    exact bind_eq_error.2 (.inl hremove)

omit [Unicode] in
theorem deleteLevel_guarded {u : List String} {lid : Nat} {c : Option Nat} {d : Db}
    (hmay : Authz.require u TenantService.adminRoles = true)
    (h : ¬d.val.Unenrolled (d.val.classesAt lid)) :
    ∃ msg, TenantService.deleteLevel u lid c d = .error (.valueError msg) d := by
  unfold TenantService.deleteLevel TenantService.gate TenantRepository.deleteLevel
  rw [raiseIf_bind, if_neg (not_not.2 hmay)]
  obtain ⟨msg, hremove⟩ := removeClasses_guarded h c
  by_cases hmissing : Text.nonZero ((d.val.level? lid).map LevelRow.levelId) = none
  · refine ⟨s!"Level {lid} not found", bind_eq_error.2 (.inl (transaction_raises (t := d) ?_))⟩
    rw [query_bind]
    exact bind_eq_error.2 (.inl (raiseIf_eq_error.2 ⟨hmissing, rfl, rfl⟩))
  · have hsome : d.val.classesAt lid ≠ [] := fun hnil => h (by simp [Tables.Unenrolled, hnil])
    refine ⟨msg, bind_eq_error.2 (.inl (transaction_raises (t := d) ?_))⟩
    rw [query_bind, raiseIf_bind, if_neg hmissing, query_bind]
    exact bind_eq_error.2 (.inl ((congrFun (onlyIf_of hsome) d).trans hremove))

/-- The editor that comes to classes on which something is enrolled raises. -/
theorem EditorReaches.guarded {p : StructureIn} {c : Option Nat} {d d' : Db} {ids : List Nat}
    (hreach : EditorReaches p c d ids d') (h : ¬d'.val.Unenrolled ids) :
    ∃ msg, saveAcademicStructure p c d = .error (.valueError msg) d := by
  obtain ⟨ctx, d₀, before, l, rest, d₁, hctx, hlevels, hbefore, hstale⟩ := hreach
  obtain ⟨msg, hremove⟩ := removeClasses_guarded h ctx.changedBy
  have hsome : ids ≠ [] := fun hnil => h (by simp [Tables.Unenrolled, hnil])
  have hlevel : saveLevelAndSections ctx l d₁ = .error (.valueError msg) d' := by
    rw [saveLevelAndSections_eq]
    refine bind_eq_error.2 (.inr ⟨ids, d', hstale, ?_⟩)
    rw [onlyIf_of hsome]
    exact hremove
  have hsplit : (before ++ l :: rest).forM (saveLevelAndSections ctx) =
      before.forM (saveLevelAndSections ctx) >>= fun _ =>
        (l :: rest).forM (saveLevelAndSections ctx) := List.forM_append
  have hloop : p.levels.forM (saveLevelAndSections ctx) d₀ = .error (.valueError msg) d' := by
    rw [hlevels, hsplit]
    exact bind_eq_error.2 (.inr ⟨⟨⟩, d₁, hbefore, bind_eq_error.2 (.inl hlevel)⟩)
  refine ⟨msg, ?_⟩
  rw [saveAcademicStructure_eq]
  exact transaction_raises (bind_eq_error.2 (.inr ⟨ctx, d₀, hctx, hloop⟩))

/-- The editor's steps up to a level leave alone what the guard asks about. -/
theorem EditorReaches.guard_same {p : StructureIn} {c : Option Nat} {d d' : Db} {ids : List Nat}
    (hreach : EditorReaches p c d ids d') : guardView d' = guardView d := by
  have hedit := guardView_editable
  obtain ⟨ctx, d₀, before, l, rest, d₁, hctx, -, hbefore, hstale⟩ := hreach
  have hcontext : Yields (Same guardView) (editorContext p c) := by
    refine yields_bind (moves_query _).yields fun _ => ?_
    refine yields_bind (hedit.saveSettings p).yields fun _ => ?_
    refine yields_bind (hedit.saveBlackouts p).yields fun _ => ?_
    exact yields_bind (moves_query _).yields fun _ => (moves_pure _).yields
  have hlevels : Yields (Same guardView) (before.forM (saveLevelAndSections ctx)) :=
    yields_forM fun l _ => hedit.saveLevelAndSections ctx l
  have hlast : Yields (Same guardView) (editorStale ctx l) := by
    refine yields_bind (hedit.saveLevel l).yields fun lvlId => ?_
    refine yields_bind (moves_foldlM fun _ _ _ => hedit.saveSection _ _ _ _ _).yields fun _ => ?_
    exact (moves_query _).yields
  exact ((hlast _ _ _ hstale).trans (hlevels _ _ _ hbefore)).trans (hcontext _ _ _ hctx)

theorem GuardedDelete.refused {op : GuardedDelete} {d : Db} {ids : List Nat}
    (hremove : op.WouldRemove d ids) (h : ¬d.val.Unenrolled ids) :
    ∃ msg, op.program d = .error (.valueError msg) d := by
  cases op with
  | deleteClass u cid c =>
    obtain ⟨hmay, -, rfl⟩ := hremove
    obtain ⟨msg, herr⟩ := deleteClass_guarded (c := c) hmay h
    exact ⟨msg, map_eq_error.2 herr⟩
  | deleteLevel u lid c =>
    obtain ⟨hmay, -, rfl⟩ := hremove
    obtain ⟨msg, herr⟩ := deleteLevel_guarded (c := c) hmay h
    exact ⟨msg, map_eq_error.2 herr⟩
  | saveAcademicStructure u p c =>
    obtain ⟨hbarred, d', hreach⟩ := hremove
    obtain ⟨hmay, hunlocked⟩ := not_or.1 hbarred
    rw [← unenrolled_congr hreach.guard_same] at h
    obtain ⟨msg, herr⟩ := hreach.guarded h
    refine ⟨msg, ?_⟩
    show TenantService.saveAcademicStructure u p c d = _
    unfold TenantService.saveAcademicStructure TenantService.gate
    rw [raiseIf_bind, if_neg hmay, query_bind, query_bind, raiseIf_bind, if_neg hunlocked]
    exact herr

/-! ### Done -/

omit [Unicode] in
/-- The deletion of the level and the row of the log touch nothing that `ClassesRemoved` fixes. -/
theorem ClassesRemoved.trailing {ids : List Nat} {d d₁ d₂ : Db} (h : ClassesRemoved ids d d₁)
    (hval : ∃ levels lines auditLog seq, d₂.val = { d₁.val with levels, lines, auditLog, seq }) :
    ClassesRemoved ids d d₂ := by
  obtain ⟨_, _, _, _, hval⟩ := hval
  obtain ⟨_, _, _, _, _, _, _, _, honly⟩ := h.only
  constructor
  · rw [hval, ← h.classes]
  · rw [hval, ← h.eventClasses]
  · rw [hval, ← h.students]
  · exact ⟨_, _, _, _, _, _, _, _, by rw [hval, honly]⟩

omit [Unicode] in
theorem record_ok {u : List String} {c : Option Nat} {action entityType : String} {i : Nat}
    {d d' : Db} {x : Unit}
    (h : AuditService.record (some (.of c u)) action entityType (some i) .allow d = .ok x d') :
    ∃ id seq, d'.val = { d.val with
      auditLog := d.val.auditLog ++ [deletionRow id u c action entityType i], seq } := by
  unfold AuditService.record at h
  exact ⟨_, _, exec_eq_ok.1 h⟩

omit [Unicode] in
theorem deleteClass_exact {u : List String} {cid : Nat} {c : Option Nat} {d d' : Db} {b : Bool}
    (h : TenantService.deleteClass u cid c d = .ok b d') :
    GuardedDelete.Exact d d' (.deleteClass u cid c) := by
  obtain ⟨_, t, hgate, h⟩ := bind_eq_ok.1 h
  obtain ⟨-, rfl⟩ := raiseIf_eq_ok.1 hgate
  obtain ⟨_, t, htrans, hpure⟩ := bind_eq_ok.1 h
  obtain ⟨-, rfl⟩ := pure_eq_ok.1 hpure
  rw [transaction_eq_ok, query_bind] at htrans
  obtain ⟨_, t₁, hraise, h⟩ := bind_eq_ok.1 htrans
  obtain ⟨-, rfl⟩ := raiseIf_eq_ok.1 hraise
  obtain ⟨_, t₂, hremove, hrecord⟩ := bind_eq_ok.1 h
  obtain ⟨hremoved, haudit, hlevels⟩ := removeClasses_exact hremove
  obtain ⟨id, seq, hval⟩ := record_ok hrecord
  refine ⟨hremoved.trailing ⟨_, _, _, _, hval⟩, ?_, id, ?_⟩
  · rw [hval, ← hlevels]
  · rw [hval, haudit]

omit [Unicode] in
theorem deleteLevel_exact {u : List String} {lid : Nat} {c : Option Nat} {d d' : Db} {b : Bool}
    (h : TenantService.deleteLevel u lid c d = .ok b d') :
    GuardedDelete.Exact d d' (.deleteLevel u lid c) := by
  obtain ⟨_, t, hgate, h⟩ := bind_eq_ok.1 h
  obtain ⟨-, rfl⟩ := raiseIf_eq_ok.1 hgate
  obtain ⟨_, t, htrans, hpure⟩ := bind_eq_ok.1 h
  obtain ⟨-, rfl⟩ := pure_eq_ok.1 hpure
  rw [transaction_eq_ok, query_bind] at htrans
  obtain ⟨_, t₁, hraise, h⟩ := bind_eq_ok.1 htrans
  obtain ⟨-, rfl⟩ := raiseIf_eq_ok.1 hraise
  rw [query_bind] at h
  obtain ⟨_, t₂, hremove, h⟩ := bind_eq_ok.1 h
  obtain ⟨_, t₃, hdelete, hrecord⟩ := bind_eq_ok.1 h
  have hlevel := exec_eq_ok.1 hdelete
  obtain ⟨id, seq, hval⟩ := record_ok hrecord
  have hclasses : ClassesRemoved (d.val.classesAt lid) d t₂ ∧
      t₂.val.auditLog = d.val.auditLog ∧ t₂.val.levels = d.val.levels := by
    rcases onlyIf_eq_ok.1 hremove with ⟨-, hremove⟩ | ⟨hnil, rfl⟩
    · exact removeClasses_exact hremove
    · have hempty : d.val.classesAt lid = [] := not_not.1 hnil
      rw [hempty]
      exact ⟨classesRemoved_nil d, rfl, rfl⟩
  obtain ⟨hremoved, haudit, hlevels⟩ := hclasses
  refine ⟨hremoved.trailing ⟨_, _, _, _, by rw [hval, hlevel]; rfl⟩, ?_, id, ?_⟩
  · rw [hval, hlevel, ← hlevels]
    rfl
  · rw [hval, hlevel, ← haudit]
    rfl

theorem saveAcademicStructure_keeps {u : List String} {p : StructureIn} {c : Option Nat}
    {d d' : Db} {x : Unit} (h : TenantService.saveAcademicStructure u p c d = .ok x d') :
    GuardedDelete.Exact d d' (.saveAcademicStructure u p c) := by
  have hediting : (Op.saveAcademicStructure u p c).isEditing = true := rfl
  have hstep : step d (.saveAcademicStructure u p c) = d' := after_ok h
  have hview : Same guardView d (step d (.saveAcademicStructure u p c)) :=
    guardView_editable.step hediting (fun _ _ _ h => by cases h) d
  have hpayments : Same (fun d : Db => d.val.payments) d (step d (.saveAcademicStructure u p c)) :=
    payments_editable.step hediting (fun _ _ _ h => by cases h) d
  rw [hstep] at hview hpayments
  exact ⟨congrArg Prod.fst hview, hpayments⟩

/-- **Guarded deletions are all or nothing, and exact.** A call that comes to remove classes on one
of which something is enrolled raises a `ValueError` and leaves the tenant as it was, and so does
whatever raises. A call that returns has done what it says and nothing else. -/
theorem guarded_deletes_exact (d : Db) (op : GuardedDelete) :
    (∀ ids, op.WouldRemove d ids → ¬d.val.Unenrolled ids →
      ∃ msg, op.program d = .error (.valueError msg) d) ∧
    (∀ e d', op.program d = .error e d' → d' = d) ∧
    (∀ u d', op.program d = .ok u d' → op.Exact d d') := by
  refine ⟨fun ids hremove h => GuardedDelete.refused hremove h, fun e d' => op.reverts d e d', ?_⟩
  intro x d' hok
  cases op with
  | deleteClass u cid c =>
    obtain ⟨b, hok, -⟩ := map_eq_ok.1 hok
    exact deleteClass_exact hok
  | deleteLevel u lid c =>
    obtain ⟨b, hok, -⟩ := map_eq_ok.1 hok
    exact deleteLevel_exact hok
  | saveAcademicStructure u p c => exact saveAcademicStructure_keeps hok

end Operations

end Sams.School
