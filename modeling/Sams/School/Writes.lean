import Sams.School.Commit
import Sams.School.Lines

/-!
# What a step writes to the rollovers and their lines

`Writes d op d'` lists what an operation can do to the two tables, one constructor per case, with
the guards that the case passed; **`step_writes`** is the inversion of a step. The invariants of
lines are derived from it by cases.

Editing levels and classes only unlinks lines (`Relinked`): the schema nulls the ids of the deleted
classes in them, and `delete_level` those of the deleted level.
-/

namespace Sams.School

open Programs Rows TenantRepository TenantService

open Tables (setNull)

/-! ## Unlinking -/

/-- A line without the classes it names. -/
def LineRow.decision (l : LineRow) : LineRow := { l with fromClassId := none, toClassId := none }

/-- A line whose target level is nulled if it is among the ids. -/
def LineRow.unlevel (gone : Nat → Bool) (l : LineRow) : LineRow :=
  { l with toLevelId := setNull gone l.toLevelId }

/-- Lines and rollovers stay, but for classes, and but for target levels that may be gone. -/
structure Relinked (gone : Nat → Prop) (d d' : Db) : Prop where
  rollovers : d'.val.rollovers = d.val.rollovers
  lines : ∃ nulled : Nat → Bool, (∀ id, nulled id = true → gone id) ∧
    d'.val.lines.map LineRow.decision =
      (d.val.lines.map LineRow.decision).map (LineRow.unlevel nulled)

theorem map_unlevel_never (ls : List LineRow) : ls.map (LineRow.unlevel fun _ => false) = ls := by
  refine (List.map_congr_left fun l _ => ?_).trans (List.map_id _)
  simp [LineRow.unlevel, Tables.setNull_never]

theorem relinked_of_eq {gone : Nat → Prop} {d d' : Db}
    (hr : d'.val.rollovers = d.val.rollovers)
    (hl : d'.val.lines.map LineRow.decision = d.val.lines.map LineRow.decision) :
    Relinked gone d d' :=
  ⟨hr, fun _ => false, by simp, by rw [hl, map_unlevel_never]⟩

instance (gone : Nat → Prop) : IsPreorder Db (Relinked gone) where
  refl _ := relinked_of_eq rfl rfl
  trans d d' d'' h h' := by
    obtain ⟨nulled, hgone, hlines⟩ := h.lines
    obtain ⟨nulled', hgone', hlines'⟩ := h'.lines
    refine ⟨h'.rollovers.trans h.rollovers, fun id => nulled id || nulled' id, fun id hid => ?_, ?_⟩
    · rcases Bool.or_eq_true _ _ |>.mp hid with hid | hid
      · exact hgone id hid
      · exact hgone' id hid
    · rw [hlines', hlines, List.map_map]
      refine List.map_congr_left fun l _ => ?_
      simp only [Function.comp, LineRow.unlevel, Tables.setNull_setNull]

theorem Relinked.mono {gone gone' : Nat → Prop} {d d' : Db} (h : Relinked gone d d')
    (hle : ∀ id, gone id → gone' id) : Relinked gone' d d' := by
  obtain ⟨nulled, hgone, hlines⟩ := h.lines
  exact ⟨h.rollovers, nulled, fun id hid => hle id (hgone id hid), hlines⟩

/-- `l'` is the line `l`, but for classes and perhaps a target level that is gone. -/
structure LineRow.Relinks (gone : Nat → Prop) (l l' : LineRow) : Prop where
  id : l'.id = l.id
  rolloverId : l'.rolloverId = l.rolloverId
  studentId : l'.studentId = l.studentId
  proposedAction : l'.proposedAction = l.proposedAction
  overrideAction : l'.overrideAction = l.overrideAction
  toSectionLabel : l'.toSectionLabel = l.toSectionLabel
  applied : l'.applied = l.applied
  toLevelId : l'.toLevelId = l.toLevelId ∨
    l'.toLevelId = none ∧ ∃ lid, l.toLevelId = some lid ∧ gone lid

theorem LineRow.Relinks.effective {gone : Nat → Prop} {l l' : LineRow} (h : l.Relinks gone l') :
    l'.effective = l.effective := by
  simp only [LineRow.effective, h.overrideAction, h.proposedAction]

theorem relinks_of_decision {gone : Nat → Prop} {nulled : Nat → Bool}
    (hgone : ∀ id, nulled id = true → gone id) {l l' : LineRow}
    (h : l'.decision = l.decision.unlevel nulled) : l.Relinks gone l' := by
  have hfield : ∀ {α : Type} (g : LineRow → α), (∀ x : LineRow, g x.decision = g x) →
      (∀ x : LineRow, g (x.unlevel nulled) = g x) → g l' = g l := by
    intro α g hd hu
    rw [← hd l', h, hu, hd]
  have hto := congrArg LineRow.toLevelId h
  change l'.toLevelId = setNull nulled l.toLevelId at hto
  refine ⟨hfield LineRow.id (fun _ => rfl) fun _ => rfl,
    hfield LineRow.rolloverId (fun _ => rfl) fun _ => rfl,
    hfield LineRow.studentId (fun _ => rfl) fun _ => rfl,
    hfield LineRow.proposedAction (fun _ => rfl) fun _ => rfl,
    hfield LineRow.overrideAction (fun _ => rfl) fun _ => rfl,
    hfield LineRow.toSectionLabel (fun _ => rfl) fun _ => rfl,
    hfield LineRow.applied (fun _ => rfl) fun _ => rfl, ?_⟩
  cases hl : l.toLevelId with
  | none =>
    rw [hl] at hto
    exact .inl hto
  | some lid =>
    rw [hl, Tables.setNull_some] at hto
    split_ifs at hto with hnull
    · exact .inr ⟨hto, lid, rfl, hgone lid hnull⟩
    · exact .inl hto

/-- Every line comes from an old one. -/
theorem Relinked.origin {gone : Nat → Prop} {d d' : Db} (h : Relinked gone d d') {l' : LineRow}
    (hl' : l' ∈ d'.val.lines) : ∃ l ∈ d.val.lines, l.Relinks gone l' := by
  obtain ⟨nulled, hgone, hlines⟩ := h.lines
  have hm : l'.decision ∈ d'.val.lines.map LineRow.decision := List.mem_map_of_mem hl'
  rw [hlines, List.map_map] at hm
  obtain ⟨l, hl, he⟩ := List.mem_map.1 hm
  exact ⟨l, hl, relinks_of_decision hgone he.symm⟩

/-- Every old line stays. -/
theorem Relinked.kept {gone : Nat → Prop} {d d' : Db} (h : Relinked gone d d') {l : LineRow}
    (hl : l ∈ d.val.lines) : ∃ l' ∈ d'.val.lines, l.Relinks gone l' := by
  obtain ⟨nulled, hgone, hlines⟩ := h.lines
  have hm : l.decision.unlevel nulled ∈ (d.val.lines.map LineRow.decision).map
      (LineRow.unlevel nulled) := List.mem_map_of_mem (List.mem_map_of_mem hl)
  rw [← hlines] at hm
  obtain ⟨l', hl', he⟩ := List.mem_map.1 hm
  exact ⟨l', hl', relinks_of_decision hgone he⟩

theorem relinked_removeClasses (gone : Nat → Prop) (ids : List Nat) (changedBy : Option Nat) :
    Yields (Relinked gone) (removeClasses ids changedBy) := by
  intro d u d' h
  obtain ⟨d₁, d₂, hset, hrec, hdel⟩ := removeClasses_ok h
  obtain ⟨history, seq, hval⟩ := hrec.only
  refine relinked_of_eq ?_ ?_
  · rw [hdel, hval, hset]
    rfl
  · rw [hdel, hval, hset]
    simp only [Tables.deleteClasses, Tables.deleteEventClasses, Tables.setStudents, List.map_map]
    rfl

theorem relinked_editable [Unicode] (gone : Nat → Prop) : Editable (Relinked gone) where
  peripheral h := moves_exec fun d _ => by
    obtain ⟨levels, settings, blackouts, auditLog, seq, hval⟩ := h d.val
    exact relinked_of_eq (by simp [hval]) (by simp [hval])
  setClasses _ _ _ := moves_exec fun _ _ => relinked_of_eq rfl rfl
  insertClass _ _ := moves_exec fun _ _ => relinked_of_eq rfl rfl
  removeClasses := relinked_removeClasses gone

theorem relinked_deleteLevels (lid : Nat) :
    Moves (Relinked fun id => id = lid) (stmt fun t => t.deleteLevels lid) :=
  moves_exec fun d _ => by
    refine ⟨rfl, fun id => id = lid, by simp, ?_⟩
    simp only [Tables.deleteLevels, List.map_map]
    rfl

/-! ## Deleting a level -/

/-- The classes of a level. -/
def Tables.classesAt (t : Tables) (lid : Nat) : List Nat :=
  (t.classes.filter fun c => c.levelId = lid).map ClassRow.id

/-- No enrollment hangs on the classes. -/
def Tables.Unenrolled (t : Tables) (ids : List Nat) : Prop :=
  (t.enrollments.countP fun n =>
    t.eventClasses.any fun e => e.id = n.eventClassMapId ∧ e.classId ∈ ids) = 0

/-- Classes are removed only when no enrollment hangs on them. -/
theorem removeClasses_unenrolled {ids : List Nat} {c : Option Nat} {d d' : Db} {u : Unit}
    (h : removeClasses ids c d = .ok u d') : d.val.Unenrolled ids := by
  unfold removeClasses blockIfClassesHaveEnrollmentHistory at h
  simp only [bind_assoc, query_bind] at h
  obtain ⟨_, _, hblock, -⟩ := bind_eq_ok.1 h
  exact not_not.1 (raiseIf_eq_ok.1 hblock).1

/-- The caller may delete the level: the role, the level, and no enrollment on its classes. -/
def Tables.LevelDeletable (t : Tables) (userRole : List String) (lid : Nat) : Prop :=
  Authz.require userRole adminRoles ∧ (∃ l ∈ t.levels, l.levelId = lid) ∧
    t.Unenrolled (t.classesAt lid)

/-- A level that may not be deleted is not. -/
theorem deleteLevel_refused {u : List String} {lid : Nat} {c : Option Nat} {d : Db}
    (h : ¬d.val.LevelDeletable u lid) : after (TenantService.deleteLevel u lid c) d = d := by
  unfold TenantService.deleteLevel
  rw [after_gate_bind]
  split_ifs with hallowed
  swap
  · rfl
  unfold TenantRepository.deleteLevel
  rw [after_bind_idle fun _ _ => rfl]
  refine after_transaction_ind rfl fun _ d' hok => ?_
  simp only [query_bind] at hok
  obtain ⟨_, t, hraise, hok⟩ := bind_eq_ok.1 hok
  obtain ⟨hfound, rfl⟩ := raiseIf_eq_ok.1 hraise
  simp only [query_bind] at hok
  obtain ⟨_, t, hremove, -⟩ := bind_eq_ok.1 hok
  refine absurd ⟨hallowed, ?_, ?_⟩ h
  · cases hl : d.val.level? lid with
    | none => exact absurd (by rw [hl]; rfl) hfound
    | some l => exact ⟨l, d.ok.keys.levels.find?_eq_some.1 hl⟩
  · rcases onlyIf_eq_ok.1 hremove with ⟨-, hremove⟩ | ⟨hnil, -⟩
    · exact removeClasses_unenrolled hremove
    · unfold Tables.Unenrolled Tables.classesAt
      rw [not_not.1 hnil]
      simp

/-- The level that an operation deletes. -/
def Op.DeletesLevel (d : Db) : Op → Nat → Prop
  | .deleteLevel u lid _, id => id = lid ∧ d.val.LevelDeletable u lid
  | _, _ => False

/-- **Editing levels and classes only unlinks lines**, from classes and from a deleted level. -/
theorem relinked_step [Unicode] (d : Db) {op : Op} (hop : op.isEditing = true) :
    Relinked (op.DeletesLevel d) d (step d op) := by
  cases op with
  | deleteLevel u lid c =>
    by_cases h : d.val.LevelDeletable u lid
    · refine ((relinked_editable fun id => id = lid).step hop (fun _ l _ he => ?_) d).mono
        fun id hid => ⟨hid, h⟩
      cases he
      exact relinked_deleteLevels lid
    · rw [step, Op.program, after_discard, deleteLevel_refused h]
      exact refl_of _ d
  | createLevel | updateLevel | createClass | createClassIn | updateClass | deleteClass
  | saveAcademicStructure | commitStructureImport =>
    exact (relinked_editable _).step hop (fun _ _ _ he => by cases he) d
  | _ => cases hop

/-! ## Every step -/

/-- What a call leaves in the rollovers and their lines. -/
inductive Writes (d : Db) : Op → Db → Prop where
  /-- Nothing: the call raised or its operation writes other tables. -/
  | idle {op d'} (rollovers : d'.val.rollovers = d.val.rollovers)
      (lines : d'.val.lines = d.val.lines) : Writes d op d'
  /-- Levels and classes were edited. -/
  | edited {op d'} (editing : op.isEditing = true) (relinked : Relinked (op.DeletesLevel d) d d') :
      Writes d op d'
  /-- The rollover was found or created, and its recomputation raised. -/
  | created {u f t c r d'} (created : Created d f t r d') :
      Writes d (.generateRolloverPlan u f t c) d'
  /-- The rollover was found or created, and recomputed. -/
  | generated {u f t c r d₁ d'} (created : Created d f t r d₁)
      (recomputed : Recomputed d₁ r.id f d') :
      Writes d (.generateRolloverPlan u f t c) d'
  /-- The rollover was recomputed. It became previewed unless a line is held. -/
  | previewed {u rid r d₁ d'} (found : d.val.rollover? rid = some r) (state : r.state ≠ .committed)
      (recomputed : Recomputed d rid r.fromYearId d₁)
      (written : d' = d₁ ∨ d'.val = d₁.val.setRollovers (fun r => r.id = rid)
        fun r => { r with state := .previewed }) :
      Writes d (.previewRollover u rid) d'
  /-- One line was overridden. -/
  | overridden {u lid a lv sec l l' d'} (allowed : Authz.require u rolloverRoles)
      (found : d.val.line? lid = some l) (overridden : d.val.overridden l a lv sec = some l')
      (written : d'.val = d.val.setLines (fun x => x.id = lid) fun _ => l') :
      Writes d (.overrideRolloverLine u lid a lv sec) d'
  /-- The rollover was committed. -/
  | performed {u rid c r resolved d'} (found : d.val.rollover? rid = some r)
      (state : r.state = .previewed) (performed : Performed d r resolved d') :
      Writes d (.commitRollover u rid c) d'

theorem writes_refl (d : Db) (op : Op) : Writes d op d := .idle rfl rfl

theorem Writes.of_places {d d' : Db} {op : Op} {P : Nat → Option Nat → Prop} {new : Prop}
    (h : Places P new d d') : Writes d op d' := .idle h.rollovers h.lines

theorem writes_generate (u : List String) (f t : Nat) (c : Option Nat) (d : Db) :
    Writes d (.generateRolloverPlan u f t c) (after (generateRolloverPlan u f t c) d) := by
  rcases generate_cases u f t c d with h | ⟨r, d₁, hcreated, h⟩
  · rw [h]
    exact writes_refl _ _
  · rw [h]
    rcases ok_or_error (recomputeRolloverLines r.id f) d₁ with ⟨⟨⟩, hok⟩ | ⟨e, herr⟩
    · exact .generated hcreated (recompute_lines hok)
    · rw [recompute_error herr]
      exact .created hcreated

theorem writes_preview (u : List String) (rid : Nat) (d : Db) :
    Writes d (.previewRollover u rid) (after (previewRollover u rid) d) := by
  rcases preview_cases u rid d with h | ⟨r, hr, rfl, hstate, h⟩
  · rw [h]
    exact writes_refl _ _
  have hfound : d.val.rollover? r.id = some r := d.ok.keys.rollovers.find?_eq_some.2 ⟨hr, rfl⟩
  rcases h with h | ⟨d₁, hok, h⟩
  · rw [h]
    rcases ok_or_error (recomputeRolloverLines r.id r.fromYearId) d with ⟨⟨⟩, hok⟩ | ⟨e, herr⟩
    · exact .previewed hfound hstate (recompute_lines hok) (.inl rfl)
    · rw [recompute_error herr]
      exact writes_refl _ _
  · exact .previewed hfound hstate (recompute_lines hok) (.inr h)

theorem writes_override (u : List String) (lid : Nat) (a : Option String) (lv : Option Nat)
    (sec : Option String) (d : Db) :
    Writes d (.overrideRolloverLine u lid a lv sec)
      (after (overrideRolloverLine u lid a lv sec) d) := by
  rcases override_ok u lid a lv sec d with h | ⟨hallowed, l, l', hl, hl', h⟩
  · rw [h]
    exact writes_refl _ _
  · exact .overridden hallowed hl hl' h

theorem writes_commit [Unicode] (u : List String) (rid : Nat) (c : Option Nat) (d : Db) :
    Writes d (.commitRollover u rid c) (after (commitRollover u rid c) d) := by
  rcases ok_or_error (commitRollover u rid c) d with ⟨o, hok⟩ | ⟨e, herr⟩
  · obtain ⟨-, r, hr, rfl, ⟨-, -, hsame⟩ | ⟨hstate, -, resolved, hp⟩⟩ := commit_ok hok
    · rw [hsame]
      exact writes_refl _ _
    · exact .performed (d.ok.keys.rollovers.find?_eq_some.2 ⟨hr, rfl⟩) hstate hp
  · rw [commit_error herr]
    exact writes_refl _ _

/-- **What a step writes to the rollovers and their lines.** -/
theorem step_writes [Unicode] (d : Db) (op : Op) : Writes d op (step d op) := by
  cases op with
  | createAcademicYear u n s e =>
    rw [step, Op.program, after_discard]
    rcases createAcademicYear_cases u n s e d with h | ⟨row, seq, -, h⟩
    · rw [h]
      exact writes_refl _ _
    · exact .idle (by rw [h]) (by rw [h])
  | generateRolloverPlan u f t c =>
    rw [step, Op.program, after_discard]
    exact writes_generate u f t c d
  | overrideRolloverLine u lid a lv sec =>
    rw [step, Op.program, after_discard]
    exact writes_override u lid a lv sec d
  | previewRollover u rid =>
    rw [step, Op.program, after_discard]
    exact writes_preview u rid d
  | commitRollover u rid c =>
    rw [step, Op.program, after_discard]
    exact writes_commit u rid c d
  | createStudent u e n cl g b c =>
    rw [step, Op.program, after_discard]
    exact .of_places (places_serviceCreateStudent d u e n cl g b c)
  | placeStudent i n cl g b c =>
    exact .of_places (moves_map (TenantRepository.places_createStudent i n cl g b c) d)
  | reassignStudentClass u i cl c =>
    exact .of_places (places_gated (TenantRepository.places_reassignStudentClass i cl c) d)
  | bulkReassignStudents u ids cl c =>
    exact .of_places (places_gated (TenantRepository.places_bulkReassignStudents ids cl c) d)
  | _ => exact .edited rfl (relinked_step d rfl)

end Sams.School
