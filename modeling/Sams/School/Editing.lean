import Sams.School.System

/-!
# Editing levels and classes

Nine operations write levels and classes, and they do it with four kinds of writes: statements
that touch neither students nor classes, updates of classes that keep their ids and years,
insertions of a class, and the removal of classes together with the placements in them. A class
that is updated or inserted has the section label of its name.

A preorder that allows those (`Editable R`) is one that every such operation moves along, whether
it returns or raises (**`Editable.step`**). The operations are followed once, here.
-/

namespace Sams.School

open Programs Rows TenantRepository

/-- Only levels, settings, blackout dates, the audit log and the next keys are written. -/
def Peripheral (f : Tables → Tables) : Prop :=
  ∀ t, ∃ levels settings blackouts auditLog seq,
    f t = { t with levels, settings, blackouts, auditLog, seq }

/-- The section label of a class is the one its name shows. -/
def ClassRow.Labelled [Unicode] (c : ClassRow) : Prop := c.sectionLabel = deriveSectionLabel c.name

/-- What a relation allows when levels and classes can be edited along it. -/
structure Editable [Unicode] (R : Db → Db → Prop) : Prop where
  peripheral : ∀ {f}, Peripheral f → Moves R (stmt f)
  setClasses : ∀ (p : ClassRow → Bool) {f : ClassRow → ClassRow},
    (∀ c, (f c).id = c.id ∧ (f c).academicYearId = c.academicYearId ∧ (f c).Labelled) →
      Moves R (stmt fun t => t.setClasses p f)
  insertClass : ∀ c : ClassRow, c.Labelled → Moves R (stmt fun t => t.insertClass c)
  removeClasses : ∀ ids changedBy, Yields R (removeClasses ids changedBy)

/-- The operations that edit levels and classes. -/
def Op.isEditing : Op → Bool
  | .createLevel .. | .updateLevel .. | .deleteLevel .. | .createClass .. => true
  | .createClassIn .. | .updateClass .. | .deleteClass .. => true
  | .saveAcademicStructure .. | .commitStructureImport .. => true
  | _ => false

section Gate

variable {R : Db → Db → Prop} [IsPreorder Db R]

theorem moves_gate (u a : List String) (msg : String) : Moves R (TenantService.gate u a msg) := by
  unfold TenantService.gate
  exact moves_raiseIf _ _

theorem moves_gated {α : Type} {u a : List String} {msg : String} {m : Prog α} (h : Moves R m) :
    Moves R (TenantService.gate u a msg >>= fun _ => m) :=
  moves_bind (moves_gate _ _ _) fun _ => h

end Gate

namespace Editable

variable [Unicode] {R : Db → Db → Prop} [IsPreorder Db R]

/-! ## Levels -/

theorem createLevel (h : Editable R) (n : String) (f : LevelFields) (a : Bool) :
    Moves R (createLevel n f a) :=
  moves_bind (moves_query _) fun _ =>
    moves_bind (h.peripheral fun _ => ⟨_, _, _, _, _, rfl⟩) fun _ => moves_pure _

omit [IsPreorder Db R] in
theorem setLevels (h : Editable R) (p : LevelRow → Bool) (f : LevelRow → LevelRow) :
    Moves R (stmt fun t => t.setLevels p f) :=
  h.peripheral fun _ => ⟨_, _, _, _, _, rfl⟩

theorem updateLevel (h : Editable R) (l : Nat) (n : Option String) (f : LevelFields)
    (a : Option Bool) : Moves R (updateLevel l n f a) := by
  unfold TenantRepository.updateLevel
  refine moves_bind (moves_query _) fun r => ?_
  cases r with
  | none => exact moves_throw _
  | some current => exact moves_bind (h.setLevels _ _) fun _ => moves_query _

theorem upsertLevelByName (h : Editable R) (n : String) (f : LevelFields) (a : Bool) :
    Moves R (upsertLevelByName n f a) := by
  unfold TenantRepository.upsertLevelByName
  refine moves_bind (moves_getLevelByName _) fun r => ?_
  cases r with
  | none => exact moves_bind (h.createLevel _ _ _) fun _ => moves_pure _
  | some existing => exact moves_bind (h.updateLevel _ _ _ _) fun _ => moves_pure _

/-- The deletion of the level itself is not one of the four kinds of writes. -/
theorem deleteLevel (h : Editable R) {l : Nat}
    (hlevel : Moves R (stmt fun t => t.deleteLevels l)) (c : Option Nat) {hook : Prog Unit}
    (hhook : Moves R hook) : Moves R (deleteLevel l c hook) := by
  unfold TenantRepository.deleteLevel
  refine moves_bind (Yields.transaction ?_) fun _ => moves_pure _
  refine yields_bind (moves_query _).yields fun _ => ?_
  refine yields_bind (moves_raiseIf _ _).yields fun _ => ?_
  refine yields_bind (moves_query _).yields fun ids => ?_
  refine yields_bind (yields_onlyIf (h.removeClasses _ _)) fun _ => ?_
  exact yields_bind hlevel.yields fun _ => hhook.yields

/-! ## Classes -/

theorem createClass (h : Editable R) (n : String) (l : Nat) (hd : Option Nat) (cap : Option Int)
    (a : Bool) (y : Option Nat) : Moves R (createClass n l hd cap a y) := by
  unfold TenantRepository.createClass
  refine moves_bind (moves_query _) fun active => ?_
  cases (Text.nonZero y).or active with
  | none => exact moves_throw _
  | some ayId =>
    refine moves_bind (moves_query _) fun id => moves_raiseIf_bind fun _ => ?_
    exact moves_bind (h.insertClass _ rfl) fun _ => moves_pure _

theorem updateClass (h : Editable R) (i : Nat) (n : Option String) (l : Option Nat)
    (hd : HeadTeacher) (cap : Option Int) (a : Option Bool) :
    Moves R (updateClass i n l hd cap a) := by
  unfold TenantRepository.updateClass
  refine moves_bind (moves_query _) fun r => ?_
  cases r with
  | none => exact moves_throw _
  | some current =>
    refine moves_raiseIf_bind fun _ => ?_
    exact moves_bind (h.setClasses _ fun _ => ⟨rfl, rfl, rfl⟩) fun _ => moves_query _

theorem upsertClassByNameAndLevel (h : Editable R) (n : String) (l : Nat) (hd : HeadTeacher)
    (cap : Option Int) (a : Bool) (y : Option Nat) :
    Moves R (upsertClassByNameAndLevel n l hd cap a y) := by
  unfold TenantRepository.upsertClassByNameAndLevel
  refine moves_bind (moves_query _) fun active => ?_
  cases (Text.nonZero y).or active with
  | none => exact moves_throw _
  | some ayId =>
    refine moves_bind (moves_getClassByNameAndLevel _ _ _) fun r => ?_
    cases r with
    | none => exact moves_bind (h.createClass _ _ _ _ _ _) fun _ => moves_pure _
    | some existing => exact moves_bind (h.updateClass _ _ _ _ _ _) fun _ => moves_pure _

theorem deleteClass (h : Editable R) (i : Nat) (c : Option Nat) {hook : Prog Unit}
    (hhook : Moves R hook) : Moves R (deleteClass i c hook) := by
  unfold TenantRepository.deleteClass
  refine moves_bind (Yields.transaction ?_) fun _ => moves_pure _
  refine yields_bind (moves_query _).yields fun _ => ?_
  refine yields_bind (moves_raiseIf _ _).yields fun _ => ?_
  exact yields_bind (h.removeClasses _ _) fun _ => hhook.yields

omit [IsPreorder Db R] in
theorem record (h : Editable R) (actor : Option AuditService.Actor) (action entityType : String)
    (entityId : Option Nat) (outcome : AuditOutcome) :
    Moves R (AuditService.record actor action entityType entityId outcome) := by
  unfold AuditService.record
  exact h.peripheral fun _ => ⟨_, _, _, _, _, rfl⟩

/-! ## The structure editor -/

theorem saveSettings (h : Editable R) (p : StructureIn) : Moves R (saveSettings p) := by
  unfold TenantRepository.saveSettings
  refine moves_bind (moves_query _) fun r => ?_
  cases r with
  | none => exact h.peripheral fun _ => ⟨_, _, _, _, _, rfl⟩
  | some row => exact h.peripheral fun _ => ⟨_, _, _, _, _, rfl⟩

theorem saveBlackout (h : Editable R) (existing : List BlackoutRow) (incoming : List Date)
    (bd : BlackoutIn) : Moves R (saveBlackout existing incoming bd) := by
  unfold TenantRepository.saveBlackout
  cases Text.nonEmpty bd.date with
  | none => exact moves_pure _
  | some text =>
    dsimp only
    cases strptimeDate text with
    | none => exact moves_throw _
    | some date =>
      dsimp only
      cases existing.reverse.find? fun b => b.date = date with
      | none =>
        exact moves_bind (h.peripheral fun _ => ⟨_, _, _, _, _, rfl⟩) fun _ => moves_pure _
      | some row =>
        exact moves_bind (h.peripheral fun _ => ⟨_, _, _, _, _, rfl⟩) fun _ => moves_pure _

theorem saveBlackouts (h : Editable R) (p : StructureIn) : Moves R (saveBlackouts p) := by
  unfold TenantRepository.saveBlackouts
  refine moves_bind (moves_query _) fun existing => ?_
  refine moves_bind (moves_foldlM fun _ _ _ => h.saveBlackout _ _ _) fun incoming => ?_
  exact h.peripheral fun _ => ⟨_, _, _, _, _, rfl⟩

theorem saveLevel (h : Editable R) (l : LevelIn) : Moves R (saveLevel l) := by
  unfold TenantRepository.saveLevel
  refine moves_bind (moves_query _) fun r => ?_
  cases Text.nonZero r with
  | none => exact h.createLevel _ _ _
  | some lvlId => exact moves_bind (h.setLevels _ _) fun _ => moves_pure _

theorem saveSection (h : Editable R) (ctx : SaveContext) (lvlId : Nat) (l : LevelIn)
    (incoming : List Nat) (s : SectionIn) : Moves R (saveSection ctx lvlId l incoming s) := by
  unfold TenantRepository.saveSection
  dsimp only
  generalize s.cleanName l.cleanName = secName
  refine moves_bind (moves_query _) fun r => ?_
  cases Text.nonZero r with
  | some cid => exact moves_bind (h.setClasses _ fun _ => ⟨rfl, rfl, rfl⟩) fun _ => moves_pure _
  | none =>
    refine moves_ite (moves_pure _) ?_
    cases ctx.activeYearId with
    | none => exact moves_throw _
    | some yearId =>
      refine moves_bind (moves_query _) fun id => ?_
      exact moves_bind (h.insertClass _ rfl) fun _ => moves_pure _

theorem saveLevelAndSections (h : Editable R) (ctx : SaveContext) (l : LevelIn) :
    Yields R (saveLevelAndSections ctx l) := by
  unfold TenantRepository.saveLevelAndSections
  refine yields_bind (h.saveLevel l).yields fun lvlId => ?_
  refine yields_bind (moves_foldlM fun _ _ _ => h.saveSection _ _ _ _ _).yields fun incoming => ?_
  refine yields_bind (moves_query _).yields fun stale => ?_
  exact yields_onlyIf (h.removeClasses _ _)

theorem saveAcademicStructure (h : Editable R) (p : StructureIn) (c : Option Nat) :
    Moves R (saveAcademicStructure p c) := by
  unfold TenantRepository.saveAcademicStructure
  refine Yields.transaction (yields_bind (moves_query _).yields fun _ => ?_)
  refine yields_bind (h.saveSettings p).yields fun _ => ?_
  refine yields_bind (h.saveBlackouts p).yields fun _ => ?_
  refine yields_bind (moves_query _).yields fun _ => ?_
  exact yields_forM fun l _ => h.saveLevelAndSections _ _

end Editable

namespace TenantRepository

/-! ## The import

Its only writes are the two upserts, so it moves along every preorder that they move along. -/

section Import

variable [Unicode] {R : Db → Db → Prop} [IsPreorder Db R]

theorem moves_parseImportInt (v : Option String) (label : String) :
    Moves R (parseImportInt v label) := by
  unfold parseImportInt
  cases Text.nonEmpty (v.map Text.strip) with
  | none => exact moves_pure _
  | some raw =>
    dsimp only
    split
    · exact moves_pure _
    · exact moves_throw _
    · exact moves_pure _

theorem moves_resolveClass? (row : ImportRow) (name : Option String) (level : Option LevelRow) :
    Moves R (resolveClass? row name level) := by
  unfold resolveClass?
  cases name with
  | none => exact moves_pure _
  | some name =>
    refine moves_map (moves_bind (moves_parseImportInt _ _) fun _ => ?_)
    refine moves_bind ?_ fun _ => moves_bind ?_ fun _ => moves_pure _
    · refine moves_ite (moves_pure _) (moves_bind (moves_getTeacherByEmail _) fun teacher => ?_)
      cases teacher with
      | none => exact moves_pure _
      | some x => exact moves_pure _
    · cases level with
      | none => exact moves_pure _
      | some l => exact moves_getClassByNameAndLevel _ _ _

variable (hlevel : ∀ n f a, Moves R (upsertLevelByName n f a))
  (hclass : ∀ n l h cap a, Moves R (upsertClassByNameAndLevel n l h cap a none))

include hlevel hclass

theorem moves_applyRow (n : String) (f : LevelFields) (a : Bool) (plan : Option ClassPlan) :
    Moves R (applyRow n f a plan) := by
  unfold applyRow
  refine moves_bind (hlevel _ _ _) fun _ => ?_
  cases plan with
  | none => exact moves_pure _
  | some c => exact moves_bind (hclass _ _ _ _ _) fun _ => moves_pure _

theorem moves_resolveImportRow (ordinals : List (String × Int)) (apply : Bool) (i : Nat)
    (row : ImportRow) : Moves R (resolveImportRow ordinals apply i row) := by
  unfold resolveImportRow
  refine moves_ite (moves_pure _) ?_
  refine moves_bind (moves_parseImportInt _ _) fun _ => ?_
  refine moves_bind (moves_parseImportInt _ _) fun _ => ?_
  refine moves_bind (moves_parseImportInt _ _) fun _ => ?_
  refine moves_bind (moves_parseImportInt _ _) fun _ => ?_
  refine moves_bind (moves_getLevelByName _) fun _ =>
    moves_bind (moves_resolveClass? _ _ _) fun plan => ?_
  refine moves_ite (moves_pure _) (moves_ite (moves_pure _) ?_)
  refine moves_bind (moves_rescue ?_ ?_) ?_
  · exact moves_bind (moves_applyRow hlevel hclass _ _ _ _) fun _ => moves_pure _
  · intro e
    cases e with
    | valueError msg => exact moves_pure _
    | _ => exact moves_throw _
  · intro r
    cases r with
    | none => exact moves_pure _
    | some msg => exact moves_pure _

theorem moves_importAcademicRows (rows : List ImportRow) : Moves R (importAcademicRows rows) :=
  moves_bind (moves_query _) fun _ =>
    moves_mapM fun _ _ => moves_resolveImportRow hlevel hclass _ _ _ _

end Import

end TenantRepository

/-! ## Each operation -/

section Operations

variable [Unicode] {R : Db → Db → Prop} [IsPreorder Db R]

omit [Unicode] in
theorem moves_checkNewLevel (l : Option Nat) : Moves R (TenantService.checkNewLevel l) := by
  unfold TenantService.checkNewLevel
  cases l with
  | none => exact moves_pure _
  | some lid =>
    refine moves_bind (moves_query _) fun level => ?_
    cases level with
    | none => exact moves_throw _
    | some level => exact moves_raiseIf _ _

/-- **Every editing operation moves along an editable relation.** -/
theorem Editable.step (h : Editable R) {op : Op} (hop : op.isEditing = true)
    (hlevel : ∀ u l c, op = .deleteLevel u l c → Moves R (stmt fun t => t.deleteLevels l))
    (d : Db) : R d (step d op) := by
  cases op with
  | createLevel u n f a =>
    exact moves_map (moves_gated (moves_bind (h.upsertLevelByName n f a) fun _ => moves_pure _)) d
  | updateLevel u l n f a => exact moves_map (moves_gated (h.updateLevel l n f a)) d
  | deleteLevel u l c =>
    exact moves_map (moves_gated (h.deleteLevel (hlevel u l c rfl) c (h.record _ _ _ _ _))) d
  | createClass u n l hd cap a =>
    refine moves_map (moves_gated (moves_bind (moves_query _) fun level => ?_)) d
    cases level with
    | none => exact moves_throw _
    | some level =>
      refine moves_bind (moves_raiseIf _ _) fun _ => moves_bind ?_ fun _ => moves_pure _
      exact h.upsertClassByNameAndLevel _ _ _ _ _ _
  | createClassIn n l hd cap a y => exact moves_map (h.createClass n l hd cap a y) d
  | updateClass u i n l hd cap a =>
    refine moves_map (moves_gated (moves_bind (moves_checkNewLevel l) fun _ => ?_)) d
    exact h.updateClass i n l hd cap a
  | deleteClass u i c => exact moves_map (moves_gated (h.deleteClass i c (h.record _ _ _ _ _))) d
  | saveAcademicStructure u p c =>
    refine moves_gated (moves_bind (moves_query _) fun _ => ?_) d
    refine moves_bind (moves_query _) fun _ => moves_bind (moves_raiseIf _ _) fun _ => ?_
    exact h.saveAcademicStructure p c
  | commitStructureImport u rows =>
    refine moves_map (moves_gated ?_) d
    exact moves_importAcademicRows h.upsertLevelByName
      (fun _ _ _ _ _ => h.upsertClassByNameAndLevel _ _ _ _ _ _) rows
  | _ => cases hop

end Operations

end Sams.School
