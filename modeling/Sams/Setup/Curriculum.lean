import Sams.School.Editing
import Sams.Setup.Onboarding

/-!
# The curriculum lock

Activation locks the curriculum system. The editor compares the system of its payload with the
current one only where the payload has one, and then writes the default where it has none: a payload
without a system sets a locked curriculum to the default. Whatever else is called, in any order, a
lock stays and the system with it (**`locked_run`**).
-/

namespace Sams.School

open Programs Rows TenantRepository

/-! ## What writes the settings -/

/-- The rows of the settings. -/
abbrev settingsOf (d : Db) : List SettingsRow := d.val.settings

section Settings

variable [Unicode]

omit [Unicode] in
theorem settings_removeClasses (ids : List Nat) (changedBy : Option Nat) :
    Moves (Same settingsOf) (removeClasses ids changedBy) := by
  unfold removeClasses blockIfClassesHaveEnrollmentHistory
  refine moves_bind (moves_bind (moves_query _) fun _ => moves_raiseIf _ _) fun _ => ?_
  refine moves_bind (moves_query _) fun affected => ?_
  refine moves_bind (moves_exec fun _ _ => rfl) fun _ => ?_
  refine moves_bind (moves_forM fun s _ => ?_) fun _ => ?_
  · unfold recordClassChange
    exact moves_exec fun _ _ => rfl
  · exact moves_bind (moves_exec fun _ _ => rfl) fun _ => moves_exec fun _ _ => rfl

omit [Unicode] in
theorem settings_createLevel (n : String) (f : LevelFields) (a : Bool) :
    Moves (Same settingsOf) (createLevel n f a) :=
  moves_bind (moves_query _) fun _ => moves_bind (moves_exec fun _ _ => rfl) fun _ => moves_pure _

theorem settings_upsertLevelByName (n : String) (f : LevelFields) (a : Bool) :
    Moves (Same settingsOf) (upsertLevelByName n f a) := by
  unfold upsertLevelByName updateLevel
  refine moves_bind (moves_getLevelByName _) fun existing => ?_
  cases existing with
  | none => exact moves_bind (settings_createLevel _ _ _) fun _ => moves_pure _
  | some level =>
    refine moves_bind (moves_bind (moves_query _) fun current => ?_) fun _ => moves_pure _
    cases current with
    | none => exact moves_throw _
    | some current => exact moves_bind (moves_exec fun _ _ => rfl) fun _ => moves_query _

theorem settings_updateClass (i : Nat) (n : Option String) (l : Option Nat) (hd : HeadTeacher)
    (cap : Option Int) (a : Option Bool) :
    Moves (Same settingsOf) (updateClass i n l hd cap a) := by
  unfold updateClass
  refine moves_bind (moves_query _) fun current => ?_
  cases current with
  | none => exact moves_throw _
  | some current =>
    refine moves_bind (moves_raiseIf _ _) fun _ => ?_
    exact moves_bind (moves_exec fun _ _ => rfl) fun _ => moves_query _

theorem settings_createClass (n : String) (l : Nat) (hd : Option Nat) (cap : Option Int) (a : Bool)
    (y : Option Nat) : Moves (Same settingsOf) (createClass n l hd cap a y) := by
  unfold createClass
  refine moves_bind (moves_query _) fun active => ?_
  cases (Text.nonZero y).or active with
  | none => exact moves_throw _
  | some year =>
    refine moves_bind (moves_query _) fun id => moves_bind (moves_raiseIf _ _) fun _ => ?_
    exact moves_bind (moves_exec fun _ _ => rfl) fun _ => moves_pure _

theorem settings_upsertClassByNameAndLevel (n : String) (l : Nat) (hd : HeadTeacher)
    (cap : Option Int) (a : Bool) (y : Option Nat) :
    Moves (Same settingsOf) (upsertClassByNameAndLevel n l hd cap a y) := by
  unfold upsertClassByNameAndLevel
  refine moves_bind (moves_query _) fun active => ?_
  cases (Text.nonZero y).or active with
  | none => exact moves_throw _
  | some year =>
    refine moves_bind (moves_getClassByNameAndLevel _ _ _) fun existing => ?_
    cases existing with
    | none => exact moves_bind (settings_createClass _ _ _ _ _ _) fun _ => moves_pure _
    | some c => exact moves_bind (settings_updateClass _ _ _ _ _ _) fun _ => moves_pure _

/-- The import writes no settings. -/
theorem settings_commitStructureImport (u : List String) (rows : List ImportRow) :
    Moves (Same settingsOf) (TenantService.commitStructureImport u rows) := by
  unfold TenantService.commitStructureImport
  refine moves_gated ?_
  exact moves_importAcademicRows settings_upsertLevelByName
    (fun _ _ _ _ _ => settings_upsertClassByNameAndLevel _ _ _ _ _ _) rows

theorem settings_saveBlackouts (p : StructureIn) : Moves (Same settingsOf) (saveBlackouts p) := by
  unfold saveBlackouts
  refine moves_bind (moves_query _) fun existing => ?_
  refine moves_bind (moves_foldlM fun _ bd _ => ?_) fun _ => moves_exec fun _ _ => rfl
  unfold saveBlackout
  cases Text.nonEmpty bd.date with
  | none => exact moves_pure _
  | some text =>
    dsimp only
    cases strptimeDate text with
    | none => exact moves_throw _
    | some date =>
      dsimp only
      cases existing.reverse.find? fun b => b.date = date with
      | none => exact moves_bind (moves_exec fun _ _ => rfl) fun _ => moves_pure _
      | some row => exact moves_bind (moves_exec fun _ _ => rfl) fun _ => moves_pure _

theorem settings_saveSection (ctx : SaveContext) (lvlId : Nat) (l : LevelIn) (incoming : List Nat)
    (s : SectionIn) : Moves (Same settingsOf) (saveSection ctx lvlId l incoming s) := by
  unfold saveSection
  dsimp only
  refine moves_bind (moves_query _) fun found => ?_
  cases Text.nonZero found with
  | some cid => exact moves_bind (moves_exec fun _ _ => rfl) fun _ => moves_pure _
  | none =>
    refine moves_ite (moves_pure _) ?_
    cases ctx.activeYearId with
    | none => exact moves_throw _
    | some year =>
      refine moves_bind (moves_query _) fun id => ?_
      exact moves_bind (moves_exec fun _ _ => rfl) fun _ => moves_pure _

theorem settings_saveLevelAndSections (ctx : SaveContext) (l : LevelIn) :
    Moves (Same settingsOf) (saveLevelAndSections ctx l) := by
  unfold saveLevelAndSections saveLevel
  refine moves_bind (moves_bind (moves_query _) fun found => ?_) fun lvlId => ?_
  · cases Text.nonZero found with
    | none => exact settings_createLevel _ _ _
    | some id => exact moves_bind (moves_exec fun _ _ => rfl) fun _ => moves_pure _
  · refine moves_bind (moves_foldlM fun _ s _ => settings_saveSection _ _ _ _ _) fun incoming => ?_
    refine moves_bind (moves_query _) fun stale => ?_
    exact moves_onlyIf fun _ => settings_removeClasses _ _

end Settings

/-! ## The system that is reported -/

/-- The row of settings that is current, of two. -/
def laterSettings (best : Option SettingsRow) (s : SettingsRow) : Option SettingsRow :=
  if best.any fun b => s.id ≤ b.id then best else some s

/-- Rewriting rows under their ids does not change which is current. -/
theorem foldl_laterSettings_map {g : SettingsRow → SettingsRow} (hg : ∀ s, (g s).id = s.id)
    (best : Option SettingsRow) (l : List SettingsRow) :
    (l.map g).foldl laterSettings (best.map g) = (l.foldl laterSettings best).map g := by
  induction l generalizing best with
  | nil => rfl
  | cons s l ih =>
    have hstep : laterSettings (best.map g) (g s) = (laterSettings best s).map g := by
      unfold laterSettings
      have hany : (best.map g).any (fun b => decide ((g s).id ≤ b.id)) =
          best.any fun b => decide (s.id ≤ b.id) := by
        cases best with
        | none => rfl
        | some b => simp [hg]
      rw [hany]
      split_ifs <;> rfl
    rw [List.map_cons, List.foldl_cons, List.foldl_cons, hstep]
    exact ih (laterSettings best s)

/-- An update of the current row is what readers find next. -/
theorem currentSettings_of_update {t t' : Tables} {row : SettingsRow}
    {f : SettingsRow → SettingsRow} (hf : ∀ s, (f s).id = s.id) (h : currentSettings t = some row)
    (ht : t'.settings = updateWhere (fun s => s.id = row.id) f t.settings) :
    currentSettings t' = some (f row) := by
  have hfound := foldl_laterSettings_map (g := fun s => if s.id = row.id then f s else s)
    (fun s => by split_ifs <;> simp [hf]) none t.settings
  have hcurrent : t.settings.foldl laterSettings none = some row := h
  rw [hcurrent] at hfound
  show t'.settings.foldl laterSettings none = some (f row)
  rw [ht]
  unfold updateWhere
  simpa using hfound

/-- The first row is the current one. -/
theorem currentSettings_of_insert {t t' : Tables} {row : SettingsRow} (h : currentSettings t = none)
    (ht : t'.settings = t.settings ++ [row]) : currentSettings t' = some row := by
  have hcurrent : t.settings.foldl laterSettings none = none := h
  show t'.settings.foldl laterSettings none = some row
  rw [ht, List.foldl_append, hcurrent]
  rfl

/-- Saving the calendar makes the system of the payload the current one, or the default. -/
theorem currentSystem_of_saveSettings {p : StructureIn} {d d' : Db} {u : Unit}
    (h : saveSettings p d = .ok u d') :
    TenantService.currentSystem d'.val = (Text.nonEmpty p.system).getD "US" := by
  have hreads : ∀ row : SettingsRow, currentSettings d'.val = some row →
      row.system = (Text.nonEmpty p.system).getD "US" →
      TenantService.currentSystem d'.val = (Text.nonEmpty p.system).getD "US" := by
    intro row hrow hsystem
    unfold TenantService.currentSystem
    rw [hrow, Option.map_some, hsystem]
    cases hp : Text.nonEmpty p.system with
    | none => rfl
    | some system =>
      have hne : system ≠ "" := by simpa using (Option.filter_eq_some_iff.1 hp).2
      rw [Option.getD_some, Text.nonEmpty_some hne]
      rfl
  unfold saveSettings at h
  rw [query_bind] at h
  cases hcurrent : currentSettings d.val with
  | some row =>
    rw [hcurrent] at h
    have hsettings := congrArg Tables.settings (exec_eq_ok.1 h)
    refine hreads _ (currentSettings_of_update ?_ hcurrent hsettings) rfl
    exact fun _ => rfl
  | none =>
    rw [hcurrent] at h
    have hsettings := congrArg Tables.settings (exec_eq_ok.1 h)
    exact hreads _ (currentSettings_of_insert hcurrent hsettings) rfl

/-- What the reported system is read from. -/
theorem currentSystem_congr {d d' : Db} (h : settingsOf d' = settingsOf d) :
    TenantService.currentSystem d'.val = TenantService.currentSystem d.val := by
  have hcurrent : currentSettings d'.val = currentSettings d.val :=
    congrArg (fun l : List SettingsRow => l.foldl laterSettings none) h
  unfold TenantService.currentSystem
  rw [hcurrent]

section Saving

variable [Unicode]

/-- Who may save the structure. -/
abbrev structureRoles : List String :=
  TenantService.adminRoles ++ ["level:manage", "level:create", "school:write"]

/-- **The editor** leaves the settings alone, or the system of its payload is current afterwards and
was allowed. -/
theorem currentSystem_of_save (u : List String) (p : StructureIn) (by_ : Option Nat) (d : Db) :
    settingsOf (after (TenantService.saveAcademicStructure u p by_) d) = settingsOf d ∨
      TenantService.currentSystem (after (TenantService.saveAcademicStructure u p by_) d).val =
        (Text.nonEmpty p.system).getD "US" ∧
      Authz.require u structureRoles = true ∧ (d.val.curriculumLocked = true →
        ∀ system ∈ Text.nonEmpty p.system, system = TenantService.currentSystem d.val) := by
  unfold TenantService.saveAcademicStructure TenantService.gate
  rw [after_raiseIf_bind]
  by_cases hgate : Authz.require u structureRoles = true
  swap
  · rw [if_pos hgate]
    exact .inl rfl
  rw [if_neg (not_not.2 hgate), after_query_bind, after_query_bind, after_raiseIf_bind]
  by_cases hlock : d.val.curriculumLocked = true ∧
      (Text.nonEmpty p.system).any (· ≠ TenantService.currentSystem d.val) = true
  · rw [if_pos hlock]
    exact .inl rfl
  rw [if_neg hlock]
  unfold TenantRepository.saveAcademicStructure
  refine after_transaction_ind (.inl rfl) fun v d' h =>
    .inr ⟨?_, hgate, fun hlocked system hsystem => ?_⟩
  · rw [query_bind] at h
    obtain ⟨⟨⟩, d₁, hsettings, h⟩ := bind_eq_ok.1 h
    obtain ⟨⟨⟩, d₂, hblackouts, h⟩ := bind_eq_ok.1 h
    rw [query_bind] at h
    have hlevels : settingsOf d' = settingsOf d₂ :=
      (moves_forM fun l _ => settings_saveLevelAndSections _ l).same_ok h
    have hkept : settingsOf d' = settingsOf d₁ :=
      hlevels.trans ((settings_saveBlackouts p).same_ok hblackouts)
    rw [currentSystem_congr hkept]
    exact currentSystem_of_saveSettings hsettings
  · by_contra hne
    refine hlock ⟨hlocked, ?_⟩
    rw [Option.mem_def] at hsystem
    rw [hsystem]
    exact decide_eq_true hne

end Saving

end Sams.School

namespace Sams.Setup

open School Programs Runs

/-! ## Runs -/

/-- The curriculum is locked. -/
def Locked (s : State) : Prop := s.val.current.curriculumLockedAt.isSome = true

instance (s : State) : Decidable (Locked s) := inferInstanceAs (Decidable (_ = true))

/-- The system that `get_academic_structure` reports. -/
def systemOf (s : State) : String := TenantService.currentSystem s.val.school

/-- Nobody who may save the structure saves one without a system, while a system other than
the default is locked. -/
def Call.NamesSystem (s : State) : Call → Prop
  | .saveAcademicStructure u p _ => Authz.require u structureRoles = true → Locked s →
    Text.nonEmpty p.system = none → systemOf s = "US"
  | _ => True

section Unicode

variable [Unicode]

/-- A call keeps the lock, and the system with it. -/
theorem locked_step {s : State} {c : Call} (hnames : c.NamesSystem s) (hlocked : Locked s) :
    Locked (c.step s) ∧ systemOf (c.step s) = systemOf s := by
  have hprofile : ∀ {p : ProfileRow} {s' : State}, Profiled p s s' →
      p.curriculumLockedAt.isSome = true → Locked s' ∧ systemOf s' = systemOf s := by
    intro p s' h hp
    refine ⟨?_, ?_⟩
    · unfold Locked
      rw [h.current]
      exact hp
    · unfold systemOf
      rw [h.school]
  have hsame : ∀ {s' : State}, s'.val.profile = s.val.profile → s'.val.school = s.val.school →
      Locked s' ∧ systemOf s' = systemOf s := by
    intro s' hp hschool
    unfold Locked systemOf Tables.current
    rw [hp, hschool]
    exact ⟨hlocked, rfl⟩
  have hput : ∀ d : Db, Locked (putSchool d s) ∧
      systemOf (putSchool d s) = TenantService.currentSystem d.val := fun d => ⟨hlocked, rfl⟩
  cases step_effect s c with
  | idle h => exact hprofile h hlocked
  | updated _ _ _ h => exact hprofile h hlocked
  | committed _ _ _ h => exact hprofile h hlocked
  | activated _ _ _ h => exact hprofile h rfl
  | grandfathered _ _ h => exact hprofile h rfl
  | campus _ h => exact hsame (by rw [h]) (by rw [h])
  | contactCreated h => exact hsame (by rw [h]) (by rw [h])
  | contactUpdated _ h => exact hsame (by rw [h]) (by rw [h])
  | contactDeleted _ h => exact hsame (by rw [h]) (by rw [h])
  | @structured u p by_ _ h =>
    rw [h]
    refine ⟨(hput _).1, (hput _).2.trans ?_⟩
    rcases currentSystem_of_save u p by_ (schoolOf s) with
      hkept | ⟨hsystem, hgate, hallowed⟩
    · exact currentSystem_congr hkept
    · rw [hsystem]
      cases hp : Text.nonEmpty p.system with
      | none => exact (hnames hgate hlocked hp).symm
      | some system => exact hallowed hlocked system hp
  | @imported u rows _ h =>
    rw [h]
    exact ⟨(hput _).1,
      (hput _).2.trans (currentSystem_congr (settings_commitStructureImport u rows _))⟩

/-- **A lock stays, and the system with it**: throughout every run from a locked curriculum in which
no payload without a system meets a system other than the default. -/
theorem locked_run {s : State} {calls : List Call} (hlocked : Locked s)
    (hnames : EachStep Call.step (fun s c => c.NamesSystem s) s calls) :
    Throughout Call.step (fun s' => Locked s' ∧ systemOf s' = systemOf s) s calls := by
  refine run_throughout (fun s' c hI hc => ?_) ⟨hlocked, rfl⟩ hnames
  obtain ⟨hlock, hsystem⟩ := locked_step hc hI.1
  exact ⟨hlock, hsystem.trans hI.2⟩

end Unicode

section Example

attribute [local instance] ascii

/-- A structure of one grade with one section. -/
def oneGrade (system : Option String) : StructureIn where
  system := system
  calendar := none
  blackoutDates := []
  levels := [⟨none, some "G1", ⟨none, none, none, some 1⟩, true, [⟨none, some "G1 - A", some 25⟩]⟩]

/-- The fresh tenant with a structure, which a look has activated. -/
def lockedTenant : State :=
  run Call.step freshTenant [.saveAcademicStructure ["school_admin"] (oneGrade (some "IB")) none,
    .getSetupState 1]

/-- Its system is kept by a payload that names it. -/
theorem lockedTenant_keeps : Throughout Call.step
    (fun s' => Locked s' ∧ systemOf s' = systemOf lockedTenant) lockedTenant
    [.saveAcademicStructure ["school_admin"] (oneGrade (some "IB")) none] := by
  refine locked_run (by decide +kernel) ⟨fun _ _ h => ?_, trivial⟩
  exact absurd h (by decide)

/-- A payload with an empty system sets it to the default. -/
theorem lockedTenant_loses : Locked lockedTenant ∧
    systemOf
      (Call.step lockedTenant (.saveAcademicStructure ["school_admin"] (oneGrade (some "")) none)) ≠
      systemOf lockedTenant := by
  decide +kernel

end Example

end Sams.Setup
