import Sams.School.Preview

/-!
# An import again

A row of an import upserts a level by its name and a class by its level, its name and the active
year, all but the case of the letters. What it sets of a row is an override: a field that the row
gives no value for is left alone. Which of several levels of one name it finds is not said, and may
not be the one that it found before.

* **`imports_again_iff`** — an import deletes nothing and leaves what its rows do not address; to
  run it once more changes no level and no class exactly when, of each level and class, the rows
  that find it the second time write what those that found it first have left.
* **`ToldApart.settled`** — so it is where names tell rows apart.
-/

namespace Sams.School

open Programs Rows Runs Layouts Slots TenantRepository

section Imports

variable [Unicode]

/-! ## What a row names -/

/-- A row names the level of the class, and the class. -/
def Addressed (rows : List ImportRow) (d : Db) (c : ClassRow) : Prop :=
  ∃ row ∈ rows, ∃ l ∈ d.val.levels, l.levelId = c.levelId ∧ sameName l.name row.grade ∧
    ∃ name ∈ row.class?, sameName c.name name

/-- Nothing is deleted, and what no row is for is as it was. -/
structure Additive (rows : List ImportRow) (d d' : Db) : Prop where
  students : d'.val.students = d.val.students
  enrollments : d'.val.enrollments = d.val.enrollments
  history : d'.val.history = d.val.history
  level_kept : ∀ l ∈ d.val.levels, ∃ l' ∈ d'.val.levels, l'.levelId = l.levelId
  class_kept : ∀ c ∈ d.val.classes, ∃ c' ∈ d'.val.classes, c'.id = c.id
  level_unnamed : ∀ l ∈ d.val.levels, (∀ row ∈ rows, ¬sameName l.name row.grade) → l ∈ d'.val.levels
  class_unnamed : ∀ c ∈ d.val.classes, ¬Addressed rows d c → c ∈ d'.val.classes

section Additive

variable {lying : Nat → Lying} {ordinals : List (String × Int)} {rows : List ImportRow} {d d' : Db}
  {level : Nat → Nat ⊕ String}

theorem nameKey_class {row : ImportRow} {name : String} (h : row.class? = some name) :
    nameKey name = Unicode.sqlLower name := by
  unfold nameKey
  rw [ImportRow.strip_class h]

omit [Unicode] in
theorem mem_rows {p : ImportRow × Nat} (hp : p ∈ rows.zipIdx) : p.1 ∈ rows := by
  have hfst := List.mem_map_of_mem (f := Prod.fst) hp
  rwa [List.zipIdx_map_fst] at hfst

/-- A row that is for a level of the start names it. -/
theorem named_of_target {ℓ : Lying} {row : ImportRow} {i : Nat} (h : levelTarget ℓ d row = .inl i) :
    ∃ l ∈ d.val.levels, l.levelId = i ∧ sameName l.name row.grade := by
  unfold levelTarget Shape.target at h
  cases hfound : levelShape.named ℓ.levels d.val.levels (nameKey row.grade) with
  | none =>
    rw [hfound] at h
    cases h
  | some l =>
    rw [hfound] at h
    obtain ⟨⟨hl, hname⟩, -⟩ := (named_eq_some (T := levelShape) d.ok.keys.levels).1 hfound
    refine ⟨l, hl, Sum.inl.inj h, decide_eq_true ?_⟩
    rw [← nameKey_grade]
    exact hname

theorem mem_classEntries {rows : List (ImportRow × Nat)} {u : Entry ClassName ClassRow}
    (h : u ∈ classEntries lying rows d) : ∃ p ∈ rows, p.1.Whole ∧ ∃ name ∈ p.1.class?, ∃ y,
      activeYear d.val = some y ∧ u = classEntry (lying p.2) d p.1 name y := by
  unfold classEntries at h
  obtain ⟨p, hp, hu⟩ := List.mem_flatMap.1 h
  obtain ⟨hp, hwhole⟩ := List.mem_filter.1 hp
  unfold classEntry? at hu
  split at hu
  · rename_i name y hname hyear
    exact ⟨p, hp, of_decide_eq_true hwhole, name, hname, y, hyear, List.mem_singleton.1 hu⟩
  · cases hu

/-- **What an import leaves.** -/
theorem Imported.additive (h : Imported lying ordinals rows.zipIdx level d d') :
    Additive rows d d' where
  students := by rw [h.spared.rest]
  enrollments := by rw [h.spared.rest]
  history := by rw [h.spared.rest]
  level_kept l hl := by
    obtain ⟨l', hl', hcore, -⟩ := h.levels.kept l hl
    exact ⟨l', hl', hcore⟩
  class_kept c hc := by
    obtain ⟨c', hc', hcore, -⟩ := h.classes.kept c hc
    exact ⟨c', hc', congrArg Prod.fst hcore⟩
  level_unnamed l hl hnone := by
    refine h.levels.untouched (grown_refl (T := levelShape) d.ok.keys.levels) hl fun u hu htarget =>
      ?_
    unfold levelEntries at hu
    obtain ⟨p, hp, rfl⟩ := List.mem_map.1 hu
    have hslot : levelShape.slot d.val.levels l = .inl l.levelId := if_pos (List.mem_map_of_mem hl)
    obtain ⟨l', hl', hid, hname⟩ := named_of_target (htarget.symm.trans hslot)
    rw [d.level_unique hl' hl hid] at hname
    exact hnone p.1 (mem_rows (List.mem_of_mem_filter hp)) hname
  class_unnamed c hc hnone := by
    refine h.classes.untouched (grown_refl (T := classShape level) d.ok.keys.classes) hc
      fun u hu htarget =>
      hnone ?_
    obtain ⟨p, hp, -, name, hname, y, -, rfl⟩ := mem_classEntries hu
    have hslot : (classShape level).slot d.val.classes c = .inl c.id :=
      if_pos (List.mem_map_of_mem hc)
    have htarget : classTarget (lying p.2) d p.1 name y = .inl c.id := htarget.symm.trans hslot
    unfold classTarget Shape.target at htarget
    cases hfound : (classShape .inl).named (lying p.2).classes d.val.classes
        (levelTarget (lying p.2) d p.1, nameKey name, y) with
    | none =>
      rw [hfound] at htarget
      cases htarget
    | some c' =>
      rw [hfound] at htarget
      obtain ⟨⟨hc', hkey⟩, -⟩ := (named_eq_some (T := classShape .inl) d.ok.keys.classes).1 hfound
      obtain rfl : c' = c := d.ok.keys.classes.eq_of_key_eq hc' hc (Sum.inl.inj htarget)
      obtain ⟨l, hl, hid, hgrade⟩ := named_of_target (congrArg Prod.fst hkey).symm
      refine ⟨p.1, mem_rows hp, l, hl, hid, hgrade, name, hname, decide_eq_true ?_⟩
      rw [← nameKey_class hname]
      exact congrArg (fun k : ClassName => k.2.1) (show (classShape .inl).name c' = _ from hkey)

end Additive

/-! ## Once more -/

/-- What the rows that are for a level, or for a class, write the second time is what those that
were for it the first time have left; and the classes that they are for are there. -/
structure Settled (lying lying' : Nat → Lying) (rows : List ImportRow) (d : Db) : Prop where
  levels : ∀ s, written (levelEntries lying' (plannedOrdinals rows d) rows.zipIdx d) s
      (written (levelEntries lying (plannedOrdinals rows d) rows.zipIdx d) s
        (levelShape.at d.val.levels d.val.levels s)) =
    written (levelEntries lying (plannedOrdinals rows d) rows.zipIdx d) s
      (levelShape.at d.val.levels d.val.levels s)
  classes : ∀ s, written (classEntries lying' rows.zipIdx d) s
      (written (classEntries lying rows.zipIdx d) s
        ((classShape .inl).at d.val.classes d.val.classes s)) =
    written (classEntries lying rows.zipIdx d) s
      ((classShape .inl).at d.val.classes d.val.classes s)

/-- An import is additive, and where it returns twice the second time changes no
level and no class. -/
def ImportsAgain (lying lying' : Nat → Lying) (rows : List ImportRow) (d : Db) : Prop :=
  ∀ results d', importAcademicRowsLying lying rows d = .ok results d' → Additive rows d d' ∧
    ∀ results' d'', importAcademicRowsLying lying' rows d' = .ok results' d'' →
      d''.val.levels.Perm d'.val.levels ∧ d''.val.classes.Perm d'.val.classes

section Again

variable {lying lying' : Nat → Lying} {rows : List ImportRow} {d d' d'' : Db}

/-- The classes of the start are told apart by their numbers. -/
theorem at_known (level : Nat → Nat ⊕ String) (d : Db) (s : Nat ⊕ ClassName) :
    (classShape level).at d.val.classes d.val.classes s =
      (classShape .inl).at d.val.classes d.val.classes s := by
  have hslot : ∀ level : Nat → Nat ⊕ String, ∀ c ∈ d.val.classes,
      (classShape level).slot d.val.classes c = .inl c.id :=
        fun level c hc => if_pos (List.mem_map_of_mem hc)
  refine Option.ext fun c => ?_
  rw [(grown_refl (T := classShape level) d.ok.keys.classes).at_eq_some,
    (grown_refl (T := classShape .inl) d.ok.keys.classes).at_eq_some]
  refine exists_congr fun x => and_congr_right fun hx => and_congr_left' ?_
  rw [hslot level x hx, hslot .inl x hx]

/-- The ordinals are planned for levels that are new. -/
theorem levelEntry_alike (ordinals ordinals' : List (String × Int)) (ℓ : Lying) (row : ImportRow) :
    (levelEntry ℓ d row ordinals).target = (levelEntry ℓ d row ordinals').target ∧
      (levelEntry ℓ d row ordinals).patch = (levelEntry ℓ d row ordinals').patch := ⟨rfl, rfl⟩

/-- The second time no row adds a level. -/
theorem levels_there (ordinals ordinals' : List (String × Int)) (rows : List (ImportRow × Nat))
    (s : Nat ⊕ String) :
    (written (levelEntries lying ordinals rows d) s
      (levelShape.at d.val.levels d.val.levels s)).isSome ∨
      ∀ u ∈ levelEntries lying' ordinals' rows d, s ≠ u.target := by
  refine or_iff_not_imp_right.2 fun hfor => ?_
  push Not at hfor
  obtain ⟨u, hu, hs⟩ := hfor
  unfold levelEntries at hu
  obtain ⟨p, hp, rfl⟩ := List.mem_map.1 hu
  subst hs
  rw [isSome_written]
  show (levelShape.at d.val.levels d.val.levels (levelTarget (lying' p.2) d p.1)).isSome ∨ _
  cases hgrade : gradeNamed d.val p.1.grade with
  | some l =>
    left
    rw [isSome_levelTarget, hgrade]
    rfl
  | none =>
    refine .inr ⟨levelEntry (lying p.2) d p.1 ordinals, ?_, (levelTarget_eq hgrade).2 rfl⟩
    unfold levelEntries
    exact List.mem_map_of_mem hp

/-- **The second run.** -/
theorem again_iff {results results' : List RowResult}
    (h : importAcademicRowsLying lying rows d = .ok results d')
    (h' : importAcademicRowsLying lying' rows d' = .ok results' d'') :
    d''.val.levels.Perm d'.val.levels ∧ d''.val.classes.Perm d'.val.classes ↔
      Settled lying lying' rows d := by
  have hrun : importingLying lying (plannedOrdinals rows d) rows.zipIdx d = .ok results d' := h
  have hrun' : importingLying lying' (plannedOrdinals rows d') rows.zipIdx d' = .ok results' d'' :=
    h'
  have hlevels := levels_importing hrun (grown_refl (T := levelShape) d.ok.keys.levels)
  have hlevels' := levels_importing (d := d) hrun' hlevels.grown
  have hknows := knows_levelOf d d''
  have hfirst := imported hrun (hknows.before hlevels')
  obtain ⟨hclasses', -⟩ :=
    classes_importing hrun' hknows ((hknows.before hlevels').before hlevels) hlevels.grown
    hfirst.classes.grown hfirst.spared
  rw [hlevels'.same_iff hlevels.grown, hclasses'.same_iff hfirst.classes.grown]
  have hsame : ∀ s, written (levelEntries lying' (plannedOrdinals rows d') rows.zipIdx d) s
        (levelShape.at d.val.levels d'.val.levels s) =
      written (levelEntries lying' (plannedOrdinals rows d) rows.zipIdx d) s
        (levelShape.at d.val.levels d'.val.levels s) := by
    intro s
    refine written_congr ?_ (hlevels.wrote s ▸ levels_there _ _ _ s)
    unfold levelEntries
    rw [List.forall₂_map_left_iff, List.forall₂_map_right_iff]
    exact List.forall₂_same.2 fun p _ => levelEntry_alike _ _ _ p.1
  have hclass : ∀ s, (classShape (levelOf d d'')).at d.val.classes d'.val.classes s =
      written (classEntries lying rows.zipIdx d) s
        ((classShape .inl).at d.val.classes d.val.classes s) := by
    intro s
    rw [hfirst.classes.wrote, at_known]
  refine Iff.trans (and_congr (forall_congr' fun s => ?_) (forall_congr' fun s => ?_))
    ⟨fun h => ⟨h.1, h.2⟩, fun h => ⟨h.levels, h.classes⟩⟩
  · rw [hsame, hlevels.wrote]
  · rw [hclass]

/-- **An import again** changes nothing exactly when the rows have settled what they are for. -/
theorem imports_again_iff (lying lying' : Nat → Lying) (rows : List ImportRow) (d : Db) :
    ImportsAgain lying lying' rows d ↔
      ∀ results d', importAcademicRowsLying lying rows d = .ok results d' →
      ∀ results' d'', importAcademicRowsLying lying' rows d' = .ok results' d'' →
        Settled lying lying' rows d := by
  constructor
  · intro h results d' hok results' d'' hok'
    exact (again_iff hok hok').1 ((h results d' hok).2 results' d'' hok')
  · intro h results d' hok
    have hrun : importingLying lying (plannedOrdinals rows d) rows.zipIdx d = .ok results d' := hok
    refine ⟨(imported hrun (knows_levelOf d d')).additive, fun results' d'' hok' => ?_⟩
    exact (again_iff hok hok').2 (h results d' hok results' d'' hok')

end Again

/-! ## Rows that find what they found

What is written is an override, field by field. -/

structure OverridesLevel (f : LevelRow → LevelRow) : Prop where
  levelId : Overwrites LevelRow.levelId f
  name : Overwrites LevelRow.name f
  iscedLevel : Overwrites LevelRow.iscedLevel f
  ageBandMin : Overwrites LevelRow.ageBandMin f
  ageBandMax : Overwrites LevelRow.ageBandMax f
  ordinal : Overwrites LevelRow.ordinal f
  isActive : Overwrites LevelRow.isActive f

structure OverridesClass (f : ClassRow → ClassRow) : Prop where
  id : Overwrites ClassRow.id f
  name : Overwrites ClassRow.name f
  levelId : Overwrites ClassRow.levelId f
  headTeacherId : Overwrites ClassRow.headTeacherId f
  capacity : Overwrites ClassRow.capacity f
  isActive : Overwrites ClassRow.isActive f
  academicYearId : Overwrites ClassRow.academicYearId f
  sectionLabel : Overwrites ClassRow.sectionLabel f

omit [Unicode] in
theorem overriding_level : Overriding OverridesLevel where
  refl := by constructor <;> exact Overwrites.refl _
  comp hf hg := by
    constructor
    · exact hf.levelId.comp hg.levelId
    · exact hf.name.comp hg.name
    · exact hf.iscedLevel.comp hg.iscedLevel
    · exact hf.ageBandMin.comp hg.ageBandMin
    · exact hf.ageBandMax.comp hg.ageBandMax
    · exact hf.ordinal.comp hg.ordinal
    · exact hf.isActive.comp hg.isActive
  again {f} hf x := by
    have hfields : ∀ l : LevelRow, l = ⟨l.levelId, l.name, l.iscedLevel, l.ageBandMin, l.ageBandMax,
      l.ordinal, l.isActive⟩ := fun _ => rfl
    rw [hfields (f (f x)), hf.levelId.again, hf.name.again, hf.iscedLevel.again,
      hf.ageBandMin.again, hf.ageBandMax.again, hf.ordinal.again, hf.isActive.again]

omit [Unicode] in
theorem overriding_class : Overriding OverridesClass where
  refl := by constructor <;> exact Overwrites.refl _
  comp hf hg := by
    constructor
    · exact hf.id.comp hg.id
    · exact hf.name.comp hg.name
    · exact hf.levelId.comp hg.levelId
    · exact hf.headTeacherId.comp hg.headTeacherId
    · exact hf.capacity.comp hg.capacity
    · exact hf.isActive.comp hg.isActive
    · exact hf.academicYearId.comp hg.academicYearId
    · exact hf.sectionLabel.comp hg.sectionLabel
  again {f} hf x := by
    have hfields : ∀ c : ClassRow, c = ⟨c.id, c.name, c.levelId, c.headTeacherId,
      c.capacity, c.isActive, c.academicYearId, c.sectionLabel⟩ := fun _ => rfl
    rw [hfields (f (f x)), hf.id.again, hf.name.again, hf.levelId.again, hf.headTeacherId.again,
      hf.capacity.again, hf.isActive.again, hf.academicYearId.again, hf.sectionLabel.again]

theorem overridesLevel (ℓ : Lying) (d : Db) (row : ImportRow) (ordinals : List (String × Int)) :
    OverridesLevel (levelEntry ℓ d row ordinals).patch := by
  have hor : ∀ (field : LevelRow → Option Int) (o : Option Int),
      (∀ l, field ((levelEntry ℓ d row ordinals).patch l) = o.or (field l)) →
        Overwrites field (levelEntry ℓ d row ordinals).patch := by
    intro field o h
    cases o with
    | none => exact .inl h
    | some n => exact .inr ⟨_, h⟩
  constructor
  case levelId => exact .inl fun l => by simp only [levelEntry]
  case name => exact .inr ⟨Text.strip row.grade, fun l => by simp only [levelEntry]⟩
  case iscedLevel =>
    exact hor LevelRow.iscedLevel (number row.gradeIscedLevel) fun l => by simp only [levelEntry]
  case ageBandMin =>
    exact hor LevelRow.ageBandMin (number row.gradeAgeMin) fun l => by simp only [levelEntry]
  case ageBandMax =>
    exact hor LevelRow.ageBandMax (number row.gradeAgeMax) fun l => by simp only [levelEntry]
  case ordinal =>
    exact hor LevelRow.ordinal (number row.gradeOrdinal) fun l => by simp only [levelEntry]
  case isActive =>
    exact .inr ⟨parseImportBool row.gradeActive true, fun l => by simp only [levelEntry]⟩

theorem overridesClass (ℓ : Lying) (d : Db) (row : ImportRow) (name : String) (yearId : Nat) :
    OverridesClass (classEntry ℓ d row name yearId).patch := by
  constructor
  case id => exact .inl fun c => by simp only [classEntry]
  case name => exact .inr ⟨Text.strip name, fun c => by simp only [classEntry]⟩
  case levelId => exact .inl fun c => by simp only [classEntry]
  case headTeacherId =>
    have hhead : ∀ c, ((classEntry ℓ d row name yearId).patch c).headTeacherId =
        (headTeacherOf (d.laid ℓ).val (cleanCell row.headTeacherEmail)).1.getD c.headTeacherId :=
          fun c => by simp only [classEntry]
    cases hteacher : (headTeacherOf (d.laid ℓ).val (cleanCell row.headTeacherEmail)).1 with
    | unset => exact .inl fun c => by rw [hhead, hteacher]; rfl
    | value id => exact .inr ⟨id, fun c => by rw [hhead, hteacher]; rfl⟩
  case capacity =>
    have hcapacity : ∀ c, ((classEntry ℓ d row name yearId).patch c).capacity =
        (number row.classCapacity).getD c.capacity := fun c => by simp only [classEntry]
    cases hnumber : number row.classCapacity with
    | none => exact .inl fun c => by rw [hcapacity, hnumber]; rfl
    | some n => exact .inr ⟨n, fun c => by rw [hcapacity, hnumber]; rfl⟩
  case isActive =>
    exact .inr ⟨parseImportBool row.classActive true, fun c => by simp only [classEntry]⟩
  case academicYearId => exact .inl fun c => by simp only [classEntry]
  case sectionLabel =>
    exact .inr ⟨deriveSectionLabel (Text.strip name), fun c => by simp only [classEntry]⟩

/-- A level that was added has what its row sets of it. -/
theorem levelEntry_settled (ℓ : Lying) (d : Db) (row : ImportRow) (ordinals : List (String × Int)) :
    (levelEntry ℓ d row ordinals).patch (levelEntry ℓ d row ordinals).fresh =
      (levelEntry ℓ d row ordinals).fresh := by
  have hor : ∀ (o : Option Int) (n : Int), o.or (some (o.getD n)) = some (o.getD n) := by
    intro o n
    cases o <;> rfl
  have hordinal : ∀ o o' : Option Int, o.or (some ((o.or o').getD 1)) =
      some ((o.or o').getD 1) := by
    intro o o'
    cases o <;> rfl
  unfold levelEntry
  simp only [row.strip_grade, hor, hordinal]

/-- So has a class, if its capacity is not zero and its head teacher has a number. -/
theorem classEntry_settled {ℓ : Lying} {d : Db} {row : ImportRow} (name : String) (yearId : Nat)
    (hissued : ∀ x ∈ d.val.teachers, x.id ≠ 0) (hcapacity : number row.classCapacity ≠ some 0) :
    (classEntry ℓ d row name yearId).patch (classEntry ℓ d row name yearId).fresh =
      (classEntry ℓ d row name yearId).fresh := by
  have hteacher : ∀ h : HeadTeacher, h ≠ .value (some 0) →
      h.getD (Text.nonZero (h.getD none)) = Text.nonZero (h.getD none) := by
    intro h hne
    cases h with
    | unset => rfl
    | value id =>
      cases id with
      | none => rfl
      | some n =>
        have hn : n ≠ 0 := fun h0 => hne (by rw [h0])
        simp [HeadTeacher.getD, Text.nonZero, Option.filter, hn]
  have hhead : (headTeacherOf (d.laid ℓ).val (cleanCell row.headTeacherEmail)).1 ≠
      .value (some 0) := by
    unfold headTeacherOf
    intro h
    split_ifs at h
    split at h
    · rename_i teacher hfound
      have hmem : teacher ∈ d.val.teachers := mem_lay.1 (List.mem_of_find?_eq_some hfound)
      simp only [HeadTeacher.value.injEq, Option.some.injEq] at h
      exact hissued teacher hmem h
    · cases h
  have hcap : (number row.classCapacity).getD
      (if (number row.classCapacity).getD 25 = 0 then 25 else (number row.classCapacity).getD 25) =
        if (number row.classCapacity).getD 25 = 0 then 25
          else (number row.classCapacity).getD 25 := by
    cases hn : number row.classCapacity with
    | none => rfl
    | some n =>
      have hne : n ≠ 0 := fun h0 => hcapacity (by rw [hn, h0])
      simp [hne]
  unfold classEntry
  simp only [hteacher _ hhead, hcap]

/-- Names tell the levels, the classes of a level and the teachers apart, all but the
case of the letters. -/
structure ToldApart (t : Tables) : Prop where
  levels : Keyed levelShape.name t.levels
  classes : Keyed (classShape .inl).name t.classes
  teachers : ∀ x ∈ t.teachers, ∀ y ∈ t.teachers, ∀ email,
    ((t.users.find? fun u => u.id = x.id).any fun u => sameEmail u.email email) →
      ((t.users.find? fun u => u.id = y.id).any fun u => sameEmail u.email email) → x = y

section ToldApart

variable {d : Db}

/-- Then it does not matter where they lie. -/
theorem ToldApart.levelTarget (h : ToldApart d.val) (ℓ ℓ' : Lying) (row : ImportRow) :
    levelTarget ℓ d row = levelTarget ℓ' d row :=
  target_of_keyed (T := levelShape) d.ok.keys.levels h.levels _ _ _

theorem ToldApart.classTarget (h : ToldApart d.val) (ℓ ℓ' : Lying) (row : ImportRow)
    (name : String) (y : Nat) :
    classTarget ℓ d row name y = classTarget ℓ' d row name y := by
  unfold School.classTarget
  rw [h.levelTarget ℓ ℓ']
  exact target_of_keyed (T := classShape .inl) d.ok.keys.classes h.classes _ _ _

theorem ToldApart.headTeacherOf (h : ToldApart d.val) (ℓ ℓ' : Lying) (email : String) :
    headTeacherOf (d.laid ℓ).val email = headTeacherOf (d.laid ℓ').val email := by
  have hteacher : teacherOf (d.laid ℓ).val email = teacherOf (d.laid ℓ').val email := by
    have hfirst : ∀ ℓ : Lying, ∀ x, teacherOf (d.laid ℓ).val email = some x ↔ x ∈ d.val.teachers ∧
        ((d.val.users.find? fun u => u.id = x.id).any fun u => sameEmail u.email
          (Text.strip email)) = true := by
      intro ℓ x
      have hfind := find?_lay (ℓ := ℓ.teachers) (l := d.val.teachers) d.ok.keys.teachers
        (p := fun x => (d.val.users.find? fun u => u.id = x.id).any fun u =>
          sameEmail u.email (Text.strip email)) (x := x)
      refine hfind.trans ⟨And.left, fun hx => ⟨hx, fun y hy hfits => ?_⟩⟩
      rw [h.teachers x hx.1 y hy _ hx.2 hfits]
    exact Option.ext fun x => (hfirst ℓ x).trans (hfirst ℓ' x).symm
  unfold School.headTeacherOf
  rw [hteacher]

/-- **Where names tell rows apart** an import settles what it is for. -/
theorem ToldApart.settled (h : ToldApart d.val) (lying lying' : Nat → Lying) {rows : List ImportRow}
    (hissued : ∀ x ∈ d.val.teachers, x.id ≠ 0)
    (hcapacities : ∀ row ∈ rows, number row.classCapacity ≠ some 0) :
    Settled lying lying' rows d := by
  have hlevels : levelEntries lying' (plannedOrdinals rows d) rows.zipIdx d =
      levelEntries lying (plannedOrdinals rows d) rows.zipIdx d := by
    unfold levelEntries levelEntry
    refine List.map_congr_left fun p _ => ?_
    rw [h.levelTarget (lying' p.2) (lying p.2)]
  have hclasses : classEntries lying' rows.zipIdx d = classEntries lying rows.zipIdx d := by
    unfold classEntries
    refine List.flatMap_congr fun p _ => ?_
    unfold classEntry? classEntry
    split
    · rw [h.classTarget (lying' p.2) (lying p.2), h.headTeacherOf (lying' p.2) (lying p.2)]
    · rfl
  constructor
  · intro s
    rw [hlevels]
    refine written_again overriding_level (fun u hu => ?_) (fun u hu => ?_) s _ <;>
      obtain ⟨p, -, rfl⟩ := List.mem_map.1 hu
    · exact overridesLevel _ _ _ _
    · exact levelEntry_settled _ _ _ _
  · intro s
    rw [hclasses]
    refine written_again overriding_class (fun u hu => ?_) (fun u hu => ?_) s _ <;>
      obtain ⟨p, hp, -, name, -, y, -, rfl⟩ := mem_classEntries hu
    · exact overridesClass _ _ _ _ _
    · exact classEntry_settled name y hissued (hcapacities p.1 (mem_rows hp))

end ToldApart

end Imports

/-! ## A grade in two spellings -/

section Example

attribute [local instance] ascii

/-- The small school with a second level of the name of the first, in another spelling. -/
def twoSpellings : Db := after (createLevel "g1" ⟨none, none, none, some 3⟩ true) smallSchool

/-- The first level and the added one have changed places. -/
def changedPlaces : Lying :=
  { Lying.asInserted with levels := ⟨Equiv.swap 1 100, Equiv.injective _⟩ }

theorem renamed_again : ∃ d' d'',
    after (importAcademicRowsLying (fun _ => .asInserted) [gradeRow "G1"]) twoSpellings = d' ∧
    after (importAcademicRowsLying (fun _ => changedPlaces) [gradeRow "G1"]) d' = d'' ∧
    returns (importAcademicRowsLying (fun _ => .asInserted) [gradeRow "G1"]) twoSpellings = true ∧
    returns (importAcademicRowsLying (fun _ => changedPlaces) [gradeRow "G1"]) d' = true ∧
    ¬(d''.val.levels.map LevelRow.name).Perm (d'.val.levels.map LevelRow.name) :=
  ⟨_, _, rfl, rfl, by decide +kernel⟩

/-- The second import renames the level that the first has left. -/
theorem second_import_renames :
    ¬ImportsAgain (fun _ => .asInserted) (fun _ => changedPlaces) [gradeRow "G1"] twoSpellings := by
  intro h
  obtain ⟨d', d'', hd', hd'', hreturns, hreturns', hnot⟩ := renamed_again
  obtain ⟨results, d₁, hok⟩ := returns_iff.1 hreturns
  rw [after_ok hok] at hd'
  subst hd'
  obtain ⟨results', d₂, hok'⟩ := returns_iff.1 hreturns'
  rw [after_ok hok'] at hd''
  subst hd''
  exact hnot (((h results d₁ hok).2 results' d₂ hok').1.map LevelRow.name)

end Example

end Sams.School
