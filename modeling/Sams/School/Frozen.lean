import Sams.School.Years

/-!
# Leaving a year alone

`Frozen y d d'`: the classes of the year `y` and the students placed in them are the same before
and after. It is a preorder for every year, and each operation gets a lemma that says when it
keeps it for a year that is closed. The import and the service's class creation always do: they
find and open classes in the active year only. The structure editor looks at the classes of every
year and is the subject of the next module.
-/

namespace Sams.School

open Programs Rows

/-- What a closed year fixes of a class: id, name, level, section, capacity, year. -/
def ClassRow.core (c : ClassRow) : Nat × String × Nat × Option String × Int × Nat :=
  (c.id, c.name, c.levelId, c.sectionLabel, c.capacity, c.academicYearId)

/-- The classes of a year. -/
def Tables.classesOf (t : Tables) (y : Nat) :
    List (Nat × String × Nat × Option String × Int × Nat) :=
  (t.classes.filter fun c => c.academicYearId = y).map ClassRow.core

theorem mem_classesOf {t : Tables} {y : Nat} {k : Nat × String × Nat × Option String × Int × Nat} :
    k ∈ t.classesOf y ↔ ∃ c ∈ t.classes, c.academicYearId = y ∧ c.core = k := by
  simp [Tables.classesOf, and_assoc]

theorem classIn_iff {t : Tables} {cid y : Nat} :
    t.ClassIn cid y ↔ cid ∈ (t.classesOf y).map Prod.fst := by
  simp only [Tables.ClassIn, Tables.classesOf, ClassRow.core, List.map_map, List.mem_map,
    List.mem_filter, Function.comp, decide_eq_true_eq]
  exact exists_congr fun c => by tauto

/-- The classes of the year and the placements in them are unchanged. -/
structure Frozen (y : Nat) (d d' : Db) : Prop where
  classes : d'.val.classesOf y = d.val.classesOf y
  placed : ∀ sid cid, d'.val.Placed sid cid y ↔ d.val.Placed sid cid y

variable {y : Nat}

instance : IsPreorder Db (Frozen y) where
  refl _ := ⟨rfl, fun _ _ => Iff.rfl⟩
  trans _ _ _ h h' :=
    ⟨h'.classes.trans h.classes, fun sid cid => (h'.placed sid cid).trans (h.placed sid cid)⟩

/-- It is enough to look at the students of the year's classes. -/
theorem frozen_of {d d' : Db} (hc : d'.val.classesOf y = d.val.classesOf y)
    (hs : ∀ sid cid, d.val.ClassIn cid y →
      ((∃ s ∈ d'.val.students, s.id = sid ∧ s.classId = some cid) ↔
        ∃ s ∈ d.val.students, s.id = sid ∧ s.classId = some cid)) : Frozen y d d' where
  classes := hc
  placed sid cid := by
    unfold Tables.Placed
    rw [show d'.val.ClassIn cid y ↔ d.val.ClassIn cid y by rw [classIn_iff, classIn_iff, hc]]
    exact and_congr_left fun hclass => hs sid cid hclass

theorem frozen_of_eq {d d' : Db} (hc : d'.val.classes = d.val.classes)
    (hs : d'.val.students = d.val.students) : Frozen y d d' :=
  frozen_of (by simp only [Tables.classesOf, hc]) fun sid cid _ => by rw [hs]

/-! ## Statements -/

/-- A statement that writes neither classes nor students. -/
theorem frozen_stmt {f : Tables → Tables} (hc : ∀ t, (f t).classes = t.classes)
    (hs : ∀ t, (f t).students = t.students) : Moves (Frozen y) (stmt f) :=
  moves_exec fun d _ => frozen_of_eq (hc d.val) (hs d.val)

/-- An update of classes that leaves what a closed year fixes. -/
theorem frozen_setClasses {p : ClassRow → Bool} {f : ClassRow → ClassRow} {d : Db}
    (hyear : ∀ c, (f c).academicYearId = c.academicYearId)
    (hcore : ∀ c ∈ d.val.classes, p c = true → c.academicYearId = y → (f c).core = c.core) :
    Frozen y d (after (stmt fun t => t.setClasses p f) d) := by
  refine after_exec_ind (refl_of _ d) fun d' hd' => frozen_of ?_ fun sid cid _ => ?_
  · rw [hd']
    refine map_filter_updateWhere (fun c => by rw [hyear]) fun c hc hp hy => ?_
    exact hcore c hc hp (by simpa using hy)
  · rw [hd']
    rfl

/-- A class of another year is inserted. -/
theorem frozen_insertClass {g : Tables → ClassRow} {d : Db}
    (h : (g d.val).academicYearId ≠ y) :
    Frozen y d (after (stmt fun t => t.insertClass (g t)) d) := by
  refine after_exec_ind (refl_of _ d) fun d' hd' => frozen_of ?_ fun sid cid _ => ?_
  · rw [hd', Tables.classesOf, Tables.insertClass, List.filter_append,
      List.filter_cons_of_neg (by simpa using h), List.filter_nil, List.append_nil]
    rfl
  · rw [hd']
    rfl

namespace TenantRepository

theorem frozen_recordClassChange (sid : Nat) (o n c : Option Nat) :
    Moves (Frozen y) (recordClassChange sid o n c) := by
  unfold recordClassChange
  exact frozen_stmt (fun _ => rfl) fun _ => rfl

/-! ## Deleting -/

/-- Students who lose a class of another year. -/
theorem frozen_unplace {ids : List Nat} {d : Db} (h : ∀ cid ∈ ids, ¬d.val.ClassIn cid y) :
    Frozen y d (after (stmt fun t => t.setStudents (fun s => s.classId.any fun c => c ∈ ids)
      fun s => { s with classId := none }) d) := by
  refine after_exec_ind (refl_of _ d) fun d' hd' =>
    frozen_of (by rw [hd']; rfl) fun sid cid hcid => ?_
  have hout : cid ∉ ids := fun hmem => h cid hmem hcid
  rw [hd']
  constructor
  · rintro ⟨s', hs', rfl, hc⟩
    rcases cases_of_mem_updateWhere hs' with ⟨hm, -⟩ | ⟨s, -, -, rfl⟩
    · exact ⟨s', hm, rfl, hc⟩
    · cases hc
  · rintro ⟨s, hs, rfl, hc⟩
    exact ⟨s, mem_updateWhere_of_not hs (by simp [hc, hout]), rfl, hc⟩

/-- Classes of other years are deleted. -/
theorem frozen_deleteClasses {ids : List Nat} {d : Db} (h : ∀ cid ∈ ids, ¬d.val.ClassIn cid y) :
    Frozen y d (after (stmt fun t => t.deleteClasses fun c => c.id ∈ ids) d) := by
  refine after_exec_ind (refl_of _ d) fun d' hd' => frozen_of ?_ fun sid cid _ => by rw [hd']; rfl
  rw [hd']
  unfold Tables.classesOf Tables.deleteClasses
  dsimp only
  rw [List.filter_filter]
  congr 1
  refine List.filter_congr fun c hc => ?_
  by_cases hy : c.academicYearId = y
  · have hout : c.id ∉ ids := fun hmem => h c.id hmem ⟨c, hc, rfl, hy⟩
    simp [hout]
  · simp [hy]

/-- Classes of other years are removed, with their students unlinked. -/
theorem frozen_removeClasses {ids : List Nat} {c : Option Nat} {d : Db}
    (h : ∀ cid ∈ ids, ¬d.val.ClassIn cid y) : Frozen y d (after (removeClasses ids c) d) := by
  unfold removeClasses blockIfClassesHaveEnrollmentHistory
  simp only [bind_assoc, after_query_bind, after_raiseIf_bind]
  split_ifs
  · exact refl_of _ d
  -- the ids are still those of other years wherever the year is frozen
  have hstill : ∀ {t : Db}, Frozen y d t → ∀ cid ∈ ids, ¬t.val.ClassIn cid y := by
    intro t ht cid hmem
    rw [classIn_iff, ht.classes, ← classIn_iff]
    exact h cid hmem
  refine moves_bind_of_ok (frozen_unplace h) fun _ d₁ h₁ => ?_
  have f₁ : Frozen y d d₁ := after_ok h₁ ▸ frozen_unplace h
  refine trans_of _ f₁ ?_
  have hloop : Moves (Frozen y) ((d.val.students.filter fun s =>
      s.classId.any fun c => c ∈ ids).forM fun s => recordClassChange s.id s.classId none c) :=
    moves_forM fun s _ => frozen_recordClassChange s.id s.classId none c
  refine moves_bind_of_ok (hloop d₁) fun _ d₂ h₂ => ?_
  have f₂ : Frozen y d₁ d₂ := after_ok h₂ ▸ hloop d₁
  refine trans_of _ f₂ ?_
  have hevents : Moves (Frozen y) (stmt fun t => t.deleteEventClasses fun e => e.classId ∈ ids) :=
    frozen_stmt (fun _ => rfl) fun _ => rfl
  refine moves_bind_of_ok (hevents d₂) fun _ d₃ h₃ => ?_
  have f₃ : Frozen y d₂ d₃ := after_ok h₃ ▸ hevents d₂
  exact trans_of _ f₃ (frozen_deleteClasses (hstill (trans_of _ (trans_of _ f₁ f₂) f₃)))

/-! ## Levels and classes -/

theorem frozen_deleteClass {i : Nat} {c : Option Nat} {d : Db} (h : ¬d.val.ClassIn i y)
    {hook : Prog Unit} (hhook : Moves (Frozen y) hook) :
    Frozen y d (after (deleteClass i c hook) d) := by
  unfold deleteClass
  rw [after_bind_idle fun _ _ => rfl]
  refine moves_transaction_at ?_
  simp only [after_query_bind, after_raiseIf_bind]
  split_ifs
  · exact refl_of _ d
  · have hremove :=
      frozen_removeClasses (c := c) (by simpa using h : ∀ cid ∈ [i], ¬d.val.ClassIn cid y)
    exact moves_bind_of_ok hremove fun _ d₁ h₁ => trans_of _ (after_ok h₁ ▸ hremove) (hhook d₁)

theorem frozen_deleteLevel {l : Nat} {c : Option Nat} {d : Db}
    (h : ∀ cl ∈ d.val.classes, cl.levelId = l → cl.academicYearId ≠ y)
    {hook : Prog Unit} (hhook : Moves (Frozen y) hook) :
    Frozen y d (after (deleteLevel l c hook) d) := by
  unfold deleteLevel
  rw [after_bind_idle fun _ _ => rfl]
  refine moves_transaction_at ?_
  simp only [after_query_bind, after_raiseIf_bind]
  split_ifs
  · exact refl_of _ d
  have hlevel : Moves (Frozen y) (do stmt fun t => t.deleteLevels l; hook) :=
    moves_bind (frozen_stmt (fun _ => rfl) fun _ => rfl) fun _ => hhook
  have hout : ∀ cid ∈ (d.val.classes.filter fun cl => cl.levelId = l).map ClassRow.id,
      ¬d.val.ClassIn cid y := by
    rintro cid hcid ⟨cl, hcl, hid, hy⟩
    obtain ⟨cl', hcl', rfl⟩ := List.mem_map.1 hcid
    obtain ⟨hm, hl⟩ := List.mem_filter.1 hcl'
    exact h cl' hm (by simpa using hl) (Db.class_unique hcl hm hid ▸ hy)
  unfold onlyIf
  split_ifs
  · refine moves_bind_of_ok (frozen_removeClasses hout) fun _ d₁ h₁ => ?_
    exact trans_of _ (after_ok h₁ ▸ frozen_removeClasses hout) (hlevel d₁)
  · exact hlevel d

theorem frozen_record (actor : Option AuditService.Actor) (action entityType : String)
    (entityId : Option Nat) (outcome : AuditOutcome) :
    Moves (Frozen y) (AuditService.record actor action entityType entityId outcome) := by
  unfold AuditService.record
  exact frozen_stmt (fun _ => rfl) fun _ => rfl

theorem frozen_createLevel (n : String) (f : LevelFields) (a : Bool) :
    Moves (Frozen y) (createLevel n f a) :=
  moves_bind (moves_query _) fun _ =>
    moves_bind (frozen_stmt (fun _ => rfl) fun _ => rfl) fun _ => moves_pure _

theorem frozen_updateLevel (l : Nat) (n : Option String) (f : LevelFields) (a : Option Bool) :
    Moves (Frozen y) (updateLevel l n f a) := by
  unfold updateLevel
  refine moves_bind (moves_query _) fun r => ?_
  cases r with
  | none => exact moves_throw _
  | some current =>
    exact moves_bind (frozen_stmt (fun _ => rfl) fun _ => rfl) fun _ => moves_query _

variable [Unicode]

theorem frozen_upsertLevelByName (n : String) (f : LevelFields) (a : Bool) :
    Moves (Frozen y) (upsertLevelByName n f a) := by
  unfold upsertLevelByName
  refine moves_bind (moves_getLevelByName _) fun r => ?_
  cases r with
  | none => exact moves_bind (frozen_createLevel _ _ _) fun _ => moves_pure _
  | some existing => exact moves_bind (frozen_updateLevel _ _ _ _) fun _ => moves_pure _

omit [Unicode] in
theorem active_ne_closed {d : Db} {ay : Nat} (hclosed : d.val.YearIs y .closed)
    (hay : (d.val.years.find? fun y => y.status = .active).map YearRow.id = some ay) : ay ≠ y := by
  obtain ⟨row, hrow, rfl⟩ := Option.map_eq_some_iff.1 hay
  rintro rfl
  have hst : row.status = .active := by simpa using List.find?_some hrow
  have hact := Db.yearIs_iff.2 ⟨row, List.mem_of_find?_eq_some hrow, rfl, hst⟩
  cases hact.unique hclosed

omit [Unicode] in
/-- A program that goes on unless something is refused. -/
theorem frozen_unless {α : Type} {c : Prop} [Decidable c] {e : PyError} {k : Unit → Prog α} {d : Db}
    (h : Frozen y d (after (k ()) d)) : Frozen y d (after (raiseIf c e >>= k) d) := by
  rw [after_raiseIf_bind]
  split_ifs
  · exact refl_of _ d
  · exact h

/-- The class is opened in the year that is given, else in the active one. -/
theorem frozen_createClass {n : String} {l : Nat} {h : Option Nat} {cap : Option Int} {a : Bool}
    {year : Option Nat} {d : Db} (hclosed : d.val.YearIs y .closed)
    (hyear : Text.nonZero year ≠ some y) : Frozen y d (after (createClass n l h cap a year) d) := by
  unfold createClass
  simp only [after_query_bind]
  cases hay : (Text.nonZero year).or
      ((d.val.years.find? fun y => y.status = .active).map YearRow.id) with
  | none => exact refl_of _ d
  | some ay =>
    have hne : ay ≠ y := by
      rcases Option.or_eq_some_iff.1 hay with hgiven | ⟨-, hactive⟩
      · rintro rfl
        exact hyear hgiven
      · exact active_ne_closed hclosed hactive
    dsimp only
    simp only [after_query_bind]
    refine frozen_unless ?_
    rw [after_bind_idle fun _ _ => rfl]
    exact frozen_insertClass hne

/-- What the update of a class leaves of it when its values are those it has. -/
theorem frozen_updateClass {i : Nat} {n : Option String} {l : Option Nat} {h : HeadTeacher}
    {cap : Option Int} {a : Option Bool} {d : Db}
    (hsame : ∀ c ∈ d.val.classes, c.id = i → c.academicYearId = y →
      (n.map Text.strip).getD c.name = c.name ∧ l.getD c.levelId = c.levelId ∧
        cap.getD c.capacity = c.capacity ∧ deriveSectionLabel c.name = c.sectionLabel) :
    Frozen y d (after (updateClass i n l h cap a) d) := by
  unfold updateClass
  simp only [after_query_bind]
  cases hc : d.val.class? i with
  | none => exact refl_of _ d
  | some current =>
    dsimp only
    refine frozen_unless ?_
    rw [after_bind_idle fun _ _ => rfl]
    refine frozen_setClasses (fun _ => rfl) fun c hm hp hy => ?_
    have hid : c.id = i := by simpa using hp
    obtain ⟨hcm, hci⟩ := d.ok.keys.classes.find?_eq_some.1 hc
    obtain rfl := Db.class_unique hm hcm (hid.trans hci.symm)
    obtain ⟨hn, hl, hcap, hlabel⟩ := hsame c hm hid hy
    simp only [ClassRow.core, hn, hl, hcap, hlabel]

/-- The class that is found or opened is one of the active year. -/
theorem frozen_upsertClass {n : String} {l : Nat} {h : HeadTeacher} {cap : Option Int} {a : Bool}
    {d : Db} (hclosed : d.val.YearIs y .closed) :
    Frozen y d (after (upsertClassByNameAndLevel n l h cap a none) d) := by
  unfold upsertClassByNameAndLevel getClassByNameAndLevel
  simp only [after_query_bind]
  cases hay : (d.val.years.find? fun y => y.status = .active).map YearRow.id with
  | none => exact refl_of _ d
  | some ay =>
    have hne : ay ≠ y := active_ne_closed hclosed hay
    have hor : ∀ o, o = none ∨ o = some ay → (Text.nonZero o).or (some ay) = some ay := by
      rintro o (rfl | rfl)
      · rfl
      · by_cases h0 : ay = 0 <;> simp [Text.nonZero, Option.filter, h0]
    rw [hor none (.inl rfl)]
    simp only [bind_assoc, after_query_bind, hay, hor _ (.inr rfl)]
    refine frozen_unless ?_
    simp only [after_query_bind]
    cases hc : d.val.classes.find? fun c => sameName c.name (Text.strip n) ∧ c.levelId = l ∧
        some c.academicYearId = some ay with
    | none =>
      dsimp only
      rw [after_bind_idle fun _ _ => rfl]
      exact frozen_createClass hclosed fun hz =>
        hne (Option.some.inj (Option.filter_eq_some_iff.1 hz).1)
    | some existing =>
      have hex : existing.academicYearId = ay := by
        have := List.find?_some hc
        simp only [decide_eq_true_eq, Option.some.injEq] at this
        exact this.2.2
      dsimp only
      rw [after_bind_idle fun _ _ => rfl]
      refine frozen_updateClass fun c hm hid hy => absurd ?_ hne
      rw [← hex, ← Db.class_unique hm (List.mem_of_find?_eq_some hc) hid, hy]

/-- The years stay, and the year is left alone if it is closed. -/
def Shields (y : Nat) (d d' : Db) : Prop :=
  d'.val.years = d.val.years ∧ (d.val.YearIs y .closed → Frozen y d d')

omit [Unicode] in
theorem yearIs_congr {d d' : Db} (h : d'.val.years = d.val.years) {st : YearStatus} :
    d'.val.YearIs y st ↔ d.val.YearIs y st := by
  unfold Tables.YearIs Tables.year?
  rw [h]

instance : IsPreorder Db (Shields y) where
  refl d := ⟨rfl, fun _ => refl_of _ d⟩
  trans _ _ _ h h' := ⟨h'.1.trans h.1, fun hc =>
    trans_of _ (h.2 hc) (h'.2 ((yearIs_congr h.1).2 hc))⟩

theorem shields_importAcademicRows (rows : List ImportRow) :
    Moves (Shields y) (importAcademicRows rows) := by
  refine moves_importAcademicRows (fun n f a d => ⟨?_, fun _ => ?_⟩)
    (fun n l h cap a d => ⟨?_, ?_⟩) rows
  · exact (quiet_editable.upsertLevelByName n f a d).years
  · exact frozen_upsertLevelByName n f a d
  · exact (quiet_editable.upsertClassByNameAndLevel n l h cap a none d).years
  · exact frozen_upsertClass

end TenantRepository

/-! ## Placements, planning and commits -/

/-- Students are moved neither into nor out of the classes of the year. -/
theorem frozen_of_places {d d' : Db} {P : Nat → Option Nat → Prop} (h : Places P True d d')
    (hP : ∀ sid o cid, P sid o → d.val.ClassIn cid y → (o = some cid ↔ d.val.Placed sid cid y)) :
    Frozen y d d' := by
  refine frozen_of (by simp only [Tables.classesOf, h.classes]) fun sid cid hcid => ?_
  have hsits : ∀ {sid}, d.val.Placed sid cid y ↔
      ∃ s ∈ d.val.students, s.id = sid ∧ s.classId = some cid :=
    ⟨fun hp => hp.1, fun hs => ⟨hs, hcid⟩⟩
  constructor
  · rintro ⟨s', hs', rfl, hc⟩
    rcases h.origin s' hs' with ⟨s, hs, hid, -, hsame | hnew⟩ | ⟨-, -, -, hnew⟩
    · exact ⟨s, hs, hid, hsame.symm.trans hc⟩
    · exact hsits.1 ((hP _ _ _ hnew hcid).1 hc)
    · exact hsits.1 ((hP _ _ _ hnew hcid).1 hc)
  · rintro ⟨s, hs, rfl, hc⟩
    obtain ⟨s', hs', hid, -⟩ := h.kept s hs
    refine ⟨s', hs', hid, ?_⟩
    rcases h.origin s' hs' with ⟨s₀, hs₀, hid₀, -, hsame | hnew⟩ | ⟨-, hnone, -⟩
    · rw [hsame, Db.student_unique hs₀ hs (hid₀.trans hid), hc]
    · exact (hP _ _ _ hnew hcid).2 (hsits.2 ⟨s, hs, hid.symm, hc⟩)
    · exact absurd hid.symm (hnone s hs)

/-- A commit opens classes in `to_year` only and moves students there or nowhere. -/
theorem Committed.leaves_alone {d d' : Db} {r : RolloverRow} (h : Committed d r d')
    (hy : r.toYearId ≠ y) : d'.val.classesOf y = d.val.classesOf y ∧
      ∀ sid cid, d'.val.Placed sid cid y → d.val.Placed sid cid y := by
  obtain ⟨opened, hopened, hyear⟩ := h.classes
  have hclasses : d'.val.classesOf y = d.val.classesOf y := by
    have hnone : opened.filter (fun c => c.academicYearId = y) = [] := by
      rw [List.filter_eq_nil_iff]
      intro c hc
      simpa [hyear c hc] using hy
    simp only [Tables.classesOf, hopened, List.filter_append, hnone, List.append_nil]
  refine ⟨hclasses, ?_⟩
  rintro sid cid ⟨⟨s', hs', rfl, hc⟩, hclass⟩
  have hclass₀ : d.val.ClassIn cid y := by
    rw [classIn_iff, ← hclasses, ← classIn_iff]
    exact hclass
  obtain ⟨s, hs, hid, ⟨l, -, -, ho⟩ | ⟨rfl, -⟩⟩ := h.students s' hs'
  · obtain ⟨-, -, c₁, hm₁, he₁, hy₁⟩ := ho.of_classId hc
    obtain ⟨c₂, hm₂, he₂, hy₂⟩ := hclass
    have heq : c₁ = c₂ := Db.class_unique hm₁ hm₂ (he₁.trans he₂.symm)
    exact absurd (hy₁.symm.trans (heq ▸ hy₂)) hy
  · exact ⟨⟨s', hs, rfl, hc⟩, hclass₀⟩

end Sams.School
