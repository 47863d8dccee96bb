import Sams.School.Planning

/-!
# The facts of a recompute

The next level of a student is found by an outer join on `ordinal + 1`. Nothing makes ordinals
unique or contiguous: two levels with the same ordinal give a student two rows, and a gap above a
level gives its students no next level.

**`facts_sound_iff`**: the facts have one row for every enrolled student placed in the year, and
propose to graduate only where no level is higher, exactly when every level taught in the year has
one level above it or is the highest (`LadderClear`). A level without an ordinal is neither below
nor above another. `gap_graduates` is a school with a gap.
-/

namespace Sams.School

open Programs Rows TenantRepository TenantService

/-! ## What the facts should be -/

/-- One row for each enrolled student placed in the year, and none for anyone else. -/
structure OneFactEach (t : Tables) (y : Nat) (facts : List PlanFact) : Prop where
  one : ∀ sid cid, t.Enrolled sid → t.Placed sid cid y →
    (facts.countP fun f => f.studentId = sid) = 1
  only : ∀ f ∈ facts, t.Enrolled f.studentId ∧ ∃ cid, t.Placed f.studentId cid y

/-- Some level is higher than this one. -/
def Tables.HasHigher (t : Tables) (lv : LevelRow) : Prop :=
  ∃ lv' ∈ t.levels, ∃ o ∈ lv.ordinal, ∃ o' ∈ lv'.ordinal, o < o'

/-- The student is in a class of the level. -/
def Tables.AtLevel (t : Tables) (sid : Nat) (lv : LevelRow) : Prop :=
  lv ∈ t.levels ∧ ∃ s ∈ t.students, s.id = sid ∧ ∃ c ∈ t.classes, s.classId = some c.id ∧
    c.levelId = lv.levelId

/-- A student is to graduate only from a level that no level is higher than. -/
def FinishersGraduate (t : Tables) (facts : List PlanFact) : Prop :=
  ∀ f ∈ facts, (propose f).proposedAction = .graduate →
    ∀ lv, t.AtLevel f.studentId lv → ¬t.HasHigher lv

/-! ## What makes them so -/

/-- An enrolled student sits in a class of the level in the year. -/
def Tables.Teaches (t : Tables) (y : Nat) (lv : LevelRow) : Prop :=
  lv ∈ t.levels ∧ ∃ s ∈ t.students, s.status = .enrolled ∧ ∃ c ∈ t.classes,
    s.classId = some c.id ∧ c.academicYearId = y ∧ c.levelId = lv.levelId

/-- The levels whose ordinal is one more. -/
def Tables.levelsAfter (t : Tables) (lv : LevelRow) : List LevelRow :=
  t.levels.filter fun nl => lv.ordinal.isSome ∧ nl.ordinal = lv.ordinal.map (· + 1)

/-- Every level taught in the year has at most one level after it, and one at least if a level is
higher. -/
def LadderClear (t : Tables) (y : Nat) : Prop :=
  ∀ lv, t.Teaches y lv →
    (t.levelsAfter lv).length ≤ 1 ∧ (t.levelsAfter lv = [] → ¬t.HasHigher lv)

/-! ## The rows of one student -/

theorem length_nextLevels (t : Tables) (lv : LevelRow) :
    (nextLevels t lv).length = max 1 (t.levelsAfter lv).length := by
  unfold nextLevels Tables.levelsAfter
  dsimp only
  split_ifs with h
  · rw [h]
    rfl
  · have := List.length_pos_iff.2 h
    rw [List.length_map]
    omega

theorem none_mem_nextLevels {t : Tables} {lv : LevelRow} :
    none ∈ nextLevels t lv ↔ t.levelsAfter lv = [] := by
  unfold nextLevels Tables.levelsAfter
  dsimp only
  split_ifs with h
  · exact ⟨fun _ => h, fun _ => List.mem_singleton_self _⟩
  · simpa using h

/-- The rows of one student: none if the student sits in no class of the year. -/
def studentFacts (t : Tables) (y : Nat) (s : StudentRow) : List PlanFact :=
  (t.classes.filter fun c => s.classId = some c.id ∧ c.academicYearId = y).flatMap fun c =>
    (t.levels.filter fun l => l.levelId = c.levelId).flatMap fun l =>
      (nextLevels t l).map fun nl =>
        { studentId := s.id, fromClassId := c.id, fromClassCapacity := c.capacity
          fromClassActive := c.isActive, sectionLabel := c.sectionLabel
          fromOrdinal := l.ordinal, toLevelId := nl }

theorem planFacts_eq (t : Tables) (y : Nat) : planFacts t y =
    (t.students.filter fun s => s.status = .enrolled).flatMap (studentFacts t y) := rfl

theorem mem_studentFacts {t : Tables} {y : Nat} {s : StudentRow} {f : PlanFact} :
    f ∈ studentFacts t y s ↔ ∃ c ∈ t.classes, s.classId = some c.id ∧ c.academicYearId = y ∧
      ∃ lv ∈ t.levels, lv.levelId = c.levelId ∧ ∃ nl ∈ nextLevels t lv,
        { studentId := s.id, fromClassId := c.id, fromClassCapacity := c.capacity
          fromClassActive := c.isActive, sectionLabel := c.sectionLabel
          fromOrdinal := lv.ordinal, toLevelId := nl } = f := by
  simp only [studentFacts, List.mem_flatMap, List.mem_filter, List.mem_map, decide_eq_true_eq,
    and_assoc]

theorem mem_planFacts {t : Tables} {y : Nat} {f : PlanFact} :
    f ∈ planFacts t y ↔ ∃ s ∈ t.students, s.status = .enrolled ∧ f ∈ studentFacts t y s := by
  simp only [planFacts_eq, List.mem_flatMap, List.mem_filter, decide_eq_true_eq, and_assoc]

/-- A student placed in the year has as many rows as their level has levels to go to. -/
theorem length_studentFacts {d : Db} {y : Nat} {s : StudentRow} {c : ClassRow} {lv : LevelRow}
    (hc : c ∈ d.val.classes) (hsc : s.classId = some c.id) (hy : c.academicYearId = y)
    (hlv : lv ∈ d.val.levels) (hcl : lv.levelId = c.levelId) :
    (studentFacts d.val y s).length = max 1 (d.val.levelsAfter lv).length := by
  have hclass : (d.val.classes.filter fun c' => s.classId = some c'.id ∧ c'.academicYearId = y) =
      [c] := by
    have hkey := d.ok.keys.classes.filter_key c.id
    rw [d.ok.keys.classes.find?_eq_some.2 ⟨hc, rfl⟩] at hkey
    rw [← Option.toList_some, ← hkey]
    refine List.filter_congr fun c' hc' => ?_
    rw [hsc]
    by_cases he : c'.id = c.id
    · simp [Db.class_unique hc' hc he, hy]
    · simp [he, eq_comm (a := c.id)]
  have hlevel : (d.val.levels.filter fun l => l.levelId = c.levelId) = [lv] := by
    rw [d.ok.keys.levels.filter_key, d.ok.keys.levels.find?_eq_some.2 ⟨hlv, hcl⟩]
    rfl
  unfold studentFacts
  rw [hclass, List.flatMap_singleton, hlevel, List.flatMap_singleton, List.length_map,
    length_nextLevels]

/-- The rows with a student's id are that student's rows. -/
theorem countP_planFacts {d : Db} {y : Nat} {s : StudentRow} (hs : s ∈ d.val.students)
    (he : s.status = .enrolled) :
    ((planFacts d.val y).countP fun f => f.studentId = s.id) =
      (studentFacts d.val y s).length := by
  have hself : ∀ x : StudentRow, ∀ f ∈ studentFacts d.val y x, f.studentId = x.id := by
    intro x f hf
    obtain ⟨c, -, -, -, lv, -, -, nl, -, rfl⟩ := mem_studentFacts.1 hf
    rfl
  have hrows : ∀ l : List StudentRow, (l.flatMap (studentFacts d.val y)).filter
      (fun f => f.studentId = s.id) = (l.filter fun x => x.id = s.id).flatMap
        (studentFacts d.val y) := by
    intro l
    induction l with
    | nil => rfl
    | cons x l ih =>
      rw [List.flatMap_cons, List.filter_append, ih, List.filter_cons]
      by_cases hx : x.id = s.id
      · have hall : (studentFacts d.val y x).filter (fun f => f.studentId = s.id) =
            studentFacts d.val y x :=
          List.filter_eq_self.2 fun f hf => by simp [hself x f hf, hx]
        simp [hx, hall]
      · have hnone : (studentFacts d.val y x).filter (fun f => f.studentId = s.id) = [] :=
          List.filter_eq_nil_iff.2 fun f hf => by simp [hself x f hf, hx]
        simp [hx, hnone]
  have hone : (d.val.students.filter fun x => x.status = .enrolled).filter
      (fun x => x.id = s.id) = [s] := by
    have hkeyed : Keyed StudentRow.id (d.val.students.filter fun x => x.status = .enrolled) :=
      List.Nodup.sublist (List.filter_sublist.map StudentRow.id) d.ok.keys.students
    rw [hkeyed.filter_key, hkeyed.find?_eq_some.2 ⟨List.mem_filter.2 ⟨hs, by simpa⟩, rfl⟩]
    rfl
  rw [List.countP_eq_length_filter, planFacts_eq, hrows, hone]
  simp

theorem propose_graduate_iff {f : PlanFact} :
    (propose f).proposedAction = .graduate ↔ f.toLevelId = none := by
  unfold propose
  split_ifs with h₁ h₂ <;> simp [h₁]

/-- **The facts are sound exactly when the ladder is clear.** -/
theorem facts_sound_iff {y : Nat} {d d' : Db} {facts : List PlanFact}
    (h : getRolloverPlanFacts y d = .ok facts d') :
    OneFactEach d.val y facts ∧ FinishersGraduate d.val facts ↔ LadderClear d.val y := by
  obtain ⟨rfl, rfl⟩ := getRolloverPlanFacts_ok h
  constructor
  · rintro ⟨hone, hfinish⟩ lv ⟨hlv, s, hs, he, c, hc, hsc, hy, hcl⟩
    have hplaced : d'.val.Placed s.id c.id y := ⟨⟨s, hs, rfl, hsc⟩, c, hc, rfl, hy⟩
    have hcount := hone.one s.id c.id ⟨s, hs, rfl, he⟩ hplaced
    rw [countP_planFacts hs he, length_studentFacts hc hsc hy hlv hcl.symm] at hcount
    refine ⟨by omega, fun hnone => ?_⟩
    -- without a level after it, the student's row proposes to graduate
    have hmem : (⟨s.id, c.id, c.capacity, c.isActive, c.sectionLabel, lv.ordinal,
        none⟩ : PlanFact) ∈
        planFacts d'.val y :=
      mem_planFacts.2 ⟨s, hs, he, mem_studentFacts.2
        ⟨c, hc, hsc, hy, lv, hlv, hcl.symm, none, none_mem_nextLevels.2 hnone, rfl⟩⟩
    exact hfinish _ hmem (propose_graduate_iff.2 rfl) lv ⟨hlv, s, hs, rfl, c, hc, hsc, hcl⟩
  · intro hclear
    refine ⟨⟨?_, ?_⟩, ?_⟩
    · rintro sid cid ⟨s, hs, rfl, he⟩ ⟨⟨s', hs', hid, hsc⟩, c, hc, rfl, hy⟩
      obtain rfl := Db.student_unique hs' hs hid
      obtain ⟨lv, hlv, hcl⟩ := d'.ok.placements.class_level.exists_row hc rfl
      have hlen := (hclear lv ⟨hlv, s', hs, he, c, hc, hsc, hy, hcl.symm⟩).1
      rw [countP_planFacts hs he, length_studentFacts hc hsc hy hlv hcl]
      omega
    · intro f hf
      obtain ⟨s, hs, he, hf⟩ := mem_planFacts.1 hf
      obtain ⟨c, hc, hsc, hy, lv, -, -, nl, -, rfl⟩ := mem_studentFacts.1 hf
      exact ⟨⟨s, hs, rfl, he⟩, c.id, ⟨s, hs, rfl, hsc⟩, c, hc, rfl, hy⟩
    · rintro f hf hgrad lv' ⟨hlv', s', hs', hid, c', hc', hsc', hcl'⟩
      obtain ⟨s, hs, he, hf⟩ := mem_planFacts.1 hf
      obtain ⟨c, hc, hsc, hy, lv, hlv, hcl, nl, hnl, rfl⟩ := mem_studentFacts.1 hf
      obtain rfl := Db.student_unique hs' hs hid
      obtain rfl := Db.class_unique hc' hc (Option.some.inj (hsc'.symm.trans hsc))
      obtain rfl := Db.level_unique hlv' hlv (hcl'.symm.trans hcl.symm)
      obtain rfl : nl = none := propose_graduate_iff.1 hgrad
      exact (hclear lv' ⟨hlv, s', hs, he, c', hc, hsc, hy, hcl'⟩).2 (none_mem_nextLevels.1 hnl)

/-- Reading the facts succeeds when no student's level has the largest ordinal. -/
theorem getRolloverPlanFacts_of {y : Nat} {d : Db}
    (h : ∀ f ∈ planFacts d.val y, f.fromOrdinal ≠ some 2147483647) :
    getRolloverPlanFacts y d = .ok (planFacts d.val y) d := by
  refine bind_eq_ok.2 ⟨_, d, rfl, bind_eq_ok.2 ⟨(), d, raiseIf_eq_ok.2 ⟨?_, rfl⟩, rfl⟩⟩
  simpa using h

theorem facts_sound_iff_smallSchool : OneFactEach smallSchool.val 1 (planFacts smallSchool.val 1) ∧
    FinishersGraduate smallSchool.val (planFacts smallSchool.val 1) ↔
      LadderClear smallSchool.val 1 :=
  facts_sound_iff (getRolloverPlanFacts_of (d := smallSchool) (by decide +kernel))

/-- The second level is moved up, which leaves a gap. -/
def gapSchool : Db := smallRun
  [.updateLevel ["school_admin"] 2 none ⟨none, none, none, some 3⟩ none]

theorem gapSchool_facts : planFacts gapSchool.val 1 =
    [⟨1, 1, 25, true, some "A", some 1, none⟩] := by decide +kernel

theorem gapSchool_levels : (⟨1, "G1", none, none, none, some 1, true⟩ : LevelRow) ∈
      gapSchool.val.levels ∧
    (⟨2, "G2", none, none, none, some 3, true⟩ : LevelRow) ∈ gapSchool.val.levels ∧
    (⟨1, "S", some 1, none, none, .enrolled, none⟩ : StudentRow) ∈ gapSchool.val.students ∧
    (⟨1, "G1 - A", 1, none, 25, true, 1, some "A"⟩ : ClassRow) ∈ gapSchool.val.classes := by
  decide +kernel

/-- The student of the lower level is to graduate although a level is higher. -/
theorem gap_graduates : ¬∀ (d d' : Db) (y : Nat) (facts : List PlanFact),
    getRolloverPlanFacts y d = .ok facts d' →
      OneFactEach d.val y facts ∧ FinishersGraduate d.val facts := by
  intro h
  obtain ⟨hlow, hhigh, hs, hc⟩ := gapSchool_levels
  have hfacts := getRolloverPlanFacts_of (d := gapSchool) (y := 1) (by simp [gapSchool_facts])
  have hfinish := (h _ _ _ _ hfacts).2
  rw [gapSchool_facts] at hfinish
  refine hfinish _ (List.mem_singleton_self _) (propose_graduate_iff.2 rfl) _
    ⟨hlow, _, hs, rfl, _, hc, rfl, rfl⟩ ⟨_, hhigh, 1, rfl, 3, rfl, by decide⟩

end Sams.School
