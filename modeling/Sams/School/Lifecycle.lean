import Sams.School.Years

/-!
# The lifecycle of a student

A student is enrolled and placed in a class of the active year, or is unplaced: enrolled,
graduated or withdrawn (`Shape`). The operations that place students check neither the student's
status nor the year of the class, and a commit leaves a student without an applied line where they
are. **`lifecycle_run`**: every run keeps the shapes as long as each placement is of an enrolled
student in a class of the active year, each promotion is of an enrolled student, and each commit
that closes a year moves every student who is placed in it. Without the conditions it does not:
`withdrawn_student_placed` places a student who has left.
-/

namespace Sams.School

open Programs Rows Runs TenantService

/-- What a student's status and class may be together. -/
inductive Shape (d : Db) (s : StudentRow) : Prop where
  | placed (cid y : Nat) (hst : s.status = .enrolled) (hc : s.classId = some cid)
      (hclass : d.val.ClassIn cid y) (hy : d.val.YearIs y .active)
  | unplaced (hst : s.status = .enrolled) (hc : s.classId = none)
  | graduated (hst : s.status = .graduated) (hc : s.classId = none)
  | withdrawn (hst : s.status = .withdrawn) (hc : s.classId = none)

/-- Every student has a shape. -/
def Lifecycle (d : Db) : Prop := ∀ s ∈ d.val.students, Shape d s

/-- Only placements restrict: whoever is placed is enrolled, in a class of the active year. -/
theorem lifecycle_iff {d : Db} : Lifecycle d ↔
    ∀ sid cid y, d.val.Placed sid cid y → d.val.Enrolled sid ∧ d.val.YearIs y .active := by
  constructor
  · rintro h sid cid y ⟨⟨s, hs, rfl, hcid⟩, c, hc, rfl, rfl⟩
    cases h s hs with
    | placed cid' y hst hc' hclass hy =>
      obtain ⟨c', hcm, rfl, rfl⟩ := hclass
      have hid : c'.id = c.id := Option.some.inj (hc'.symm.trans hcid)
      rw [Db.class_unique hcm hc hid] at hy
      exact ⟨⟨s, hs, rfl, hst⟩, hy⟩
    | unplaced _ hnone => simp [hcid] at hnone
    | graduated _ hnone => simp [hcid] at hnone
    | withdrawn _ hnone => simp [hcid] at hnone
  · intro h s hs
    cases hcid : s.classId with
    | none =>
      cases hst : s.status with
      | enrolled => exact .unplaced hst hcid
      | graduated => exact .graduated hst hcid
      | withdrawn => exact .withdrawn hst hcid
    | some cid =>
      obtain ⟨c, -, rfl, hp⟩ := Db.placed_of_classId hs hcid
      obtain ⟨⟨s', hs', hid, hst⟩, hy⟩ := h _ _ _ hp
      rw [Db.student_unique hs' hs hid] at hst
      exact .placed c.id c.academicYearId hst hcid hp.2 hy

/-! ## One step -/

theorem lifecycle_of_quiet {d d' : Db} (h : Quiet d d') (hL : Lifecycle d) : Lifecycle d' := by
  rw [lifecycle_iff] at hL ⊢
  intro sid cid y hp
  obtain ⟨⟨s, hs, rfl, hst⟩, hy⟩ := hL sid cid y (h.placed sid cid y hp)
  constructor
  · -- the statuses are the same, so the student is enrolled there too
    have hmem : (s.id, s.status) ∈ d'.val.statuses := h.statuses ▸ List.mem_map_of_mem hs
    obtain ⟨s', hs', he⟩ := List.mem_map.1 hmem
    obtain ⟨hid, hst'⟩ := Prod.mk.inj he
    exact ⟨s', hs', hid, hst'.trans hst⟩
  · rwa [Tables.YearIs, Tables.year?, h.years]

theorem lifecycle_of_plans {d d' : Db} (h : PlansOnly d d') (hL : Lifecycle d) : Lifecycle d' := by
  rw [lifecycle_iff] at hL ⊢
  intro sid cid y hp
  unfold Tables.Placed Tables.ClassIn Tables.Enrolled at *
  rw [h.students, h.classes] at hp
  obtain ⟨he, hy⟩ := hL sid cid y hp
  exact ⟨h.students ▸ he, h.statuses y _ hy⟩

/-- Placing enrolled students in classes of the active year. -/
theorem lifecycle_of_places {d d' : Db} {P : Nat → Option Nat → Prop} (h : Places P True d d')
    (hP : ∀ sid cid y, P sid (some cid) → d.val.ClassIn cid y →
      d.val.YearIs y .active ∧ ∀ s ∈ d.val.students, s.id = sid → s.status = .enrolled)
    (hL : Lifecycle d) : Lifecycle d' := by
  rw [lifecycle_iff] at hL ⊢
  rintro sid cid y ⟨⟨s', hs', rfl, hcid⟩, c, hc, rfl, rfl⟩
  have hclass : d.val.ClassIn c.id c.academicYearId := ⟨c, h.classes ▸ hc, rfl, rfl⟩
  have hyear : ∀ {y}, d.val.YearIs y .active → d'.val.YearIs y .active := by
    intro y hy
    rwa [Tables.YearIs, Tables.year?, h.years]
  rcases h.origin s' hs' with ⟨s, hs, hid, hst, hsame | hnew⟩ | ⟨-, -, hst, hnew⟩
  · have hp : d.val.Placed s.id c.id c.academicYearId :=
      ⟨⟨s, hs, rfl, hsame.symm.trans hcid⟩, hclass⟩
    obtain ⟨⟨s₀, hs₀, hid₀, hst₀⟩, hy⟩ := hL _ _ _ hp
    rw [Db.student_unique hs₀ hs hid₀] at hst₀
    exact ⟨⟨s', hs', rfl, hst.symm.trans hst₀⟩, hyear hy⟩
  · obtain ⟨hy, henr⟩ := hP _ _ _ (hcid ▸ hnew) hclass
    exact ⟨⟨s', hs', rfl, hst.symm.trans (henr s hs hid)⟩, hyear hy⟩
  · exact ⟨⟨s', hs', rfl, hst⟩, hyear (hP _ _ _ (hcid ▸ hnew) hclass).1⟩

/-- What a commit needs of the lines of its rollover. -/
structure LinesFit (d : Db) (r : RolloverRow) : Prop where
  promoted : ∀ l ∈ d.val.openLines r.id, l.effective = .promote → d.val.Enrolled l.studentId
  moved : d.val.YearIs r.fromYearId .active → ∀ sid cid, d.val.Placed sid cid r.fromYearId →
    ∃ l ∈ d.val.openLines r.id, l.studentId = sid ∧ l.effective ≠ .hold

theorem lifecycle_of_commit {d d' : Db} {r : RolloverRow} (h : Committed d r d')
    (hr : r ∈ d.val.rollovers) (hfit : LinesFit d r) (hL : Lifecycle d) :
    Lifecycle d' := by
  have hto : d'.val.YearIs r.toYearId .active := by
    obtain ⟨-, st, ht⟩ := Db.rollover_years hr
    have hto := flipped_yearIs h.years ht
    rwa [if_pos rfl] at hto
  rw [lifecycle_iff] at hL ⊢
  rintro sid cid y ⟨⟨s', hs', rfl, hcid⟩, c, hc, rfl, rfl⟩
  obtain ⟨s, hs, hid, hmoved | ⟨rfl, hheld⟩⟩ := h.students s' hs'
  · -- whoever was moved into a class was promoted
    obtain ⟨l, hl, hls, ho⟩ := hmoved
    obtain ⟨hact, hst, c', hcm', hce', hcy'⟩ := ho.of_classId hcid
    obtain ⟨s₀, hs₀, hid₀, hst₀⟩ := hfit.promoted l hl hact
    rw [Db.student_unique hs₀ hs (hid₀.trans hls)] at hst₀
    have hcc : c' = c := Db.class_unique hcm' hc hce'
    exact ⟨⟨s', hs', rfl, hst.trans hst₀⟩, hcc ▸ hcy'.symm ▸ hto⟩
  · -- whoever stays was in a class of the active year, which is not the year that is closed
    obtain ⟨c₀, hc₀, hce, hp⟩ := Db.placed_of_classId hs hcid
    obtain ⟨opened, hopened, -⟩ := h.classes
    have hcc : c₀ = c :=
      Db.class_unique (d := d') (by rw [hopened]; exact List.mem_append_left _ hc₀) hc hce
    subst hcc
    obtain ⟨henr, hy⟩ := hL _ _ _ hp
    obtain ⟨s₀, hs₀, hid₀, hst₀⟩ := henr
    rw [Db.student_unique hs₀ hs hid₀] at hst₀
    refine ⟨⟨s', hs', rfl, hst₀⟩, ?_⟩
    have hy' := flipped_yearIs h.years hy
    split_ifs at hy' with ht hf
    · exact hy'
    · obtain ⟨l, hl, hls, hne⟩ := hfit.moved (hf ▸ hy) _ _ (hf ▸ hp)
      exact absurd (hheld l hl hls) hne
    · exact hy'

/-! ## Runs -/

section Runs

variable [Unicode]

/-- The call places enrolled students in classes of the active year, and commits a rollover whose
lines fit. -/
structure RespectsLifecycle (d : Db) (op : Op) : Prop where
  placing : ∀ sid cid y, op.Target d sid (some cid) → d.val.ClassIn cid y →
    d.val.YearIs y .active ∧ ∀ s ∈ d.val.students, s.id = sid → s.status = .enrolled
  committing : ∀ r, op.Attempts d r → LinesFit d r

theorem lifecycle_step {d : Db} {op : Op} (hop : RespectsLifecycle d op)
    (hL : Lifecycle d) : Lifecycle (step d op) := by
  rcases step_kinds d op with h | h | h | ⟨r, hattempt, h⟩
  · exact lifecycle_of_quiet h hL
  · exact lifecycle_of_places h hop.placing hL
  · exact lifecycle_of_plans h hL
  · exact lifecycle_of_commit h hattempt.1 (hop.committing r hattempt) hL

/-- **The lifecycle holds throughout every run that respects it.** -/
theorem lifecycle_run {d : Db} (hL : Lifecycle d) {ops : List Op}
    (hops : EachStep step RespectsLifecycle d ops) : Throughout step Lifecycle d ops :=
  run_throughout (fun _ _ hL hop => lifecycle_step hop hL) hL hops

end Runs

theorem lifecycle_smallSchool : Lifecycle smallSchool := by
  intro s hs
  obtain rfl : s = ⟨1, "S", some 1, none, none, .enrolled, none⟩ := by
    simpa [smallSchool, smallSchoolTables] using hs
  exact .placed 1 1 rfl rfl ⟨⟨1, "G1 - A", 1, none, 25, true, 1, some "A"⟩, by decide, rfl, rfl⟩ rfl

theorem planned_lines : (smallRun (planned 100 1 2)).val.students =
      [⟨1, "S", some 1, none, none, .enrolled, none⟩] ∧
    ((smallRun (planned 100 1 2)).val.openLines 100).map
      (fun l => (l.studentId, l.effective)) = [(1, .promote)] := by decide +kernel

theorem respects_committed {d : Db}
    (hstudents : d.val.students = [⟨1, "S", some 1, none, none, .enrolled, none⟩])
    (hlines : (d.val.openLines 100).map (fun l => (l.studentId, l.effective)) = [(1, .promote)]) :
    RespectsLifecycle d (committed 100) := by
  refine ⟨fun _ _ _ h => h.elim, ?_⟩
  rintro r ⟨-, -, u, c, hop, -⟩
  have hid : r.id = 100 := by
    injection hop with _ hid
    exact hid.symm
  constructor
  · rw [hid]
    intro l hl _
    have hline := List.mem_map_of_mem (f := fun l => (l.studentId, l.effective)) hl
    rw [hlines, List.mem_singleton, Prod.mk.injEq] at hline
    exact ⟨_, hstudents ▸ List.mem_singleton_self _, hline.1.symm, rfl⟩
  · rintro - sid cid ⟨⟨s, hs, rfl, -⟩, -⟩
    rw [hid]
    rw [hstudents, List.mem_singleton] at hs
    subst hs
    obtain ⟨l, hl, hline⟩ := List.mem_map.1 (hlines ▸ List.mem_singleton_self _)
    obtain ⟨hstudent, heffective⟩ := Prod.mk.inj hline
    exact ⟨l, hl, hstudent, by rw [heffective]; decide⟩

theorem committed_classes :
    ((@step ascii (smallRun (planned 100 1 2)) (committed 100)).val.year? 2).map YearRow.status =
        some .active ∧
      (@step ascii (smallRun (planned 100 1 2)) (committed 100)).val.classes.map
        (fun c => (c.id, c.academicYearId)) = [(1, 1), (100, 2)] := by decide +kernel

/-- Enroll another student, in the class `classId`. -/
def newcomer (classId : Nat) : Op :=
  .createStudent ["school_admin"] "n@school" "N" classId none none none

theorem respects_newcomer {d : Db} (hyear : d.val.YearIs 2 .active)
    (hclasses : d.val.classes.map (fun c => (c.id, c.academicYearId)) = [(1, 1), (100, 2)]) :
    RespectsLifecycle d (newcomer 100) := by
  constructor
  · rintro sid cid y ⟨-, hnew, hcid⟩ ⟨c, hc, rfl, rfl⟩
    have hid : c.id = 100 := Option.some.inj hcid
    have hin := List.mem_map_of_mem (f := fun c => (c.id, c.academicYearId)) hc
    have hyear' : c.academicYearId = 2 := by simpa [hclasses, hid] using hin
    exact ⟨hyear' ▸ hyear, fun s hs hsid => absurd ⟨s, hs, hsid⟩ hnew⟩
  · rintro r ⟨-, -, u, c, hop, -⟩
    cases hop

/-- The student is promoted by a rollover, and another is placed in the class of the new year. -/
theorem lifecycle_run_smallSchool : Throughout (@step ascii) Lifecycle smallSchool
    (planned 100 1 2 ++ [committed 100, newcomer 100]) := by
  have hplanned : EachStep (@step ascii) RespectsLifecycle smallSchool (planned 100 1 2) := by
    refine ⟨⟨fun _ _ _ h => h.elim, ?_⟩, ⟨fun _ _ _ h => h.elim, ?_⟩, trivial⟩
    · rintro r ⟨-, -, u, c, hop, -⟩
      cases hop
    · rintro r ⟨-, -, u, c, hop, -⟩
      cases hop
  refine @lifecycle_run ascii smallSchool lifecycle_smallSchool _
    (eachStep_append.2 ⟨hplanned, ?_, ?_, trivial⟩)
  · exact respects_committed (d := smallRun (planned 100 1 2)) planned_lines.1 planned_lines.2
  · exact respects_newcomer (d := @step ascii (smallRun (planned 100 1 2)) (committed 100))
      committed_classes.1 committed_classes.2

/-- The student is withdrawn by the rollover, and then placed in a class of the closed year. -/
def withdrawThenPlace : List Op :=
  planned 100 1 2 ++ [.overrideRolloverLine ["school_admin"] 100 (some "withdraw") none none,
    committed 100, .reassignStudentClass ["school_admin"] 1 (some 1) none]

theorem withdrawThenPlace_students :
    (smallRun withdrawThenPlace).val.students =
      [⟨1, "S", some 1, none, none, .withdrawn, none⟩] := by decide +kernel

theorem withdrawn_student_placed :
    Lifecycle smallSchool ∧ ¬Lifecycle (smallRun withdrawThenPlace) := by
  refine ⟨lifecycle_smallSchool, fun h => ?_⟩
  have hshape := h ⟨1, "S", some 1, none, none, .withdrawn, none⟩
    (by rw [withdrawThenPlace_students]; exact List.mem_singleton_self _)
  cases hshape with
  | placed _ _ hst => cases hst
  | unplaced hst => cases hst
  | graduated hst => cases hst
  | withdrawn _ hc => cases hc

end Sams.School
