import Sams.School.Atomic

/-!
# Where a promotion lands

A commit finds or opens the class of a promoting line by its composed name, `level - section`.
The name does not always tell the targets apart.

* **`promotes_land_iff`**: every promoted student lands in a class of the level and section of
  their line exactly when lines of one name have one target, and a class that `to_year` already
  has under that name has it too. `renamed_level` is a run in which they do not.
* **`opened_fit_iff`**: no class that a commit opens is over its capacity exactly when, for each
  name it opens, the class that the first promoting line of the name comes from has room for all
  the lines of the name. A preview compares with another number: `repeaters` is a run whose
  preview flags nothing, and whose commit puts two students in a class of capacity one.
-/

namespace Sams.School

open Programs Rows TenantRepository TenantService

/-! ## The class of a name -/

/-- The student of the line sits in a class of its level and section, in the year. -/
def Lands (t : Tables) (toYear : Nat) (l : LineRow) : Prop :=
  ∃ s ∈ t.students, s.id = l.studentId ∧ ∃ c ∈ t.classes, s.classId = some c.id ∧
    l.target = (some c.levelId, c.sectionLabel) ∧ c.academicYearId = toYear

/-- After the commit of `r`, every student whose effective action was a promotion has landed. -/
def PromotesLand (d : Db) (r : RolloverRow) (d' : Db) : Prop :=
  ∀ l ∈ d.val.openLines r.id, l.effective = .promote → Lands d'.val r.toYearId l

/-- A composed name tells the target of a promoting line. -/
structure NamesTell (t : Tables) (r : RolloverRow) : Prop where
  lines : ∀ l ∈ t.openLines r.id, ∀ l' ∈ t.openLines r.id, l.effective = .promote →
    l'.effective = .promote → t.targetName l = t.targetName l' → l.target = l'.target
  classes : ∀ l ∈ t.openLines r.id, l.effective = .promote → ∀ c ∈ t.classes,
    c.academicYearId = r.toYearId → t.targetName l = some c.name →
      l.target = (some c.levelId, c.sectionLabel)

variable {d d' : Db} {r : RolloverRow} {resolved : List (TargetKey × Nat)}

/-- In a year there is one class of a name. -/
theorem Db.named_unique {c c' : ClassRow} (hc : c ∈ d.val.classes) (hc' : c' ∈ d.val.classes)
    (hn : c.name = c'.name) (hy : c.academicYearId = c'.academicYearId) : c = c' :=
  d.ok.unique.class_name_academic_year.eq_of_key_eq hc hc' (Prod.ext hn hy)

/-- A promoted student sits in the class of the line's name. -/
theorem Performed.landed (h : Performed d r resolved d') {l : LineRow}
    (hl : l ∈ d.val.openLines r.id) (hact : l.effective = .promote) :
    ∃ s ∈ d'.val.students, s.id = l.studentId ∧ ∃ c ∈ d'.val.classes, s.classId = some c.id ∧
      d.val.targetName l = some c.name ∧ c.academicYearId = r.toYearId := by
  obtain ⟨s, hs, hid, hs'⟩ := h.exists_row hl
  obtain ⟨cid, hcid, c, hc, rfl, hname, hyear⟩ := h.found l hl hact
  exact ⟨_, hs', by simpa using hid, c, hc, by simp [LineRow.move, hact, hcid], hname, hyear⟩

/-- Landing is a matter of the class of the line's name. -/
theorem Performed.lands_iff (h : Performed d r resolved d') {l : LineRow}
    (hl : l ∈ d.val.openLines r.id) (hact : l.effective = .promote) :
    Lands d'.val r.toYearId l ↔ ∀ c ∈ d'.val.classes, d.val.targetName l = some c.name →
      c.academicYearId = r.toYearId → l.target = (some c.levelId, c.sectionLabel) := by
  obtain ⟨s, hs, hid, c, hc, hsc, hname, hyear⟩ := h.landed hl hact
  constructor
  · rintro ⟨s', hs', hid', c', hc', hsc', htarget, -⟩ c₁ hc₁ hname₁ hyear₁
    obtain rfl := Db.student_unique hs hs' (hid.trans hid'.symm)
    have hcc : c.id = c'.id := Option.some.inj (hsc.symm.trans hsc')
    obtain rfl := Db.class_unique hc hc' hcc
    have hn : c.name = c₁.name := Option.some.inj (hname.symm.trans hname₁)
    rwa [← Db.named_unique hc hc₁ hn (hyear.trans hyear₁.symm)]
  · intro htarget
    exact ⟨s, hs, hid, c, hc, hsc, htarget c hc hname hyear, hyear⟩

theorem Performed.promotesLand_iff (h : Performed d r resolved d') :
    PromotesLand d r d' ↔ NamesTell d.val r := by
  obtain ⟨opened, hclasses, hopened⟩ := h.classes
  constructor
  · intro hland
    have hold : ∀ c ∈ d.val.classes, c ∈ d'.val.classes := fun c hc => by
      rw [hclasses]
      exact List.mem_append_left _ hc
    constructor
    · intro l hl l' hl' hact hact' hname
      obtain ⟨-, -, -, c, hc, -, hn, hy⟩ := h.landed hl hact
      rw [(h.lands_iff hl hact).1 (hland l hl hact) c hc hn hy,
        (h.lands_iff hl' hact').1 (hland l' hl' hact') c hc (hname ▸ hn) hy]
    · intro l hl hact c hc hy hn
      exact (h.lands_iff hl hact).1 (hland l hl hact) c (hold c hc) hn hy
  · intro htell l hl hact
    refine (h.lands_iff hl hact).2 fun c hc hn hy => ?_
    rw [hclasses] at hc
    rcases List.mem_append.1 hc with hc | hc
    · exact htell.classes l hl hact c hc hy hn
    · -- the class was opened by a line of the same name
      obtain ⟨l', src, hfind, htarget, -⟩ := (hopened c hc).source
      have hmem := List.mem_of_find?_eq_some hfind
      obtain ⟨hl', hopen⟩ := List.mem_filter.1 hmem
      have hname : d.val.targetName l' = some c.name := by simpa using List.find?_some hfind
      rw [htell.lines l hl l' hl' hact (of_decide_eq_true hopen).1 (hn.trans hname.symm), htarget]

/-- **Every promoted student lands where the line says exactly when names tell targets.** -/
theorem promotes_land_iff [Unicode] {u : List String} {rid : Nat} {changedBy : Option Nat}
    {d d' : Db} {o : Option RolloverRow} {r : RolloverRow} (hr : d.val.rollover? rid = some r)
    (hstate : r.state = .previewed) (h : commitRollover u rid changedBy d = .ok o d') :
    PromotesLand d r d' ↔ NamesTell d.val r := by
  obtain ⟨resolved, hp⟩ := commit_performed hr hstate h
  exact hp.promotesLand_iff

theorem planned_rollover :
    (smallRun (planned 100 1 2)).val.rollover? 100 = some ⟨100, 1, 2, .previewed, none, none⟩ := by
  decide +kernel

theorem promotes_land_iff_planned : ∃ o d', @commitRollover ascii ["school_admin"] 100 none
      (smallRun (planned 100 1 2)) = .ok o d' ∧
    (PromotesLand (smallRun (planned 100 1 2)) ⟨100, 1, 2, .previewed, none, none⟩ d' ↔
      NamesTell (smallRun (planned 100 1 2)).val ⟨100, 1, 2, .previewed, none, none⟩) := by
  obtain ⟨o, d', h⟩ := returns_iff.1 planned_commit
  exact ⟨o, d', h, @promotes_land_iff ascii _ _ _ _ _ _ _ planned_rollover rfl h⟩

/-- Two classes of the highest level with a place each and one student in each. -/
def topClasses : Db :=
  ⟨{ smallSchoolTables with
      classes := [⟨1, "G2 - A", 2, none, 1, true, 1, some "A"⟩,
        ⟨2, "G2 - B", 2, none, 1, true, 1, some "B"⟩]
      students := [⟨1, "S", some 1, none, none, .enrolled, none⟩,
        ⟨2, "T", some 2, none, none, .enrolled, none⟩] }, by decide +kernel⟩

/-- Level 1 is given the name of level 2. Both students are to repeat a year in section A, one at
each level. -/
def renamedLevel : Db := Runs.run (@step ascii) topClasses
  [.updateLevel ["school_admin"] 1 (some "G2") ⟨none, none, none, none⟩ none,
   .generateRolloverPlan ["school_admin"] 1 2 none,
   .overrideRolloverLine ["school_admin"] 100 (some "promote") (some 2) (some "A"),
   .overrideRolloverLine ["school_admin"] 101 (some "promote") (some 1) (some "A"),
   .previewRollover ["school_admin"] 100]

theorem renamedLevel_run :
    renamedLevel.val.rollover? 100 = some ⟨100, 1, 2, .previewed, none, none⟩ ∧
    (∃ l ∈ renamedLevel.val.openLines 100,
      ∃ l' ∈ renamedLevel.val.openLines 100, l.effective = .promote ∧ l'.effective = .promote ∧
        renamedLevel.val.targetName l = renamedLevel.val.targetName l' ∧ l.target ≠ l'.target) ∧
    returns (@commitRollover ascii ["school_admin"] 100 none) renamedLevel = true := by
  decide +kernel

/-- Both lines compose the name `G2 - A`, and both students end up at level 2. -/
theorem renamed_level :
    ¬∀ (d d' : Db) (u : List String) (rid : Nat) (changedBy : Option Nat) (o : Option RolloverRow)
      (r : RolloverRow), d.val.rollover? rid = some r → r.state = .previewed →
        @commitRollover ascii u rid changedBy d = .ok o d' → PromotesLand d r d' := by
  intro h
  obtain ⟨hr, ⟨l, hl, l', hl', hact, hact', hname, hne⟩, hret⟩ := renamedLevel_run
  obtain ⟨o, d', hok⟩ := returns_iff.1 hret
  obtain ⟨resolved, hp⟩ := @commit_performed ascii _ _ _ _ _ _ _ hr rfl hok
  have htell := hp.promotesLand_iff.1 (h _ _ _ _ _ _ _ hr rfl hok)
  exact hne (htell.lines l hl l' hl' hact hact' hname)

/-! ## How many fit -/

/-- The students in a class. -/
def headcount (t : Tables) (cid : Nat) : Nat := t.students.countP fun s => s.classId = some cid

/-- No line of the rollover is flagged as over capacity. -/
def Unflagged (t : Tables) (rid : Nat) : Prop :=
  ∀ l ∈ t.linesOf rid, l.exceptionCode ≠ some .overCapacity

/-- No class that came holds more students than its capacity. -/
def OpenedFit (d d' : Db) : Prop :=
  ∀ c ∈ d'.val.classes, c ∉ d.val.classes → (headcount d'.val c.id : Int) ≤ c.capacity

/-- The lines that promote into the class of a name. -/
def Tables.promoting (t : Tables) (rid : Nat) (name : Option String) : Nat :=
  (t.openLines rid).countP fun l => l.effective = .promote ∧ t.targetName l = name

/-- For every name that `to_year` has no class of: the class from which the first promoting line of
the name comes has room for all lines of the name. -/
def SourcesFit (t : Tables) (r : RolloverRow) : Prop :=
  ∀ l ∈ t.openLines r.id,
    (opening (t.openLines r.id)).find? (fun x => t.targetName x = t.targetName l) = some l →
    (∀ c ∈ t.classes, c.academicYearId = r.toYearId → t.targetName l ≠ some c.name) →
    ∀ src, l.fromClassId.bind t.class? = some src →
      (t.promoting r.id (t.targetName l) : Int) ≤ src.capacity

/-- The students of a class that was opened are those of the lines of its name. -/
theorem Performed.headcount_eq (h : Performed d r resolved d') {c : ClassRow}
    (hc : c ∈ d'.val.classes) (hnew : c ∉ d.val.classes) :
    headcount d'.val c.id = d.val.promoting r.id (some c.name) := by
  obtain ⟨opened, hclasses, hopened⟩ := h.classes
  have hcopen : c ∈ opened := by
    rw [hclasses] at hc
    exact (List.mem_append.1 hc).resolve_left hnew
  have hfresh : ∀ s ∈ d.val.students, s.classId ≠ some c.id := by
    intro s hs hsc
    obtain ⟨c', hc', hid⟩ := d.ok.placements.student_class.exists_row hs hsc
    have hc'' : c' ∈ d'.val.classes := by
      rw [hclasses]
      exact List.mem_append_left _ hc'
    exact hnew (Db.class_unique hc'' hc hid ▸ hc')
  symm
  refine h.countP_eq (fun l hl s hs hid => ?_) fun s hs _ => by simp [hfresh s hs]
  simp only [decide_eq_true_eq]
  cases hact : l.effective with
  | promote =>
    obtain ⟨cid, hcid, c', hc', rfl, hname, hyear⟩ := h.found l hl hact
    simp only [LineRow.move, hact, hcid, true_and, Option.some.injEq, hname]
    constructor
    · intro he
      rw [Db.class_unique hc' hc he]
    · intro hn
      rw [Db.named_unique hc' hc hn (hyear.trans (hopened c hcopen).year.symm)]
  | hold => simpa [LineRow.move, hact] using hfresh s hs
  | _ => simp [LineRow.move, hact]

theorem Performed.openedFit_iff (h : Performed d r resolved d') :
    OpenedFit d d' ↔ SourcesFit d.val r := by
  obtain ⟨opened, hclasses, hopened⟩ := h.classes
  constructor
  · intro hfit l hl hfirst hno src hsrc
    obtain ⟨-, hopening⟩ := List.mem_filter.1 (List.mem_of_find?_eq_some hfirst)
    obtain ⟨-, -, c, hc, -, hname, hyear⟩ := h.found l hl (of_decide_eq_true hopening).1
    have hnew : c ∉ d.val.classes := fun hold => hno c hold hyear hname
    have hcopen : c ∈ opened := by
      rw [hclasses] at hc
      exact (List.mem_append.1 hc).resolve_left hnew
    -- the class was opened by the first line of its name, which is `l`
    obtain ⟨l', src', hfind, -, hsrc', hcap⟩ := (hopened c hcopen).source
    rw [← hname, hfirst] at hfind
    obtain rfl := Option.some.inj hfind
    rw [hsrc] at hsrc'
    obtain rfl := Option.some.inj hsrc'
    have := hfit c hc hnew
    rwa [h.headcount_eq hc hnew, ← hname, hcap] at this
  · intro hsources c hc hnew
    have hcopen : c ∈ opened := by
      rw [hclasses] at hc
      exact (List.mem_append.1 hc).resolve_left hnew
    obtain ⟨l, src, hfind, -, hsrc, hcap⟩ := (hopened c hcopen).source
    have hname : d.val.targetName l = some c.name := by simpa using List.find?_some hfind
    have hl := (List.mem_filter.1 (List.mem_of_find?_eq_some hfind)).1
    rw [h.headcount_eq hc hnew, hcap, ← hname]
    refine hsources l hl (hname ▸ hfind) (fun c' hc' hy hn => ?_) src hsrc
    exact (hopened c hcopen).fresh c' hc' hy (Option.some.inj (hn.symm.trans hname))

/-- **Without a flag, the opened classes hold their students exactly when the sources do.** -/
theorem opened_fit_iff [Unicode] {u : List String} {rid : Nat} {changedBy : Option Nat}
    {d d' : Db} {o : Option RolloverRow} {r : RolloverRow} (hr : d.val.rollover? rid = some r)
    (hstate : r.state = .previewed) (h : commitRollover u rid changedBy d = .ok o d') :
    (Unflagged d.val rid → OpenedFit d d') ↔ (Unflagged d.val rid → SourcesFit d.val r) := by
  obtain ⟨resolved, hp⟩ := commit_performed hr hstate h
  exact imp_congr_right fun _ => hp.openedFit_iff

theorem opened_fit_iff_planned : ∃ o d', @commitRollover ascii ["school_admin"] 100 none
      (smallRun (planned 100 1 2)) = .ok o d' ∧
    ((Unflagged (smallRun (planned 100 1 2)).val 100 → OpenedFit (smallRun (planned 100 1 2)) d') ↔
      (Unflagged (smallRun (planned 100 1 2)).val 100 →
        SourcesFit (smallRun (planned 100 1 2)).val ⟨100, 1, 2, .previewed, none, none⟩)) := by
  obtain ⟨o, d', h⟩ := returns_iff.1 planned_commit
  exact ⟨o, d', h, @opened_fit_iff ascii _ _ _ _ _ _ _ planned_rollover rfl h⟩

/-- Both students are to repeat the year in section A. -/
def repeaters : Db := Runs.run (@step ascii) topClasses
  [.generateRolloverPlan ["school_admin"] 1 2 none,
   .overrideRolloverLine ["school_admin"] 100 (some "promote") (some 2) (some "A"),
   .overrideRolloverLine ["school_admin"] 101 (some "promote") (some 2) (some "A")]

/-- The preview is made; the lines promote out of a class of capacity one, and two of
them into a new class. -/
theorem repeaters_previewed : returns (previewRollover ["school_admin"] 100) repeaters = true ∧
    let d := after (previewRollover ["school_admin"] 100) repeaters
    d.val.rollover? 100 = some ⟨100, 1, 2, .previewed, none, none⟩ ∧
    (∀ l ∈ d.val.linesOf 100, l.exceptionCode ≠ some .overCapacity) ∧
    returns (@commitRollover ascii ["school_admin"] 100 none) d = true ∧
    ∃ l ∈ d.val.openLines 100,
      (opening (d.val.openLines 100)).find? (fun x => d.val.targetName x = d.val.targetName l) =
        some l ∧
      (∀ c ∈ d.val.classes, c.academicYearId = 2 → d.val.targetName l ≠ some c.name) ∧
      (l.fromClassId.bind d.val.class?).map ClassRow.capacity = some 1 ∧
      d.val.promoting 100 (d.val.targetName l) = 2 := by
  decide +kernel

/-- The preview flags nothing, and the commit puts two students in a class of capacity one. -/
theorem repeaters_over_capacity :
    ¬∀ (d₀ d d' : Db) (u u' : List String) (rid : Nat) (changedBy : Option Nat)
      (view : RolloverView)
      (o : Option RolloverRow), previewRollover u rid d₀ = .ok view d → Unflagged d.val rid →
        @commitRollover ascii u' rid changedBy d = .ok o d' → OpenedFit d d' := by
  intro h
  obtain ⟨hpreview, hrun⟩ := repeaters_previewed
  obtain ⟨view, d, hview⟩ := returns_iff.1 hpreview
  rw [after_ok hview] at hrun
  obtain ⟨hr, hflags, hret, l, hl, hfirst, hno, hcap, hcount⟩ := hrun
  obtain ⟨o, d', hok⟩ := returns_iff.1 hret
  obtain ⟨resolved, hp⟩ := @commit_performed ascii _ _ _ _ _ _ _ hr rfl hok
  have hfit := hp.openedFit_iff.1 (h _ _ _ _ _ _ _ _ _ hview hflags hok)
  obtain ⟨src, hsrc, hcap⟩ := Option.map_eq_some_iff.1 hcap
  have hle := hfit l hl hfirst hno src hsrc
  rw [hcount, hcap] at hle
  omega

end Sams.School
