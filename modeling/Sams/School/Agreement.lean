import Sams.School.Coverage
import Sams.School.History
import Sams.School.Ladder
import Sams.School.Pending

/-!
# Lines and placements at a commit

A line names the class its student was in when the rollover was last recomputed, and the commit
records that class as the old one. Meanwhile students are placed elsewhere and classes are
deleted. A deletion nulls the class in the lines and in the students alike, so only a placement
makes a line outdated.

`watch` runs the school together with a ghost: which students have been placed in another class
since a rollover was last recomputed. **`commit_agrees`**: a commit that moves none of these records
for every student the class that the student was in.
-/

namespace Sams.School

open Programs Rows Runs TenantRepository TenantService

open Tables (setNull)

/-! ## Editing -/

/-- What a line says about its student's class. -/
def LineRow.placement (l : LineRow) : Nat × Nat × Option Nat :=
  (l.rolloverId, l.studentId, l.fromClassId)

/-- Lines and students lose the same classes. -/
def Trims (d d' : Db) : Prop := ∃ gone : Nat → Bool,
  (d'.val.lines.map LineRow.placement =
    (d.val.lines.map LineRow.placement).map fun p => (p.1, p.2.1, setNull gone p.2.2)) ∧
  ∀ sid, d'.val.classOf sid = setNull gone (d.val.classOf sid)

theorem trims_of_eq {d d' : Db}
    (hl : d'.val.lines.map LineRow.placement = d.val.lines.map LineRow.placement)
    (hs : d'.val.students = d.val.students) : Trims d d' := by
  refine ⟨fun _ => false, ?_, fun sid => ?_⟩
  · rw [hl]
    refine ((List.map_congr_left fun p _ => ?_).trans (List.map_id _)).symm
    simp [Tables.setNull_never]
  · rw [Tables.setNull_never, Tables.classOf, Tables.student?, hs]
    rfl

instance : IsPreorder Db Trims where
  refl _ := trims_of_eq rfl rfl
  trans d d' d'' h h' := by
    obtain ⟨gone, hlines, hclass⟩ := h
    obtain ⟨gone', hlines', hclass'⟩ := h'
    refine ⟨fun id => gone id || gone' id, ?_, fun sid => ?_⟩
    · rw [hlines', hlines, List.map_map]
      refine List.map_congr_left fun p _ => ?_
      simp [Tables.setNull_setNull]
    · rw [hclass', hclass, Tables.setNull_setNull]

theorem trims_removeClasses (ids : List Nat) (changedBy : Option Nat) :
    Yields Trims (removeClasses ids changedBy) := by
  intro d u d' h
  refine ⟨d.val.among ids, ?_, removed_classOf h⟩
  obtain ⟨d₁, d₂, hset, hrec, hdel⟩ := removeClasses_ok h
  obtain ⟨history, seq, hval⟩ := hrec.only
  rw [hdel, hval, hset]
  simp only [Tables.deleteClasses, Tables.deleteEventClasses, Tables.setStudents, List.map_map,
    decide_eq_true_eq]
  rfl

theorem trims_editable [Unicode] : Editable Trims where
  peripheral h := moves_exec fun d _ => by
    obtain ⟨levels, settings, blackouts, auditLog, seq, hval⟩ := h d.val
    exact trims_of_eq (by simp [hval]) (by simp [hval])
  setClasses _ _ _ := moves_exec fun _ _ => trims_of_eq rfl rfl
  insertClass _ _ := moves_exec fun _ _ => trims_of_eq rfl rfl
  removeClasses := trims_removeClasses

theorem trims_step [Unicode] (d : Db) {op : Op} (hop : op.isEditing = true) :
    Trims d (step d op) := by
  refine trims_editable.step hop (fun _ lid _ _ => moves_exec fun d _ => ?_) d
  refine trims_of_eq ?_ rfl
  simp only [Tables.deleteLevels, List.map_map]
  rfl

/-! ## The ghost -/

/-- The call recomputed the lines of the rollover. -/
inductive Recomputes (rid : Nat) (d : Db) : Op → Db → Prop where
  | generated {u f t c r d₁ d'} (created : Created d f t r d₁) (id : r.id = rid)
      (recomputed : Recomputed d₁ rid f d') : Recomputes rid d (.generateRolloverPlan u f t c) d'
  | previewed {u r d₁ d'} (found : d.val.rollover? rid = some r)
      (recomputed : Recomputed d rid r.fromYearId d₁)
      (written : d' = d₁ ∨ d'.val = d₁.val.setRollovers (fun r => r.id = rid)
        fun r => { r with state := .previewed }) :
      Recomputes rid d (.previewRollover u rid) d'

/-- A school and who has been placed in another class since a rollover was last recomputed. -/
structure Watched where
  db : Db
  moved : Nat → Nat → Prop

/-- Nobody has been placed yet. -/
def watched (d : Db) : Watched := ⟨d, fun _ _ => False⟩

/-- One step of the school. Deleting a class places nobody. -/
def watch [Unicode] (w : Watched) (op : Op) : Watched where
  db := step w.db op
  moved rid sid := ¬Recomputes rid w.db op (step w.db op) ∧
    (w.moved rid sid ∨
      op.isEditing = false ∧ (step w.db op).val.classOf sid ≠ w.db.val.classOf sid)

theorem watch_db [Unicode] (w : Watched) (ops : List Op) :
    (run watch w ops).db = run step w.db ops := by
  induction ops generalizing w with
  | nil => rfl
  | cons op ops ih => exact ih (watch w op)

/-! ## The invariant -/

/-- The lines of students who stayed where they were name the class the student is in. -/
def InSync (w : Watched) : Prop :=
  ∀ l ∈ w.db.val.lines, ¬w.moved l.rolloverId l.studentId →
    l.fromClassId = w.db.val.classOf l.studentId

/-- A fact names the class its student is in. -/
theorem planFact_classOf {d : Db} {y : Nat} {f : PlanFact} (h : f ∈ planFacts d.val y) :
    d.val.classOf f.studentId = some f.fromClassId := by
  obtain ⟨s, hs, -, hf⟩ := mem_planFacts.1 h
  obtain ⟨c, -, hsc, -, lv, -, -, nl, -, rfl⟩ := mem_studentFacts.1 hf
  have hfound : d.val.student? s.id = some s := d.ok.keys.students.find?_eq_some.2 ⟨hs, rfl⟩
  show (d.val.student? s.id).bind StudentRow.classId = some c.id
  rw [hfound]
  exact hsc

/-- A recomputation writes the class the student is in. -/
theorem Recomputed.fromClass {d d' : Db} {rid y : Nat} (h : Recomputed d rid y d') {l' : LineRow}
    (hl' : l' ∈ d'.val.lines) (hr : l'.rolloverId = rid) :
    l'.fromClassId = d.val.classOf l'.studentId := by
  obtain ⟨p, hp, l, rfl, -, hs, -⟩ := h.stored hl' hr
  obtain ⟨f, hf, e, rfl⟩ := mem_proposals hp
  have hclass := planFact_classOf hf
  rw [← (propose_fields f).2.1, ← propose_studentId f] at hclass
  change some (propose f).fromClassId = d.val.classOf l.studentId
  rw [hs]
  exact hclass.symm

theorem OnlyLines.classOf {d d' : Db} (h : OnlyLines d d') (sid : Nat) :
    d'.val.classOf sid = d.val.classOf sid := by
  obtain ⟨lines, seq, hval⟩ := h
  rw [hval]
  rfl

theorem Created.classOf {d d' : Db} {f t : Nat} {r : RolloverRow} (h : Created d f t r d')
    (sid : Nat) : d'.val.classOf sid = d.val.classOf sid := by
  rcases h.state with ⟨-, rfl⟩ | ⟨-, seq, hval⟩
  · rfl
  · rw [hval]
    rfl

/-- After a recomputation the lines of its rollover are in sync. -/
theorem Recomputes.fromClass {rid : Nat} {d d' : Db} {op : Op} (h : Recomputes rid d op d')
    {l : LineRow} (hl : l ∈ d'.val.lines) (hr : l.rolloverId = rid) :
    l.fromClassId = d'.val.classOf l.studentId := by
  cases h with
  | generated hcreated hid hrec =>
    rw [hrec.fromClass hl hr]
    exact (hrec.only.classOf _).symm
  | previewed hfound hrec hwritten =>
    rcases hwritten with rfl | hval
    · rw [hrec.fromClass hl hr]
      exact (hrec.only.classOf _).symm
    · rw [hval] at hl ⊢
      rw [hrec.fromClass hl hr]
      exact (hrec.only.classOf _).symm

/-- A line of a rollover that was not recomputed names the class it named before. -/
theorem Writes.fromClass {d d' : Db} {op : Op} (h : Writes d op d') (hedit : op.isEditing = false)
    {l' : LineRow} (hl' : l' ∈ d'.val.lines) (hno : ¬Recomputes l'.rolloverId d op d') :
    ∃ l ∈ d.val.lines, l'.placement = l.placement := by
  have hother : ∀ {rid y : Nat} {d₁ d₂ : Db}, Recomputed d₁ rid y d₂ → l'.rolloverId ≠ rid →
      l' ∈ d₂.val.lines → l' ∈ d₁.val.lines := by
    intro rid y d₁ d₂ hrec hne hm
    have hm' : l' ∈ d₂.val.linesOf l'.rolloverId := by simp [Tables.linesOf, hm]
    rw [hrec.others hne] at hm'
    exact (List.mem_filter.1 hm').1
  have hcreated : ∀ {f t : Nat} {r : RolloverRow} {d₁ : Db}, Created d f t r d₁ →
      d₁.val.lines = d.val.lines := by
    intro f t r d₁ h
    rcases h.state with ⟨-, rfl⟩ | ⟨-, seq, hval⟩
    · rfl
    · rw [hval]
  cases h with
  | idle _ hlines => exact ⟨l', hlines ▸ hl', rfl⟩
  | edited h => simp [h] at hedit
  | created h => exact ⟨l', hcreated h ▸ hl', rfl⟩
  | generated h hrec =>
    refine ⟨l', hcreated h ▸ hother hrec (fun he => hno ?_) hl', rfl⟩
    exact .generated h he.symm (he ▸ hrec)
  | previewed hfound hstate hrec hwritten =>
    rename_i u rid r d₁
    refine ⟨l', hother hrec (fun he => hno ?_) ?_, rfl⟩
    · subst he
      exact .previewed hfound hrec hwritten
    · rcases hwritten with rfl | hval
      · exact hl'
      · rwa [hval] at hl'
  | overridden _ hfound hover hwritten =>
    rw [hwritten] at hl'
    rcases cases_of_mem_updateWhere hl' with ⟨hm, -⟩ | ⟨y, -, -, rfl⟩
    · exact ⟨l', hm, rfl⟩
    · obtain ⟨action, -, rfl, -⟩ := overridden_some hover
      exact ⟨_, List.mem_of_find?_eq_some hfound, rfl⟩
  | performed _ _ hp =>
    rcases hp.line_origin hl' with ⟨hm, -⟩ | ⟨l, hopen, rfl⟩
    · exact ⟨l', hm, rfl⟩
    · refine ⟨l, (openLines_mem.1 hopen).1, ?_⟩
      unfold LineRow.close
      split_ifs <;> rfl

/-- **A step keeps the invariant.** -/
theorem inSync_watch [Unicode] {w : Watched} (hI : InSync w) (op : Op) : InSync (watch w op) := by
  intro l' hl' hstay
  by_cases hre : Recomputes l'.rolloverId w.db op (step w.db op)
  · exact hre.fromClass hl' rfl
  have hstay : ¬(w.moved l'.rolloverId l'.studentId ∨ op.isEditing = false ∧
      (step w.db op).val.classOf l'.studentId ≠ w.db.val.classOf l'.studentId) :=
    fun h => hstay ⟨hre, h⟩
  cases hedit : op.isEditing with
  | true =>
    obtain ⟨gone, hlines, hclass⟩ := trims_step w.db hedit
    have hm : l'.placement ∈ (step w.db op).val.lines.map LineRow.placement :=
      List.mem_map_of_mem hl'
    rw [hlines, List.map_map] at hm
    obtain ⟨l, hl, he⟩ := List.mem_map.1 hm
    simp only [Function.comp, LineRow.placement, Prod.mk.injEq] at he
    obtain ⟨hr, hs, hfrom⟩ := he
    show l'.fromClassId = (step w.db op).val.classOf l'.studentId
    rw [hclass, ← hfrom, ← hs, hI l hl fun h => hstay (.inl (hr ▸ hs ▸ h))]
  | false =>
    obtain ⟨l, hl, he⟩ := (step_writes w.db op).fromClass hedit hl' hre
    simp only [LineRow.placement, Prod.mk.injEq] at he
    obtain ⟨hr, hs, hfrom⟩ := he
    have hsame : (step w.db op).val.classOf l'.studentId = w.db.val.classOf l'.studentId :=
      not_not.1 fun hne => hstay (.inr ⟨hedit, hne⟩)
    show l'.fromClassId = (step w.db op).val.classOf l'.studentId
    rw [hsame, hfrom, hs]
    exact hI l hl fun h => hstay (.inl (by rwa [hr, hs]))

theorem Fresh.inSync {d : Db} (h : Fresh d) : InSync (watched d) :=
  fun _ hl => (h.no_line hl).elim

/-! ## Commits -/

/-- The commit records, for every line it applies, the class the student was in just before, and
that is the class the line names. -/
structure Agrees (d : Db) (r : RolloverRow) (d' : Db) : Prop where
  recorded : ∃ newClass : LineRow → Option Nat, d'.val.log = d.val.log ++
    (moving (d.val.openLines r.id)).map fun l =>
      (l.studentId, d.val.classOf l.studentId, newClass l)
  fromClass : ∀ l ∈ d.val.openLines r.id, l.effective ≠ .hold →
    l.fromClassId = d.val.classOf l.studentId

theorem Performed.agrees {d d' : Db} {r : RolloverRow} {resolved : List (TargetKey × Nat)}
    (hp : Performed d r resolved d') (h : ∀ l ∈ d.val.openLines r.id, l.effective ≠ .hold →
      l.fromClassId = d.val.classOf l.studentId) : Agrees d r d' := by
  refine ⟨⟨LineRow.newClass resolved, ?_⟩, h⟩
  rw [hp.log]
  congr 1
  refine List.map_congr_left fun l hl => ?_
  obtain ⟨hopen, hact⟩ := List.mem_filter.1 hl
  rw [h l hopen (by simpa using hact)]

/-- What a commit of the rollover answers: it agrees, or it failed and changed nothing. -/
structure CommitAgrees [Unicode] (d : Db) (u : List String) (r : RolloverRow)
    (changedBy : Option Nat) : Prop where
  ok : ∀ o d', commitRollover u r.id changedBy d = .ok o d' → Agrees d r d'
  error : ∀ e d', commitRollover u r.id changedBy d = .error e d' → d' = d

/-- **A commit agrees with the placements**, after every run, when none of the students it moves has
been placed in another class since the rollover was last recomputed. -/
theorem commit_agrees [Unicode] {d : Db} (hfresh : Fresh d) (ops : List Op) {u : List String}
    {changedBy : Option Nat} {r : RolloverRow}
    (hr : r ∈ (run watch (watched d) ops).db.val.rollovers) (hstate : r.state = .previewed)
    (hstay : ∀ l ∈ (run watch (watched d) ops).db.val.openLines r.id, l.effective ≠ .hold →
      ¬(run watch (watched d) ops).moved r.id l.studentId) :
    CommitAgrees (run watch (watched d) ops).db u r changedBy := by
  have hI : InSync (run watch (watched d) ops) :=
    run_inv_of_step (I := InSync) (fun w op h => inSync_watch h op) hfresh.inSync ops
  generalize run watch (watched d) ops = w at *
  have hfound : w.db.val.rollover? r.id = some r :=
    w.db.ok.keys.rollovers.find?_eq_some.2 ⟨hr, rfl⟩
  refine ⟨fun o d' h => ?_, fun e d' h => commit_error h⟩
  obtain ⟨resolved, hp⟩ := commit_performed hfound hstate h
  refine hp.agrees fun l hl hact => ?_
  obtain ⟨hm, hlr, -⟩ := openLines_mem.1 hl
  exact hI l hm (hlr.symm ▸ hstay l hl hact)

/-- Planning moves nobody. -/
theorem planning_moves_nobody [Unicode] {w : Watched} (h : ∀ rid sid, ¬w.moved rid sid)
    {ops : List Op} (hops : ∀ op ∈ ops, op.isPlanning = true) (rid sid : Nat) :
    ¬(run watch w ops).moved rid sid := by
  induction ops generalizing w with
  | nil => exact h rid sid
  | cons op ops ih =>
    refine ih ?_ fun x hx => hops x (List.mem_cons_of_mem op hx)
    rintro rid sid ⟨-, hmoved | ⟨-, hne⟩⟩
    · exact h rid sid hmoved
    · obtain ⟨years, rollovers, lines, seq, hval⟩ := planning_writes w.db (hops op (by simp))
      rw [hval] at hne
      exact hne rfl

theorem commit_agrees_planned :
    @CommitAgrees ascii (run (@watch ascii) (watched smallSchool) (planned 100 1 2)).db
      ["school_admin"] ⟨100, 1, 2, .previewed, none, none⟩ none := by
  have hdb : (run (@watch ascii) (watched smallSchool) (planned 100 1 2)).db =
      smallRun (planned 100 1 2) := @watch_db ascii _ _
  refine @commit_agrees ascii smallSchool rfl (planned 100 1 2) _ _ _ ?_ rfl fun l _ _ => ?_
  · rw [hdb, planned_rollovers]
    exact List.mem_singleton_self _
  · exact @planning_moves_nobody ascii _ (fun _ _ h => h) _ (by decide) _ _

/-- The student is placed in another class after the preview. -/
def movedAfterPreview : List Op :=
  planned 100 1 2 ++ [.createClassIn "G1 - B" 1 none none true (some 1),
    .reassignStudentClass ["school_admin"] 1 (some 100) none]

theorem movedAfterPreview_state : let d := run (@step ascii) smallSchool movedAfterPreview
    ⟨100, 1, 2, .previewed, none, none⟩ ∈ d.val.rollovers ∧
    (∃ l ∈ d.val.openLines 100, l.effective ≠ .hold ∧
      l.fromClassId ≠ d.val.classOf l.studentId) ∧
    returns (@commitRollover ascii ["school_admin"] 100 none) d = true := by
  decide +kernel

theorem not_commitAgrees [Unicode] {d : Db} {u : List String} {rid : Nat} {r : RolloverRow}
    {changedBy : Option Nat} (hid : r.id = rid) (hline : ∃ l ∈ d.val.openLines rid,
      l.effective ≠ .hold ∧ l.fromClassId ≠ d.val.classOf l.studentId)
    (hret : returns (commitRollover u rid changedBy) d = true) : ¬CommitAgrees d u r changedBy := by
  subst hid
  intro h
  obtain ⟨l, hl, hact, hne⟩ := hline
  obtain ⟨o, d', hok⟩ := returns_iff.1 hret
  exact hne ((h.ok o d' hok).fromClass l hl hact)

/-- The commit succeeds and records the class of the preview as the old one. -/
theorem moved_student_misrecorded : ¬∀ (d : Db) (ops : List Op) (u : List String) (r : RolloverRow)
    (changedBy : Option Nat), Fresh d → r ∈ (run (@step ascii) d ops).val.rollovers →
      r.state = .previewed → @CommitAgrees ascii (run (@step ascii) d ops) u r changedBy := by
  intro h
  obtain ⟨hr, hline, hret⟩ := movedAfterPreview_state
  exact @not_commitAgrees ascii _ _ 100 _ _ rfl hline hret (h _ _ _ _ _ rfl hr rfl)

end Sams.School
