import Sams.School.Pending

/-!
# Promote lines and their targets

A line that promotes needs a level and a section, or the commit raises. `Targeted` says that every
line of a rollover that is not committed has both when it promotes. Recomputing keeps it, because
what the engine proposes to promote has a target and a stored override keeps its own, and setting
an override checks for one.

Two operations can break it (**`promote_lines_targeted`**): clearing an override leaves the
target of the override with the action of the proposal, and deleting a level nulls it in the lines.
-/

namespace Sams.School

open Programs Rows Runs TenantRepository TenantService

/-- The line names a level and a section. -/
def LineRow.HasTarget (l : LineRow) : Prop := l.toLevelId.isSome ∧ l.toSectionLabel.isSome

/-- Every promote line of a rollover that is not committed has a target. -/
def Targeted (d : Db) : Prop :=
  ∀ l ∈ d.val.lines, d.val.Pending l.rolloverId → l.effective = .promote → l.HasTarget

theorem Fresh.targeted {d : Db} (h : Fresh d) : Targeted d := h.pendingLines _

/-! ## What the engine proposes -/

/-- A proposal to promote has a target. -/
theorem propose_target {f : PlanFact} (h : (propose f).proposedAction = .promote) :
    (propose f).toLevelId.isSome ∧ (propose f).toSectionLabel.isSome := by
  unfold propose at *
  split_ifs at * with hlevel hclass
  show f.toLevelId.isSome ∧ f.sectionLabel.isSome
  simp only [not_or] at hclass
  constructor
  · exact Option.isSome_iff_ne_none.2 hlevel
  · cases hs : f.sectionLabel with
    | none => simp [hs, Text.nonEmpty] at hclass
    | some s => rfl

/-- Storing a proposal keeps a target: the line takes that of the proposal, or it keeps that of its
override. -/
theorem store_hasTarget {t : Tables} {rid y : Nat} {p : ProposedLine}
    (hp : p ∈ proposals t rid y) {l : LineRow}
    (hl : (l.effective = .promote → l.HasTarget) ∨ ∃ id sid, l = blankLine id rid sid)
    (hact : (l.store p).effective = .promote) : (l.store p).HasTarget := by
  cases ho : l.overrideAction with
  | none =>
    obtain ⟨f, -, e, rfl⟩ := mem_proposals hp
    have hprop : (propose f).proposedAction = .promote := by
      simpa [LineRow.effective, LineRow.store, ho] using hact
    simpa [LineRow.HasTarget, LineRow.store, ho] using propose_target hprop
  | some a =>
    have hact' : l.effective = .promote := by
      simpa [LineRow.effective, LineRow.store, ho] using hact
    rcases hl with hl | ⟨id, sid, rfl⟩
    · simpa [LineRow.HasTarget, LineRow.store, ho] using hl hact'
    · simp [blankLine] at ho

/-! ## One step -/

/-- What a step must not do: clear the override of a line that then promotes to nowhere, or delete
the level that a line promotes into. -/
structure KeepsTargets (d : Db) (op : Op) : Prop where
  cleared : ∀ u lid lv sec, op = .overrideRolloverLine u lid none lv sec →
    Authz.require u rolloverRoles → ∀ l l', d.val.line? lid = some l →
      d.val.Pending l.rolloverId → l.proposedAction = .promote →
        d.val.overridden l none lv sec = some l' → l'.HasTarget
  deleted : ∀ lid, op.DeletesLevel d lid → ∀ l ∈ d.val.lines, d.val.Pending l.rolloverId →
    l.effective = .promote → l.toLevelId ≠ some lid

theorem targeted_step [Unicode] {d : Db} {op : Op} (hY : YearInv d) (hI : Targeted d)
    (hop : KeepsTargets d op) : Targeted (step d op) := by
  refine pendingLines_step (P := fun l => l.effective = .promote → l.HasTarget) hY hI ?_ ?_ ?_
  · intro t rid y p hp l hl
    exact store_hasTarget hp hl
  · intro u lid a lv sec l l' he hallowed hfound hpend _ hover hact
    obtain ⟨action, haction, rfl, htarget⟩ := overridden_some hover
    cases action with
    | some action =>
      have hprom : action = .promote := hact
      exact htarget (by rw [hprom])
    | none =>
      -- the override is cleared
      cases a with
      | none => exact hop.cleared u lid lv sec he hallowed l _ hfound hpend hact hover
      | some name => simp [overrideAction?] at haction
  · intro l l' hl hpend hP hre hact
    have hact' : l.effective = .promote := hre.effective.symm.trans hact
    obtain ⟨hlevel, hsection⟩ := hP hact'
    refine ⟨?_, by rwa [hre.toSectionLabel]⟩
    rcases hre.toLevelId with hsame | ⟨-, lid, hto, hgone⟩
    · rwa [hsame]
    · exact absurd hto (hop.deleted lid hgone l hl hpend hact')

/-! ## Runs -/

/-- The commit that the call makes, if it makes one, finds a target on every promote line. -/
def FindsTargets (d : Db) (op : Op) : Prop :=
  ∀ u rid c r, op = .commitRollover u rid c → d.val.rollover? rid = some r →
    r.state = .previewed → ∀ l ∈ d.val.openLines rid, l.effective = .promote → l.HasTarget

theorem Targeted.findsTargets {d : Db} (h : Targeted d) (op : Op) : FindsTargets d op := by
  rintro u rid c r - hr hstate l hl hact
  obtain ⟨hl, hlr, -⟩ := openLines_mem.1 hl
  refine h l hl (fun x hx hid => ?_) hact
  obtain ⟨hr, hrid⟩ := d.ok.keys.rollovers.find?_eq_some.1 hr
  rw [Db.rollover_unique hx hr ((hid.trans hlr).trans hrid.symm), hstate]
  decide

/-- **Promote lines have targets** in every state of a run that clears no override into a promotion
without a target and deletes no level that a pending line promotes into, so no commit of it meets a
promote line without a destination. -/
theorem promote_lines_targeted [Unicode] {d : Db} (hfresh : Fresh d) {ops : List Op}
    (hC : EachStep step KeepsTargets d ops) :
    Throughout step Targeted d ops ∧ EachStep step FindsTargets d ops := by
  have hstep : ∀ (d : Db) (op : Op), YearInv d ∧ Targeted d → KeepsTargets d op →
      YearInv (step d op) ∧ Targeted (step d op) :=
    fun d op h hop => ⟨yearInv_step d op h.1, targeted_step h.1 h.2 hop⟩
  have h₀ : YearInv d ∧ Targeted d := ⟨hfresh.yearInv, hfresh.targeted⟩
  exact ⟨(run_throughout hstep h₀ hC).mono fun _ h => h.2,
    run_each hstep (fun d op h _ => h.2.findsTargets op) h₀ hC⟩

/-- The rollover is planned, an override of its line is cleared, and it is committed. -/
def clearedAndCommitted : List Op :=
  planned 100 1 2 ++ [.overrideRolloverLine ["school_admin"] 100 none none none, committed 100]

theorem clearedAndCommitted_target :
    ∀ l ∈ (smallRun (planned 100 1 2)).val.line? 100,
      ∀ l' ∈ (smallRun (planned 100 1 2)).val.overridden l none none none, l'.HasTarget := by
  unfold LineRow.HasTarget
  decide +kernel

/-- A call that neither clears an override nor deletes a level. -/
theorem keepsTargets_other {d : Db} {op : Op}
    (h : ∀ u lid lv sec, op ≠ .overrideRolloverLine u lid none lv sec)
    (h' : ∀ lid, ¬op.DeletesLevel d lid) : KeepsTargets d op :=
  ⟨fun u lid lv sec he => absurd he (h u lid lv sec), fun lid hdel => absurd hdel (h' lid)⟩

/-- Clearing an override that leaves the line with a target. -/
theorem keepsTargets_cleared {d : Db} {u : List String} {lid : Nat} {lv : Option Nat}
    {sec : Option String}
    (h : ∀ l ∈ d.val.line? lid, ∀ l' ∈ d.val.overridden l none lv sec, l'.HasTarget) :
    KeepsTargets d (.overrideRolloverLine u lid none lv sec) := by
  refine ⟨?_, fun _ hdel => hdel.elim⟩
  intro u lid lv sec he _ l l' hl _ _ hover
  cases he
  exact h l hl l' hover

theorem promote_lines_targeted_smallSchool :
    Throughout (@step ascii) Targeted smallSchool clearedAndCommitted ∧
      EachStep (@step ascii) FindsTargets smallSchool clearedAndCommitted := by
  refine @promote_lines_targeted ascii smallSchool rfl clearedAndCommitted ?_
  unfold clearedAndCommitted
  rw [eachStep_append]
  constructor
  · exact ⟨keepsTargets_other (by simp) (by simp [Op.DeletesLevel]),
      keepsTargets_other (by simp) (by simp [Op.DeletesLevel]), trivial⟩
  · exact ⟨keepsTargets_cleared (d := smallRun (planned 100 1 2)) clearedAndCommitted_target,
      keepsTargets_other (by simp [committed]) (by simp [committed, Op.DeletesLevel]), trivial⟩

/-- The rollover is generated and the level it promotes into is deleted. -/
def levelDeleted : List Op :=
  [.generateRolloverPlan ["school_admin"] 1 2 none, .deleteLevel ["school_admin"] 2 none]

theorem levelDeleted_state : (smallRun levelDeleted).val.rollovers =
      [⟨100, 1, 2, .draft, none, none⟩] ∧
    (smallRun levelDeleted).val.lines =
      [⟨100, 100, 1, some 1, none, some "A", none, .promote, none, none, false⟩] := by
  decide +kernel

theorem not_targeted {d : Db} (hroll : d.val.rollovers = [⟨100, 1, 2, .draft, none, none⟩])
    (hlines : d.val.lines =
      [⟨100, 100, 1, some 1, none, some "A", none, .promote, none, none, false⟩]) :
    ¬Targeted d := by
  intro h
  unfold Targeted Tables.Pending at h
  rw [hroll, hlines] at h
  have hnone := (h _ (List.mem_singleton_self _) (by simp) rfl).1
  simp at hnone

/-- The line still promotes, and into no level. -/
theorem promote_line_untargeted : ¬∀ (d : Db) (ops : List Op), Fresh d →
    Targeted (run (@step ascii) d ops) :=
  fun h => not_targeted (d := smallRun levelDeleted) levelDeleted_state.1 levelDeleted_state.2
    (h smallSchool levelDeleted rfl)

end Sams.School
