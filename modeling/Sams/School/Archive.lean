import Sams.School.Pending

/-!
# Committed rollovers as records

A committed rollover is not recomputed: generating finds its `from_year` closed and previewing
refuses. Committing it again returns it. Its lines are written by one operation only, an override,
which does not look at the state of the rollover. **`committed_rollover_frozen`**: in a run without
such an override the rollover operations leave the committed rollovers' lines as they are, and the
stored summary counts the effective actions of the lines in every state.
-/

namespace Sams.School

open Programs Rows Runs TenantRepository TenantService

/-! ## Counting -/

/-- The summary depends on the effective actions only. -/
theorem summaryOf_congr {ls ls' : List LineRow}
    (h : ls'.map LineRow.effective = ls.map LineRow.effective) : summaryOf ls' = summaryOf ls := by
  have hcount : ∀ a, ls'.countP (fun l => l.effective = a) = ls.countP fun l =>
      l.effective = a := by
    intro a
    have hmap : ∀ xs : List LineRow, (xs.map LineRow.effective).countP (fun x => x = a) =
        xs.countP fun l => l.effective = a := fun xs => List.countP_map
    rw [← hmap ls', h, hmap]
  simp only [summaryOf, hcount]

/-- The effective actions of a rollover's lines, read from the keys of all lines. -/
theorem linesOf_effective {t t' : Tables} (h : t'.lines.map (fun l => (l.rolloverId, l.effective)) =
    t.lines.map fun l => (l.rolloverId, l.effective)) (rid : Nat) :
    (t'.linesOf rid).map LineRow.effective = (t.linesOf rid).map LineRow.effective := by
  have hread : ∀ ls : List LineRow, (ls.filter fun l => l.rolloverId = rid).map LineRow.effective =
      ((ls.map fun l => (l.rolloverId, l.effective)).filter fun k => k.1 = rid).map Prod.snd := by
    intro ls
    rw [List.filter_map, List.map_map]
    rfl
  rw [Tables.linesOf, Tables.linesOf, hread, hread, h]

/-! ## What is recorded -/

/-- The summary of a committed rollover counts its lines. -/
def Summarised (d : Db) : Prop :=
  ∀ r ∈ d.val.rollovers, r.state = .committed → r.summary = some (summaryOf (d.val.linesOf r.id))

/-- No pending line has been applied. -/
def Unapplied (d : Db) : Prop := PendingLines (fun l => l.applied = false) d

/-- A committed rollover stays as it is, and the rollover operations leave its lines. -/
def LeavesRecords (d : Db) (op : Op) (d' : Db) : Prop :=
  ∀ r ∈ d.val.rollovers, r.state = .committed → r ∈ d'.val.rollovers ∧
    (op.isRollover = true → d'.val.linesOf r.id = d.val.linesOf r.id)

/-- No accepted override changes a line of a committed rollover. -/
def KeepsRecords (d : Db) (op : Op) : Prop :=
  ∀ u lid a lv sec l l', op = .overrideRolloverLine u lid a lv sec →
    Authz.require u rolloverRoles → d.val.line? lid = some l → ¬d.val.Pending l.rolloverId →
      d.val.overridden l a lv sec = some l' → l' = l

theorem unapplied_step [Unicode] {d : Db} {op : Op} (hY : YearInv d) (hI : Unapplied d) :
    Unapplied (step d op) := by
  refine pendingLines_step hY hI ?_ ?_ ?_
  · intro t rid y p _ l hl
    rcases hl with hl | ⟨id, sid, rfl⟩
    · exact hl
    · rfl
  · intro u lid a lv sec l l' _ _ _ _ hl hover
    obtain ⟨action, -, rfl, -⟩ := overridden_some hover
    exact hl
  · intro l l' _ _ hl hre
    exact hre.applied.trans hl

/-- The open lines of a rollover that is not committed are all its lines. -/
theorem Unapplied.openLines_eq {d : Db} (h : Unapplied d) {r : RolloverRow}
    (hr : r ∈ d.val.rollovers) (hstate : r.state ≠ .committed) :
    d.val.openLines r.id = d.val.linesOf r.id := by
  refine List.filter_eq_self.2 fun l hl => ?_
  obtain ⟨hl, hlr⟩ := List.mem_filter.1 hl
  have hpend := Db.pending_of hr hstate
  rw [← of_decide_eq_true hlr] at hpend
  simp [show l.applied = false from h l hl hpend]

/-! ## One step -/

theorem Created.leavesRecords {d d' : Db} {f t : Nat} {r : RolloverRow} (h : Created d f t r d')
    (op : Op) : LeavesRecords d op d' := by
  intro x hx _
  rcases h.state with ⟨-, rfl⟩ | ⟨-, seq, hval⟩
  · exact ⟨hx, fun _ => rfl⟩
  · rw [hval]
    exact ⟨List.mem_append_left _ hx, fun _ => rfl⟩

theorem Recomputed.leavesRecords {d d' : Db} {rid y : Nat} (h : Recomputed d rid y d')
    (hrid : d.val.Pending rid) (op : Op) : LeavesRecords d op d' := by
  intro x hx hcom
  obtain ⟨lines, seq, hval⟩ := h.only
  refine ⟨by rwa [hval], fun _ => h.others fun he => ?_⟩
  exact hrid x hx he hcom

theorem Performed.leavesRecords {d d' : Db} {r : RolloverRow} {resolved : List (TargetKey × Nat)}
    (hr : r ∈ d.val.rollovers) (hstate : r.state = .previewed) (hp : Performed d r resolved d')
    (op : Op) : LeavesRecords d op d' := by
  intro x hx hcom
  have hne : x.id ≠ r.id := by
    intro he
    rw [Db.rollover_unique hx hr he, hstate] at hcom
    cases hcom
  refine ⟨?_, fun _ => ?_⟩
  · rw [hp.rollovers]
    exact mem_updateWhere_of_not hx (by simpa using hne)
  · rw [Tables.linesOf, hp.lines, List.filter_map]
    have hkey : d.val.lines.filter ((fun l : LineRow => decide (l.rolloverId = x.id)) ∘ fun l =>
        if l ∈ d.val.openLines r.id then l.close resolved else l) = d.val.linesOf x.id := by
      refine List.filter_congr fun l _ => ?_
      simp only [Function.comp]
      split_ifs
      · rw [(LineRow.close_ids resolved l).1]
      · rfl
    rw [hkey]
    refine (List.map_congr_left fun l hl => ?_).trans (List.map_id _)
    rw [if_neg]
    · rfl
    · intro hopen
      have hlx : l.rolloverId = x.id := by simpa using (List.mem_filter.1 hl).2
      exact hne (hlx.symm.trans (openLines_mem.1 hopen).2.1)

theorem previewed_leavesRecords {d d₁ d' : Db} {rid y : Nat} (hrid : d.val.Pending rid)
    (h : Recomputed d rid y d₁) (hwritten : d' = d₁ ∨ d'.val =
      d₁.val.setRollovers (fun r => r.id = rid) fun r => { r with state := .previewed }) (op : Op) :
    LeavesRecords d op d' := by
  intro x hx hcom
  obtain ⟨hx₁, hlines⟩ := h.leavesRecords hrid op x hx hcom
  rcases hwritten with rfl | hval
  · exact ⟨hx₁, hlines⟩
  · rw [hval]
    refine ⟨mem_updateWhere_of_not hx₁ ?_, hlines⟩
    simp only [decide_eq_false_iff_not]
    exact fun hid => hrid x hx hid hcom

theorem overridden_leavesRecords {d d' : Db} {lid : Nat} {a : Option String} {lv : Option Nat}
    {sec : Option String} {l l' : LineRow} (hfound : d.val.line? lid = some l)
    (hover : d.val.overridden l a lv sec = some l')
    (hwritten : d'.val = d.val.setLines (fun x => x.id = lid) fun _ => l')
    (hsame : ¬d.val.Pending l.rolloverId → l' = l) (op : Op) : LeavesRecords d op d' := by
  intro x hx hcom
  obtain ⟨hl, hid⟩ := d.ok.keys.lines.find?_eq_some.1 hfound
  have hone : ∀ y ∈ d.val.lines, decide (y.id = lid) = true → y = l := fun y hy he =>
    d.ok.keys.lines.eq_of_key_eq hy hl ((of_decide_eq_true he).trans hid.symm)
  rw [hwritten]
  refine ⟨hx, fun _ => ?_⟩
  by_cases hlx : l.rolloverId = x.id
  · -- a line of the record: it was rewritten to what it was
    have hself : updateWhere (fun y => y.id = lid) (fun _ => l') d.val.lines = d.val.lines := by
      refine updateWhere_eq_self fun y hy he => ?_
      rw [hsame (hlx ▸ Db.not_pending hx hcom), hone y hy he]
    rw [Tables.linesOf, Tables.setLines, hself]
    rfl
  · obtain ⟨action, -, rfl, -⟩ := overridden_some hover
    refine filter_updateWhere_of_not fun y hy he => ?_
    rw [hone y hy he]
    exact ⟨decide_eq_false hlx, decide_eq_false hlx⟩

/-- **A step leaves the records.** -/
theorem leavesRecords_step [Unicode] {d : Db} {op : Op} (hY : YearInv d)
    (hop : KeepsRecords d op) : LeavesRecords d op (step d op) := by
  have hwrites := step_writes d op
  generalize step d op = d' at hwrites
  cases hwrites with
  | idle hr hl =>
    intro x hx _
    exact ⟨hr ▸ hx, fun _ => by rw [Tables.linesOf, hl]; rfl⟩
  | edited hedit h =>
    intro x hx _
    refine ⟨h.rollovers ▸ hx, fun hroll => ?_⟩
    cases op <;> simp [Op.isEditing, Op.isRollover] at hedit hroll
  | created h => exact h.leavesRecords _
  | generated hcreated h =>
    intro x hx hcom
    obtain ⟨hx₁, hlines⟩ := hcreated.leavesRecords (.generateRolloverPlan _ _ _ _) x hx hcom
    obtain ⟨hx₂, hlines'⟩ := h.leavesRecords (hcreated.pending hY) (.generateRolloverPlan _ _ _ _)
      x hx₁ hcom
    exact ⟨hx₂, fun hroll => (hlines' hroll).trans (hlines hroll)⟩
  | previewed hfound hstate h hwritten =>
    obtain ⟨hr, rfl⟩ := d.ok.keys.rollovers.find?_eq_some.1 hfound
    exact previewed_leavesRecords (Db.pending_of hr hstate) h hwritten _
  | overridden hallowed hfound hover hwritten =>
    exact overridden_leavesRecords hfound hover hwritten
      (fun hpend => hop _ _ _ _ _ _ _ rfl hallowed hfound hpend hover) _
  | performed hfound hstate hp =>
    exact hp.leavesRecords (List.mem_of_find?_eq_some hfound) hstate _

/-- A rollover that is committed after a step was committed before, or this step committed it. -/
theorem committed_origin [Unicode] {d : Db} {op : Op} {r' : RolloverRow}
    (hr' : r' ∈ (step d op).val.rollovers) (hcom : r'.state = .committed) :
    r' ∈ d.val.rollovers ∨ ∃ r resolved, r ∈ d.val.rollovers ∧ r.state = .previewed ∧
      Performed d r resolved (step d op) ∧ r'.id = r.id ∧
      r'.summary = some (summaryOf (d.val.openLines r.id)) := by
  have hwrites := step_writes d op
  generalize step d op = d' at hwrites hr'
  have hcreated : ∀ {f t : Nat} {r : RolloverRow} {d₁ : Db}, Created d f t r d₁ →
      r' ∈ d₁.val.rollovers → r' ∈ d.val.rollovers := by
    intro f t r d₁ h hm
    rcases h.state with ⟨-, rfl⟩ | ⟨hdraft, seq, hval⟩
    · exact hm
    · rw [hval] at hm
      rcases List.mem_append.1 hm with hm | hm
      · exact hm
      · rw [List.mem_singleton.1 hm, hdraft] at hcom
        cases hcom
  cases hwrites with
  | idle hr _ => exact .inl (hr ▸ hr')
  | edited _ h => exact .inl (h.rollovers ▸ hr')
  | created h => exact .inl (hcreated h hr')
  | generated h hrec =>
    obtain ⟨lines, seq, hval⟩ := hrec.only
    rw [hval] at hr'
    exact .inl (hcreated h hr')
  | previewed hfound hstate h hwritten =>
    obtain ⟨lines, seq, honly⟩ := h.only
    left
    rcases hwritten with rfl | hval
    · rwa [honly] at hr'
    · rw [hval, honly] at hr'
      rcases cases_of_mem_updateWhere hr' with ⟨hm, -⟩ | ⟨y, -, -, rfl⟩
      · exact hm
      · cases hcom
  | overridden _ _ _ hwritten =>
    rw [hwritten] at hr'
    exact .inl hr'
  | performed hfound hstate hp =>
    rename_i u rid c r resolved
    rw [hp.rollovers] at hr'
    rcases cases_of_mem_updateWhere hr' with ⟨hm, -⟩ | ⟨y, hy, hyr, rfl⟩
    · exact .inl hm
    · exact .inr ⟨r, resolved, List.mem_of_find?_eq_some hfound, hstate, hp,
        of_decide_eq_true hyr, rfl⟩

/-- The operations other than the rollover's keep the effective action of every line. -/
theorem step_effective [Unicode] (d : Db) {op : Op} (h : op.isRollover = false) :
    (step d op).val.lines.map (fun l => (l.rolloverId, l.effective)) =
      d.val.lines.map fun l => (l.rolloverId, l.effective) := by
  have hcore : (step d op).val.lines.map LineRow.core = d.val.lines.map LineRow.core := by
    rcases step_effect d h with hq | hp
    · exact hq.lines
    · rw [hp.lines]
  have hread : ∀ ls : List LineRow, ls.map (fun l => (l.rolloverId, l.effective)) =
      (ls.map LineRow.core).map fun k => (k.2.1, k.2.2.2.1) := by
    intro ls
    rw [List.map_map]
    rfl
  rw [hread, hcore, ← hread]

theorem Performed.effective {d d' : Db} {r : RolloverRow} {resolved : List (TargetKey × Nat)}
    (hp : Performed d r resolved d') : d'.val.lines.map (fun l => (l.rolloverId, l.effective)) =
      d.val.lines.map fun l => (l.rolloverId, l.effective) := by
  rw [hp.lines, List.map_map]
  refine List.map_congr_left fun l _ => ?_
  simp only [Function.comp]
  unfold LineRow.close
  split_ifs <;> rfl

/-- **A step keeps the summaries right.** -/
theorem summarised_step [Unicode] {d : Db} {op : Op} (hY : YearInv d) (hU : Unapplied d)
    (hI : Summarised d) (hop : KeepsRecords d op) : Summarised (step d op) := by
  intro r' hr' hcom
  rcases committed_origin hr' hcom with hr | ⟨r, resolved, hr, hstate, hp, hid, hsum⟩
  · rw [hI r' hr hcom]
    cases hroll : op.isRollover with
    | true => rw [(leavesRecords_step hY hop r' hr hcom).2 hroll]
    | false =>
      exact congrArg some (summaryOf_congr (linesOf_effective (step_effective d hroll) r'.id)).symm
  · rw [hsum, hid, hU.openLines_eq hr (by simp [hstate])]
    exact congrArg some (summaryOf_congr (linesOf_effective hp.effective r.id)).symm

/-! ## Runs -/

/-- **A committed rollover is a frozen record**, in every run that does not override its lines. -/
theorem committed_rollover_frozen [Unicode] {d : Db} (hfresh : Fresh d) {ops : List Op}
    (hC : EachStep step KeepsRecords d ops) :
    EachStep step (fun d op => LeavesRecords d op (step d op)) d ops ∧
      Throughout step Summarised d ops := by
  have hstep : ∀ (d : Db) (op : Op), (YearInv d ∧ Unapplied d ∧ Summarised d) →
      KeepsRecords d op → YearInv (step d op) ∧ Unapplied (step d op) ∧ Summarised (step d op) :=
    fun d op ⟨hY, hU, hI⟩ hop =>
      ⟨yearInv_step d op hY, unapplied_step hY hU, summarised_step hY hU hI hop⟩
  have h₀ : YearInv d ∧ Unapplied d ∧ Summarised d := by
    refine ⟨hfresh.yearInv, hfresh.pendingLines _, fun r hr => ?_⟩
    rw [show d.val.rollovers = [] from hfresh] at hr
    cases hr
  exact ⟨run_each hstep (fun d op h hop => leavesRecords_step h.1 hop) h₀ hC,
    (run_throughout hstep h₀ hC).mono fun _ h => h.2.2⟩

/-- The rollover is committed, previewed again and committed again. -/
def committedTwice : List Op :=
  planned 100 1 2 ++ [committed 100, .previewRollover ["school_admin"] 100, committed 100]

theorem committed_rollover_frozen_committedTwice :
    EachStep (@step ascii) (fun d op => LeavesRecords d op (@step ascii d op)) smallSchool
        committedTwice ∧
      Throughout (@step ascii) Summarised smallSchool committedTwice := by
  refine @committed_rollover_frozen ascii smallSchool rfl committedTwice ?_
  have hother : ∀ (d : Db) {op : Op},
      (∀ u lid a lv sec, op ≠ .overrideRolloverLine u lid a lv sec) →
      KeepsRecords d op := fun d op h u lid a lv sec _ _ he => absurd he (h u lid a lv sec)
  exact ⟨hother _ (by simp), hother _ (by simp), hother _ (by simp [committed]),
    hother _ (by simp), hother _ (by simp [committed]), trivial⟩

/-- A line is overridden after the commit. -/
def overriddenLate : List Op :=
  planned 100 1 2 ++
    [committed 100, .overrideRolloverLine ["school_admin"] 100 (some "hold") none none]

theorem overriddenLate_state : ∃ r ∈ (smallRun overriddenLate).val.rollovers,
    r.state = .committed ∧ r.summary ≠
      some (summaryOf ((smallRun overriddenLate).val.linesOf r.id)) := by
  decide +kernel

/-- The summary still counts one promotion, and the only line is held. -/
theorem summary_outdated : ¬∀ (d : Db) (ops : List Op), Fresh d →
    EachStep (@step ascii) (fun d op => LeavesRecords d op (@step ascii d op)) d ops ∧
      Throughout (@step ascii) Summarised d ops := by
  intro h
  have hlast : Summarised (smallRun overriddenLate) := (h smallSchool overriddenLate rfl).2.last
  obtain ⟨r, hr, hcom, hne⟩ := overriddenLate_state
  exact hne (hlast r hr hcom)

end Sams.School
