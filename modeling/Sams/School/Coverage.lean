import Sams.School.Years

/-!
# Nobody is left behind by a rollover

A commit reads the lines that the last recomputation stored; it does not look at the roster again.
**`nobody_left_behind`**: in a run in which nobody without a line is brought into a class of the
`from_year` of a previewed rollover, a rollover's first commit finds exactly one line for every
enrolled student placed in its `from_year`, or fails and changes nothing. Without the condition it
does not: `late_student_left_behind` enrolls a student between the preview and the commit.

The invariant is that every previewed rollover is covered (`Covered`).
-/

namespace Sams.School

open Programs Rows Runs TenantRepository TenantService

/-- Every previewed rollover has a line for each enrolled student of its `from_year`. -/
def Covered (d : Db) : Prop :=
  ∀ r ∈ d.val.rollovers, r.state = .previewed → d.val.Covers r.id r.fromYearId

/-- A covered rollover stays covered while students and classes stay and its lines are kept. -/
theorem covers_of_lines {t t' : Tables} {rid y : Nat} (hs : t'.students = t.students)
    (hc : t'.classes = t.classes) (hl : ∀ sid, t.HasLine rid sid → t'.HasLine rid sid)
    (h : t.Covers rid y) : t'.Covers rid y := by
  intro sid cid he hp
  unfold Tables.Enrolled at he
  unfold Tables.Placed Tables.ClassIn at hp
  rw [hs] at he hp
  rw [hc] at hp
  exact hl sid (h sid cid he hp)

theorem Covered.of_lines {d d' : Db} (h : Covered d) (hs : d'.val.students = d.val.students)
    (hc : d'.val.classes = d.val.classes) (hr : d'.val.rollovers = d.val.rollovers)
    (hl : ∀ rid sid, d.val.HasLine rid sid → d'.val.HasLine rid sid) : Covered d' :=
  fun r hmem hprev => covers_of_lines hs hc (hl r.id) (h r (hr ▸ hmem) hprev)

/-! ## The rollover's operations -/

/-- A recomputation covers its own rollover, if it does anything, and leaves the others covered. -/
theorem covered_recompute {d : Db} {r : RolloverRow} (hr : r ∈ d.val.rollovers) (h : Covered d) :
    Covered (after (recomputeRolloverLines r.id r.fromYearId) d) := by
  rcases ok_or_error (recomputeRolloverLines r.id r.fromYearId) d with ⟨⟨⟩, hok⟩ | ⟨e, herr⟩
  · obtain ⟨lines, seq, hval⟩ := onlyLines_recompute r.id r.fromYearId d
    intro x hx hprev
    rw [hval] at hx
    by_cases hxr : x.id = r.id
    · rw [Db.rollover_unique hx hr hxr]
      exact recompute_covers hok
    · exact covers_of_lines (by rw [hval]) (by rw [hval])
        (fun sid hl => recompute_others hxr _ hl) (h x hx hprev)
  · rwa [recompute_error herr]

theorem covered_generate (u : List String) (f t : Nat) (c : Option Nat) {d : Db}
    (h : Covered d) : Covered (after (generateRolloverPlan u f t c) d) := by
  rcases generate_cases u f t c d with hd | ⟨r, d₁, hcreated, hd⟩
  · rwa [hd]
  · obtain ⟨hr₁, h₁⟩ : r ∈ d₁.val.rollovers ∧ Covered d₁ := by
      rcases hcreated.state with ⟨hr, rfl⟩ | ⟨hdraft, seq, hval⟩
      · exact ⟨hr, h⟩
      · refine ⟨by rw [hval]; exact List.mem_append_right _ (List.mem_singleton_self r), ?_⟩
        -- the rollover that was inserted is a draft
        intro x hx hprev
        rw [hval] at hx ⊢
        rcases List.mem_append.1 hx with hx | hx
        · exact h x hx hprev
        · rw [List.mem_singleton.1 hx, hdraft] at hprev
          cases hprev
    rw [hd, ← hcreated.from_eq]
    exact covered_recompute hr₁ h₁

theorem covered_preview (u : List String) (rid : Nat) {d : Db} (h : Covered d) :
    Covered (after (previewRollover u rid) d) := by
  rcases preview_cases u rid d with hd | ⟨r, hr, rfl, -, hd | ⟨d₁, hok, hd⟩⟩
  · rwa [hd]
  · rw [hd]
    exact covered_recompute hr h
  · have h₁ : Covered d₁ := after_ok hok ▸ covered_recompute hr h
    have hr₁ : r ∈ d₁.val.rollovers := by
      obtain ⟨lines, seq, hval⟩ := after_ok hok ▸ onlyLines_recompute r.id r.fromYearId d
      rwa [hval]
    intro x hx hprev
    rw [hd] at hx
    have hcov : d₁.val.Covers x.id x.fromYearId := by
      rcases cases_of_mem_updateWhere hx with ⟨hm, -⟩ | ⟨x₀, hm, hid, rfl⟩
      · exact h₁ x hm hprev
      · rw [show x₀ = r from Db.rollover_unique hm hr₁ (of_decide_eq_true hid)]
        exact recompute_covers hok
    exact covers_of_lines (by rw [hd]; rfl) (by rw [hd]; rfl)
      (fun sid hl => by rw [hd]; exact hl) hcov

theorem covered_override (u : List String) (l : Nat) (a : Option String) (lv : Option Nat)
    (sec : Option String) {d : Db} (h : Covered d) :
    Covered (after (overrideRolloverLine u l a lv sec) d) := by
  rcases override_cases u l a lv sec d with hd | ⟨f, hfr, hfs, hd⟩
  · rwa [hd]
  · refine h.of_lines (by rw [hd]; rfl) (by rw [hd]; rfl) (by rw [hd]; rfl) fun rid sid hl => ?_
    rw [hd]
    exact hasLine_setLines hfr hfs hl

theorem covered_createAcademicYear (u : List String) (n : String) (s e : Option Date) {d : Db}
    (h : Covered d) : Covered (after (TenantService.createAcademicYear u n s e) d) := by
  rcases createAcademicYear_cases u n s e d with hd | ⟨row, seq, -, hd⟩
  · rwa [hd]
  · exact h.of_lines (by rw [hd]) (by rw [hd]) (by rw [hd]) fun rid sid hl => by rw [hd]; exact hl

/-- What a commit needs of the rollovers that start at its `to_year`: a line for each enrolled
student it promotes. -/
def PromotesCovered (d : Db) (r : RolloverRow) : Prop :=
  ∀ l ∈ d.val.openLines r.id, l.effective = .promote → d.val.Enrolled l.studentId →
    ∀ x ∈ d.val.rollovers, x.state = .previewed → x.fromYearId = r.toYearId →
      d.val.HasLine x.id l.studentId

theorem covered_commit {d d' : Db} {r : RolloverRow} (hc : Committed d r d')
    (hprom : PromotesCovered d r) (h : Covered d) : Covered d' := by
  obtain ⟨-, horigin⟩ := hc.sameYears
  obtain ⟨summary, hroll⟩ := hc.rollovers
  intro x' hx' hprev sid cid he hp
  -- the rollover was there, previewed: the only one that changed is committed
  have hx : x' ∈ d.val.rollovers := by
    rw [hroll] at hx'
    rcases cases_of_mem_updateWhere hx' with ⟨hm, -⟩ | ⟨x, -, -, rfl⟩
    · exact hm
    · cases hprev
  rw [hc.lines]
  obtain ⟨⟨s', hs', rfl, hcid⟩, c, hcm, rfl, hcy⟩ := hp
  obtain ⟨s₁, hs₁, hid₁, hst₁⟩ := he
  rw [Db.student_unique hs₁ hs' hid₁] at hst₁
  obtain ⟨s, hs, hid, hmoved | ⟨rfl, -⟩⟩ := hc.students s' hs'
  · obtain ⟨l, hl, hls, ho⟩ := hmoved
    obtain ⟨hact, hst, c', hcm', hce', hcy'⟩ := ho.of_classId hcid
    have hcc : c' = c := Db.class_unique hcm' hcm hce'
    have henr : d.val.Enrolled l.studentId := ⟨s, hs, hls.symm, hst.symm.trans hst₁⟩
    rw [← hid, ← hls]
    exact hprom l hl hact henr x' hx hprev (hcy.symm.trans (hcc ▸ hcy'))
  · -- whoever stays was placed there before
    obtain ⟨c₀, hc₀, hce, hp⟩ := Db.placed_of_classId hs hcid
    obtain ⟨opened, hopened, -⟩ := hc.classes
    have hcc : c₀ = c :=
      Db.class_unique (d := d') (by rw [hopened]; exact List.mem_append_left _ hc₀) hcm hce
    exact h x' hx hprev _ _ ⟨s', hs, rfl, hst₁⟩ (hcy ▸ hcc ▸ hp)

/-! ## The other operations -/

theorem enrolled_of_quiet {d d' : Db} (h : Quiet d d') {sid : Nat} (he : d'.val.Enrolled sid) :
    d.val.Enrolled sid := by
  obtain ⟨s, hs, rfl, hst⟩ := he
  have hmem : (s.id, s.status) ∈ d.val.statuses := h.statuses ▸ List.mem_map_of_mem hs
  obtain ⟨s₀, hs₀, he⟩ := List.mem_map.1 hmem
  obtain ⟨hid, hst₀⟩ := Prod.mk.inj he
  exact ⟨s₀, hs₀, hid, hst₀.trans hst⟩

theorem covered_of_quiet {d d' : Db} (hq : Quiet d d') (h : Covered d) : Covered d' := by
  intro r hr hprev sid cid he hp
  rw [hq.rollovers] at hr
  exact hasLine_of_core hq.lines
    (h r hr hprev sid cid (enrolled_of_quiet hq he) (hq.placed _ _ _ hp))

/-- Nobody who is enrolled comes without a line into a class of a previewed rollover's year. -/
def PlacesCovered (d : Db) (P : Nat → Option Nat → Prop) : Prop :=
  ∀ sid cid, P sid (some cid) → d.val.Enrolled sid ∨ ¬d.val.Known sid →
    ∀ r ∈ d.val.rollovers, r.state = .previewed → d.val.ClassIn cid r.fromYearId →
      d.val.HasLine r.id sid

theorem covered_of_places {d d' : Db} {P : Nat → Option Nat → Prop} (hpl : Places P True d d')
    (hP : PlacesCovered d P) (h : Covered d) : Covered d' := by
  intro r hr hprev sid cid he hp
  obtain ⟨⟨s', hs', rfl, hcid⟩, hclass⟩ := hp
  obtain ⟨s₁, hs₁, hid₁, hst₁⟩ := he
  rw [Db.student_unique hs₁ hs' hid₁] at hst₁
  rw [hpl.rollovers] at hr
  unfold Tables.ClassIn at hclass
  rw [hpl.classes] at hclass
  have hline : d.val.HasLine r.id s'.id := by
    rcases hpl.origin s' hs' with ⟨s, hs, hid, hst, hsame | hnew⟩ | ⟨-, hnone, -, hnew⟩
    · have henr : d.val.Enrolled s'.id := ⟨s, hs, hid, hst.trans hst₁⟩
      exact h r hr hprev s'.id cid henr ⟨⟨s, hs, hid, hsame.symm.trans hcid⟩, hclass⟩
    · have henr : d.val.Enrolled s'.id := ⟨s, hs, hid, hst.trans hst₁⟩
      exact hP s'.id cid (hcid ▸ hnew) (.inl henr) r hr hprev hclass
    · have hunknown : ¬d.val.Known s'.id := fun ⟨s, hs, hid⟩ => hnone s hs hid
      exact hP s'.id cid (hcid ▸ hnew) (.inr hunknown) r hr hprev hclass
  unfold Tables.HasLine
  rwa [hpl.lines]

/-! ## Runs -/

section Runs

variable [Unicode]

/-- The call brings nobody without a line into a class of the `from_year` of a previewed
rollover. -/
structure KeepsCovered (d : Db) (op : Op) : Prop where
  placing : PlacesCovered d (op.Target d)
  committing : ∀ r, op.Attempts d r → PromotesCovered d r

theorem covered_step {d : Db} {op : Op} (hop : KeepsCovered d op) (h : Covered d) :
    Covered (step d op) := by
  by_cases hroll : op.isRollover = false
  · rcases step_effect d hroll with hq | hpl
    · exact covered_of_quiet hq h
    · exact covered_of_places hpl hop.placing h
  · cases op with
    | createAcademicYear u n s e =>
      have h' := covered_createAcademicYear u n s e h
      rwa [← after_map fun _ => ()] at h'
    | generateRolloverPlan u f t c =>
      have h' := covered_generate u f t c h
      rwa [← after_map fun _ => ()] at h'
    | overrideRolloverLine u l a lv sec =>
      have h' := covered_override u l a lv sec h
      rwa [← after_map fun _ => ()] at h'
    | previewRollover u r =>
      have h' := covered_preview u r h
      rwa [← after_map fun _ => ()] at h'
    | commitRollover u rid c =>
      have hcases := commit_cases u rid c d
      rw [← after_map fun _ => ()] at hcases
      rcases hcases with hd | ⟨hgate, r, hr, rfl, hstate, hc⟩
      · rwa [show step d (.commitRollover u rid c) = d from hd]
      · exact covered_commit hc (hop.committing r ⟨hr, hstate, u, c, rfl, hgate⟩) h
    | _ => exact absurd rfl hroll

/-- A rollover that is neither previewed nor committed is not committed. -/
theorem commit_refused {d : Db} {r : RolloverRow} (hr : r ∈ d.val.rollovers)
    (hprev : r.state ≠ .previewed) (hcom : r.state ≠ .committed) (u : List String)
    (c : Option Nat) :
    ¬succeeds d (.commitRollover u r.id c) ∧ step d (.commitRollover u r.id c) = d := by
  have hfind : d.val.rollover? r.id = some r := d.ok.keys.rollovers.find?_eq_some.2 ⟨hr, rfl⟩
  have hfails : ∀ o d', TenantService.commitRollover u r.id c d ≠ .ok o d' := by
    intro o d' hok
    obtain ⟨_, t, hgate, hok⟩ := bind_eq_ok.1 hok
    obtain ⟨-, rfl⟩ := raiseIf_eq_ok.1 hgate
    have hbody := transaction_eq_ok.1 hok
    simp only [query_bind, hfind] at hbody
    cases hstate : r.state with
    | committed => exact hcom hstate
    | previewed => exact hprev hstate
    | draft =>
      rw [hstate] at hbody
      exact throw_eq_ok.1 hbody
    | committing =>
      rw [hstate] at hbody
      exact throw_eq_ok.1 hbody
  constructor
  · rintro ⟨d', hok⟩
    obtain ⟨o, h, -⟩ := map_eq_ok.1 hok
    exact hfails o d' h
  · have hcases := commit_cases u r.id c d
    rw [← after_map fun _ => ()] at hcases
    rcases hcases with hd | ⟨-, x, hx, hid, hstate, -⟩
    · exact hd
    · exact absurd (Db.rollover_unique hx hr hid ▸ hstate) hprev

/-- A first commit finds exactly one line for each enrolled student placed in its `from_year`, or
it fails and changes nothing. -/
def LeavesNobody (d : Db) (op : Op) : Prop :=
  ∀ u r c, op = .commitRollover u r.id c → r ∈ d.val.rollovers → r.state ≠ .committed →
    (∀ sid cid, d.val.Enrolled sid → d.val.Placed sid cid r.fromYearId →
      ∃! l, l ∈ d.val.lines ∧ l.rolloverId = r.id ∧ l.studentId = sid) ∨
    (¬succeeds d op ∧ step d op = d)

theorem leavesNobody_of_covered {d : Db} (h : Covered d) (op : Op) : LeavesNobody d op := by
  rintro u r c rfl hr hcom
  by_cases hprev : r.state = .previewed
  · left
    intro sid cid he hp
    obtain ⟨l, hl, hlr, hls⟩ := h r hr hprev sid cid he hp
    refine ⟨l, ⟨hl, hlr, hls⟩, ?_⟩
    rintro l' ⟨hl', hlr', hls'⟩
    exact Db.line_unique hl' hl (hlr'.trans hlr.symm) (hls'.trans hls.symm)
  · exact .inr (commit_refused hr hprev hcom u c)

/-- **No student is left behind by a rollover**, in every run that brings nobody in unplanned. -/
theorem nobody_left_behind {d : Db} (hfresh : Fresh d) {ops : List Op}
    (hops : EachStep step KeepsCovered d ops) : EachStep step LeavesNobody d ops := by
  have hstart : Covered d := by
    intro r hr
    rw [show d.val.rollovers = [] from hfresh] at hr
    cases hr
  exact run_each (fun _ _ h hop => covered_step hop h)
    (fun _ op h _ => leavesNobody_of_covered h op) hstart hops

end Runs

theorem planned_rollovers :
    (smallRun (planned 100 1 2)).val.rollovers = [⟨100, 1, 2, .previewed, none, none⟩] := by
  decide +kernel

/-- The only rollover starts at another year than the one it leads to. -/
theorem keepsCovered_commit {d : Db}
    (h : d.val.rollovers = [⟨100, 1, 2, .previewed, none, none⟩]) :
    KeepsCovered d (committed 100) := by
  refine ⟨fun _ _ h => h.elim, ?_⟩
  rintro r ⟨hr, -⟩ l - - - x hx - hyear
  rw [h, List.mem_singleton] at hr hx
  subst hr hx
  cases hyear

/-- A rollover is planned, previewed and committed, and nobody comes in between. -/
theorem nobody_left_behind_smallSchool :
    EachStep (@step ascii) (@LeavesNobody ascii) smallSchool
      (planned 100 1 2 ++ [committed 100]) := by
  refine @nobody_left_behind ascii smallSchool rfl
    _ (eachStep_append.2 ⟨⟨?_, ?_, trivial⟩, ?_, trivial⟩)
  · refine ⟨fun _ _ h => h.elim, ?_⟩
    rintro r ⟨-, -, u, c, hop, -⟩
    cases hop
  · refine ⟨fun _ _ h => h.elim, ?_⟩
    rintro r ⟨-, -, u, c, hop, -⟩
    cases hop
  · exact keepsCovered_commit (d := smallRun (planned 100 1 2)) planned_rollovers

/-- A student is enrolled in the class of year 1 after its rollover has been previewed. -/
def lateStudent : List Op :=
  planned 100 1 2 ++ [.createStudent ["school_admin"] "n@school" "N" 1 none none none]

theorem lateStudent_students :
    (⟨100, "N", some 1, none, none, .enrolled, none⟩ : StudentRow) ∈
        (smallRun lateStudent).val.students ∧
      (⟨1, "G1 - A", 1, none, 25, true, 1, some "A"⟩ : ClassRow) ∈
        (smallRun lateStudent).val.classes := by decide +kernel

theorem lateStudent_rollovers :
    (smallRun lateStudent).val.rollovers = [⟨100, 1, 2, .previewed, none, none⟩] ∧
      (smallRun lateStudent).val.lines.map LineRow.studentId = [1] := by decide +kernel

theorem lateStudent_commit :
    (@step ascii (smallRun lateStudent) (committed 100)).val.rollovers.map RolloverRow.state =
      [.committed] := by decide +kernel

theorem late_student_left_behind :
    Fresh smallSchool ∧
      ¬EachStep (@step ascii) (@LeavesNobody ascii) smallSchool
        (lateStudent ++ [committed 100]) := by
  refine ⟨rfl, fun h => ?_⟩
  have hlast : @LeavesNobody ascii (smallRun lateStudent) (committed 100) :=
    (eachStep_append.1 h).2.1
  obtain ⟨hroll, hlines⟩ := lateStudent_rollovers
  obtain ⟨hs, hc⟩ := lateStudent_students
  have hr : (⟨100, 1, 2, .previewed, none, none⟩ : RolloverRow) ∈
      (smallRun lateStudent).val.rollovers := hroll ▸ List.mem_singleton_self _
  rcases hlast ["school_admin"] ⟨100, 1, 2, .previewed, none, none⟩ none rfl hr (by simp) with
    hcov | ⟨-, hsame⟩
  · obtain ⟨l, ⟨hl, -, hsid⟩, -⟩ :=
      hcov 100 1 ⟨_, hs, rfl, rfl⟩ ⟨⟨_, hs, rfl, rfl⟩, _, hc, rfl, rfl⟩
    have hmem : l.studentId ∈ (smallRun lateStudent).val.lines.map LineRow.studentId :=
      List.mem_map_of_mem hl
    rw [hlines, hsid] at hmem
    simp at hmem
  · have hstates := lateStudent_commit
    rw [hsame, hroll] at hstates
    cases hstates

end Sams.School
