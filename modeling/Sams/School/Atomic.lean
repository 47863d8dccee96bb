import Sams.School.Commit

/-!
# A commit is atomic and re-entrant

**`commit_atomic`**: a commit that raises leaves the database as it was; one that returns can be
repeated, by any caller who may commit, and then returns the same rollover and changes nothing;
and the counts it stores are those of the students it moved or held.

The counts are stored from the lines. `tally` counts them again, from nothing but the tables
before and after: the students who got a history row and where they are now, and the students
whose line is still open.
-/

namespace Sams.School

open Programs Rows TenantRepository

/-! ## Counting what happened -/

/-- The history entries of a step. -/
def newEntries (d d' : Db) : List (Nat × Option Nat × Option Nat) :=
  d'.val.log.drop d.val.log.length

/-- The step wrote that the student went to the class they are in. -/
def wasMoved (d d' : Db) (s : StudentRow) : Bool :=
  (newEntries d d').any fun e => e.1 = s.id ∧ e.2.2 = s.classId

/-- The student sits in a class of the year. -/
def sitsIn (t : Tables) (year : Nat) (s : StudentRow) : Bool :=
  t.classes.any fun c => s.classId = some c.id ∧ c.academicYearId = year

/-- How many students a step promoted into a year, graduated, withdrew, and how many it left with
an open line of the rollover. -/
def tally (d d' : Db) (rid toYear : Nat) : Summary where
  promoted := d'.val.students.countP fun s => wasMoved d d' s ∧ sitsIn d'.val toYear s
  graduated := d'.val.students.countP fun s =>
    wasMoved d d' s ∧ s.classId = none ∧ s.status = .graduated
  withdrawn := d'.val.students.countP fun s =>
    wasMoved d d' s ∧ s.classId = none ∧ s.status = .withdrawn
  held := d'.val.students.countP fun s =>
    s ∈ d.val.students ∧ (d'.val.openLines rid).any fun l => l.studentId = s.id

variable {d d' : Db} {r : RolloverRow} {resolved : List (TargetKey × Nat)}

/-- The row of a line's student after the commit. -/
theorem Performed.exists_row (h : Performed d r resolved d') {l : LineRow}
    (hl : l ∈ d.val.openLines r.id) : ∃ s ∈ d.val.students, s.id = l.studentId ∧
      l.move resolved ((d.val.year? r.fromYearId).bind YearRow.endDate) s ∈ d'.val.students := by
  obtain ⟨s, hs, hid⟩ := d.ok.rollovers.line_student.exists_row (openLines_mem.1 hl).1 rfl
  refine ⟨s, hs, hid, ?_⟩
  have hfind : (d.val.openLines r.id).find? (fun x => x.studentId = s.id) = some l :=
    (show Keyed LineRow.studentId _ from openLines_students d r.id).find?_eq_some.2 ⟨hl, hid.symm⟩
  rw [h.students]
  exact List.mem_map.2 ⟨s, hs, by rw [hfind]; rfl⟩

/-- A row after the commit: moved by the line of its student, or as before without one. -/
theorem Performed.row_cases (h : Performed d r resolved d') {s' : StudentRow}
    (hs' : s' ∈ d'.val.students) :
    (∃ l ∈ d.val.openLines r.id, l.studentId = s'.id ∧ ∃ s ∈ d.val.students,
      s' = l.move resolved ((d.val.year? r.fromYearId).bind YearRow.endDate) s) ∨
    (s' ∈ d.val.students ∧ ∀ l ∈ d.val.openLines r.id, l.studentId ≠ s'.id) := by
  rw [h.students] at hs'
  obtain ⟨s, hs, rfl⟩ := List.mem_map.1 hs'
  cases hfind : (d.val.openLines r.id).find? fun l => l.studentId = s.id with
  | none =>
    refine .inr ⟨hs, fun l hl he => ?_⟩
    simpa [he] using List.find?_eq_none.1 hfind l hl
  | some l =>
    have hls : l.studentId = s.id := by simpa using List.find?_some hfind
    exact .inl ⟨l, List.mem_of_find?_eq_some hfind, by simpa using hls, s, hs, rfl⟩

theorem Performed.newEntries_eq (h : Performed d r resolved d') : newEntries d d' =
    (moving (d.val.openLines r.id)).map
      fun l => (l.studentId, l.fromClassId, l.newClass resolved) := by
  rw [newEntries, h.log, List.drop_left]

/-- The student of an open line was moved exactly when the line is not held. -/
theorem Performed.wasMoved_iff (h : Performed d r resolved d') {l : LineRow}
    (hl : l ∈ d.val.openLines r.id) (s : StudentRow) (hid : s.id = l.studentId) :
    wasMoved d d' (l.move resolved ((d.val.year? r.fromYearId).bind YearRow.endDate) s) = true ↔
      l.effective ≠ .hold := by
  simp only [wasMoved, h.newEntries_eq, List.any_map, List.any_eq_true, Function.comp,
    decide_eq_true_eq, LineRow.move_id, moving, List.mem_filter]
  constructor
  · rintro ⟨x, ⟨hx, hxh⟩, hxs, -⟩
    rwa [← openLines_one hx hl (hxs.trans hid)]
  · intro hgo
    refine ⟨l, ⟨hl, hgo⟩, hid.symm, ?_⟩
    unfold LineRow.move LineRow.newClass
    cases hact : l.effective with
    | hold => exact absurd hact hgo
    | _ => simp

/-- **A count of lines is a count of students**: those whose line satisfies `p` are those for whom
`q` holds after the commit. -/
theorem Performed.countP_eq (h : Performed d r resolved d') {p : LineRow → Bool}
    {q : StudentRow → Bool}
    (hline : ∀ l ∈ d.val.openLines r.id, ∀ s ∈ d.val.students, s.id = l.studentId →
      (q (l.move resolved ((d.val.year? r.fromYearId).bind YearRow.endDate) s) = true ↔
        p l = true))
    (hnone : ∀ s ∈ d.val.students, (∀ l ∈ d.val.openLines r.id, l.studentId ≠ s.id) →
      q s = false) :
    (d.val.openLines r.id).countP p = d'.val.students.countP q := by
  refine countP_eq_of_keys (openLines_students d r.id) d'.ok.keys.students fun sid => ?_
  constructor
  · rintro ⟨l, hl, hp, rfl⟩
    obtain ⟨s, hs, hid, hs'⟩ := h.exists_row hl
    exact ⟨_, hs', (hline l hl s hs hid).2 hp, by simpa using hid⟩
  · rintro ⟨s', hs', hq, rfl⟩
    rcases h.row_cases hs' with ⟨l, hl, hls, s, hs, rfl⟩ | ⟨hs, hno⟩
    · have hid : s.id = l.studentId := by simpa using hls.symm
      exact ⟨l, hl, (hline l hl s hs hid).1 hq, hls⟩
    · rw [hnone s' hs hno] at hq
      cases hq

/-- The lines still open are the held ones. -/
theorem Performed.openLines_iff (h : Performed d r resolved d') {l : LineRow} :
    l ∈ d'.val.openLines r.id ↔ l ∈ d.val.openLines r.id ∧ l.effective = .hold := by
  constructor
  · intro hl
    obtain ⟨hm, hr, happ⟩ := openLines_mem.1 hl
    rw [h.lines] at hm
    obtain ⟨x, hx, rfl⟩ := List.mem_map.1 hm
    by_cases hopen : x ∈ d.val.openLines r.id
    · rw [if_pos hopen] at happ ⊢
      by_cases hhold : x.effective = .hold
      · rw [LineRow.close, if_pos hhold]
        exact ⟨hopen, hhold⟩
      · simp [LineRow.close, hhold] at happ
    · rw [if_neg hopen] at happ hr
      exact absurd (openLines_mem.2 ⟨hx, hr, happ⟩) hopen
  · rintro ⟨hopen, hhold⟩
    obtain ⟨hm, hr, happ⟩ := openLines_mem.1 hopen
    refine openLines_mem.2 ⟨?_, hr, happ⟩
    rw [h.lines]
    exact List.mem_map.2 ⟨l, hm, by rw [if_pos hopen, LineRow.close, if_pos hhold]⟩

/-- A student without an open line was not moved. -/
theorem Performed.not_wasMoved (h : Performed d r resolved d') {s : StudentRow}
    (hno : ∀ l ∈ d.val.openLines r.id, l.studentId ≠ s.id) : wasMoved d d' s = false := by
  simp only [wasMoved, h.newEntries_eq, List.any_map, List.any_eq_false, Function.comp,
    decide_eq_true_eq]
  rintro l hl ⟨hs, -⟩
  exact hno l (List.mem_filter.1 hl).1 hs

/-- **The stored summary counts the students.** -/
theorem Performed.summary_eq (h : Performed d r resolved d') :
    summaryOf (d.val.openLines r.id) = tally d d' r.id r.toYearId := by
  -- a promoted student is in the class that was resolved, the others in none
  have hclass : ∀ l ∈ d.val.openLines r.id, l.effective = .promote →
      ∃ cid, l.newClass resolved = some cid ∧
        ∃ c ∈ d'.val.classes, c.id = cid ∧ c.academicYearId = r.toYearId := by
    intro l hl hact
    obtain ⟨cid, hcid, hnamed⟩ := h.found l hl hact
    exact ⟨cid, hcid, hnamed.classIn⟩
  unfold summaryOf tally
  congr 1
  · refine h.countP_eq (fun l hl s hs hid => ?_) fun s _ hno => by simp [h.not_wasMoved hno]
    simp only [Bool.and_eq_true, decide_eq_true_eq, Bool.decide_and, Bool.decide_eq_true,
      h.wasMoved_iff hl s hid]
    cases hact : l.effective with
    | promote =>
      obtain ⟨cid, hcid, c, hc, hid', hy⟩ := hclass l hl hact
      have hsits : sitsIn d'.val r.toYearId
          (l.move resolved ((d.val.year? r.fromYearId).bind YearRow.endDate) s) = true := by
        refine List.any_eq_true.2 ⟨c, hc, ?_⟩
        simp [LineRow.move, hact, hcid, hid', hy]
      simp [hsits]
    | _ => simp [sitsIn, LineRow.move, hact]
  · refine h.countP_eq (fun l hl s hs hid => ?_) fun s _ hno => by simp [h.not_wasMoved hno]
    simp only [Bool.and_eq_true, decide_eq_true_eq, Bool.decide_and, h.wasMoved_iff hl s hid]
    cases hact : l.effective with
    | promote =>
      obtain ⟨cid, hcid, -⟩ := hclass l hl hact
      simp [LineRow.move, hact, hcid]
    | _ => simp [LineRow.move, hact]
  · refine h.countP_eq (fun l hl s hs hid => ?_) fun s _ hno => by simp [h.not_wasMoved hno]
    simp only [Bool.and_eq_true, decide_eq_true_eq, Bool.decide_and, h.wasMoved_iff hl s hid]
    cases hact : l.effective with
    | promote =>
      obtain ⟨cid, hcid, -⟩ := hclass l hl hact
      simp [LineRow.move, hact, hcid]
    | _ => simp [LineRow.move, hact]
  · refine h.countP_eq (fun l hl s hs hid => ?_) fun s hs hno => ?_
    · simp only [Bool.and_eq_true, decide_eq_true_eq, Bool.decide_and, Bool.decide_eq_true,
        List.any_eq_true, LineRow.move_id, h.openLines_iff]
      constructor
      · rintro ⟨-, x, ⟨hx, hhold⟩, hxs⟩
        rwa [← openLines_one hx hl (hxs.trans hid)]
      · intro hhold
        exact ⟨by simpa [LineRow.move, hhold] using hs, l, ⟨hl, hhold⟩, hid.symm⟩
    · simp only [Bool.decide_and, Bool.and_eq_false_iff, decide_eq_false_iff_not,
        Bool.decide_eq_true, List.any_eq_false, decide_eq_true_eq]
      exact .inr fun l hl => hno l (h.openLines_iff.1 hl).1

/-! ## The commit -/

section Commit

variable [Unicode]

open TenantService

/-- A committed rollover is returned as it is, to every caller who may commit. -/
theorem commit_again {u : List String} (hu : Authz.require u rolloverRoles) {rid : Nat}
    {changedBy : Option Nat} {d : Db} {r : RolloverRow} (hr : d.val.rollover? rid = some r)
    (hstate : r.state = .committed) :
    commitRollover u rid changedBy d = .ok (some r) d := by
  refine bind_eq_ok.2 ⟨(), d, raiseIf_eq_ok.2 ⟨not_not.2 hu, rfl⟩, ?_⟩
  refine transaction_eq_ok.2 ?_
  simp only [query_bind, hr, hstate]
  rfl

/-- **A commit is atomic and re-entrant, and its counts are those of the students.** -/
theorem commit_atomic (u : List String) (rid : Nat) (changedBy : Option Nat) (d : Db) :
    (∀ e d', commitRollover u rid changedBy d = .error e d' → d' = d) ∧
    ∀ o d', commitRollover u rid changedBy d = .ok o d' →
      ∃ r, o = some r ∧ d'.val.rollover? rid = some r ∧ r.state = .committed ∧
        (∀ u' changedBy', Authz.require u' rolloverRoles →
          commitRollover u' rid changedBy' d' = .ok (some r) d') ∧
        ∀ r₀, d.val.rollover? rid = some r₀ → r₀.state = .previewed →
          r.summary = some (tally d d' rid r.toYearId) := by
  refine ⟨fun e d' h => commit_error h, fun o d' h => ?_⟩
  obtain ⟨-, r₀, hr₀, rfl, hcases⟩ := commit_ok h
  have hfind : d.val.rollover? r₀.id = some r₀ := d.ok.keys.rollovers.find?_eq_some.2 ⟨hr₀, rfl⟩
  rcases hcases with ⟨hstate, rfl, rfl⟩ | ⟨hstate, ho, resolved, hp⟩
  · refine ⟨r₀, rfl, hfind, hstate, fun u' c' hu' => commit_again hu' hfind hstate, ?_⟩
    intro r₁ hr₁ hs₁
    obtain rfl := Option.some.inj (hfind.symm.trans hr₁)
    cases hstate.symm.trans hs₁
  · have hafter : d'.val.rollover? r₀.id = some { r₀ with
        state := .committed, summary := some (summaryOf (d.val.openLines r₀.id)) } := by
      unfold Tables.rollover? at hfind ⊢
      rw [hp.rollovers, find?_updateWhere (by intro _; rfl), hfind]
      simp
    refine ⟨_, ho.trans hafter, hafter, rfl, fun u' c' hu' => commit_again hu' hafter rfl, ?_⟩
    intro _ _ _
    rw [← hp.summary_eq]

end Commit

theorem planned_commit : returns (@TenantService.commitRollover ascii ["school_admin"] 100 none)
    (smallRun (planned 100 1 2)) = true := by decide +kernel

theorem commit_atomic_planned : ∃ o d', @TenantService.commitRollover ascii ["school_admin"] 100
    none (smallRun (planned 100 1 2)) = .ok o d' ∧ ∃ r, o = some r ∧ r.state = .committed := by
  obtain ⟨o, d', h⟩ := returns_iff.1 planned_commit
  obtain ⟨r, ho, -, hstate, -⟩ :=
    (@commit_atomic ascii ["school_admin"] 100 none (smallRun (planned 100 1 2))).2 o d' h
  exact ⟨o, d', h, r, ho, hstate⟩

end Sams.School
