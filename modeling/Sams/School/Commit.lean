import Sams.School.Applied

/-!
# The outcome of a commit

`Committed d r d'` says what the commit of the previewed rollover `r` does, in the terms the
invariants use: the two year statuses, the rollover's state, the classes opened, and each
student's outcome by the effective action of their line. It follows from what the commit writes.
**`commit_cases`**: a commit changed nothing, or the rollover was previewed and `Committed` holds.
-/

namespace Sams.School

open Programs Rows TenantRepository

/-- What the line `l` does to its student. -/
def Outcome (t' : Tables) (toYear : Nat) (l : LineRow) (s s' : StudentRow) : Prop :=
  match l.effective with
  | .promote => s'.status = s.status ∧ ∃ cid, s'.classId = some cid ∧ t'.ClassIn cid toYear
  | .graduate => s'.status = .graduated ∧ s'.classId = none
  | .withdraw => s'.status = .withdrawn ∧ s'.classId = none
  | .hold => False

/-- Only a promotion ends in a class, which is one of `to_year`. -/
theorem Outcome.of_classId {t : Tables} {toYear cid : Nat} {l : LineRow} {s s' : StudentRow}
    (ho : Outcome t toYear l s s') (hc : s'.classId = some cid) :
    l.effective = .promote ∧ s'.status = s.status ∧ t.ClassIn cid toYear := by
  unfold Outcome at ho
  cases hact : l.effective with
  | promote =>
    rw [hact] at ho
    obtain ⟨hst, cid', hc', hclass⟩ := ho
    obtain rfl := Option.some.inj (hc'.symm.trans hc)
    exact ⟨rfl, hst, hclass⟩
  | graduate =>
    rw [hact] at ho
    simp [ho.2] at hc
  | withdraw =>
    rw [hact] at ho
    simp [ho.2] at hc
  | hold =>
    rw [hact] at ho
    exact ho.elim

/-- The effect of committing `r`. -/
structure Committed (d : Db) (r : RolloverRow) (d' : Db) : Prop where
  years : d'.val.years = flipped r.fromYearId r.toYearId d.val.years
  rollovers : ∃ summary, d'.val.rollovers =
    updateWhere (fun x => x.id = r.id) (fun x => { x with state := .committed, summary })
      d.val.rollovers
  lines : ∀ rid sid, d'.val.HasLine rid sid ↔ d.val.HasLine rid sid
  classes : ∃ opened, d'.val.classes = d.val.classes ++ opened ∧
    ∀ c ∈ opened, c.academicYearId = r.toYearId
  kept : d'.val.students.map StudentRow.id = d.val.students.map StudentRow.id
  students : ∀ s' ∈ d'.val.students, ∃ s ∈ d.val.students, s.id = s'.id ∧
    ((∃ l ∈ d.val.openLines r.id, l.studentId = s.id ∧ Outcome d'.val r.toYearId l s s') ∨
      (s' = s ∧ ∀ l ∈ d.val.openLines r.id, l.studentId = s.id → l.effective = .hold))

/-- A line stays the line of its student. -/
theorem LineRow.close_ids (resolved : List (TargetKey × Nat)) (l : LineRow) :
    (l.close resolved).rolloverId = l.rolloverId ∧ (l.close resolved).studentId = l.studentId := by
  unfold LineRow.close
  split_ifs <;> exact ⟨rfl, rfl⟩

/-- A class that was resolved is a class of `to_year`. -/
theorem Tables.HasNamed.classIn {t : Tables} {name : Option String} {toYear cid : Nat}
    (h : t.HasNamed name toYear cid) : t.ClassIn cid toYear := by
  obtain ⟨c, hc, hid, -, hyear⟩ := h
  exact ⟨c, hc, hid, hyear⟩

theorem Performed.hasLine_iff {d d' : Db} {r : RolloverRow} {resolved : List (TargetKey × Nat)}
    (h : Performed d r resolved d') (rid sid : Nat) :
    d'.val.HasLine rid sid ↔ d.val.HasLine rid sid := by
  have hids : ∀ l : LineRow, (if l ∈ d.val.openLines r.id then l.close resolved else l).rolloverId =
      l.rolloverId ∧ (if l ∈ d.val.openLines r.id then l.close resolved else l).studentId =
        l.studentId := by
    intro l
    split_ifs
    · exact l.close_ids resolved
    · exact ⟨rfl, rfl⟩
  unfold Tables.HasLine
  rw [h.lines]
  simp only [List.mem_map, exists_exists_and_eq_and]
  exact exists_congr fun l => by rw [(hids l).1, (hids l).2]

/-- What a line does when it is applied. -/
theorem Performed.outcome {d d' : Db} {r : RolloverRow} {resolved : List (TargetKey × Nat)}
    (h : Performed d r resolved d') {l : LineRow} (hl : l ∈ d.val.openLines r.id)
    (hgo : l.effective ≠ .hold) (s : StudentRow) :
    Outcome d'.val r.toYearId l s
      (l.move resolved ((d.val.year? r.fromYearId).bind YearRow.endDate) s) := by
  unfold Outcome LineRow.move
  cases hact : l.effective with
  | promote =>
    obtain ⟨cid, hcid, hnamed⟩ := h.found l hl hact
    exact ⟨rfl, cid, hcid, hnamed.classIn⟩
  | graduate => exact ⟨rfl, rfl⟩
  | withdraw => exact ⟨rfl, rfl⟩
  | hold => exact hgo hact

theorem Performed.committed {d d' : Db} {r : RolloverRow} {resolved : List (TargetKey × Nat)}
    (h : Performed d r resolved d') : Committed d r d' where
  years := h.years
  rollovers := ⟨_, h.rollovers⟩
  lines := h.hasLine_iff
  classes := by
    obtain ⟨opened, hval, hopen⟩ := h.classes
    exact ⟨opened, hval, fun c hc => (hopen c hc).year⟩
  kept := by
    rw [h.students, List.map_map]
    refine List.map_congr_left fun s _ => ?_
    cases hl : (d.val.openLines r.id).find? fun l => l.studentId = s.id with
    | none => simp [hl]
    | some l => simp [hl]
  students := by
    intro s' hs'
    rw [h.students] at hs'
    obtain ⟨s, hs, rfl⟩ := List.mem_map.1 hs'
    cases hfind : (d.val.openLines r.id).find? fun l => l.studentId = s.id with
    | none =>
      refine ⟨s, hs, rfl, .inr ⟨rfl, fun l hl hls => ?_⟩⟩
      simpa [hls] using List.find?_eq_none.1 hfind l hl
    | some l =>
      have hl := List.mem_of_find?_eq_some hfind
      have hls : l.studentId = s.id := by simpa using List.find?_some hfind
      refine ⟨s, hs, by simp, ?_⟩
      by_cases hhold : l.effective = .hold
      · refine .inr ⟨by simp [LineRow.move, hhold], fun l' hl' hls' => ?_⟩
        rw [openLines_one hl' hl (hls'.trans hls.symm), hhold]
      · exact .inl ⟨l, hl, hls, h.outcome hl hhold s⟩

variable [Unicode]

/-- A commit of a previewed rollover that returned performed it. -/
theorem commit_performed {u : List String} {rid : Nat} {changedBy : Option Nat} {d d' : Db}
    {o : Option RolloverRow} {r : RolloverRow} (hr : d.val.rollover? rid = some r)
    (hstate : r.state = .previewed)
    (h : TenantService.commitRollover u rid changedBy d = .ok o d') :
    ∃ resolved, Performed d r resolved d' := by
  obtain ⟨-, r', hr', rfl, hcases⟩ := commit_ok h
  obtain rfl : r' = r :=
    Option.some.inj ((d.ok.keys.rollovers.find?_eq_some.2 ⟨hr', rfl⟩).symm.trans hr)
  rcases hcases with ⟨hcom, -⟩ | ⟨-, -, hp⟩
  · cases hcom.symm.trans hstate
  · exact hp

/-- A commit that raised changed nothing. -/
theorem commit_error {u : List String} {rid : Nat} {changedBy : Option Nat} {d d' : Db}
    {e : PyError} (h : TenantService.commitRollover u rid changedBy d = .error e d') : d' = d := by
  rcases bind_eq_error.1 h with hgate | ⟨_, t, hgate, h⟩
  · exact (raiseIf_eq_error.1 hgate).2.2.symm
  · obtain ⟨-, rfl⟩ := raiseIf_eq_ok.1 hgate
    exact transaction_eq_error h

/-- **What a commit does.** It changed nothing, or its caller was allowed to and the rollover was
previewed and was committed. -/
theorem commit_cases (u : List String) (rid : Nat) (cb : Option Nat) (d : Db) :
    after (TenantService.commitRollover u rid cb) d = d ∨
      Authz.require u TenantService.rolloverRoles ∧
        ∃ r ∈ d.val.rollovers, r.id = rid ∧ r.state = .previewed ∧
          Committed d r (after (TenantService.commitRollover u rid cb) d) := by
  rcases ok_or_error (TenantService.commitRollover u rid cb) d with ⟨o, h⟩ | ⟨e, h⟩
  · obtain ⟨hallowed, r, hr, hid, ⟨-, -, hsame⟩ | ⟨hstate, -, resolved, hp⟩⟩ := commit_ok h
    · exact .inl hsame
    · exact .inr ⟨hallowed, r, hr, hid, hstate, hp.committed⟩
  · exact .inl (commit_error h)

end Sams.School
