import Mathlib.Data.List.Induction
import Sams.School.Planning

/-!
# What recomputing a rollover writes

A recompute drops the rollover's lines of students without a fact and stores a proposal for each
fact, in order, in the line of its student. `LineRow.storeAll rid ps l` is what the proposals `ps`
make of the line `l`, and **`recompute_lines`** says that the recompute maps it over the lines that
stay and over a blank line for each new student.

Storing a proposal overwrites what earlier ones wrote (`storeAll_store`), so only the last proposal
of a student counts, and storing the same proposals again changes nothing.
-/

namespace Sams.School

open Programs Rows TenantRepository TenantService

/-! ## Storing proposals in one line -/

/-- Store a proposal: a stored override keeps the target it was given. -/
def LineRow.store (l : LineRow) (p : ProposedLine) : LineRow :=
  { l with
    fromClassId := some p.fromClassId
    proposedAction := p.proposedAction
    exceptionCode := p.exceptionCode
    toLevelId := if l.overrideAction.isNone then p.toLevelId else l.toLevelId
    toSectionLabel := if l.overrideAction.isNone then p.toSectionLabel else l.toSectionLabel }

/-- The line of a student before anything is proposed. -/
def blankLine (id rid sid : Nat) : LineRow :=
  { id, rolloverId := rid, studentId := sid, fromClassId := none, toLevelId := none
    toSectionLabel := none, toClassId := none, proposedAction := .hold, overrideAction := none
    exceptionCode := none, applied := false }

/-- Store the proposal if it is for this line. -/
def LineRow.storeOne (rid : Nat) (l : LineRow) (p : ProposedLine) : LineRow :=
  if l.rolloverId = rid ∧ l.studentId = p.studentId then l.store p else l

/-- Store the proposals that are for this line, in order. -/
def LineRow.storeAll (rid : Nat) (ps : List ProposedLine) (l : LineRow) : LineRow :=
  ps.foldl (LineRow.storeOne rid) l

/-- What identifies a line, and what only an admin or a commit writes. -/
structure LineRow.SameKey (l l' : LineRow) : Prop where
  id : l'.id = l.id
  rolloverId : l'.rolloverId = l.rolloverId
  studentId : l'.studentId = l.studentId
  overrideAction : l'.overrideAction = l.overrideAction
  toClassId : l'.toClassId = l.toClassId
  applied : l'.applied = l.applied

theorem LineRow.SameKey.trans {l l' l'' : LineRow} (h : l.SameKey l') (h' : l'.SameKey l'') :
    l.SameKey l'' :=
  ⟨h'.id.trans h.id, h'.rolloverId.trans h.rolloverId, h'.studentId.trans h.studentId,
    h'.overrideAction.trans h.overrideAction, h'.toClassId.trans h.toClassId,
    h'.applied.trans h.applied⟩

theorem sameKey_store (l : LineRow) (p : ProposedLine) : l.SameKey (l.store p) :=
  ⟨rfl, rfl, rfl, rfl, rfl, rfl⟩

theorem sameKey_storeOne (rid : Nat) (l : LineRow) (p : ProposedLine) :
    l.SameKey (l.storeOne rid p) := by
  unfold LineRow.storeOne
  split_ifs
  · exact sameKey_store l p
  · exact ⟨rfl, rfl, rfl, rfl, rfl, rfl⟩

theorem sameKey_storeAll (rid : Nat) (ps : List ProposedLine) (l : LineRow) :
    l.SameKey (l.storeAll rid ps) := by
  induction ps generalizing l with
  | nil => exact ⟨rfl, rfl, rfl, rfl, rfl, rfl⟩
  | cons p ps ih => exact (sameKey_storeOne rid l p).trans (ih _)

theorem store_store (l : LineRow) (p q : ProposedLine) : (l.store p).store q = l.store q := by
  simp only [LineRow.store]
  split_ifs <;> rfl

/-- **The last proposal overwrites the earlier ones.** -/
theorem storeAll_store (rid : Nat) (ps : List ProposedLine) (l : LineRow) (p : ProposedLine) :
    (l.storeAll rid ps).store p = l.store p := by
  induction ps generalizing l with
  | nil => rfl
  | cons q ps ih =>
    refine (ih _).trans ?_
    unfold LineRow.storeOne
    split_ifs
    · exact store_store l q p
    · rfl

theorem storeAll_append (rid : Nat) (ps : List ProposedLine) (p : ProposedLine) (l : LineRow) :
    l.storeAll rid (ps ++ [p]) = (l.storeAll rid ps).storeOne rid p := by
  simp [LineRow.storeAll]

/-- **Only the last proposal for a line counts.** -/
theorem storeAll_eq (rid : Nat) (ps : List ProposedLine) (l : LineRow) :
    l.storeAll rid ps =
      (ps.reverse.find? fun p => l.rolloverId = rid ∧ l.studentId = p.studentId).elim l
        l.store := by
  induction ps using List.reverseRecOn with
  | nil => rfl
  | append_singleton ps p ih =>
    have hkey := sameKey_storeAll rid ps l
    rw [storeAll_append, List.reverse_append, List.reverse_singleton, List.singleton_append,
      List.find?_cons]
    by_cases hp : l.rolloverId = rid ∧ l.studentId = p.studentId
    · rw [LineRow.storeOne, if_pos ⟨hkey.rolloverId.trans hp.1, hkey.studentId.trans hp.2⟩,
        storeAll_store]
      simp [hp]
    · have hp' : ¬((l.storeAll rid ps).rolloverId = rid ∧
          (l.storeAll rid ps).studentId = p.studentId) := by
        rwa [hkey.rolloverId, hkey.studentId]
      rw [LineRow.storeOne, if_neg hp', ih]
      simp only [hp, decide_false]

/-- A line of another rollover is left alone. -/
theorem storeAll_other {rid : Nat} {l : LineRow} (h : l.rolloverId ≠ rid)
    (ps : List ProposedLine) : l.storeAll rid ps = l := by
  have hnone : ps.reverse.find? (fun p => l.rolloverId = rid ∧ l.studentId = p.studentId) = none :=
    List.find?_eq_none.2 fun p _ => by simp [h]
  rw [storeAll_eq, hnone]
  rfl

/-- A line of the rollover ends with one of the proposals for its student, if there are any. -/
theorem storeAll_mem {rid : Nat} {l : LineRow} (h : l.rolloverId = rid) {ps : List ProposedLine}
    (hp : l.studentId ∈ ps.map ProposedLine.studentId) :
    ∃ p ∈ ps, p.studentId = l.studentId ∧ l.storeAll rid ps = l.store p := by
  rw [storeAll_eq]
  cases hfind : ps.reverse.find? fun p => l.rolloverId = rid ∧ l.studentId = p.studentId with
  | none =>
    obtain ⟨p, hp, hps⟩ := List.mem_map.1 hp
    have hno := List.find?_eq_none.1 hfind p (List.mem_reverse.2 hp)
    exact absurd (decide_eq_true ⟨h, hps.symm⟩) hno
  | some p =>
    have hps : l.rolloverId = rid ∧ l.studentId = p.studentId := by
      simpa using List.find?_some hfind
    exact ⟨p, List.mem_reverse.1 (List.mem_of_find?_eq_some hfind), hps.2.symm, rfl⟩

/-- **Storing the same proposals again changes nothing.** -/
theorem storeAll_storeAll (rid : Nat) (ps : List ProposedLine) (l : LineRow) :
    (l.storeAll rid ps).storeAll rid ps = l.storeAll rid ps := by
  have hkey := sameKey_storeAll rid ps l
  rw [storeAll_eq rid ps (l.storeAll rid ps), hkey.rolloverId, hkey.studentId]
  cases hfind : ps.reverse.find? fun p => l.rolloverId = rid ∧ l.studentId = p.studentId with
  | none => rfl
  | some p =>
    rw [Option.elim_some, storeAll_store, storeAll_eq, hfind]
    rfl

/-! ## What a recompute writes -/

/-- The line of a student in a rollover. -/
def Tables.lineFor (t : Tables) (rid sid : Nat) : Option LineRow :=
  t.lines.find? fun l => l.rolloverId = rid ∧ l.studentId = sid

theorem Db.lineFor_eq_some {d : Db} {rid sid : Nat} {l : LineRow} :
    d.val.lineFor rid sid = some l ↔ l ∈ d.val.lines ∧ l.rolloverId = rid ∧ l.studentId = sid := by
  unfold Tables.lineFor
  constructor
  · intro h
    exact ⟨List.mem_of_find?_eq_some h, by simpa using List.find?_some h⟩
  · rintro ⟨hl, hr, hs⟩
    cases hfind : d.val.lines.find? fun l => l.rolloverId = rid ∧ l.studentId = sid with
    | none => exact absurd (List.find?_eq_none.1 hfind l hl) (by simp [hr, hs])
    | some l' =>
      have hl' : l'.rolloverId = rid ∧ l'.studentId = sid := by simpa using List.find?_some hfind
      rw [Db.line_unique (List.mem_of_find?_eq_some hfind) hl (hl'.1.trans hr.symm)
        (hl'.2.trans hs.symm)]

/-- The proposals that a recompute of the rollover `rid` from the year `y` stores. -/
def proposals (t : Tables) (rid y : Nat) : List ProposedLine :=
  flagOverCapacity (t.lineFor rid) ((planFacts t y).map propose)

/-- The engine proposes no withdrawal, and to promote into the level of the fact. -/
theorem propose_fields (f : PlanFact) :
    (propose f).proposedAction ≠ .withdraw ∧ (propose f).fromClassId = f.fromClassId ∧
      ∀ id ∈ (propose f).toLevelId, id ∈ f.toLevelId := by
  unfold propose
  dsimp only
  split_ifs <;> simp

/-- A proposal is what the engine proposes for a fact, flagged or not. -/
theorem mem_proposals {t : Tables} {rid y : Nat} {p : ProposedLine} (h : p ∈ proposals t rid y) :
    ∃ f ∈ planFacts t y, ∃ e, p = { propose f with exceptionCode := e } := by
  obtain ⟨q, hq, rfl⟩ := List.mem_map.1 h
  obtain ⟨f, hf, rfl⟩ := List.mem_map.1 hq
  refine ⟨f, hf, ?_⟩
  split
  · exact ⟨_, rfl⟩
  · dsimp only
    split_ifs
    · exact ⟨_, rfl⟩
    · exact ⟨_, rfl⟩

/-- The lines a recompute reads for the overrides are those of the rollover. -/
theorem views_lineFor (d : Db) (rid sid : Nat) :
    (((((d.val.linesOf rid).filterMap (lineView d.val)).insertionSort fun a b => a.le b).find?
      fun v => v.line.studentId = sid).map LineView.line) = d.val.lineFor rid sid := by
  have hview : ∀ v, v ∈ ((d.val.linesOf rid).filterMap (lineView d.val)).insertionSort
      (fun a b => a.le b) → v.line ∈ d.val.lines ∧ v.line.rolloverId = rid := by
    intro v hv
    obtain ⟨l, hl, hlv⟩ := List.mem_filterMap.1 ((List.mem_insertionSort _).1 hv)
    obtain ⟨s, -, rfl⟩ := Option.map_eq_some_iff.1 hlv
    obtain ⟨hl, hr⟩ := List.mem_filter.1 hl
    exact ⟨hl, of_decide_eq_true hr⟩
  cases hline : d.val.lineFor rid sid with
  | none =>
    rw [Option.map_eq_none_iff, List.find?_eq_none]
    intro v hv hs
    obtain ⟨hl, hr⟩ := hview v hv
    have hsome := Db.lineFor_eq_some.2 ⟨hl, hr, of_decide_eq_true hs⟩
    rw [hline] at hsome
    cases hsome
  | some l =>
    obtain ⟨hl, hr, hs⟩ := Db.lineFor_eq_some.1 hline
    -- the line is shown, because its student exists
    obtain ⟨st, hst, hid⟩ := d.ok.rollovers.line_student.exists_row hl rfl
    have hstudent : d.val.student? l.studentId = some st :=
      d.ok.keys.students.find?_eq_some.2 ⟨hst, hid⟩
    cases hfind : (((d.val.linesOf rid).filterMap (lineView d.val)).insertionSort
        fun a b => a.le b).find? fun v => v.line.studentId = sid with
    | none =>
      have hno := List.find?_eq_none.1 hfind
      obtain ⟨v, hv⟩ : ∃ v, lineView d.val l = some v := by
        unfold lineView
        rw [hstudent]
        exact ⟨_, rfl⟩
      have hvl : v.line = l := by
        obtain ⟨s, -, rfl⟩ := Option.map_eq_some_iff.1 hv
        rfl
      have hmem : v ∈ ((d.val.linesOf rid).filterMap (lineView d.val)).insertionSort
          fun a b => a.le b :=
        (List.mem_insertionSort _).2
          (List.mem_filterMap.2 ⟨l, List.mem_filter.2 ⟨hl, decide_eq_true hr⟩, hv⟩)
      exact absurd (decide_eq_true (hvl ▸ hs)) (hno v hmem)
    | some v =>
      obtain ⟨hvl, hvr⟩ := hview v (List.mem_of_find?_eq_some hfind)
      have hvs : v.line.studentId = sid := by simpa using List.find?_some hfind
      rw [Option.map_some, Db.line_unique hvl hl (hvr.trans hr.symm) (hvs.trans hs.symm)]

/-- Storing a proposal stores it in the lines there are, and adds a line if there was none. -/
theorem upsertLine_lines (t : Tables) (rid : Nat) (p : ProposedLine) :
    (upsertLine t rid p).lines = t.lines.map (fun l => l.storeOne rid p) ++
      if (t.lineFor rid p.studentId).isSome then []
      else [(blankLine t.seq.line rid p.studentId).store p] := by
  have hany : (t.lines.any fun l => l.rolloverId = rid ∧ l.studentId = p.studentId) =
      (t.lineFor rid p.studentId).isSome := by
    rw [Tables.lineFor, Bool.eq_iff_iff, List.find?_isSome, List.any_eq_true]
  unfold upsertLine
  rw [hany]
  split_ifs with hsome
  · rw [List.append_nil]
    simp only [Tables.setLines, updateWhere, LineRow.storeOne, decide_eq_true_eq]
    rfl
  · have hmap : t.lines.map (fun l => l.storeOne rid p) = t.lines := by
      refine (List.map_congr_left fun l hl => ?_).trans (List.map_id _)
      have hno := List.find?_eq_none.1 (Option.not_isSome_iff_eq_none.1 hsome) l hl
      exact if_neg fun hkey => hno (decide_eq_true hkey)
    rw [hmap]
    rfl

/-- The blank lines that the proposals add. -/
def Blanks (t : Tables) (rid : Nat) (ps : List ProposedLine) (blanks : List LineRow) : Prop :=
  ∀ b ∈ blanks, ∃ id sid, b = blankLine id rid sid ∧ sid ∈ ps.map ProposedLine.studentId ∧
    t.lineFor rid sid = none

/-- **Storing proposals** stores them in the lines there are and in a blank line for each student
without one. -/
theorem foldl_upsertLine (t : Tables) (rid : Nat) (ps : List ProposedLine) :
    ∃ blanks, Blanks t rid ps blanks ∧
      (ps.foldl (fun t p => upsertLine t rid p) t).lines =
        (t.lines ++ blanks).map (LineRow.storeAll rid ps) := by
  induction ps using List.reverseRecOn with
  | nil =>
    refine ⟨[], by simp [Blanks], ?_⟩
    rw [List.append_nil]
    exact (List.map_id _).symm
  | append_singleton ps p ih =>
    obtain ⟨blanks, hblanks, hlines⟩ := ih
    have hstore : ∀ xs : List LineRow, (xs.map (LineRow.storeAll rid ps)).map
        (fun l => l.storeOne rid p) = xs.map (LineRow.storeAll rid (ps ++ [p])) := by
      intro xs
      rw [List.map_map]
      exact List.map_congr_left fun l _ => (storeAll_append rid ps p l).symm
    rw [List.foldl_append, List.foldl_cons, List.foldl_nil, upsertLine_lines, hlines, hstore]
    have hmore : ∀ b ∈ blanks, ∃ id sid, b = blankLine id rid sid ∧
        sid ∈ (ps ++ [p]).map ProposedLine.studentId ∧ t.lineFor rid sid = none := by
      intro b hb
      obtain ⟨id, sid, hbe, hsid, hnone⟩ := hblanks b hb
      exact ⟨id, sid, hbe, by rw [List.map_append]; exact List.mem_append_left _ hsid, hnone⟩
    split_ifs with hsome
    · exact ⟨blanks, hmore, by rw [List.append_nil]⟩
    · -- the student has no line among those stored, so none among the old ones
      have hnone : t.lineFor rid p.studentId = none := by
        refine List.find?_eq_none.2 fun l hl hkey => ?_
        have hkey : l.rolloverId = rid ∧ l.studentId = p.studentId := by simpa using hkey
        have hstored := List.find?_eq_none.1 (Option.not_isSome_iff_eq_none.1 hsome)
          (l.storeAll rid ps) (by
            rw [hlines]
            exact List.mem_map_of_mem (List.mem_append_left _ hl))
        have hsame := sameKey_storeAll rid ps l
        exact hstored (by simp [hsame.rolloverId, hsame.studentId, hkey])
      refine ⟨blanks ++ [blankLine (ps.foldl (fun t p => upsertLine t rid p) t).seq.line rid
        p.studentId], ?_, ?_⟩
      · intro b hb
        rcases List.mem_append.1 hb with hb | hb
        · exact hmore b hb
        · exact ⟨_, _, List.mem_singleton.1 hb, by simp, hnone⟩
      · have hnew := sameKey_storeAll rid ps
          (blankLine (ps.foldl (fun t p => upsertLine t rid p) t).seq.line rid p.studentId)
        have hstored : (blankLine (ps.foldl (fun t p => upsertLine t rid p) t).seq.line rid
            p.studentId).storeAll rid (ps ++ [p]) =
            (blankLine (ps.foldl (fun t p => upsertLine t rid p) t).seq.line rid
              p.studentId).store p := by
          rw [storeAll_append, LineRow.storeOne, if_pos ⟨hnew.rolloverId, hnew.studentId⟩,
            storeAll_store]
        rw [← List.append_assoc, @List.map_append _ _ _ (t.lines ++ blanks), List.map_singleton,
          hstored]

/-- What a recompute of the rollover `rid` from the year `y` wrote. -/
structure Recomputed (d : Db) (rid y : Nat) (d' : Db) : Prop where
  only : OnlyLines d d'
  ordinals : ∀ f ∈ planFacts d.val y, f.fromOrdinal ≠ some 2147483647
  stores : ∀ p ∈ proposals d.val rid y, d'.val.HasLine rid p.studentId
  lines : ∃ blanks, Blanks d.val rid (proposals d.val rid y) blanks ∧
    d'.val.lines = ((d.val.lines.filter fun l => ¬(l.rolloverId = rid ∧
        l.studentId ∉ (proposals d.val rid y).map ProposedLine.studentId)) ++ blanks).map
      (LineRow.storeAll rid (proposals d.val rid y))

/-- **What recomputing does.** -/
theorem recompute_lines {rid y : Nat} {d d' : Db} {u : Unit}
    (h : recomputeRolloverLines rid y d = .ok u d') : Recomputed d rid y d' := by
  have honly : OnlyLines d d' := after_ok h ▸ onlyLines_recompute rid y d
  obtain ⟨facts, t, hfacts, h⟩ := bind_eq_ok.1 h
  obtain ⟨rfl, rfl⟩ := getRolloverPlanFacts_ok hfacts
  simp only [query_bind, views_lineFor] at h
  have hup : upsertRolloverLines rid (proposals t.val rid y) t = .ok u d' := h
  refine ⟨honly, ?_, upsertRolloverLines_hasLine hup, ?_⟩
  · obtain ⟨_, _, hread, hrest⟩ := bind_eq_ok.1 hfacts
    obtain ⟨rfl, rfl⟩ := query_eq_ok.1 hread
    obtain ⟨_, _, hraise, -⟩ := bind_eq_ok.1 hrest
    simpa using (raiseIf_eq_ok.1 hraise).1
  unfold upsertRolloverLines at hup
  obtain ⟨_, t₁, hdel, hloop⟩ := bind_eq_ok.1 (transaction_eq_ok.1 hup)
  obtain ⟨blanks, hblanks, hlines⟩ := foldl_upsertLine t₁.val rid (proposals t.val rid y)
  have hstored := forM_exec_ok hloop
  have hkept := exec_eq_ok.1 hdel
  refine ⟨blanks, fun b hb => ?_, ?_⟩
  · obtain ⟨id, sid, hbe, hsid, hnone⟩ := hblanks b hb
    refine ⟨id, sid, hbe, hsid, ?_⟩
    -- a line of a student with a proposal is not among the deleted ones
    refine List.find?_eq_none.2 fun l hl hkey => ?_
    have hkey : l.rolloverId = rid ∧ l.studentId = sid := by simpa using hkey
    have hno := List.find?_eq_none.1 hnone l (by
      rw [hkept]
      exact List.mem_filter.2 ⟨hl, by simp [hkey, hsid]⟩)
    exact hno (by simp [hkey])
  · rw [hstored, hlines, hkept]

/-- The lines of the other rollovers stay as they are. -/
theorem Recomputed.others {rid y r : Nat} {d d' : Db} (h : Recomputed d rid y d') (hr : r ≠ rid) :
    d'.val.linesOf r = d.val.linesOf r := by
  obtain ⟨blanks, hblanks, hlines⟩ := h.lines
  have hmap : ∀ xs : List LineRow, (xs.map (LineRow.storeAll rid (proposals d.val rid y))).filter
      (fun l => l.rolloverId = r) = xs.filter fun l => l.rolloverId = r := by
    intro xs
    rw [List.filter_map]
    have hkey : (xs.filter ((fun l => decide (l.rolloverId = r)) ∘
        LineRow.storeAll rid (proposals d.val rid y))) = xs.filter fun l => l.rolloverId = r :=
      List.filter_congr fun l _ => by
        simp only [Function.comp, (sameKey_storeAll rid (proposals d.val rid y) l).rolloverId]
    rw [hkey]
    refine (List.map_congr_left fun l hl => ?_).trans (List.map_id _)
    have hl : l.rolloverId = r := by simpa using (List.mem_filter.1 hl).2
    exact storeAll_other (hl ▸ hr) _
  have hnone : blanks.filter (fun l => l.rolloverId = r) = [] := by
    refine List.filter_eq_nil_iff.2 fun b hb => ?_
    obtain ⟨id, sid, rfl, -⟩ := hblanks b hb
    simp [blankLine, hr.symm]
  rw [Tables.linesOf, hlines, hmap, List.filter_append, hnone, List.append_nil, List.filter_filter]
  refine List.filter_congr fun l _ => ?_
  by_cases hl : l.rolloverId = r
  · simp [hl, hr]
  · simp [hl]

/-- **A line of the rollover is a proposal that was stored**, in an old line of the student or in
a blank one. -/
theorem Recomputed.stored {rid y : Nat} {d d' : Db} (h : Recomputed d rid y d') {l' : LineRow}
    (hl' : l' ∈ d'.val.lines) (hr : l'.rolloverId = rid) :
    ∃ p ∈ proposals d.val rid y, ∃ l, l' = l.store p ∧ l.rolloverId = rid ∧
      l.studentId = p.studentId ∧
      (l ∈ d.val.lines ∨ ∃ id, l = blankLine id rid p.studentId ∧
        d.val.lineFor rid p.studentId = none) := by
  obtain ⟨blanks, hblanks, hlines⟩ := h.lines
  rw [hlines] at hl'
  obtain ⟨l, hl, rfl⟩ := List.mem_map.1 hl'
  rw [(sameKey_storeAll rid _ l).rolloverId] at hr
  rcases List.mem_append.1 hl with hl | hl
  · obtain ⟨hl, hkept⟩ := List.mem_filter.1 hl
    have hp : l.studentId ∈ (proposals d.val rid y).map ProposedLine.studentId :=
      not_not.1 fun hp => of_decide_eq_true hkept ⟨hr, hp⟩
    obtain ⟨p, hp, hps, he⟩ := storeAll_mem hr hp
    exact ⟨p, hp, l, he, hr, hps.symm, .inl hl⟩
  · obtain ⟨id, sid, rfl, hsid, hnone⟩ := hblanks l hl
    obtain ⟨p, hp, hps, he⟩ := storeAll_mem (l := blankLine id rid sid) rfl hsid
    change p.studentId = sid at hps
    subst hps
    exact ⟨p, hp, _, he, rfl, rfl, .inr ⟨id, rfl, hnone⟩⟩

/-- A line whose student has a fact stays, with a proposal for the student stored in it. -/
theorem Recomputed.kept {rid y : Nat} {d d' : Db} (h : Recomputed d rid y d') {l : LineRow}
    (hl : l ∈ d.val.lines) (hr : l.rolloverId = rid)
    (hs : l.studentId ∈ (planFacts d.val y).map PlanFact.studentId) :
    ∃ p ∈ proposals d.val rid y, p.studentId = l.studentId ∧ l.store p ∈ d'.val.lines := by
  obtain ⟨blanks, -, hlines⟩ := h.lines
  have hp : l.studentId ∈ (proposals d.val rid y).map ProposedLine.studentId := by
    obtain ⟨f, hf, hfs⟩ := List.mem_map.1 hs
    obtain ⟨p, hp, hps⟩ := flagOverCapacity_studentId (d.val.lineFor rid)
      (List.mem_map_of_mem (f := propose) hf)
    exact List.mem_map.2 ⟨p, hp, by rw [hps, propose_studentId, hfs]⟩
  obtain ⟨p, hpm, hps, he⟩ := storeAll_mem hr hp
  refine ⟨p, hpm, hps, ?_⟩
  rw [hlines, ← he]
  exact List.mem_map_of_mem (List.mem_append_left _ (List.mem_filter.2 ⟨hl, by simp [hp]⟩))

/-! ## What an override writes -/

/-- What an override makes of a line. -/
def LineRow.override (l : LineRow) (action : Option RolloverAction) (toLevelId : Option Nat)
    (toSectionLabel : Option String) : LineRow :=
  { l with
    overrideAction := action
    toLevelId := (Text.nonZero toLevelId).or l.toLevelId
    toSectionLabel := toSectionLabel.or l.toSectionLabel }

/-- The action a request names: an action, none to clear the override, or nothing known. -/
def overrideAction? : Option String → Option (Option RolloverAction)
  | none => some none
  | some name => (RolloverAction.ofString? name).map some

/-- What the request makes of the line: nothing when it names no action, a promotion without a
target or a level that does not exist. -/
def Tables.overridden (t : Tables) (l : LineRow) (overrideAction : Option String)
    (toLevelId : Option Nat) (toSectionLabel : Option String) : Option LineRow :=
  match overrideAction? overrideAction with
  | none => none
  | some action =>
    if (action = some .promote →
        (Text.nonZero (toLevelId.or l.toLevelId)).isSome ∧
          (Text.nonEmpty (toSectionLabel.or l.toSectionLabel)).isSome) ∧
        ∀ lid ∈ Text.nonZero toLevelId, (t.level? lid).isSome then
      some (l.override action toLevelId toSectionLabel)
    else none

/-- The write of an override was refused, or the level it names exists and it rewrote the line. -/
theorem setRolloverLineOverride_ok {lid : Nat} {l : LineRow} {d : Db}
    (hl : d.val.line? lid = some l) (action : Option RolloverAction) (lv : Option Nat)
    (sec : Option String) :
    after (setRolloverLineOverride lid action lv sec) d = d ∨
      (∀ n ∈ Text.nonZero lv, (d.val.level? n).isSome) ∧
        (after (setRolloverLineOverride lid action lv sec) d).val =
          d.val.setLines (fun x => x.id = lid) fun _ => l.override action lv sec := by
  obtain ⟨hm, hid⟩ := d.ok.keys.lines.find?_eq_some.1 hl
  unfold setRolloverLineOverride
  rw [after_bind_idle fun _ _ => rfl]
  refine after_exec_ind (.inl rfl) fun d' hd' => .inr ?_
  have hval : d'.val =
      d.val.setLines (fun x => x.id = lid) fun _ => l.override action lv sec := by
    rw [hd']
    simp only [Tables.setLines, updateWhere]
    congr 1
    refine List.map_congr_left fun x hx => ?_
    by_cases hx' : x.id = lid
    · rw [d.ok.keys.lines.eq_of_key_eq hx hm (hx'.trans hid.symm)]
      rfl
    · simp [hx']
  refine ⟨fun n hn => ?_, hval⟩
  -- the new line passed the check on its level
  have hmem : l.override action lv sec ∈ d'.val.lines := by
    rw [hval]
    exact mem_updateWhere_of_pos (f := fun _ => l.override action lv sec) hm (decide_eq_true hid)
  have hto : (l.override action lv sec).toLevelId = some n := by
    simp [LineRow.override, Option.mem_def.1 hn]
  obtain ⟨lev, hlev, hlid⟩ := d'.ok.rollovers.line_to_level.exists_row hmem hto
  rw [hval] at hlev
  have hfound : d.val.level? n = some lev := d.ok.keys.levels.find?_eq_some.2 ⟨hlev, hlid⟩
  rw [hfound]
  rfl

theorem overrideWith_ok (lid : Nat) (action : Option RolloverAction) (lv : Option Nat)
    (sec : Option String) {a : Option String} (ha : overrideAction? a = some action) (d : Db) :
    after (overrideWith lid action lv sec) d = d ∨
      ∃ l l', d.val.line? lid = some l ∧ d.val.overridden l a lv sec = some l' ∧
        (after (overrideWith lid action lv sec) d).val =
          d.val.setLines (fun x => x.id = lid) fun _ => l' := by
  unfold overrideWith
  simp only [after_query_bind]
  cases hl : d.val.line? lid with
  | none => exact .inl rfl
  | some l =>
    simp only [after_raiseIf_bind]
    split_ifs with htarget
    · exact .inl rfl
    rcases setRolloverLineOverride_ok hl action lv sec with h | ⟨hlevel, h⟩
    · exact .inl h
    · refine .inr ⟨l, l.override action lv sec, rfl, ?_, h⟩
      unfold Tables.overridden
      rw [ha]
      exact if_pos ⟨fun hp => not_not.1 fun hn => htarget ⟨hp, hn⟩, hlevel⟩

/-- **What overriding does.** It did nothing, or it was allowed and rewrote one line. -/
theorem override_ok (u : List String) (lid : Nat) (a : Option String) (lv : Option Nat)
    (sec : Option String) (d : Db) :
    after (overrideRolloverLine u lid a lv sec) d = d ∨
      Authz.require u rolloverRoles ∧ ∃ l l', d.val.line? lid = some l ∧
        d.val.overridden l a lv sec = some l' ∧
        (after (overrideRolloverLine u lid a lv sec) d).val =
          d.val.setLines (fun x => x.id = lid) fun _ => l' := by
  unfold overrideRolloverLine
  simp only [after_gate_bind]
  split_ifs with hallowed
  swap
  · exact .inl rfl
  cases a with
  | none => exact (overrideWith_ok lid none lv sec rfl d).imp_right fun h => ⟨hallowed, h⟩
  | some name =>
    dsimp only
    cases hname : RolloverAction.ofString? name with
    | none => exact .inl rfl
    | some action =>
      have ha : overrideAction? (some name) = some (some action) := by simp [overrideAction?, hname]
      exact (overrideWith_ok lid (some action) lv sec ha d).imp_right fun h => ⟨hallowed, h⟩

/-- What an accepted override makes of the line, with a target if it promotes. -/
theorem overridden_some {t : Tables} {l l' : LineRow} {a : Option String} {lv : Option Nat}
    {sec : Option String} (h : t.overridden l a lv sec = some l') :
    ∃ action, overrideAction? a = some action ∧ l' = l.override action lv sec ∧
      (action = some .promote → l'.toLevelId.isSome ∧ l'.toSectionLabel.isSome) := by
  unfold Tables.overridden at h
  cases ha : overrideAction? a with
  | none => simp [ha] at h
  | some action =>
    simp only [ha] at h
    split_ifs at h with hc
    obtain rfl := Option.some.inj h
    refine ⟨action, rfl, rfl, fun hp => ?_⟩
    obtain ⟨hlevel, hsection⟩ := hc.1 hp
    obtain ⟨n, hn⟩ := Option.isSome_iff_exists.1 hlevel
    obtain ⟨x, hx⟩ := Option.isSome_iff_exists.1 hsection
    obtain ⟨hn, hzero⟩ := Text.nonZero_eq_some.1 hn
    refine ⟨?_, ?_⟩
    · cases lv with
      | none => simpa [LineRow.override, Text.nonZero] using Option.isSome_of_eq_some hn
      | some m =>
        obtain rfl : m = n := by simpa using hn
        simp [LineRow.override, Text.nonZero, hzero]
    · exact Option.isSome_of_eq_some (Option.filter_eq_some_iff.1 hx).1

end Sams.School
