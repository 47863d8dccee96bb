import Sams.School.Effects

/-!
# What planning a rollover does

Creating a year, generating, previewing and overriding. None of them touches a student or a class.

* Recomputing a rollover writes lines only, and leaves a line for every enrolled student placed in
  its `from_year` (**`recompute_covers`**) or raises and changes nothing.
* Each operation gets a lemma with its cases (`generate_cases`, `preview_cases`, `override_cases`,
  `createAcademicYear_cases`), from which its effect on any table can be read.
-/

namespace Sams.School

open Programs Rows TenantRepository TenantService

/-- Every enrolled student placed in the year has a line of the rollover. -/
def Tables.Covers (t : Tables) (rid y : Nat) : Prop :=
  ∀ sid cid, t.Enrolled sid → t.Placed sid cid y → t.HasLine rid sid

/-! ## Only the lines -/

/-- Nothing but the lines changed. -/
def OnlyLines (d d' : Db) : Prop :=
  ∃ lines seq, d'.val = { d.val with lines, seq }

instance : IsPreorder Db OnlyLines where
  refl d := ⟨d.val.lines, d.val.seq, rfl⟩
  trans _ _ _ := by
    rintro ⟨l, q, h⟩ ⟨l', q', h'⟩
    exact ⟨l', q', by rw [h', h]⟩

/-- No line was lost. -/
def LinesGrow (d d' : Db) : Prop := ∀ rid sid, d.val.HasLine rid sid → d'.val.HasLine rid sid

instance : IsPreorder Db LinesGrow where
  refl _ := fun _ _ h => h
  trans _ _ _ h h' := fun rid sid hl => h' rid sid (h rid sid hl)

/-- An update of lines that keeps their rollover and student. -/
theorem hasLine_setLines {t : Tables} {p : LineRow → Bool} {f : LineRow → LineRow}
    (hr : ∀ l, (f l).rolloverId = l.rolloverId) (hs : ∀ l, (f l).studentId = l.studentId)
    {rid sid : Nat} (h : t.HasLine rid sid) : (t.setLines p f).HasLine rid sid := by
  obtain ⟨l, hl, rfl, rfl⟩ := h
  refine ⟨_, mem_updateWhere_of_mem hl, ?_⟩
  split_ifs
  · exact ⟨hr l, hs l⟩
  · exact ⟨rfl, rfl⟩

theorem hasLine_insertLine {t : Tables} {l : LineRow} {rid sid : Nat} (h : t.HasLine rid sid) :
    (t.insertLine l).HasLine rid sid := by
  obtain ⟨l', hl', he⟩ := h
  exact ⟨l', List.mem_append_left _ hl', he⟩

theorem onlyLines_upsertLine (rid : Nat) (p : ProposedLine) :
    Moves OnlyLines (stmt fun t => upsertLine t rid p) :=
  moves_exec fun d hf => by
    unfold upsertLine
    split_ifs
    · exact ⟨_, _, rfl⟩
    · exact ⟨_, _, rfl⟩

theorem hasLine_upsertLine {t : Tables} {rid : Nat} {p : ProposedLine} {r sid : Nat}
    (h : t.HasLine r sid) : (upsertLine t rid p).HasLine r sid := by
  unfold upsertLine
  split_ifs
  · exact hasLine_setLines (by intro _; rfl) (by intro _; rfl) h
  · exact hasLine_insertLine h

theorem linesGrow_upsertLine (rid : Nat) (p : ProposedLine) :
    Moves LinesGrow (stmt fun t => upsertLine t rid p) :=
  moves_exec fun _ _ _ _ h => hasLine_upsertLine h

/-- A stored proposal is a line of its student. -/
theorem upsertLine_hasLine (t : Tables) (rid : Nat) (p : ProposedLine) :
    (upsertLine t rid p).HasLine rid p.studentId := by
  unfold upsertLine
  split_ifs with hany
  · obtain ⟨l, hl, he⟩ := List.any_eq_true.1 hany
    have he : l.rolloverId = rid ∧ l.studentId = p.studentId := by simpa using he
    exact hasLine_setLines (by intro _; rfl) (by intro _; rfl) ⟨l, hl, he⟩
  · exact ⟨_, List.mem_append_right _ (List.mem_singleton_self _), rfl, rfl⟩

theorem onlyLines_upsertRolloverLines (rid : Nat) (ps : List ProposedLine) :
    Moves OnlyLines (upsertRolloverLines rid ps) := by
  unfold upsertRolloverLines
  refine moves_transaction (moves_bind (moves_exec fun d _ => ⟨_, _, rfl⟩) fun _ => ?_)
  exact moves_forM fun p _ => onlyLines_upsertLine rid p

/-- The lines of the other rollovers stay. -/
theorem upsertRolloverLines_others {rid r sid : Nat} (hr : r ≠ rid) {ps : List ProposedLine}
    {d d' : Db} {u : Unit} (h : upsertRolloverLines rid ps d = .ok u d')
    (hl : d.val.HasLine r sid) : d'.val.HasLine r sid := by
  unfold upsertRolloverLines at h
  obtain ⟨_, t, hdel, hloop⟩ := bind_eq_ok.1 (transaction_eq_ok.1 h)
  have hgrow : LinesGrow t d' :=
    after_ok hloop ▸ moves_forM (fun p _ => linesGrow_upsertLine rid p) t
  obtain ⟨l, hl, he⟩ := hl
  refine hgrow r sid ⟨l, ?_, he⟩
  rw [exec_eq_ok.1 hdel]
  exact List.mem_filter.2 ⟨hl, by simp only [he.1, hr, false_and, not_false_eq_true, decide_true]⟩

/-- Every stored proposal is a line. -/
theorem upsertRolloverLines_hasLine {rid : Nat} {ps : List ProposedLine} {d d' : Db} {u : Unit}
    (h : upsertRolloverLines rid ps d = .ok u d') :
    ∀ p ∈ ps, d'.val.HasLine rid p.studentId := by
  unfold upsertRolloverLines at h
  obtain ⟨_, t, -, hloop⟩ := bind_eq_ok.1 (transaction_eq_ok.1 h)
  -- a proposal is still to come or has its line
  have hI := forM_ok_rec
    (fun rest (s : Db) => ∀ p ∈ ps, p ∈ rest ∨ s.val.HasLine rid p.studentId)
    (fun p rest s s' hI hp q hq => ?_) hloop fun p hp => .inl hp
  · exact fun p hp => (hI p hp).resolve_left (by simp)
  · rw [exec_eq_ok.1 hp]
    rcases hI q hq with hmem | hline
    · rcases List.mem_cons.1 hmem with rfl | hmem
      · exact .inr (upsertLine_hasLine _ _ _)
      · exact .inl hmem
    · exact .inr (hasLine_upsertLine hline)

/-! ## Recomputing -/

theorem getRolloverPlanFacts_ok {y : Nat} {d d' : Db} {facts : List PlanFact}
    (h : getRolloverPlanFacts y d = .ok facts d') : facts = planFacts d.val y ∧ d' = d := by
  obtain ⟨_, t, hread, h⟩ := bind_eq_ok.1 h
  obtain ⟨rfl, rfl⟩ := query_eq_ok.1 hread
  obtain ⟨_, t, hraise, hret⟩ := bind_eq_ok.1 h
  obtain ⟨-, rfl⟩ := raiseIf_eq_ok.1 hraise
  obtain ⟨rfl, rfl⟩ := pure_eq_ok.1 hret
  exact ⟨rfl, rfl⟩

/-- Reading the facts changes nothing, also when it raises. -/
theorem after_getRolloverPlanFacts (y : Nat) (d : Db) : after (getRolloverPlanFacts y) d = d := by
  have h : Moves Eq (getRolloverPlanFacts y) :=
    moves_bind (moves_query _) fun _ => moves_bind (moves_raiseIf _ _) fun _ => moves_pure _
  exact (h d).symm

theorem onlyLines_recompute (rid y : Nat) : Moves OnlyLines (recomputeRolloverLines rid y) := by
  unfold recomputeRolloverLines
  have hread : Moves OnlyLines (getRolloverPlanFacts y) := fun d =>
    (after_getRolloverPlanFacts y d).symm ▸ refl_of OnlyLines d
  refine moves_bind hread fun facts => ?_
  exact moves_bind (moves_query _) fun views => onlyLines_upsertRolloverLines _ _

/-- Every enrolled student placed in the year has a fact. -/
theorem exists_planFact {d : Db} {sid cid y : Nat} (he : d.val.Enrolled sid)
    (hp : d.val.Placed sid cid y) : ∃ f ∈ planFacts d.val y, f.studentId = sid := by
  obtain ⟨⟨s, hs, rfl, hc⟩, c, hcm, rfl, rfl⟩ := hp
  obtain ⟨s', hs', hid, hst⟩ := he
  rw [Db.student_unique hs' hs hid] at hst
  obtain ⟨l, hl, hle⟩ := d.ok.placements.class_level.exists_row hcm rfl
  have hnext : nextLevels d.val l ≠ [] := by
    unfold nextLevels
    dsimp only
    split_ifs with h
    · simp
    · simpa using h
  obtain ⟨nl, hnl⟩ := List.exists_mem_of_ne_nil _ hnext
  refine ⟨_, List.mem_flatMap.2 ⟨s, by simp [hs, hst], List.mem_flatMap.2 ⟨c, by simp [hcm, hc],
    List.mem_flatMap.2 ⟨l, by simp [hl, hle], List.mem_map.2 ⟨nl, hnl, rfl⟩⟩⟩⟩, rfl⟩

theorem propose_studentId (f : PlanFact) : (propose f).studentId = f.studentId := by
  unfold propose
  split_ifs <;> rfl

/-- Flagging changes no line's student. -/
theorem flagOverCapacity_studentId (existing : Nat → Option LineRow) {ps : List ProposedLine}
    {p : ProposedLine} (hp : p ∈ ps) :
    ∃ q ∈ flagOverCapacity existing ps, q.studentId = p.studentId := by
  refine ⟨_, List.mem_map_of_mem hp, ?_⟩
  split
  · rfl
  · dsimp only
    split_ifs <;> rfl

/-- A recomputation that returned stored a line for each fact. -/
theorem recompute_ok {rid y : Nat} {d d' : Db}
    (h : recomputeRolloverLines rid y d = .ok () d') :
    ∃ existing, upsertRolloverLines rid
      (flagOverCapacity existing ((planFacts d.val y).map propose)) d = .ok () d' := by
  obtain ⟨facts, t, hfacts, h⟩ := bind_eq_ok.1 h
  obtain ⟨rfl, rfl⟩ := getRolloverPlanFacts_ok hfacts
  exact ⟨_, h⟩

/-- A recomputation that raised changed nothing. -/
theorem recompute_error {rid y : Nat} {d d' : Db} {e : PyError}
    (h : recomputeRolloverLines rid y d = .error e d') : d' = d := by
  rcases bind_eq_error.1 h with hfacts | ⟨facts, t, hfacts, h⟩
  · rw [← after_error hfacts, after_getRolloverPlanFacts]
  · obtain ⟨rfl, rfl⟩ := getRolloverPlanFacts_ok hfacts
    exact transaction_eq_error h

/-- **Recomputing covers**: it leaves a line for every enrolled student placed in the year. -/
theorem recompute_covers {rid y : Nat} {d d' : Db}
    (h : recomputeRolloverLines rid y d = .ok () d') : d'.val.Covers rid y := by
  obtain ⟨existing, hup⟩ := recompute_ok h
  obtain ⟨lines, seq, hval⟩ := after_ok h ▸ onlyLines_recompute rid y d
  intro sid cid he hp
  -- students and classes are those of the state before, so the student has a fact there
  rw [hval] at he hp
  obtain ⟨f, hf, rfl⟩ := exists_planFact (d := d) he hp
  obtain ⟨q, hq, hqs⟩ := flagOverCapacity_studentId _ (List.mem_map_of_mem (f := propose) hf)
  have hline := upsertRolloverLines_hasLine hup q hq
  rwa [hqs, propose_studentId] at hline

theorem recompute_others {rid r sid : Nat} (hr : r ≠ rid) (y : Nat) {d : Db}
    (h : d.val.HasLine r sid) : (after (recomputeRolloverLines rid y) d).val.HasLine r sid := by
  rcases ok_or_error (recomputeRolloverLines rid y) d with ⟨⟨⟩, hok⟩ | ⟨e, herr⟩
  · obtain ⟨existing, hup⟩ := recompute_ok hok
    exact upsertRolloverLines_others hr hup h
  · rwa [recompute_error herr]

/-! ## The operations -/

/-- The year `y` has the status `st`. -/
def Tables.YearIs (t : Tables) (y : Nat) (st : YearStatus) : Prop :=
  (t.year? y).map YearRow.status = some st

theorem Tables.YearIs.unique {t : Tables} {y : Nat} {st st' : YearStatus} (h : t.YearIs y st)
    (h' : t.YearIs y st') : st = st' :=
  Option.some.inj (h.symm.trans h')

theorem Tables.yearIs_of_year? {t : Tables} {y : Nat} {row : YearRow} (h : t.year? y = some row) :
    t.YearIs y row.status := by
  rw [Tables.YearIs, h]
  rfl

theorem Db.yearIs_iff {d : Db} {y : Nat} {st : YearStatus} :
    d.val.YearIs y st ↔ ∃ row ∈ d.val.years, row.id = y ∧ row.status = st := by
  unfold Tables.YearIs Tables.year?
  constructor
  · intro h
    obtain ⟨row, hrow, hst⟩ := Option.map_eq_some_iff.1 h
    obtain ⟨hm, hid⟩ := d.ok.keys.years.find?_eq_some.1 hrow
    exact ⟨row, hm, hid, hst⟩
  · rintro ⟨row, hm, hid, rfl⟩
    rw [d.ok.keys.years.find?_eq_some.2 ⟨hm, hid⟩]
    rfl

/-- A year that is there has a status. -/
theorem Db.exists_yearIs {d : Db} {y : Nat} (h : y ∈ d.val.years.map YearRow.id) :
    ∃ st, d.val.YearIs y st := by
  obtain ⟨row, hm, hid⟩ := List.mem_map.1 h
  exact ⟨row.status, Db.yearIs_iff.2 ⟨row, hm, hid, rfl⟩⟩

/-- What `create_year_rollover` returned: the pair's rollover as it was, or a new draft. -/
structure Created (d : Db) (fromYear toYear : Nat) (r : RolloverRow) (d' : Db) : Prop where
  from_active : d.val.YearIs fromYear .active
  to_planned : d.val.YearIs toYear .planned
  from_eq : r.fromYearId = fromYear
  to_eq : r.toYearId = toYear
  state : (r ∈ d.val.rollovers ∧ d' = d) ∨
    (r.state = .draft ∧ ∃ seq, d'.val = { d.val with rollovers := d.val.rollovers ++ [r], seq })

theorem createYearRollover_ok {f t : Nat} {c : Option Nat} {d d' : Db} {o : Option RolloverRow}
    (h : createYearRollover f t c d = .ok o d') :
    ∃ r, o = some r ∧ r.fromYearId = f ∧ r.toYearId = t ∧
      ((r ∈ d.val.rollovers ∧ d' = d) ∨
        (r.state = .draft ∧
          ∃ seq, d'.val = { d.val with rollovers := d.val.rollovers ++ [r], seq })) := by
  unfold createYearRollover at h
  simp only [query_bind] at h
  split_ifs at h with hsome
  · obtain ⟨r, hr⟩ := Option.isSome_iff_exists.1 hsome
    obtain ⟨rfl, rfl⟩ := pure_eq_ok.1 h
    have hft : r.fromYearId = f ∧ r.toYearId = t := by simpa using List.find?_some hr
    exact ⟨r, hr, hft.1, hft.2, .inl ⟨List.mem_of_find?_eq_some hr, rfl⟩⟩
  · simp only [query_bind] at h
    obtain ⟨_, s, hins, hret⟩ := bind_eq_ok.1 h
    obtain ⟨rfl, rfl⟩ := pure_eq_ok.1 hret
    exact ⟨_, rfl, rfl, rfl, .inr ⟨rfl, _, exec_eq_ok.1 hins⟩⟩

theorem createYearRollover_error {f t : Nat} {c : Option Nat} {d d' : Db} {e : PyError}
    (h : createYearRollover f t c d = .error e d') : d' = d := by
  unfold createYearRollover at h
  simp only [query_bind] at h
  split_ifs at h with hsome
  · exact (pure_eq_error.1 h).elim
  · simp only [query_bind] at h
    rcases bind_eq_error.1 h with h | ⟨_, s, -, h⟩
    · exact exec_eq_error h
    · exact (pure_eq_error.1 h).elim

theorem after_getRollover (u : List String) (rid : Nat) (d : Db) :
    after (getRollover u rid) d = d := by
  have h : Moves Eq (getRollover u rid) := by
    refine moves_gated (moves_bind (moves_query _) fun r => ?_)
    cases r with
    | none => exact moves_throw _
    | some r => exact moves_bind (moves_query _) fun _ => moves_pure _
  exact (h d).symm

@[simp]
theorem after_gate_bind {α : Type} (u a : List String) (msg : String) (k : Unit → Prog α) (d : Db) :
    after (gate u a msg >>= k) d = if Authz.require u a then after (k ()) d else d := by
  unfold gate
  rw [after_raiseIf_bind]
  split_ifs <;> rfl

/-- Generating did nothing, or it found or created the rollover and recomputed it. -/
theorem generate_cases (u : List String) (f t : Nat) (c : Option Nat) (d : Db) :
    after (generateRolloverPlan u f t c) d = d ∨
      ∃ r d₁, Created d f t r d₁ ∧
        after (generateRolloverPlan u f t c) d = after (recomputeRolloverLines r.id f) d₁ := by
  unfold generateRolloverPlan
  simp only [after_gate_bind, after_query_bind]
  split_ifs
  swap
  · exact .inl rfl
  cases hf : d.val.year? f with
  | none => exact .inl rfl
  | some fy =>
    cases ht : d.val.year? t with
    | none => exact .inl rfl
    | some ty =>
      simp only [after_raiseIf_bind]
      split_ifs with hfrom hto
      · exact .inl rfl
      · exact .inl rfl
      rcases ok_or_error (createYearRollover f t c) d with ⟨o, h⟩ | ⟨e, h⟩
      · obtain ⟨r, rfl, hrf, hrt, hstate⟩ := createYearRollover_ok h
        right
        refine ⟨r, after (createYearRollover f t c) d, ⟨?_, ?_, hrf, hrt, hstate⟩, ?_⟩
        · exact not_not.1 hfrom ▸ Tables.yearIs_of_year? hf
        · exact not_not.1 hto ▸ Tables.yearIs_of_year? ht
        · rw [after_bind_ok h]
          exact after_bind_idle (fun _ => after_getRollover u r.id) _
      · left
        rw [after_bind_error h]
        exact createYearRollover_error h

/-- Previewing did nothing, or it recomputed a rollover that is not committed, after which that
rollover may have become previewed. -/
theorem preview_cases (u : List String) (rid : Nat) (d : Db) :
    after (previewRollover u rid) d = d ∨
      ∃ r ∈ d.val.rollovers, r.id = rid ∧ r.state ≠ .committed ∧
        (after (previewRollover u rid) d = after (recomputeRolloverLines rid r.fromYearId) d ∨
          ∃ d₁, recomputeRolloverLines rid r.fromYearId d = .ok () d₁ ∧
            (after (previewRollover u rid) d).val =
              d₁.val.setRollovers (fun r => r.id = rid)
                fun r => { r with state := .previewed }) := by
  unfold previewRollover
  simp only [after_gate_bind, after_query_bind]
  split_ifs
  swap
  · exact .inl rfl
  cases hr : d.val.rollover? rid with
  | none => exact .inl rfl
  | some r =>
    simp only [after_raiseIf_bind]
    split_ifs with hstate
    · exact .inl rfl
    right
    refine ⟨r, List.mem_of_find?_eq_some hr, by simpa using List.find?_some hr, hstate, ?_⟩
    rcases ok_or_error (recomputeRolloverLines rid r.fromYearId) d with ⟨⟨⟩, h⟩ | ⟨e, h⟩
    · rw [after_bind_ok h]
      simp only [after_query_bind, after_raiseIf_bind]
      split_ifs
      · exact .inl rfl
      rw [after_bind_idle fun _ => after_getRollover u rid]
      -- the state is written, or the database refused
      unfold updateRolloverState
      exact after_exec_ind (.inl rfl) fun d' hd' => .inr ⟨_, h, hd'⟩
    · rw [after_bind_error h]
      exact .inl rfl

/-- Overriding did nothing, or it rewrote one line, which stays the line of its student. -/
theorem override_cases (u : List String) (lid : Nat) (a : Option String) (lv : Option Nat)
    (sec : Option String) (d : Db) :
    after (overrideRolloverLine u lid a lv sec) d = d ∨
      ∃ f : LineRow → LineRow, (∀ l, (f l).rolloverId = l.rolloverId) ∧
        (∀ l, (f l).studentId = l.studentId) ∧
        (after (overrideRolloverLine u lid a lv sec) d).val =
          d.val.setLines (fun l => l.id = lid) f := by
  have hset : ∀ action, after (setRolloverLineOverride lid action lv sec) d = d ∨
      ∃ f : LineRow → LineRow, (∀ l, (f l).rolloverId = l.rolloverId) ∧
        (∀ l, (f l).studentId = l.studentId) ∧
        (after (setRolloverLineOverride lid action lv sec) d).val =
          d.val.setLines (fun l => l.id = lid) f := by
    intro action
    unfold setRolloverLineOverride
    rw [after_bind_idle fun _ _ => rfl]
    exact after_exec_ind (.inl rfl) fun d' hd' => .inr ⟨_, by intro _; rfl, by intro _; rfl, hd'⟩
  have hwith : ∀ action, after (overrideWith lid action lv sec) d = d ∨
      ∃ f : LineRow → LineRow, (∀ l, (f l).rolloverId = l.rolloverId) ∧
        (∀ l, (f l).studentId = l.studentId) ∧
        (after (overrideWith lid action lv sec) d).val =
          d.val.setLines (fun l => l.id = lid) f := by
    intro action
    unfold overrideWith
    simp only [after_query_bind]
    cases d.val.line? lid with
    | none => exact .inl rfl
    | some line =>
      simp only [after_raiseIf_bind]
      split_ifs
      · exact .inl rfl
      · exact hset action
  unfold overrideRolloverLine
  simp only [after_gate_bind]
  split_ifs
  swap
  · exact .inl rfl
  cases a with
  | none => exact hwith none
  | some name =>
    dsimp only
    cases RolloverAction.ofString? name with
    | none => exact .inl rfl
    | some action => exact hwith (some action)

/-- Creating a year did nothing, or it added one planned year. -/
theorem createAcademicYear_cases (u : List String) (n : String) (s e : Option Date) (d : Db) :
    after (TenantService.createAcademicYear u n s e) d = d ∨
      ∃ row seq, row.status = .planned ∧
        (after (TenantService.createAcademicYear u n s e) d).val =
          { d.val with years := d.val.years ++ [row], seq } := by
  unfold TenantService.createAcademicYear
  simp only [after_gate_bind]
  split_ifs
  swap
  · exact .inl rfl
  rw [after_bind_idle fun _ _ => rfl]
  unfold TenantRepository.createAcademicYear
  simp only [after_query_bind]
  rw [after_bind_idle fun _ _ => rfl]
  exact after_exec_ind (.inl rfl) fun d' hd' => .inr ⟨_, _, rfl, hd'⟩

/-- The operations that plan a rollover. -/
def Op.isPlanning : Op → Bool
  | .createAcademicYear .. | .generateRolloverPlan .. | .overrideRolloverLine .. => true
  | .previewRollover .. => true
  | _ => false

/-- **Planning writes years, rollovers and lines only.** -/
theorem planning_writes [Unicode] (d : Db) {op : Op} (hop : op.isPlanning = true) :
    ∃ years rollovers lines seq,
      (step d op).val = { d.val with years, rollovers, lines, seq } := by
  cases op with
  | createAcademicYear u n s e =>
    rw [step, Op.program, after_discard]
    rcases createAcademicYear_cases u n s e d with h | ⟨row, seq, -, h⟩
    · exact ⟨_, _, _, _, congrArg Checked.val h⟩
    · exact ⟨_, _, _, _, h⟩
  | generateRolloverPlan u f t c =>
    rw [step, Op.program, after_discard]
    rcases generate_cases u f t c d with h | ⟨r, d₁, hcreated, h⟩
    · exact ⟨_, _, _, _, congrArg Checked.val h⟩
    · obtain ⟨lines, seq, hval⟩ := onlyLines_recompute r.id f d₁
      rw [h, hval]
      rcases hcreated.state with ⟨-, rfl⟩ | ⟨-, seq', hins⟩
      · exact ⟨_, _, _, _, rfl⟩
      · rw [hins]
        exact ⟨_, _, _, _, rfl⟩
  | overrideRolloverLine u l a lv sec =>
    rw [step, Op.program, after_discard]
    rcases override_cases u l a lv sec d with h | ⟨f, -, -, h⟩
    · exact ⟨_, _, _, _, congrArg Checked.val h⟩
    · exact ⟨_, _, _, _, h⟩
  | previewRollover u rid =>
    rw [step, Op.program, after_discard]
    rcases preview_cases u rid d with h | ⟨r, -, -, -, h⟩
    · exact ⟨_, _, _, _, congrArg Checked.val h⟩
    · obtain ⟨lines, seq, hval⟩ := onlyLines_recompute rid r.fromYearId d
      rcases h with h | ⟨d₁, hok, h⟩
      · exact ⟨_, _, _, _, h ▸ hval⟩
      · rw [after_ok hok] at hval
        rw [h, hval]
        exact ⟨_, _, _, _, rfl⟩
  | _ => cases hop

end Sams.School
