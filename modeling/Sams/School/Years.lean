import Sams.School.Commit

/-!
# The years a commit starts from

Generating and previewing check the statuses of the two years; committing writes them without
looking. Whatever the order of the operations, a commit finds `from_year` active and `to_year`
planned exactly when no rollover from the same year has been committed before
(**`commit_consistent_iff`**). Otherwise it finds them closed and active, re-closes the one and
re-activates the other: `stale_commit` is such a run.

The invariant behind it (`YearInv`) speaks of every rollover row, in whatever state: its
`from_year` has started; while `from_year` is active, `to_year` is planned; and `from_year` is
closed exactly when some rollover from it is committed.
-/

namespace Sams.School

open Programs Rows Runs TenantRepository TenantService

/-- What the years and the rollovers of a reachable state satisfy. -/
structure YearInv (d : Db) : Prop where
  active : ∀ r ∈ d.val.rollovers, ∃ y, d.val.YearIs y .active
  started : ∀ r ∈ d.val.rollovers, ¬d.val.YearIs r.fromYearId .planned
  to_planned : ∀ r ∈ d.val.rollovers, d.val.YearIs r.fromYearId .active →
    d.val.YearIs r.toYearId .planned
  closed : ∀ r ∈ d.val.rollovers, d.val.YearIs r.fromYearId .closed →
    ∃ r' ∈ d.val.rollovers, r'.fromYearId = r.fromYearId ∧ r'.state = .committed
  committed : ∀ r ∈ d.val.rollovers, r.state = .committed → d.val.YearIs r.fromYearId .closed

/-- A tenant that has not planned any rollover. -/
def Fresh (d : Db) : Prop := d.val.rollovers = []

theorem Fresh.yearInv {d : Db} (h : Fresh d) : YearInv d where
  active := by simp [show d.val.rollovers = [] from h]
  started := by simp [show d.val.rollovers = [] from h]
  to_planned := by simp [show d.val.rollovers = [] from h]
  closed := by simp [show d.val.rollovers = [] from h]
  committed := by simp [show d.val.rollovers = [] from h]

/-! ## Steps that change no status -/

/-- `r'` is the rollover `r`, no more and no less committed. -/
def SameRollover (r r' : RolloverRow) : Prop :=
  r'.id = r.id ∧ r'.fromYearId = r.fromYearId ∧ r'.toYearId = r.toYearId ∧
    (r'.state = .committed ↔ r.state = .committed)

/-- Statuses stay; rollovers stay but for their states, or are new and start at the active year. -/
structure Plans (d d' : Db) : Prop where
  statuses : ∀ y st, d.val.YearIs y st → d'.val.YearIs y st
  kept : ∀ r ∈ d.val.rollovers, ∃ r' ∈ d'.val.rollovers, SameRollover r r'
  origin : ∀ r' ∈ d'.val.rollovers, (∃ r ∈ d.val.rollovers, SameRollover r r') ∨
    (r'.state ≠ .committed ∧ d.val.YearIs r'.fromYearId .active ∧
      d.val.YearIs r'.toYearId .planned)

theorem plans_of_eq {d d' : Db} (hy : d'.val.years = d.val.years)
    (hr : d'.val.rollovers = d.val.rollovers) : Plans d d' where
  statuses y st h := by rwa [Tables.YearIs, Tables.year?, hy]
  kept r h := ⟨r, hr ▸ h, rfl, rfl, rfl, Iff.rfl⟩
  origin r h := .inl ⟨r, hr ▸ h, rfl, rfl, rfl, Iff.rfl⟩

/-- The same, with every student and class as it was: what planning a rollover does. -/
structure PlansOnly (d d' : Db) : Prop extends Plans d d' where
  students : d'.val.students = d.val.students
  classes : d'.val.classes = d.val.classes

/-- The years of a rollover exist. -/
theorem Db.rollover_years {d : Db} {r : RolloverRow} (h : r ∈ d.val.rollovers) :
    (∃ st, d.val.YearIs r.fromYearId st) ∧ ∃ st, d.val.YearIs r.toYearId st :=
  ⟨Db.exists_yearIs (d.ok.rollovers.rollover_from_year r h _ rfl),
    Db.exists_yearIs (d.ok.rollovers.rollover_to_year r h _ rfl)⟩

/-- The status of a rollover's year is the same before and after. -/
theorem Plans.yearIs_iff {d d' : Db} (h : Plans d d') {y : Nat} (hy : ∃ st, d.val.YearIs y st)
    (st : YearStatus) : d'.val.YearIs y st ↔ d.val.YearIs y st := by
  obtain ⟨st', hst'⟩ := hy
  constructor
  · intro h'
    rwa [h'.unique (h.statuses y st' hst')]
  · exact h.statuses y st

theorem Plans.yearInv {d d' : Db} (h : Plans d d') (hI : YearInv d) : YearInv d' := by
  have hfrom : ∀ {r r'}, r ∈ d.val.rollovers → SameRollover r r' → ∀ st,
      d'.val.YearIs r'.fromYearId st ↔ d.val.YearIs r.fromYearId st := by
    rintro r r' hr ⟨-, hf, -, -⟩ st
    rw [hf]
    exact h.yearIs_iff (Db.rollover_years hr).1 st
  constructor
  · intro r' hr'
    rcases h.origin r' hr' with ⟨r, hr, -⟩ | ⟨-, ha, -⟩
    · obtain ⟨y, hy⟩ := hI.active r hr
      exact ⟨y, h.statuses y _ hy⟩
    · exact ⟨_, h.statuses _ _ ha⟩
  · intro r' hr'
    rcases h.origin r' hr' with ⟨r, hr, hsame⟩ | ⟨-, ha, -⟩
    · rw [hfrom hr hsame]
      exact hI.started r hr
    · intro hp
      cases hp.unique (h.statuses _ _ ha)
  · intro r' hr' hact
    rcases h.origin r' hr' with ⟨r, hr, hsame⟩ | ⟨-, -, hp⟩
    · rw [hfrom hr hsame] at hact
      rw [hsame.2.2.1]
      exact h.statuses _ _ (hI.to_planned r hr hact)
    · exact h.statuses _ _ hp
  · intro r' hr' hcl
    rcases h.origin r' hr' with ⟨r, hr, hsame⟩ | ⟨-, ha, -⟩
    · rw [hfrom hr hsame] at hcl
      obtain ⟨c, hc, hcf, hcs⟩ := hI.closed r hr hcl
      obtain ⟨c', hc', hcsame⟩ := h.kept c hc
      refine ⟨c', hc', ?_, hcsame.2.2.2.2 hcs⟩
      rw [hcsame.2.1, hsame.2.1, hcf]
    · cases hcl.unique (h.statuses _ _ ha)
  · intro r' hr' hcom
    rcases h.origin r' hr' with ⟨r, hr, hsame⟩ | ⟨hne, -, -⟩
    · rw [hfrom hr hsame]
      exact hI.committed r hr (hsame.2.2.2.1 hcom)
    · exact absurd hcom hne

/-! ## The commit -/

theorem flipped_yearIs {d d' : Db} {f t : Nat} (h : d'.val.years = flipped f t d.val.years)
    {y : Nat} {st₀ : YearStatus} (hy : d.val.YearIs y st₀) :
    d'.val.YearIs y (if y = t then .active else if y = f then .closed else st₀) := by
  obtain ⟨row, hrow, rfl⟩ := Option.map_eq_some_iff.1 hy
  have hid : row.id = y := by simpa using List.find?_some hrow
  unfold Tables.YearIs Tables.year?
  rw [h, flipped, find?_updateWhere (by intro _; rfl), find?_updateWhere (by intro _; rfl),
    ← Tables.year?, hrow]
  subst hid
  simp only [Option.map_some, decide_eq_true_eq]
  split_ifs <;> simp_all

/-- **A commit starts from an active year, or changes no status.** In the second case its
`from_year` is closed and its `to_year` is the active one. -/
theorem commit_statuses {d d' : Db} {r : RolloverRow} (hI : YearInv d)
    (hr : r ∈ d.val.rollovers) (h : Committed d r d') :
    (d.val.YearIs r.fromYearId .active ∧ d.val.YearIs r.toYearId .planned) ∨
      (d.val.YearIs r.fromYearId .closed ∧ d.val.YearIs r.toYearId .active) := by
  obtain ⟨⟨stf, hf⟩, ⟨stt, ht⟩⟩ := Db.rollover_years hr
  cases stf with
  | planned => exact absurd hf (hI.started r hr)
  | active => exact .inl ⟨hf, hI.to_planned r hr hf⟩
  | closed =>
    right
    refine ⟨hf, ?_⟩
    obtain ⟨y, hy⟩ := hI.active r hr
    -- the active year is neither closed nor, if it is not `to_year`, replaced without a clash
    by_cases hyt : y = r.toYearId
    · exact hyt ▸ hy
    · have hyf : y ≠ r.fromYearId := by
        rintro rfl
        cases hy.unique hf
      have hy' := flipped_yearIs h.years hy
      have ht' := flipped_yearIs h.years ht
      rw [if_neg hyt, if_neg hyf] at hy'
      rw [if_pos rfl] at ht'
      obtain ⟨a, ha, rfl, has⟩ := Db.yearIs_iff.1 hy'
      obtain ⟨b, hb, hbid, hbs⟩ := Db.yearIs_iff.1 ht'
      exact absurd (Db.active_unique ha hb has hbs ▸ hbid) hyt

theorem Committed.sameYears {d d' : Db} {r : RolloverRow} (h : Committed d r d') :
    (∀ x ∈ d.val.rollovers, ∃ x' ∈ d'.val.rollovers, x'.id = x.id ∧
      x'.fromYearId = x.fromYearId ∧ x'.toYearId = x.toYearId ∧
      (x'.state = .committed ↔ x.state = .committed ∨ x.id = r.id)) ∧
    (∀ x' ∈ d'.val.rollovers, ∃ x ∈ d.val.rollovers, x'.id = x.id ∧
      x'.fromYearId = x.fromYearId ∧ x'.toYearId = x.toYearId ∧
      (x'.state = .committed ↔ x.state = .committed ∨ x.id = r.id)) := by
  obtain ⟨summary, hroll⟩ := h.rollovers
  have himage : ∀ x : RolloverRow, ∃ x' : RolloverRow,
      x' = (if decide (x.id = r.id) = true then { x with state := .committed, summary } else x) ∧
        x'.id = x.id ∧ x'.fromYearId = x.fromYearId ∧ x'.toYearId = x.toYearId ∧
        (x'.state = .committed ↔ x.state = .committed ∨ x.id = r.id) := by
    intro x
    by_cases hx : x.id = r.id
    · exact ⟨{ x with state := .committed, summary }, by simp [hx], rfl, rfl, rfl, by simp [hx]⟩
    · exact ⟨x, by simp [hx], rfl, rfl, rfl, by simp [hx]⟩
  constructor
  · intro x hx
    obtain ⟨x', rfl, hsame⟩ := himage x
    exact ⟨_, by rw [hroll]; exact mem_updateWhere_of_mem hx, hsame⟩
  · intro x' hx'
    rw [hroll] at hx'
    obtain ⟨x, hx, rfl⟩ := mem_updateWhere.1 hx'
    obtain ⟨x'', rfl, hsame⟩ := himage x
    exact ⟨x, hx, hsame⟩

/-- After a commit from an active year, that year is closed, `to_year` is active, and no rollover
starts at an active year. -/
theorem Committed.yearInv_of_active {d d' : Db} {r : RolloverRow} (h : Committed d r d')
    (hr : r ∈ d.val.rollovers) (hI : YearInv d) (hf : d.val.YearIs r.fromYearId .active)
    (ht : d.val.YearIs r.toYearId .planned) : YearInv d' := by
  obtain ⟨hkept, horigin⟩ := h.sameYears
  have hne : r.fromYearId ≠ r.toYearId := fun he => by cases hf.unique (he ▸ ht)
  have hto : d'.val.YearIs r.toYearId .active := by
    have := flipped_yearIs h.years ht
    rwa [if_pos rfl] at this
  have hfrom : d'.val.YearIs r.fromYearId .closed := by
    have := flipped_yearIs h.years hf
    rwa [if_neg hne, if_pos rfl] at this
  -- every rollover starts at the year just closed, or at a year closed before
  have hstart : ∀ x ∈ d.val.rollovers, x.fromYearId = r.fromYearId ∨
      (d.val.YearIs x.fromYearId .closed ∧ d'.val.YearIs x.fromYearId .closed) := by
    intro x hx
    by_cases hxf : x.fromYearId = r.fromYearId
    · exact .inl hxf
    obtain ⟨st, hst⟩ := (Db.rollover_years hx).1
    have hxt : x.fromYearId ≠ r.toYearId := fun he => hI.started x hx (he ▸ ht)
    have hst' := flipped_yearIs h.years hst
    rw [if_neg hxt, if_neg hxf] at hst'
    cases st with
    | planned => exact absurd hst (hI.started x hx)
    | closed => exact .inr ⟨hst, hst'⟩
    | active =>
      obtain ⟨a, ha, hai, has⟩ := Db.yearIs_iff.1 hst
      obtain ⟨b, hb, hbi, hbs⟩ := Db.yearIs_iff.1 hf
      exact absurd
        (hai.symm.trans ((congrArg YearRow.id (Db.active_unique ha hb has hbs)).trans hbi))
        hxf
  have hclosed : ∀ x ∈ d.val.rollovers, d'.val.YearIs x.fromYearId .closed := by
    intro x hx
    rcases hstart x hx with he | ⟨-, hc⟩
    · exact he ▸ hfrom
    · exact hc
  constructor
  · exact fun _ _ => ⟨_, hto⟩
  · intro x' hx' hp
    obtain ⟨x, hx, -, hxf, -⟩ := horigin x' hx'
    cases hp.unique (hxf ▸ hclosed x hx)
  · intro x' hx' ha
    obtain ⟨x, hx, -, hxf, -⟩ := horigin x' hx'
    cases ha.unique (hxf ▸ hclosed x hx)
  · intro x' hx' _
    obtain ⟨x, hx, -, hxf, -⟩ := horigin x' hx'
    rcases hstart x hx with he | ⟨hc, -⟩
    · obtain ⟨r', hr', -, hrf, -, hrs⟩ := hkept r hr
      exact ⟨r', hr', by rw [hrf, hxf, he], hrs.2 (.inr rfl)⟩
    · obtain ⟨c, hc, hcf, hcs⟩ := hI.closed x hx hc
      obtain ⟨c', hc', -, hcf', -, hcs'⟩ := hkept c hc
      exact ⟨c', hc', by rw [hcf', hxf, hcf], hcs'.2 (.inl hcs)⟩
  · intro x' hx' _
    obtain ⟨x, hx, -, hxf, -⟩ := horigin x' hx'
    exact hxf ▸ hclosed x hx

/-- A commit from a closed year to the active year changes no status. -/
theorem Committed.yearInv_of_closed {d d' : Db} {r : RolloverRow} (h : Committed d r d')
    (hr : r ∈ d.val.rollovers) (hI : YearInv d) (hf : d.val.YearIs r.fromYearId .closed)
    (ht : d.val.YearIs r.toYearId .active) : YearInv d' := by
  obtain ⟨hkept, horigin⟩ := h.sameYears
  have hstat : ∀ y st, d.val.YearIs y st → d'.val.YearIs y st := by
    intro y st hy
    have hy' := flipped_yearIs h.years hy
    split_ifs at hy' with hyt hyf
    · rwa [hy.unique (hyt ▸ ht)]
    · rwa [hy.unique (hyf ▸ hf)]
    · exact hy'
  have hback : ∀ x ∈ d.val.rollovers, ∀ st, d'.val.YearIs x.fromYearId st →
      d.val.YearIs x.fromYearId st := by
    intro x hx st hst
    obtain ⟨st₀, hst₀⟩ := (Db.rollover_years hx).1
    rwa [hst.unique (hstat _ _ hst₀)]
  obtain ⟨y, hy⟩ := hI.active r hr
  constructor
  · exact fun _ _ => ⟨y, hstat _ _ hy⟩
  · intro x' hx' hp
    obtain ⟨x, hx, -, hxf, -⟩ := horigin x' hx'
    exact hI.started x hx (hback x hx _ (hxf ▸ hp))
  · intro x' hx' ha
    obtain ⟨x, hx, -, hxf, hxt, -⟩ := horigin x' hx'
    rw [hxt]
    exact hstat _ _ (hI.to_planned x hx (hback x hx _ (hxf ▸ ha)))
  · intro x' hx' hc
    obtain ⟨x, hx, -, hxf, -⟩ := horigin x' hx'
    obtain ⟨c, hc, hcf, hcs⟩ := hI.closed x hx (hback x hx _ (hxf ▸ hc))
    obtain ⟨c', hc', -, hcf', -, hcs'⟩ := hkept c hc
    exact ⟨c', hc', by rw [hcf', hxf, hcf], hcs'.2 (.inl hcs)⟩
  · intro x' hx' hs
    obtain ⟨x, hx, hid, hxf, -, hxs⟩ := horigin x' hx'
    rw [hxf]
    rcases hxs.1 hs with hs | he
    · exact hstat _ _ (hI.committed x hx hs)
    · rw [Db.rollover_unique hx hr he]
      exact hstat _ _ hf

theorem Committed.yearInv {d d' : Db} {r : RolloverRow} (h : Committed d r d')
    (hr : r ∈ d.val.rollovers) (hI : YearInv d) : YearInv d' := by
  rcases commit_statuses hI hr h with ⟨hf, ht⟩ | ⟨hf, ht⟩
  · exact h.yearInv_of_active hr hI hf ht
  · exact h.yearInv_of_closed hr hI hf ht

/-! ## Every step -/

theorem plansOnly_refl (d : Db) : PlansOnly d d :=
  ⟨plans_of_eq rfl rfl, rfl, rfl⟩

theorem plansOnly_onlyLines {d d' : Db} (h : OnlyLines d d') : PlansOnly d d' := by
  obtain ⟨lines, seq, hval⟩ := h
  exact ⟨plans_of_eq (by rw [hval]) (by rw [hval]), by rw [hval], by rw [hval]⟩

theorem plansOnly_generate (u : List String) (f t : Nat) (c : Option Nat) (d : Db) :
    PlansOnly d (after (generateRolloverPlan u f t c) d) := by
  rcases generate_cases u f t c d with h | ⟨r, d₁, hcreated, h⟩
  · rw [h]
    exact plansOnly_refl d
  · obtain ⟨lines, seq, hval⟩ := onlyLines_recompute r.id f d₁
    rw [← h] at hval
    rcases hcreated.state with ⟨hr, rfl⟩ | ⟨hdraft, seq', hins⟩
    · exact plansOnly_onlyLines ⟨_, _, hval⟩
    · rw [hins] at hval
      have hroll : (after (generateRolloverPlan u f t c) d).val.rollovers =
          d.val.rollovers ++ [r] := by rw [hval]
      refine ⟨⟨fun y st hy => ?_, fun x hx => ⟨x, ?_, rfl, rfl, rfl, Iff.rfl⟩, fun x hx => ?_⟩,
        by rw [hval], by rw [hval]⟩
      · rw [Tables.YearIs, Tables.year?, hval]
        exact hy
      · rw [hroll]
        exact List.mem_append_left _ hx
      · rw [hroll] at hx
        rcases List.mem_append.1 hx with hx | hx
        · exact .inl ⟨x, hx, rfl, rfl, rfl, Iff.rfl⟩
        · rw [List.mem_singleton.1 hx]
          refine .inr ⟨by simp [hdraft], ?_, ?_⟩
          · exact hcreated.from_eq ▸ hcreated.from_active
          · exact hcreated.to_eq ▸ hcreated.to_planned

theorem plansOnly_preview (u : List String) (rid : Nat) (d : Db) :
    PlansOnly d (after (previewRollover u rid) d) := by
  rcases preview_cases u rid d with h | ⟨r, hr, hid, hstate, h | ⟨d₁, hok, h⟩⟩
  · rw [h]
    exact plansOnly_refl d
  · rw [h]
    exact plansOnly_onlyLines (onlyLines_recompute _ _ _)
  · obtain ⟨lines, seq, hval⟩ := after_ok hok ▸ onlyLines_recompute rid r.fromYearId d
    rw [Tables.setRollovers, hval] at h
    -- the row that is written is not committed, before or after
    have hsame : ∀ x ∈ d.val.rollovers, SameRollover x
        (if decide (x.id = rid) = true then { x with state := .previewed } else x) := by
      intro x hx
      by_cases hxr : x.id = rid
      · rw [if_pos (by simpa using hxr)]
        refine ⟨rfl, rfl, rfl, fun he => by simp at he, fun he => ?_⟩
        rw [Db.rollover_unique hx hr (hxr.trans hid.symm)] at he
        exact absurd he hstate
      · rw [if_neg (by simpa using hxr)]
        exact ⟨rfl, rfl, rfl, Iff.rfl⟩
    refine ⟨⟨fun y st hy => ?_, fun x hx => ⟨_, ?_, hsame x hx⟩, fun x' hx' => ?_⟩,
      by rw [h], by rw [h]⟩
    · rw [Tables.YearIs, Tables.year?, h]
      exact hy
    · rw [h]
      exact mem_updateWhere_of_mem hx
    · rw [h] at hx'
      obtain ⟨x, hx, rfl⟩ := mem_updateWhere.1 hx'
      exact .inl ⟨x, hx, hsame x hx⟩

theorem plansOnly_createAcademicYear (u : List String) (n : String) (s e : Option Date) (d : Db) :
    PlansOnly d (after (TenantService.createAcademicYear u n s e) d) := by
  rcases createAcademicYear_cases u n s e d with h | ⟨row, seq, -, hval⟩
  · rw [h]
    exact plansOnly_refl d
  · refine ⟨⟨fun y st hy => ?_, fun x hx => ⟨x, ?_, rfl, rfl, rfl, Iff.rfl⟩,
      fun x hx => .inl ⟨x, ?_, rfl, rfl, rfl, Iff.rfl⟩⟩, by rw [hval], by rw [hval]⟩
    · rw [Db.yearIs_iff] at hy ⊢
      obtain ⟨r, hr, he⟩ := hy
      exact ⟨r, by rw [hval]; exact List.mem_append_left _ hr, he⟩
    · rw [hval]
      exact hx
    · rw [hval] at hx
      exact hx

theorem plansOnly_override (u : List String) (l : Nat) (a : Option String) (lv : Option Nat)
    (sec : Option String) (d : Db) : PlansOnly d (after (overrideRolloverLine u l a lv sec) d) := by
  rcases override_cases u l a lv sec d with h | ⟨f, -, -, h⟩
  · rw [h]
    exact plansOnly_refl d
  · rw [Tables.setLines] at h
    exact ⟨plans_of_eq (by rw [h]) (by rw [h]), by rw [h], by rw [h]⟩

section Runs

variable [Unicode]

/-- The call is an allowed one to commit the previewed rollover `r`. -/
def Op.Attempts (d : Db) (op : Op) (r : RolloverRow) : Prop :=
  r ∈ d.val.rollovers ∧ r.state = .previewed ∧
    ∃ u c, op = .commitRollover u r.id c ∧ Authz.require u TenantService.rolloverRoles

/-- An operation of the rollover plans, or it commits a previewed rollover. -/
theorem rollover_kinds (d : Db) {op : Op} (h : op.isRollover = true) :
    PlansOnly d (step d op) ∨ ∃ r, op.Attempts d r ∧ Committed d r (step d op) := by
  cases op with
  | createAcademicYear u n s e => exact .inl (moves_map_at (plansOnly_createAcademicYear u n s e d))
  | generateRolloverPlan u f t c => exact .inl (moves_map_at (plansOnly_generate u f t c d))
  | overrideRolloverLine u l a lv sec =>
    exact .inl (moves_map_at (plansOnly_override u l a lv sec d))
  | previewRollover u r => exact .inl (moves_map_at (plansOnly_preview u r d))
  | commitRollover u r c =>
    have h := commit_cases u r c d
    rw [← after_map fun _ => ()] at h
    rcases h with h | ⟨hgate, x, hx, rfl, hstate, hcom⟩
    · rw [show step d (.commitRollover u r c) = d from h]
      exact .inl (plansOnly_refl d)
    · exact .inr ⟨x, ⟨hx, hstate, u, c, rfl, hgate⟩, hcom⟩
  | _ => cases h

/-- **The kinds of steps.** A step writes quietly, places students, plans, or commits a previewed
rollover. -/
theorem step_kinds (d : Db) (op : Op) :
    Quiet d (step d op) ∨ Places (op.Target d) True d (step d op) ∨ PlansOnly d (step d op) ∨
      ∃ r, op.Attempts d r ∧ Committed d r (step d op) := by
  cases hroll : op.isRollover with
  | false =>
    rcases step_effect d hroll with h | h
    · exact .inl h
    · exact .inr (.inl h)
  | true =>
    rcases rollover_kinds d hroll with h | h
    · exact .inr (.inr (.inl h))
    · exact .inr (.inr (.inr h))

/-- **What a step does to years and rollovers.** It plans, or it commits a previewed rollover. -/
theorem step_plans_or_commits (d : Db) (op : Op) :
    Plans d (step d op) ∨
      ∃ r ∈ d.val.rollovers, r.state = .previewed ∧ Committed d r (step d op) := by
  rcases step_kinds d op with h | h | h | ⟨r, ⟨hr, hstate, -⟩, h⟩
  · exact .inl (plans_of_eq h.years h.rollovers)
  · exact .inl (plans_of_eq h.years h.rollovers)
  · exact .inl h.toPlans
  · exact .inr ⟨r, hr, hstate, h⟩

/-- **The invariant is kept by every operation.** -/
theorem yearInv_step (d : Db) (op : Op) (hI : YearInv d) : YearInv (step d op) := by
  rcases step_plans_or_commits d op with h | ⟨r, hr, -, h⟩
  · exact h.yearInv hI
  · exact h.yearInv hr hI

/-! ## The commits of a run -/

/-- The call moves the rollover `r` to `committed`. -/
def Commits (d : Db) (op : Op) (r : RolloverRow) : Prop :=
  r ∈ d.val.rollovers ∧ r.state ≠ .committed ∧
    ∃ r' ∈ (step d op).val.rollovers, r'.id = r.id ∧ r'.state = .committed

/-- A rollover from the same year has been committed. -/
def Superseded (d : Db) (r : RolloverRow) : Prop :=
  ∃ r' ∈ d.val.rollovers, r'.fromYearId = r.fromYearId ∧ r'.state = .committed

/-- The years of the rollover are as its planning found them. -/
def ConsistentYears (d : Db) (r : RolloverRow) : Prop :=
  d.val.YearIs r.fromYearId .active ∧ d.val.YearIs r.toYearId .planned

/-- Only the commit of a rollover moves it to `committed`. -/
theorem Commits.committed {d : Db} {op : Op} {r : RolloverRow} (h : Commits d op r) :
    Committed d r (step d op) := by
  obtain ⟨hr, hstate, r', hr', hid, hcom⟩ := h
  rcases step_plans_or_commits d op with hp | ⟨x, hx, -, hc⟩
  · rcases hp.origin r' hr' with ⟨x, hx, hxid, -, -, hxs⟩ | ⟨hne, -⟩
    · rw [Db.rollover_unique hx hr (hxid.symm.trans hid)] at hxs
      exact absurd (hxs.1 hcom) hstate
    · exact absurd hcom hne
  · obtain ⟨y, hy, hyid, -, -, hys⟩ := hc.sameYears.2 r' hr'
    obtain rfl := Db.rollover_unique hy hr (hyid.symm.trans hid)
    rcases hys.1 hcom with hcom | he
    · exact absurd hcom hstate
    · rwa [Db.rollover_unique hy hx he]

theorem consistentYears_iff {d : Db} {op : Op} {r : RolloverRow} (hI : YearInv d)
    (h : Commits d op r) : ConsistentYears d r ↔ ¬Superseded d r := by
  constructor
  · rintro ⟨hact, -⟩ ⟨r', hr', hf, hcom⟩
    cases hact.unique (hf ▸ hI.committed r' hr' hcom)
  · intro hnot
    rcases commit_statuses hI h.1 h.committed with hc | ⟨hf, -⟩
    · exact hc
    · exact absurd (hI.closed r h.1 hf) hnot

/-- **A commit starts from consistent years exactly when it is the first from its year**, in every
run. -/
theorem commit_consistent_iff {d : Db} (h : Fresh d) (ops : List Op) :
    EachStep step (fun d op => ∀ r, Commits d op r → (ConsistentYears d r ↔ ¬Superseded d r))
      d ops :=
  run_each (fun d op hI _ => yearInv_step d op hI)
    (fun _ _ hI _ _ hc => consistentYears_iff hI hc) h.yearInv (eachStep_true d ops)

end Runs

/-- Two rollovers from year 1 are previewed; one is committed, and year 2 is rolled over too. -/
def twoFromOneYear : List Op :=
  planned 100 1 2 ++ planned 101 1 3 ++ [committed 100] ++ planned 102 2 3 ++ [committed 102]

theorem commit_consistent_iff_twoFromOneYear :
    EachStep (@step ascii)
      (fun d op => ∀ r, @Commits ascii d op r → (ConsistentYears d r ↔ ¬Superseded d r))
      smallSchool (twoFromOneYear ++ [committed 101]) :=
  @commit_consistent_iff ascii smallSchool rfl _

theorem twoFromOneYear_state :
    ⟨101, 1, 3, .previewed, none, none⟩ ∈ (smallRun twoFromOneYear).val.rollovers ∧
      (⟨1, "Y1", .closed, none, none, none⟩ : YearRow) ∈ (smallRun twoFromOneYear).val.years := by
  decide +kernel

theorem twoFromOneYear_commit :
    (101, .committed) ∈ (@step ascii (smallRun twoFromOneYear) (committed 101)).val.rollovers.map
      fun r => (r.id, r.state) := by decide +kernel

/-- The rollover left previewed is then committed: its `from_year` has been closed before and its
`to_year` is already active. -/
theorem stale_commit :
    ¬∀ (d : Db) (ops : List Op), Fresh d → EachStep (@step ascii)
      (fun d op => ∀ r, @Commits ascii d op r → ConsistentYears d r) d ops := by
  intro h
  have hlast : ∀ r, @Commits ascii (smallRun twoFromOneYear) (committed 101) r →
      ConsistentYears (smallRun twoFromOneYear) r :=
    (eachStep_append.1 (h smallSchool (twoFromOneYear ++ [committed 101]) rfl)).2.1
  obtain ⟨hr, hclosed⟩ := twoFromOneYear_state
  obtain ⟨r', hr', he⟩ := List.mem_map.1 twoFromOneYear_commit
  have hcommits : @Commits ascii (smallRun twoFromOneYear) (committed 101)
      ⟨101, 1, 3, .previewed, none, none⟩ :=
    ⟨hr, by simp, r', hr', congrArg Prod.fst he, congrArg Prod.snd he⟩
  have hst := (hlast _ hcommits).1.unique (Db.yearIs_iff.2 ⟨_, hclosed, rfl, rfl⟩)
  cases hst

end Sams.School
