import Mathlib.Tactic.IntervalCases
import Sams.School.System

/-!
# The blackout dates of the structure editor

The editor compares the entries of its payload with the dates on record before the first write: it
updates the row of a date that was on record, inserts a row for an entry of any other date, and
deletes the dates that no entry names. No constraint keeps dates apart.

**`blackouts_iff`**: where the dates on record are distinct, a save leaves one row for each date of
the payload, as its last entry has it, and saving what is then read changes none of them, if and
only if no new date is in two entries.
-/

namespace Sams.School

open Programs Rows TenantRepository

/-! ## Dates as text -/

/-- A decimal digit. -/
def digit (n : Nat) : Char := Char.ofNat (0x30 + n % 10)

/-- `date.isoformat`. -/
def Date.iso (d : Date) : String :=
  String.ofList [digit (d.year / 1000), digit (d.year / 100), digit (d.year / 10),
    digit d.year, '-', digit (d.month / 10), digit d.month, '-', digit (d.day / 10), digit d.day]

/-- A date of the calendar, in a year that `strptime` reads. -/
structure Date.Valid (d : Date) : Prop where
  year : 1 ≤ d.year ∧ d.year < 10000
  month : 1 ≤ d.month ∧ d.month ≤ 12
  day : 1 ≤ d.day ∧ d.day ≤ daysIn d.year d.month

theorem digit_ascii (n : Nat) : (digit n).toNat < 128 ∧ (digit n).isDigit = true ∧
    (digit n).toNat - 0x30 = n % 10 := by
  have hdigits : ∀ k < 10, (Char.ofNat (0x30 + k)).toNat < 128 ∧
      (Char.ofNat (0x30 + k)).isDigit = true ∧ (Char.ofNat (0x30 + k)).toNat - 0x30 = k := by
    decide
  exact hdigits _ (Nat.mod_lt n (by decide))

section Reading

variable [Unicode] {cs rest : List Char} {n m day : Nat}

theorem decimal_digit (n : Nat) : Text.decimal (digit n) = some (n % 10) := by
  obtain ⟨hascii, hdigit, hvalue⟩ := digit_ascii n
  unfold Text.decimal
  rw [if_pos hascii, if_pos hdigit, hvalue]

theorem readYear_digits (h : n < 10000) :
    readYear (digit (n / 1000) :: digit (n / 100) :: digit (n / 10) :: digit n :: '-' :: rest) =
      some (n, rest) := by
  simp only [readYear, decimal_digit, Option.bind_eq_bind, Option.bind_some, Option.pure_def]
  congr 2
  omega

theorem readYear_lt (h : readYear cs = some (n, rest)) : n < 10000 := by
  unfold readYear at h
  split at h
  · simp only [Option.bind_eq_bind, Option.bind_eq_some_iff, Option.pure_def] at h
    obtain ⟨a, ha, b, hb, c, hc, d, hd, heq⟩ := h
    obtain ⟨rfl, -⟩ := Prod.mk.inj (Option.some.inj heq)
    have hthousands := Text.decimal_lt ha
    have hhundreds := Text.decimal_lt hb
    have htens := Text.decimal_lt hc
    have hones := Text.decimal_lt hd
    omega
  · cases h

omit [Unicode] in
theorem digitIn_bounds {lo hi : Nat} {c : Char} (h : digitIn lo hi c = some n) :
    lo ≤ n ∧ n ≤ hi := by
  unfold digitIn at h
  split_ifs at h with hc
  obtain rfl := Option.some.inj h
  exact hc.2

omit [Unicode] in
theorem readMonth_digits (h : 1 ≤ m ∧ m ≤ 12) :
    readMonth (digit (m / 10) :: digit m :: '-' :: rest) = some (m, rest) := by
  obtain ⟨hm, hm'⟩ := h
  interval_cases m <;> rfl

omit [Unicode] in
theorem readMonth_bounds (h : readMonth cs = some (m, rest)) : 1 ≤ m ∧ m ≤ 12 := by
  unfold readMonth at h
  split at h
  · obtain ⟨k, hk, heq⟩ := Option.map_eq_some_iff.1 h
    obtain ⟨rfl, -⟩ := Prod.mk.inj heq
    have hbounds := digitIn_bounds hk
    omega
  · obtain ⟨k, hk, heq⟩ := Option.map_eq_some_iff.1 h
    obtain ⟨rfl, -⟩ := Prod.mk.inj heq
    have hbounds := digitIn_bounds hk
    omega
  · obtain ⟨k, hk, heq⟩ := Option.map_eq_some_iff.1 h
    obtain ⟨rfl, -⟩ := Prod.mk.inj heq
    have hbounds := digitIn_bounds hk
    omega
  · cases h

theorem readDay_digits (h : 1 ≤ day ∧ day ≤ 31) :
    readDay [digit (day / 10), digit day] = some day := by
  obtain ⟨hd, hd'⟩ := h
  interval_cases day <;> rfl

theorem readDay_pos (h : readDay cs = some day) : 1 ≤ day := by
  unfold readDay at h
  split at h
  · exact (digitIn_bounds h).1
  · obtain ⟨k, -, rfl⟩ := Option.map_eq_some_iff.1 h
    omega
  · obtain ⟨k, -, rfl⟩ := Option.map_eq_some_iff.1 h
    omega
  · obtain ⟨k, -, rfl⟩ := Option.map_eq_some_iff.1 h
    omega
  · exact (digitIn_bounds h).1
  · exact (digitIn_bounds h).1
  · cases h

omit [Unicode] in
theorem daysIn_le (year month : Nat) : daysIn year month ≤ 31 := by
  unfold daysIn
  split_ifs <;> omega

/-- **A date is read as it is written.** -/
theorem strptimeDate_iso {d : Date} (h : d.Valid) : strptimeDate d.iso = some d := by
  obtain ⟨⟨hy, hy'⟩, hmonth, hd, hd'⟩ := h
  have hday := hd'.trans (daysIn_le d.year d.month)
  unfold strptimeDate Date.iso
  rw [String.toList_ofList, List.take_of_length_le (by simp), readYear_digits hy']
  simp only [Option.bind_eq_bind, Option.bind_some, readMonth_digits hmonth,
    readDay_digits ⟨hd, hday⟩]
  rw [if_pos ⟨hy, hd'⟩]

/-- What is read is a date of the calendar. -/
theorem valid_of_strptimeDate {s : String} {d : Date} (h : strptimeDate s = some d) : d.Valid := by
  unfold strptimeDate at h
  simp only [Option.bind_eq_bind, Option.bind_eq_some_iff] at h
  obtain ⟨⟨year, cs⟩, hyear, ⟨month, rest⟩, hmonth, day, hday, h⟩ := h
  split_ifs at h with hd
  obtain rfl := Option.some.inj h
  exact ⟨⟨hd.1, readYear_lt hyear⟩, readMonth_bounds hmonth, readDay_pos hday, hd.2⟩

end Reading

/-! ## Entries -/

section Entries

variable [Unicode]

/-- The date of an entry, if it has one. -/
def BlackoutIn.date? (bd : BlackoutIn) : Option Date := (Text.nonEmpty bd.date).bind strptimeDate

/-- The title and the tags that an entry is saved with. -/
def BlackoutIn.shown (bd : BlackoutIn) : String × List String :=
  ((Text.nonEmpty bd.title).getD "Holiday", bd.tags)

/-- The title and the tags of a row. -/
def BlackoutRow.shown (b : BlackoutRow) : String × List String := (b.title, b.tags)

/-- The last entry of a date. -/
def lastEntry (entries : List BlackoutIn) (date : Date) : Option BlackoutIn :=
  entries.reverse.find? fun bd => bd.date? = some date

theorem lastEntry_append (entries : List BlackoutIn) (bd : BlackoutIn) (date : Date) :
    lastEntry (entries ++ [bd]) date = if bd.date? = some date then some bd
      else lastEntry entries date := by
  unfold lastEntry
  rw [List.reverse_append, List.reverse_singleton, List.singleton_append, List.find?_cons]
  by_cases h : bd.date? = some date
  · simp [h]
  · simp [h]

theorem lastEntry_isSome {entries : List BlackoutIn} {date : Date} :
    (lastEntry entries date).isSome = true ↔ date ∈ entries.filterMap BlackoutIn.date? := by
  unfold lastEntry
  simp [List.find?_isSome, List.mem_filterMap]

/-- A row of a date on record as the last entry of that date has it. -/
def BlackoutRow.rewrite (entries : List BlackoutIn) (b : BlackoutRow) : BlackoutRow :=
  (lastEntry entries b.date).elim b fun bd => { b with title := bd.shown.1, tags := bd.shown.2 }

@[simp] theorem rewrite_id (entries : List BlackoutIn) (b : BlackoutRow) :
    (b.rewrite entries).id = b.id := by
  unfold BlackoutRow.rewrite
  cases lastEntry entries b.date <;> rfl

@[simp] theorem rewrite_date (entries : List BlackoutIn) (b : BlackoutRow) :
    (b.rewrite entries).date = b.date := by
  unfold BlackoutRow.rewrite
  cases lastEntry entries b.date <;> rfl

theorem rewrite_append_of_ne {entries : List BlackoutIn} {bd : BlackoutIn} {b : BlackoutRow}
    (h : bd.date? ≠ some b.date) : b.rewrite (entries ++ [bd]) = b.rewrite entries := by
  unfold BlackoutRow.rewrite
  rw [lastEntry_append, if_neg h]

theorem rewrite_append_of_eq {entries : List BlackoutIn} {bd : BlackoutIn} {b : BlackoutRow}
    (h : bd.date? = some b.date) :
    b.rewrite (entries ++ [bd]) = { b.rewrite entries with
      title := bd.shown.1, tags := bd.shown.2 } := by
  unfold BlackoutRow.rewrite
  rw [lastEntry_append, if_pos h]
  cases lastEntry entries b.date <;> rfl

/-! ## The loop -/

/-- What is there after some of the entries: the dates on record as the last entries have them, and
a row for every entry of another date. -/
structure SavedSoFar (existing : List BlackoutRow) (before : List BlackoutIn) (incoming : List Date)
    (rows : List BlackoutRow) : Prop where
  incoming : incoming = before.filterMap BlackoutIn.date?
  rows : ∃ new, rows = existing.map (BlackoutRow.rewrite before) ++ new ∧
    ∀ date, (new.filter fun b => b.date = date).map BlackoutRow.shown =
      if date ∈ existing.map BlackoutRow.date then []
      else (before.filter fun bd => bd.date? = some date).map BlackoutIn.shown

end Entries

section Loop

variable [Unicode] {existing : List BlackoutRow} {before : List BlackoutIn}
    {incoming incoming' : List Date}
variable {bd : BlackoutIn} {d d' : Db}

theorem savedSoFar_nil (existing : List BlackoutRow) : SavedSoFar existing [] [] existing := by
  refine ⟨rfl, [], ?_, fun date => by simp⟩
  rw [List.append_nil]
  exact (List.map_id' existing).symm

/-- An entry without a date is passed over. -/
theorem SavedSoFar.skip {rows : List BlackoutRow} (h : SavedSoFar existing before incoming rows)
    (hdate : bd.date? = none) : SavedSoFar existing (before ++ [bd]) incoming rows := by
  obtain ⟨new, hrows, hnew⟩ := h.rows
  have hrewrite : BlackoutRow.rewrite (before ++ [bd]) = BlackoutRow.rewrite before :=
    funext fun b => rewrite_append_of_ne (by simp [hdate])
  refine ⟨by simp [h.incoming, hdate], new, by rw [hrewrite, hrows], fun date => ?_⟩
  rw [hnew, List.filter_append]
  simp [hdate]

/-- A row is inserted for an entry of a date that was not on record. -/
theorem SavedSoFar.insert {rows : List BlackoutRow} (h : SavedSoFar existing before incoming rows)
    {x : BlackoutRow} (hdate : bd.date? = some x.date) (hshown : x.shown = bd.shown)
    (hfresh : x.date ∉ existing.map BlackoutRow.date) :
    SavedSoFar existing (before ++ [bd]) (incoming ++ [x.date]) (rows ++ [x]) := by
  obtain ⟨new, hrows, hnew⟩ := h.rows
  have hrewrite : existing.map (BlackoutRow.rewrite (before ++ [bd])) =
      existing.map (BlackoutRow.rewrite before) := by
    refine List.map_congr_left fun b hb => rewrite_append_of_ne fun he => hfresh ?_
    rw [Option.some.inj (hdate.symm.trans he)]
    exact List.mem_map_of_mem hb
  refine ⟨by simp [h.incoming, hdate], new ++ [x], by rw [hrewrite, hrows, List.append_assoc],
    fun date => ?_⟩
  rw [List.filter_append, List.map_append, hnew, List.filter_append, List.map_append]
  by_cases hx : x.date = date
  · subst hx
    simp [hfresh, hdate, hshown]
  · simp [hx, hdate]

/-- The row of an entry's date is written. -/
theorem SavedSoFar.update {rows : List BlackoutRow} (h : SavedSoFar existing before incoming rows)
    (hids : Keyed BlackoutRow.id rows) (hdates : Keyed BlackoutRow.date existing)
    {row : BlackoutRow} (hrow : row ∈ existing) (hdate : bd.date? = some row.date) :
    SavedSoFar existing (before ++ [bd]) (incoming ++ [row.date])
      (updateWhere (fun b => b.id = row.id)
      (fun b => { b with title := bd.shown.1, tags := bd.shown.2 }) rows) := by
  obtain ⟨new, hrows, hnew⟩ := h.rows
  have hkeys : (existing.map BlackoutRow.id ++ new.map BlackoutRow.id).Nodup := by
    have hall : rows.map BlackoutRow.id = existing.map BlackoutRow.id ++
        new.map BlackoutRow.id := by
      rw [hrows, List.map_append, List.map_map]
      congr 1
      exact List.map_congr_left fun b _ => rewrite_id before b
    exact hall ▸ hids
  obtain ⟨hold, -, hapart⟩ := List.nodup_append.1 hkeys
  have hnone : ∀ b ∈ new, b.id ≠ row.id := fun b hb he =>
    hapart row.id (List.mem_map_of_mem hrow) b.id (List.mem_map_of_mem hb) he.symm
  refine ⟨by simp [h.incoming, hdate], new, ?_, fun date => ?_⟩
  · unfold updateWhere
    rw [hrows, List.map_append, List.map_map]
    congr 1
    · refine List.map_congr_left fun b hb => ?_
      show (if decide ((b.rewrite before).id = row.id) = true then _ else _) = _
      by_cases hid : b.id = row.id
      · obtain rfl := Keyed.eq_of_key_eq hold hb hrow hid
        rw [if_pos (by simp), rewrite_append_of_eq hdate]
      · have hne : bd.date? ≠ some b.date := by
          intro he
          have hsame : row.date = b.date := Option.some.inj (hdate.symm.trans he)
          exact hid (congrArg BlackoutRow.id (hdates.eq_of_key_eq hb hrow hsame.symm))
        rw [if_neg (by simpa using hid), rewrite_append_of_ne hne]
    · conv_rhs => rw [← List.map_id new]
      refine List.map_congr_left fun b hb => ?_
      rw [if_neg (by simpa using hnone b hb)]
      rfl
  · rw [hnew, List.filter_append]
    by_cases hx : row.date = date
    · rw [if_pos (hx ▸ List.mem_map_of_mem hrow), if_pos (hx ▸ List.mem_map_of_mem hrow)]
    · simp [hdate, hx]

/-- One entry. -/
theorem saveBlackout_soFar (hdates : Keyed BlackoutRow.date existing)
    (h : SavedSoFar existing before incoming d.val.blackouts)
    (hsave : saveBlackout existing incoming bd d = .ok incoming' d') :
    SavedSoFar existing (before ++ [bd]) incoming' d'.val.blackouts := by
  unfold saveBlackout at hsave
  cases htext : Text.nonEmpty bd.date with
  | none =>
    rw [htext] at hsave
    obtain ⟨rfl, rfl⟩ := pure_eq_ok.1 hsave
    exact h.skip (by simp [BlackoutIn.date?, htext])
  | some text =>
    rw [htext] at hsave
    dsimp only at hsave
    cases hparse : strptimeDate text with
    | none =>
      rw [hparse] at hsave
      cases hsave
    | some date =>
      rw [hparse] at hsave
      dsimp only at hsave
      have hdate : bd.date? = some date := by simp [BlackoutIn.date?, htext, hparse]
      cases hfind : existing.reverse.find? fun b => b.date = date with
      | some row =>
        rw [hfind] at hsave
        obtain ⟨_, d₁, hexec, hret⟩ := bind_eq_ok.1 hsave
        obtain ⟨rfl, rfl⟩ := pure_eq_ok.1 hret
        have hrow : row ∈ existing := List.mem_reverse.1 (List.mem_of_find?_eq_some hfind)
        obtain rfl : row.date = date := by simpa using List.find?_some hfind
        rw [exec_eq_ok.1 hexec]
        exact h.update d.ok.keys.blackouts hdates hrow hdate
      | none =>
        rw [hfind] at hsave
        obtain ⟨_, d₁, hexec, hret⟩ := bind_eq_ok.1 hsave
        obtain ⟨rfl, rfl⟩ := pure_eq_ok.1 hret
        have hfresh : date ∉ existing.map BlackoutRow.date := by
          intro hmem
          obtain ⟨b, hb, rfl⟩ := List.mem_map.1 hmem
          simpa using List.find?_eq_none.1 hfind b (List.mem_reverse.2 hb)
        rw [exec_eq_ok.1 hexec]
        exact h.insert (x := ⟨d.val.seq.blackout, date, _, bd.tags⟩) hdate rfl hfresh

theorem saveBlackouts_loop {entries : List BlackoutIn}
    (hdates : Keyed BlackoutRow.date d.val.blackouts)
    (h : entries.foldlM (saveBlackout d.val.blackouts) [] d = .ok incoming d') :
    SavedSoFar d.val.blackouts entries incoming d'.val.blackouts := by
  obtain ⟨done, hdone, hsaved⟩ := foldlM_ok_rec
    (fun rest incoming t => ∃ done, done ++ rest = entries ∧
      SavedSoFar d.val.blackouts done incoming t.val.blackouts)
    (fun bd rest incoming incoming' t t' ⟨done, hdone, hsaved⟩ hsave =>
      ⟨done ++ [bd], by rw [List.append_assoc]; exact hdone,
        saveBlackout_soFar hdates hsaved hsave⟩)
    h ⟨[], rfl, savedSoFar_nil _⟩
  rw [List.append_nil] at hdone
  exact hdone ▸ hsaved

end Loop

/-! ## What a save leaves -/

section Save

variable [Unicode] {p : StructureIn} {d d' : Db} {u : Unit}

/-- The rows that a save leaves: those that were written, but for the dates on
record without an entry. -/
theorem saveBlackouts_rows (hdates : Keyed BlackoutRow.date d.val.blackouts)
    (h : saveBlackouts p d = .ok u d') :
    ∃ new, d'.val.blackouts =
        (d.val.blackouts.map (BlackoutRow.rewrite p.blackoutDates) ++ new).filter (fun b =>
          b.date ∈ d.val.blackouts.map BlackoutRow.date →
            (lastEntry p.blackoutDates b.date).isSome) ∧
      ∀ date, (new.filter fun b => b.date = date).map BlackoutRow.shown =
        if date ∈ d.val.blackouts.map BlackoutRow.date then []
        else (p.blackoutDates.filter fun bd => bd.date? = some date).map BlackoutIn.shown := by
  unfold saveBlackouts at h
  rw [query_bind] at h
  obtain ⟨incoming, d₁, hloop, hdelete⟩ := bind_eq_ok.1 h
  have hsaved := saveBlackouts_loop hdates hloop
  obtain ⟨new, hrows, hnew⟩ := hsaved.rows
  refine ⟨new, ?_, hnew⟩
  rw [exec_eq_ok.1 hdelete]
  dsimp only
  rw [hrows]
  refine List.filter_congr fun b _ => decide_eq_decide.2 ?_
  rw [List.mem_filter, lastEntry_isSome, ← hsaved.incoming]
  simp

/-- **What is left of a date**: the row on record as the last entry has it, if there is an entry;
and for a date that was not on record a row for every entry. -/
theorem saveBlackouts_date (hdates : Keyed BlackoutRow.date d.val.blackouts)
    (h : saveBlackouts p d = .ok u d') (date : Date) :
    (d'.val.blackouts.filter fun b => b.date = date).map BlackoutRow.shown =
      if date ∈ d.val.blackouts.map BlackoutRow.date then
        (lastEntry p.blackoutDates date).toList.map BlackoutIn.shown
      else (p.blackoutDates.filter fun bd => bd.date? = some date).map BlackoutIn.shown := by
  obtain ⟨new, hrows, hnew⟩ := saveBlackouts_rows hdates h
  have hdate : ∀ b ∈ d.val.blackouts.map (BlackoutRow.rewrite p.blackoutDates) ++ new,
      (decide (b.date = date) && decide (b.date ∈ d.val.blackouts.map BlackoutRow.date →
        (lastEntry p.blackoutDates b.date).isSome)) =
      decide (b.date = date ∧ (date ∈ d.val.blackouts.map BlackoutRow.date →
        (lastEntry p.blackoutDates date).isSome)) := by
    intro b _
    by_cases hb : b.date = date
    · subst hb
      simp
    · simp [hb]
  rw [hrows, List.filter_filter, List.filter_congr hdate, List.filter_append, List.map_append]
  by_cases hmem : date ∈ d.val.blackouts.map BlackoutRow.date
  · rw [if_pos hmem]
    obtain ⟨row, hrow, rfl⟩ := List.mem_map.1 hmem
    cases hlast : lastEntry p.blackoutDates row.date with
    | none => simp [hmem]
    | some bd =>
      have hone : d.val.blackouts.filter (fun b => b.date = row.date) = [row] := by
        rw [hdates.filter_key, hdates.find?_eq_some.2 ⟨hrow, rfl⟩]
        rfl
      have hshown : (row.rewrite p.blackoutDates).shown = bd.shown := by
        unfold BlackoutRow.rewrite
        rw [hlast]
        rfl
      have hold : ((d.val.blackouts.map (BlackoutRow.rewrite p.blackoutDates)).filter
          fun b => b.date = row.date) = [row.rewrite p.blackoutDates] := by
        rw [List.filter_map]
        simp only [Function.comp_def, rewrite_date]
        rw [hone]
        rfl
      simp only [Option.isSome_some, implies_true, and_true]
      rw [hold, hnew, if_pos hmem, List.append_nil, List.map_singleton, hshown]
      rfl
  · rw [if_neg hmem]
    have hold : (d.val.blackouts.map (BlackoutRow.rewrite p.blackoutDates)).filter
        (fun b => b.date = date) = [] := by
      rw [List.filter_eq_nil_iff]
      intro b hb hdate
      obtain ⟨b₀, hb₀, rfl⟩ := List.mem_map.1 hb
      rw [rewrite_date] at hdate
      exact hmem (List.mem_map.2 ⟨b₀, hb₀, of_decide_eq_true hdate⟩)
    simp only [hmem, false_implies, and_true]
    rw [hold, hnew, if_neg hmem]
    rfl

/-- What the rest of the editor does not write. -/
theorem same_saveLevelAndSections (ctx : SaveContext) (l : LevelIn) :
    Moves (Same fun d : Db => d.val.blackouts) (saveLevelAndSections ctx l) := by
  have hremove : ∀ ids changedBy, Moves (Same fun d : Db => d.val.blackouts)
      (removeClasses ids changedBy) := by
    intro ids changedBy
    unfold removeClasses blockIfClassesHaveEnrollmentHistory recordClassChange
    refine moves_bind (moves_bind (moves_query _) fun _ => moves_raiseIf _ _) fun _ => ?_
    refine moves_bind (moves_query _) fun _ => moves_bind (moves_exec fun _ _ => rfl) fun _ => ?_
    refine moves_bind (moves_forM fun _ _ => moves_exec fun _ _ => rfl) fun _ => ?_
    exact moves_bind (moves_exec fun _ _ => rfl) fun _ => moves_exec fun _ _ => rfl
  unfold saveLevelAndSections
  refine moves_bind ?_ fun _ => moves_bind (moves_foldlM fun _ s _ => ?_) fun _ => ?_
  · unfold saveLevel createLevel
    refine moves_bind (moves_query _) fun found => ?_
    cases Text.nonZero found with
    | none =>
      exact moves_bind (moves_query _) fun _ => moves_bind (moves_exec fun _ _ => rfl) fun _ =>
        moves_pure _
    | some lvlId => exact moves_bind (moves_exec fun _ _ => rfl) fun _ => moves_pure _
  · unfold saveSection
    dsimp only
    refine moves_bind (moves_query _) fun found => ?_
    cases Text.nonZero found with
    | some cid => exact moves_bind (moves_exec fun _ _ => rfl) fun _ => moves_pure _
    | none =>
      refine moves_ite (moves_pure _) ?_
      cases ctx.activeYearId with
      | none => exact moves_throw _
      | some yearId =>
        exact moves_bind (moves_query _) fun _ => moves_bind (moves_exec fun _ _ => rfl) fun _ =>
          moves_pure _
  · exact moves_bind (moves_query _) fun _ => moves_onlyIf fun _ => hremove _ _

/-- Of a save, only its second part writes blackout dates. -/
theorem saveAcademicStructure_blackouts {changedBy : Option Nat}
    (h : saveAcademicStructure p changedBy d = .ok u d') :
    ∃ d₁ d₂ : Db, d₁.val.blackouts = d.val.blackouts ∧ saveBlackouts p d₁ = .ok () d₂ ∧
      d'.val.blackouts = d₂.val.blackouts := by
  unfold saveAcademicStructure at h
  have h := transaction_eq_ok.1 h
  simp only [query_bind] at h
  obtain ⟨_, d₁, hsettings, h⟩ := bind_eq_ok.1 h
  obtain ⟨_, d₂, hblackouts, h⟩ := bind_eq_ok.1 h
  simp only [query_bind] at h
  have hfirst : Moves (Same fun d : Db => d.val.blackouts) (saveSettings p) := by
    unfold saveSettings
    refine moves_bind (moves_query _) fun r => ?_
    cases r <;> exact moves_exec fun _ _ => rfl
  exact ⟨d₁, d₂, hfirst.same_ok hsettings, hblackouts,
    (moves_forM fun l _ => same_saveLevelAndSections _ l).same_ok h⟩

end Save

/-! ## What is read back -/

/-- Dates in their order. -/
def Date.notAfter (a b : Date) : Bool :=
  a.year < b.year ∨ a.year = b.year ∧ (a.month < b.month ∨ a.month = b.month ∧ a.day ≤ b.day)

namespace TenantRepository

/-- `x or default` of a number. -/
def orNumber (x : Option Int) (default : Int) : Int := if x.getD 0 = 0 then default else x.getD 0

def blackoutDates (t : Tables) : List BlackoutIn :=
  (t.blackouts.mergeSort fun a b => a.date.notAfter b.date).map fun b =>
    { date := some b.date.iso, title := some b.title, tags := b.tags }

/-- `ORDER BY COALESCE(ordinal, 999), level_id`. -/
def byOrdinal (a b : LevelRow) : Bool :=
  a.ordinal.getD 999 < b.ordinal.getD 999 ∨ a.ordinal.getD 999 = b.ordinal.getD 999 ∧
    a.levelId ≤ b.levelId

variable [Collation]

/-- The sections of a level, by name. -/
def sectionsOf (t : Tables) (levelId : Nat) : List SectionIn :=
  ((t.classes.filter fun c => c.levelId = levelId).mergeSort fun a b => Collation.le
    a.name b.name).map
    fun c =>
      { id := some c.id, name := some c.name, capacity := some (orNumber (some c.capacity) 25) }

/-- `get_academic_structure`, as the payload that it is to the editor: without `has_structure`,
which no save reads. -/
def getAcademicStructure (t : Tables) : StructureIn where
  system := some (TenantService.currentSystem t)
  calendar := some <| match currentSettings t with
    | some row => {
        academicYear := some row.academicYear
        startMonth := some row.startMonth
        weekendDays := if row.weekendDays = [] then ["Saturday", "Sunday"] else row.weekendDays }
    | none =>
      { academicYear := some "2026-2027", startMonth := some 9, weekendDays := ["Saturday",
      "Sunday"] }
  blackoutDates := blackoutDates t
  levels := (t.levels.mergeSort byOrdinal).map fun l =>
    { levelId := some l.levelId
      name := some l.name
      fields := {
        iscedLevel := some (orNumber l.iscedLevel 1)
        ageBandMin := l.ageBandMin
        ageBandMax := l.ageBandMax
        ordinal := l.ordinal }
      isActive := l.isActive
      sections := sectionsOf t l.levelId }

end TenantRepository

/-! ## Blackout dates as a map -/

section IsMap

variable [Unicode]

/-- There is one row for each date of the entries, as the last entry of the date
has it, and no other. -/
def IsMap (entries : List BlackoutIn) (rows : List BlackoutRow) : Prop :=
  ∀ date, (rows.filter fun b => b.date = date).map BlackoutRow.shown =
    (lastEntry entries date).toList.map BlackoutIn.shown

/-- No date that is not on record is in two entries. -/
def NewDatesOnce (d : Db) (entries : List BlackoutIn) : Prop :=
  ∀ date ∉ d.val.blackouts.map BlackoutRow.date,
    (entries.filter fun bd => bd.date? = some date).length ≤ 1

theorem lastEntry_of_filter {entries : List BlackoutIn} {date : Date}
    (h : (entries.filter fun bd => bd.date? = some date).length ≤ 1) :
    (lastEntry entries date).toList = entries.filter fun bd => bd.date? = some date := by
  unfold lastEntry
  rw [← List.head?_filter, List.filter_reverse]
  generalize entries.filter (fun bd => bd.date? = some date) = found at h ⊢
  match found, h with
  | [], _ => rfl
  | [bd], _ => rfl

variable {p : StructureIn} {d d' : Db} {u : Unit} {changedBy : Option Nat}

/-- **A save makes a map of the dates** if and only if no new date is in two entries. -/
theorem isMap_iff (hdates : Keyed BlackoutRow.date d.val.blackouts)
    (h : saveAcademicStructure p changedBy d = .ok u d') :
    IsMap p.blackoutDates d'.val.blackouts ↔ NewDatesOnce d p.blackoutDates := by
  obtain ⟨d₁, d₂, hbefore, hsave, hafter⟩ := saveAcademicStructure_blackouts h
  have hdate := saveBlackouts_date (hbefore ▸ hdates) hsave
  unfold IsMap
  rw [hafter]
  constructor
  · intro hmap date hfresh
    have hrows := (hdate date).symm.trans (hmap date)
    rw [hbefore, if_neg hfresh] at hrows
    have hlength := congrArg List.length hrows
    rw [List.length_map, List.length_map] at hlength
    rw [hlength]
    cases lastEntry p.blackoutDates date <;> simp
  · intro hfresh date
    rw [hdate date, hbefore]
    split_ifs with hmem
    · rfl
    · rw [lastEntry_of_filter (hfresh date hmem)]

theorem IsMap.keyed {entries : List BlackoutIn} {rows : List BlackoutRow} (h : IsMap entries rows) :
    Keyed BlackoutRow.date rows := by
  refine keyed_of_filter_key fun date => ?_
  have hlength := congrArg List.length (h date)
  rw [List.length_map, List.length_map] at hlength
  rw [hlength]
  cases lastEntry entries date <;> simp

/-- A row of a map is that of an entry: its date is one of the calendar, and it has a title. -/
theorem IsMap.row {entries : List BlackoutIn} {rows : List BlackoutRow} (h : IsMap entries rows)
    {b : BlackoutRow} (hb : b ∈ rows) : b.date.Valid ∧ b.title ≠ "" := by
  have hmem : b.shown ∈ (rows.filter fun x => x.date = b.date).map BlackoutRow.shown :=
    List.mem_map_of_mem (List.mem_filter.2 ⟨hb, by simp⟩)
  rw [h b.date] at hmem
  obtain ⟨bd, hbd, hshown⟩ := List.mem_map.1 hmem
  have hlast : lastEntry entries b.date = some bd := Option.mem_toList.1 hbd
  have hdate : bd.date? = some b.date := by simpa using List.find?_some hlast
  obtain ⟨text, -, hparse⟩ := Option.bind_eq_some_iff.1 hdate
  refine ⟨valid_of_strptimeDate hparse, fun hempty => ?_⟩
  have htitle : (Text.nonEmpty bd.title).getD "Holiday" = b.title := congrArg Prod.fst hshown
  rw [hempty] at htitle
  cases hnonempty : Text.nonEmpty bd.title with
  | none =>
    rw [hnonempty] at htitle
    exact absurd htitle (by decide)
  | some title =>
    rw [hnonempty] at htitle
    have hne := (Option.filter_eq_some_iff.1 hnonempty).2
    rw [show title = "" from htitle] at hne
    exact absurd hne (by decide)

end IsMap

/-! ## Saving what was read -/

section Read

variable [Unicode]

omit [Unicode] in
/-- The entry that a row is read as. -/
theorem mem_blackoutDates {t : Tables} {bd : BlackoutIn} :
    bd ∈ blackoutDates t ↔ ∃ b ∈ t.blackouts,
      { date := some b.date.iso, title := some b.title, tags := b.tags } = bd := by
  unfold blackoutDates
  rw [List.mem_map]
  simp only [List.mem_mergeSort]

/-- The entry of a row that is valid and has a title is of the date of the row, and
shows what it shows. -/
theorem readEntry {b : BlackoutRow} (hvalid : b.date.Valid) (htitle : b.title ≠ "") :
    BlackoutIn.date? { date := some b.date.iso, title := some b.title, tags := b.tags } =
      some b.date ∧
      BlackoutIn.shown { date := some b.date.iso, title := some b.title, tags := b.tags } =
        b.shown := by
  have hiso := strptimeDate_iso hvalid
  have hne : b.date.iso ≠ "" := by
    intro hempty
    have hchars := congrArg String.toList hempty
    unfold Date.iso at hchars
    rw [String.toList_ofList] at hchars
    cases hchars
  refine ⟨?_, ?_⟩
  · unfold BlackoutIn.date?
    rw [Text.nonEmpty_some hne, Option.bind_some, hiso]
  · unfold BlackoutIn.shown BlackoutRow.shown
    rw [Text.nonEmpty_some htitle]
    rfl

/-- The last entry of the date of a row is the one that it is read as. -/
theorem lastEntry_blackoutDates {t : Tables} {entries : List BlackoutIn}
    (h : IsMap entries t.blackouts) {b : BlackoutRow} (hb : b ∈ t.blackouts) :
    lastEntry (blackoutDates t) b.date =
      some { date := some b.date.iso, title := some b.title, tags := b.tags } := by
  obtain ⟨hvalid, htitle⟩ := h.row hb
  have hread := (readEntry hvalid htitle).1
  have hmem : b.date ∈ (blackoutDates t).filterMap BlackoutIn.date? :=
    List.mem_filterMap.2 ⟨_, mem_blackoutDates.2 ⟨b, hb, rfl⟩, hread⟩
  obtain ⟨bd, hlast⟩ := Option.isSome_iff_exists.1 (lastEntry_isSome.2 hmem)
  rw [hlast]
  have hdate : bd.date? = some b.date := by simpa using List.find?_some hlast
  obtain ⟨b', hb', rfl⟩ :=
    mem_blackoutDates.1 (List.mem_reverse.1 (List.mem_of_find?_eq_some hlast))
  obtain ⟨hvalid', htitle'⟩ := h.row hb'
  have hsame : b'.date = b.date := Option.some.inj ((readEntry hvalid' htitle').1.symm.trans hdate)
  rw [h.keyed.eq_of_key_eq hb' hb hsame]

/-- **Saving what was read** of a map writes the rows as they are. -/
theorem saveBlackouts_read {p : StructureIn} {d d' : Db} {u : Unit} {entries : List BlackoutIn}
    (hmap : IsMap entries d.val.blackouts) (hp : p.blackoutDates = blackoutDates d.val)
    (h : saveBlackouts p d = .ok u d') : d'.val.blackouts = d.val.blackouts := by
  obtain ⟨new, hrows, hnew⟩ := saveBlackouts_rows hmap.keyed h
  rw [hp] at hrows hnew
  have hsame : d.val.blackouts.map (BlackoutRow.rewrite (blackoutDates d.val)) =
      d.val.blackouts := by
    conv_rhs => rw [← List.map_id d.val.blackouts]
    refine List.map_congr_left fun b hb => ?_
    obtain ⟨hvalid, htitle⟩ := hmap.row hb
    unfold BlackoutRow.rewrite
    rw [lastEntry_blackoutDates hmap hb]
    show ({ b with title := _, tags := _ } : BlackoutRow) = b
    rw [(readEntry hvalid htitle).2]
    rfl
  -- every entry is of a date on record
  have hnone : new = [] := by
    rw [List.eq_nil_iff_forall_not_mem]
    intro x hx
    have hin : x.shown ∈ (new.filter fun b => b.date = x.date).map BlackoutRow.shown :=
      List.mem_map_of_mem (List.mem_filter.2 ⟨hx, by simp⟩)
    rw [hnew] at hin
    split_ifs at hin with hdate
    · cases hin
    · obtain ⟨bd, hbd, -⟩ := List.mem_map.1 hin
      obtain ⟨hbd, hbdDate⟩ := List.mem_filter.1 hbd
      obtain ⟨b, hb, rfl⟩ := mem_blackoutDates.1 hbd
      obtain ⟨hvalid, htitle⟩ := hmap.row hb
      have hsameDate : b.date = x.date :=
        Option.some.inj ((readEntry hvalid htitle).1.symm.trans (of_decide_eq_true hbdDate))
      exact hdate (hsameDate ▸ List.mem_map_of_mem hb)
  rw [hrows, hsame, hnone, List.append_nil, List.filter_eq_self]
  intro b hb
  rw [lastEntry_blackoutDates hmap hb]
  simp

variable [Collation]

/-- **Blackout dates are a map**: where the dates on record are distinct, a save that returns leaves
one row for each date of the payload, as its last entry has it, and saving the structure that is
then read changes none of them, if and only if no date that was not on record is in two entries. -/
theorem blackouts_iff {d d' : Db} {p : StructureIn} {changedBy : Option Nat} {u : Unit}
    (hdates : Keyed BlackoutRow.date d.val.blackouts)
    (h : saveAcademicStructure p changedBy d = .ok u d') :
    (IsMap p.blackoutDates d'.val.blackouts ∧ ∀ by_, (after (saveAcademicStructure
      (getAcademicStructure d'.val) by_) d').val.blackouts = d'.val.blackouts) ↔
      NewDatesOnce d p.blackoutDates := by
  refine ⟨fun hboth => (isMap_iff hdates h).1 hboth.1, fun honce => ?_⟩
  have hmap := (isMap_iff hdates h).2 honce
  refine ⟨hmap, fun by_ => ?_⟩
  refine after_transaction_ind rfl fun v t hsave => ?_
  have hsave' : saveAcademicStructure (getAcademicStructure d'.val) by_ d' = .ok v t :=
    transaction_eq_ok.2 hsave
  obtain ⟨d₁, d₂, hbefore, hblackouts, hafter⟩ := saveAcademicStructure_blackouts hsave'
  have hread : blackoutDates d₁.val = blackoutDates d'.val := by
    unfold blackoutDates
    rw [hbefore]
  rw [hafter, saveBlackouts_read (hbefore ▸ hmap) hread.symm hblackouts, hbefore]

end Read

/-! ## A date that is new -/

section Example

attribute [local instance] ascii

/-- A payload with these entries for Christmas. -/
def christmas (titles : List String) : StructureIn where
  system := some "US"
  calendar := none
  blackoutDates :=
    titles.map fun title => { date := some "2026-12-25", title := some title, tags := [] }
  levels := []

/-- Saved once, Christmas is one row, and it stays what it is when it is read and saved again. -/
theorem christmas_once :
    ∃ d', saveAcademicStructure (christmas ["Christmas"]) none smallSchool = .ok () d' ∧
    IsMap (christmas ["Christmas"]).blackoutDates d'.val.blackouts ∧
    ∀ by_, (after (saveAcademicStructure (@getAcademicStructure byCodePoint d'.val) by_)
      d').val.blackouts =
      d'.val.blackouts := by
  have hreturns : returns (saveAcademicStructure (christmas ["Christmas"]) none)
      smallSchool = true := by
    decide +kernel
  obtain ⟨⟨⟩, d', h⟩ := returns_iff.1 hreturns
  have hdates : Keyed BlackoutRow.date smallSchool.val.blackouts := by decide
  have honce : NewDatesOnce smallSchool (christmas ["Christmas"]).blackoutDates :=
    fun date _ => List.length_filter_le _ _
  exact ⟨d', h, (@blackouts_iff ascii byCodePoint _ _ _ _ _ hdates h).2 honce⟩

/-- What is left of two entries for Christmas. -/
def christmasTwice : Db :=
  after (saveAcademicStructure (christmas ["Christmas", "Winter"]) none) smallSchool

theorem christmasTwice_rows :
    returns (saveAcademicStructure (christmas ["Christmas", "Winter"]) none) smallSchool = true ∧
    (christmasTwice.val.blackouts.filter fun b => b.date = ⟨2026, 12, 25⟩).length = 2 := by
  decide +kernel

/-- Two entries for a date that is new are two rows. -/
theorem two_christmases : ¬∀ (d d' : Db) (p : StructureIn) (changedBy : Option Nat) (u : Unit),
    Keyed BlackoutRow.date d.val.blackouts → saveAcademicStructure p changedBy d = .ok u d' →
    IsMap p.blackoutDates d'.val.blackouts := by
  intro hclaim
  obtain ⟨hreturns, htwo⟩ := christmasTwice_rows
  obtain ⟨u, d', h⟩ := returns_iff.1 hreturns
  have hafter : christmasTwice = d' := after_ok h
  have hkeyed := (hclaim _ d' _ _ u (by decide) h).keyed
  rw [← hafter] at hkeyed
  rw [hkeyed.filter_key] at htwo
  cases hfind : christmasTwice.val.blackouts.find? fun b => b.date = ⟨2026, 12, 25⟩ with
  | none =>
    rw [hfind] at htwo
    cases htwo
  | some b =>
    rw [hfind] at htwo
    cases htwo

end Example

end Sams.School
