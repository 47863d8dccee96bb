import Sams.Costs.Replacing
import Sams.Costs.Requests

/-!
# The totals of the lines

The total of a line is stored beside its unit price and computed apart from it: from the price
before it is rounded to the scale of the column, and from a quantity that was read in another
statement. An update of a priced line writes the quantity first and the total later.

**`costs_run`**: in every run, interleaved in any order, in which prices have four places, each cost
is written for the quantity that its line has, and no quantity of a line with a price changes, every
total is the price times the quantity, and the summary of an event whose sums binary floating point
does not round reports the sum of these.
-/

namespace Sams.Costs

open School (EventRow EventStatus Money Numeric Int4)
open Setup (ProfileRow ProfileUpdate)
open Trips (Actor ParsedId)
open Programs Rows Runs Interleaving TenantRepository

/-! ## Amounts as floats -/

section Amounts

variable {m : Money} {q : Nat}

/-- The price has at most four decimal places. -/
def FourPlaces (price : ℚ) : Prop := price = amount (numeric price)

instance (price : ℚ) : Decidable (FourPlaces price) := inferInstanceAs (Decidable (_ = _))

theorem amount_nonneg (hm : 0 ≤ m) : 0 ≤ amount m := by
  unfold amount
  have hcast : (0 : ℚ) ≤ m := by exact_mod_cast hm
  positivity

theorem amount_normal (hm : 0 ≤ m) : Binary64.Normal (amount m) := by
  rcases hm.eq_or_lt with rfl | hpos
  · exact .inl (by simp [amount])
  · refine .inr ?_
    have hone : (1 : ℚ) ≤ m := by exact_mod_cast hpos
    unfold amount
    calc (2 : ℚ) ^ (-1022 : ℤ) ≤ 2 ^ (-14 : ℤ) := zpow_le_zpow_right₀ one_le_two (by norm_num)
      _ ≤ 1 / 10000 := by norm_num
      _ ≤ m / 10000 := by gcongr

theorem fl_amount (hm : 0 ≤ m) :
    amount m * (1 - Binary64.unit) ≤ Binary64.fl (amount m) ∧
      Binary64.fl (amount m) ≤ amount m * (1 + Binary64.unit) :=
  Binary64.fl_bounds (amount_normal hm)

/-- An amount that went through a float is stored as it was. -/
theorem numeric_fl (hm : 0 ≤ m) (hrange : Numeric m) : numeric (Binary64.fl (amount m)) = m := by
  obtain ⟨hlow, hhigh⟩ := fl_amount hm
  have h0 := amount_nonneg hm
  have hbig : (m : ℚ) ≤ 100000000000000 := by exact_mod_cast hrange.2.le
  have hcast : (0 : ℚ) ≤ m := by exact_mod_cast hm
  have hvalue : amount m = m / 10000 := rfl
  unfold Binary64.unit at hlow hhigh
  unfold numeric
  refine Binary64.roundAway_eq ?_ (abs_lt.2 ⟨?_, ?_⟩) <;> linarith

theorem natCast_normal (q : Nat) : Binary64.Normal (q : ℚ) := by
  rcases Nat.eq_zero_or_pos q with rfl | hpos
  · exact .inl rfl
  · refine .inr ?_
    have hone : (1 : ℚ) ≤ q := by exact_mod_cast hpos
    calc (2 : ℚ) ^ (-1022 : ℤ) ≤ 2 ^ (0 : ℤ) := zpow_le_zpow_right₀ one_le_two (by norm_num)
      _ ≤ q := by simpa using hone

/-- The product of an amount and a quantity, neither of which vanishes, is no subnormal number. -/
theorem factors_normal (hm : 0 ≤ m) (q : Nat) :
    Binary64.Normal (Binary64.fl (amount m) * Binary64.fl q) := by
  rcases hm.eq_or_lt with rfl | hpos
  · exact .inl (by simp [amount])
  rcases Nat.eq_zero_or_pos q with rfl | hq
  · exact .inl (by simp)
  refine .inr ?_
  have hprice := (fl_amount hm).1
  have hquantity := (Binary64.fl_bounds (natCast_normal q)).1
  have hone : (1 : ℚ) ≤ m := by exact_mod_cast hpos
  have hone' : (1 : ℚ) ≤ q := by exact_mod_cast hq
  have hvalue : amount m = m / 10000 := rfl
  unfold Binary64.unit at hprice hquantity
  have hprice' : (1 : ℚ) / 20000 ≤ Binary64.fl (amount m) := by linarith
  have hquantity' : (1 : ℚ) / 2 ≤ Binary64.fl q := by linarith
  calc (2 : ℚ) ^ (-1022 : ℤ) ≤ 2 ^ (-16 : ℤ) := zpow_le_zpow_right₀ one_le_two (by norm_num)
    _ ≤ 1 / 20000 * (1 / 2) := by norm_num
    _ ≤ Binary64.fl (amount m) * Binary64.fl q := by gcongr

/-- **A total that the column takes is exact**: the price of four places times the quantity. -/
theorem numeric_product (hm : 0 ≤ m) (hrange : Numeric (numeric (Binary64.product (amount m) q))) :
    numeric (Binary64.product (amount m) q) = m * q := by
  obtain ⟨hlow, hhigh⟩ := Binary64.product_bounds (amount_normal hm) (natCast_normal q)
    (factors_normal hm q) (amount_nonneg hm) (Nat.cast_nonneg q)
  have hexact : amount m * q = ((m * q : ℤ) : ℚ) / 10000 := by
    unfold amount
    push_cast
    ring
  have h0 : 0 ≤ amount m * q := mul_nonneg (amount_nonneg hm) (Nat.cast_nonneg q)
  have hunit : (1 : ℚ) - 1 / 2 ^ 50 ≤ (1 - Binary64.unit) ^ 3 := by unfold Binary64.unit; norm_num
  have hunit' : (1 + Binary64.unit) ^ 3 ≤ (1 : ℚ) + 1 / 2 ^ 50 := by unfold Binary64.unit; norm_num
  have hlow' : amount m * q * (1 - 1 / 2 ^ 50) ≤ Binary64.product (amount m) q :=
    le_trans (mul_le_mul_of_nonneg_left hunit h0) hlow
  have hhigh' : Binary64.product (amount m) q ≤ amount m * q * (1 + 1 / 2 ^ 50) :=
    le_trans hhigh (mul_le_mul_of_nonneg_left hunit' h0)
  have hproduct : 0 ≤ Binary64.product (amount m) q := by linarith
  -- a total out of range is not stored
  have hsmall : amount m * q ≤ 20000000000 := by
    by_contra hbig
    have hstored : (100000000000000 : ℤ) ≤ numeric (Binary64.product (amount m) q) := by
      refine Binary64.le_roundAway (by linarith) ?_
      push_cast
      linarith
    exact absurd hrange.2 (not_lt.2 hstored)
  unfold numeric
  refine Binary64.roundAway_eq (by linarith) (abs_lt.2 ⟨?_, ?_⟩) <;> linarith

end Amounts

/-! ## The invariant -/

/-- Every total is the unit price times the quantity of the line. -/
def Consistent (d : Db) : Prop :=
  ∀ c ∈ d.val.costs, ∀ l ∈ d.val.lines, l.id = c.resourceId → c.totalCost = c.unitPrice * l.quantity

instance : DecidablePred Consistent := fun d =>
  inferInstanceAs (Decidable (∀ c ∈ d.val.costs, ∀ l ∈ d.val.lines, _))

/-- What a write takes for granted: a price has four places, a cost is for the quantity that the
line has, and a quantity does not change beside a price. -/
def FoundAsRead : Mark → Db → Prop
  | .price resourceId unitPrice quantity _, d =>
    FourPlaces unitPrice ∧ ∀ l ∈ d.val.line? resourceId, l.quantity = quantity
  | .reprice resourceId _ quantity _, d => ∀ l ∈ d.val.line? resourceId, l.quantity = quantity
  | .quantity resourceId quantity, d => ∀ l ∈ d.val.line? resourceId, l.quantity = quantity ∨
    ∀ c ∈ d.val.cost? resourceId, c.unitPrice = 0
  | .profile _, _ => True

instance (mark : Mark) (d : Db) : Decidable (FoundAsRead mark d) := by
  induction mark using Mark.casesOn <;> unfold FoundAsRead <;> infer_instance

/-! ## The writes -/

section Writes

variable {d d' : Db}

/-- What an upsert of a cost leaves: the other costs, and the one that it writes. -/
structure Priced (resourceId : Nat) (unitPrice totalCost : ℚ) (currency : String)
    (d d' : Db) : Prop where
  lines : d'.val.lines = d.val.lines
  profile : d'.val.profile = d.val.profile
  rows : ∀ c ∈ d'.val.costs, c ∈ d.val.costs ∨
    c.resourceId = resourceId ∧ c.unitPrice = numeric unitPrice ∧ c.totalCost = numeric totalCost ∧
      c.currency = currency
  written : ∃ c ∈ d'.val.costs, c.unitPrice = numeric unitPrice ∧ c.totalCost = numeric totalCost

theorem upsertCost_ok {eventId resourceId : Nat} {unitPrice totalCost : ℚ} {currency : String}
    {user id : Nat}
    (h : upsertCost eventId resourceId unitPrice totalCost currency user d = .ok id d') :
    Priced resourceId unitPrice totalCost currency d d' := by
  unfold upsertCost at h
  rw [query_bind] at h
  dsimp only at h
  cases hcost : d.val.cost? resourceId with
  | some row =>
    rw [hcost] at h
    obtain ⟨u, d₁, hexec, hret⟩ := bind_eq_ok.1 h
    obtain ⟨-, rfl⟩ := pure_eq_ok.1 hret
    have hval := exec_eq_ok.1 hexec
    have hrow := List.mem_of_find?_eq_some hcost
    have hid : row.resourceId = resourceId := by simpa using List.find?_some hcost
    refine ⟨by rw [hval], by rw [hval], fun c hc => ?_, ?_⟩
    · rw [hval] at hc
      rcases cases_of_mem_updateWhere hc with ⟨hold, -⟩ | ⟨c₀, hc₀, hid₀, rfl⟩
      · exact .inl hold
      · exact .inr ⟨of_decide_eq_true hid₀, rfl, rfl, rfl⟩
    · rw [hval]
      exact ⟨_, mem_updateWhere_of_pos hrow (decide_eq_true hid), rfl, rfl⟩
  | none =>
    rw [hcost] at h
    dsimp only at h
    rw [query_bind] at h
    obtain ⟨u, d₁, hexec, hret⟩ := bind_eq_ok.1 h
    obtain ⟨-, rfl⟩ := pure_eq_ok.1 hret
    have hval := exec_eq_ok.1 hexec
    refine ⟨by rw [hval], by rw [hval], fun c hc => ?_, ?_⟩
    · rw [hval] at hc
      rcases List.mem_append.1 hc with hold | hnew
      · exact .inl hold
      · rw [List.mem_singleton.1 hnew]
        exact .inr ⟨rfl, rfl, rfl, rfl⟩
    · rw [hval]
      exact ⟨_, List.mem_append_right _ (List.mem_singleton_self _), rfl, rfl⟩

theorem line?_of_mem {l : LineRow} (hl : l ∈ d.val.lines) : d.val.line? l.id = some l :=
  d.ok.lines_key.find?_eq_some.2 ⟨hl, rfl⟩

theorem cost?_of_mem {c : CostRow} (hc : c ∈ d.val.costs) : d.val.cost? c.resourceId = some c :=
  d.ok.cost_resource_unique.find?_eq_some.2 ⟨hc, rfl⟩

/-- A cost that is written for the quantity of its line. -/
theorem consistent_upsertCost {resourceId quantity : Nat} {unitPrice totalCost : ℚ}
    {currency : String}
    {m : Money} (hd : Consistent d) (h : Priced resourceId unitPrice totalCost currency d d')
    (hm : 0 ≤ m) (hprice : numeric unitPrice = m)
    (htotal : totalCost = Binary64.product (amount m) quantity)
    (hquantity : ∀ l ∈ d.val.line? resourceId, l.quantity = quantity) : Consistent d' := by
  obtain ⟨written, hwritten, -, hwrittenTotal⟩ := h.written
  have hrange := d'.ok.cost_total_cost written hwritten
  rw [hwrittenTotal, htotal] at hrange
  have hexact := numeric_product hm hrange
  intro c hc l hl hid
  rw [h.lines] at hl
  rcases h.rows c hc with hold | ⟨hresource, hunit, htotal', -⟩
  · exact hd c hold l hl hid
  · have hl' : d.val.line? resourceId = some l := hresource ▸ hid ▸ line?_of_mem hl
    rw [htotal', htotal, hexact, hunit, hprice, hquantity l hl']

/-- A new line has no cost. -/
theorem keeps_createResource (eventId typeId : Nat) (description : Option String)
    (quantity user : Nat) :
    Moves (Keeps Consistent) (createResource eventId typeId description quantity user) := by
  intro d
  unfold createResource
  rw [after_query_bind]
  have hinsert : Keeps Consistent d (after (stmt fun t =>
      { t with
        lines := t.lines ++ [⟨d.val.lineSeq, eventId, typeId, description, quantity, user, none⟩]
        lineSeq := t.lineSeq + 1 }) d) := by
    refine after_exec_ind (fun hd => hd) fun d' hval hd c hc l hl hid => ?_
    rw [hval] at hc hl
    rcases List.mem_append.1 hl with hold | hnew
    · exact hd c hc l hold hid
    · obtain ⟨l₀, hl₀, hid₀⟩ := d.ok.cost_resource.exists_row hc rfl
      have hlt := d.ok.line_seq l₀ hl₀
      rw [List.mem_singleton.1 hnew] at hid
      exact absurd (hid₀.trans hid.symm) hlt.ne
  refine moves_bind_of_ok hinsert fun _ t h => ?_
  rwa [after_ok h] at hinsert

theorem keeps_deleteLines (p : LineRow → Bool) : Moves (Keeps Consistent) (deleteLines p) := by
  unfold deleteLines
  refine moves_exec fun d _ hd c hc l hl hid => ?_
  exact hd c (List.mem_filter.1 hc).1 l (List.mem_filter.1 hl).1 hid

/-- The quantity of a line that keeps its quantity, or that is not priced. -/
theorem consistent_updateResource {resourceId quantity user : Nat} {typeId : Option Nat}
    {description : Option String} {u : Unit} (hd : Consistent d)
    (hfound : FoundAsRead (.quantity resourceId quantity) d)
    (h : updateResource resourceId typeId description (some quantity) user d = .ok u d') :
    Consistent d' := by
  unfold updateResource at h
  have hval := exec_eq_ok.1 h
  intro c hc l hl hid
  rw [hval] at hc hl
  rcases cases_of_mem_updateWhere hl with ⟨hold, -⟩ | ⟨l₀, hl₀, hid₀, rfl⟩
  · exact hd c hc l hold hid
  · have hid₀ : l₀.id = resourceId := of_decide_eq_true hid₀
    have htotal := hd c hc l₀ hl₀ hid
    rcases hfound l₀ (hid₀ ▸ line?_of_mem hl₀) with hquantity | hzero
    · rw [htotal, hquantity]
      rfl
    · have hprice := hzero c (hid₀ ▸ hid.symm ▸ cost?_of_mem hc)
      rw [htotal, hprice, zero_mul, zero_mul]

theorem updateResource_error {resourceId quantity user : Nat} {typeId : Option Nat}
    {description : Option String} {e : PyError}
    (h : updateResource resourceId typeId description (some quantity) user d = .error e d') :
    d' = d := by
  unfold updateResource at h
  exact exec_eq_error h

theorem upsertCost_error {eventId resourceId : Nat} {unitPrice totalCost : ℚ} {currency : String}
    {user : Nat} {e : PyError}
    (h : upsertCost eventId resourceId unitPrice totalCost currency user d = .error e d') :
    d' = d := by
  unfold upsertCost at h
  rw [query_bind] at h
  dsimp only at h
  cases hcost : d.val.cost? resourceId with
  | some row =>
    rw [hcost] at h
    rcases bind_eq_error.1 h with h | ⟨_, _, _, h⟩
    · exact exec_eq_error h
    · cases h
  | none =>
    rw [hcost] at h
    dsimp only at h
    rw [query_bind] at h
    rcases bind_eq_error.1 h with h | ⟨_, _, _, h⟩
    · exact exec_eq_error h
    · cases h

end Writes

/-- The guarantee: no statement breaks a total. -/
abbrev TotalsKept : Option Mark → Db → Db → Prop := fun _ => Keeps Consistent

theorem allows_totals : Allows FoundAsRead TotalsKept where
  refl _ := id
  create := keeps_createResource
  delete := keeps_deleteLines
  ensure := moves_exec fun _ _ => id
  price eventId resourceId payload quantity user := by
    refine Proc.keeps_marked (fun d hfound id d' h hd => ?_) fun d _ e d' h => ?_
    · obtain ⟨hplaces, hquantity⟩ := hfound
      have hscaled : 0 ≤ payload.unitPrice * 10000 := mul_nonneg payload.nonneg (by norm_num)
      have hnonneg : 0 ≤ numeric payload.unitPrice :=
        Binary64.le_roundAway hscaled (by exact_mod_cast hscaled)
      refine consistent_upsertCost hd (upsertCost_ok h) hnonneg rfl ?_ hquantity
      rw [← hplaces]
    · rw [upsertCost_error h]
      exact id
  reprice eventId resourceId unitPrice quantity currency user hnonneg hrange := by
    refine Proc.keeps_marked (fun d hquantity id d' h hd => ?_) fun d _ e d' h => ?_
    · exact consistent_upsertCost hd (upsertCost_ok h) hnonneg (numeric_fl hnonneg hrange)
        rfl hquantity
    · rw [upsertCost_error h]
      exact id
  quantity resourceId typeId description quantity user := by
    refine Proc.keeps_marked (fun d hfound u d' h hd => ?_) fun d _ e d' h => ?_
    · exact consistent_updateResource hd hfound h
    · rw [updateResource_error h]
      exact id
  profile fields := by
    refine Proc.keeps_marked (fun d _ u d' h hd => ?_) fun d _ e d' h => ?_
    · unfold Consistent
      rw [exec_eq_ok.1 h]
      exact hd
    · rw [exec_eq_error h]
      exact id

/-! ## The summary -/

section Summary

variable [Collation] {eventId : Nat} {d : Db}

/-- The unit price of a line, zero where it is not priced. -/
def priceOf (t : Tables) (l : LineRow) : ℚ := (t.cost? l.id).elim 0 fun c => amount c.unitPrice

/-- The total of a line, zero where it is not priced. -/
def totalOf (t : Tables) (l : LineRow) : ℚ := (t.cost? l.id).elim 0 fun c => amount c.totalCost

/-- The totals of an event in the order of the summary. -/
def totals (t : Tables) (eventId : Nat) : List ℚ :=
  (getResourcesForEvent t eventId).map fun r => totalOf t r.1

/-- Neither a total nor a sum of the first totals is rounded by binary floating point. -/
def Unrounded (t : Tables) (eventId : Nat) : Prop :=
  (∀ x ∈ totals t eventId, Binary64.fl x = x) ∧ Binary64.Exact (totals t eventId)

/-- The summary reports the sum of the quantities times the unit prices. -/
def Reports (eventId : Nat) (d : Db) : Prop :=
  ∃ summary, (TenantService.getResourceSummary eventId).seq d = .ok summary d ∧
    summary.totalCost = ((linesOf d.val eventId).map fun l => l.quantity * priceOf d.val l).sum

theorem summary_seq (eventId : Nat) (d : Db) :
    ∃ summary, (TenantService.getResourceSummary eventId).seq d = .ok summary d ∧
      summary.totalCost = Binary64.flSum ((totals d.val eventId).map Binary64.fl) ∧
      summary.currency = d.val.profile.map ProfileRow.currency := by
  let lines := (getResourcesForEvent d.val eventId).map fun r =>
    TenantService.summaryLine r (d.val.cost? r.1.id)
  have hlines : ((getResourcesForEvent d.val eventId).mapM fun r => do
      return TenantService.summaryLine r (← getResourceCostByResourceId r.1.id) :
        Task (List SummaryLine)).seq d = .ok lines d := by
    rw [Proc.seq_mapM]
    exact mapM_of_ok fun r _ => rfl
  refine ⟨⟨eventId, lines, Binary64.flSum (lines.map SummaryLine.totalCost),
    d.val.profile.map ProfileRow.currency⟩, ?_, ?_, rfl⟩
  · unfold TenantService.getResourceSummary
    rw [Proc.seq_bind, Proc.seq_look, query_bind, Proc.seq_bind, Proc.seq_look, query_bind,
      Proc.seq_bind, bind_of_ok hlines]
    rfl
  · show Binary64.flSum (lines.map SummaryLine.totalCost) = _
    unfold totals
    rw [List.map_map, List.map_map]
    congr 1
    refine List.map_congr_left fun r _ => ?_
    show (d.val.cost? r.1.id).elim 0 _ = Binary64.fl (totalOf d.val r.1)
    unfold totalOf
    cases d.val.cost? r.1.id with
    | none => exact Binary64.fl_zero.symm
    | some c => rfl

omit [Collation] in
/-- The lines of the summary are those of the event. -/
theorem joinedLines_fst (d : Db) (eventId : Nat) :
    (joinedLines d.val eventId).map Prod.fst = linesOf d.val eventId := by
  unfold joinedLines linesOf
  have hjoin : ∀ l ∈ d.val.lines.filter fun l => l.eventId = eventId,
      ∃ y, (d.val.types.find? fun y => y.id = l.resourceTypeId) = some y := by
    intro l hl
    obtain ⟨y, hy, hid⟩ := d.ok.line_type.exists_row (List.mem_filter.1 hl).1 rfl
    exact ⟨y, d.ok.types_key.find?_eq_some.2 ⟨hy, hid⟩⟩
  generalize d.val.lines.filter (fun l => l.eventId = eventId) = ls at hjoin
  induction ls with
  | nil => rfl
  | cons l ls ih =>
    obtain ⟨y, hy⟩ := hjoin l List.mem_cons_self
    simp only [List.filterMap_cons, hy, Option.map_some, List.map_cons]
    rw [ih fun l hl => hjoin l (List.mem_cons_of_mem _ hl)]

theorem totals_sum (d : Db) (eventId : Nat) :
    (totals d.val eventId).sum = ((linesOf d.val eventId).map (totalOf d.val)).sum := by
  unfold totals getResourcesForEvent
  have hperm :=
    (List.mergeSort_perm (joinedLines d.val eventId) byType).map fun r => totalOf d.val r.1
  rw [hperm.sum_eq, ← joinedLines_fst, List.map_map]
  rfl

/-- **A summary that rounds nothing** is the sum, where the totals are consistent. -/
theorem reports_of_unrounded (hd : Consistent d) (h : Unrounded d.val eventId) :
    Reports eventId d := by
  obtain ⟨summary, hseq, htotal, -⟩ := summary_seq eventId d
  have hsame : (totals d.val eventId).map Binary64.fl = totals d.val eventId := by
    conv_rhs => rw [← List.map_id (totals d.val eventId)]
    exact List.map_congr_left h.1
  refine ⟨summary, hseq, ?_⟩
  rw [htotal, hsame, Binary64.flSum_eq h.2, totals_sum]
  congr 1
  refine List.map_congr_left fun l hl => ?_
  unfold totalOf priceOf
  cases hcost : d.val.cost? l.id with
  | none => simp
  | some c =>
    have hmem := List.mem_of_find?_eq_some hcost
    have hid : c.resourceId = l.id := by simpa using List.find?_some hcost
    have htotal := hd c hmem l (List.mem_filter.1 hl).1 hid.symm
    show amount c.totalCost = l.quantity * amount c.unitPrice
    unfold amount
    rw [htotal]
    push_cast
    ring

end Summary

/-! ## Runs -/

section Runs

variable [Collation] {ι : Type} [DecidableEq ι]

/-- **The costs stay consistent** in every run whose writes find what they take for granted:
throughout, every total is the unit price times the quantity, and a summary that rounds
nothing reports their sum. -/
theorem costs_run {d : Db} (hd : Consistent d) (requests : ι → Request) {is : List ι}
    (h : EachStep Pool.step (fun P i => P.Undisturbed (fun _ => FoundAsRead) i)
      (requesting d requests) is) :
    Throughout Pool.step (fun P => Consistent P.state ∧
      ∀ eventId, Unrounded P.state.val eventId →
        Reports eventId P.state) (requesting d requests) is := by
  let I : Pool ι Mark PyError Db Unit → Prop := fun P =>
    P.Keeping (fun _ => FoundAsRead) (fun _ => TotalsKept) ∧ Consistent P.state
  have hstart : I (requesting d requests) :=
    ⟨Pool.keeping_start fun i => allows_totals.keeps (requests i), hd⟩
  have hstep : ∀ P i, I P → P.Undisturbed (fun _ => FoundAsRead) i → I (P.step i) := by
    intro P i hP hi
    obtain ⟨hkeeping, hkept⟩ := hP.1.step (fun _ _ => id) hi
    exact ⟨hkeeping, hkept hP.2⟩
  refine (run_throughout hstep hstart h).mono fun P hP => ⟨hP.2, fun eventId hunrounded => ?_⟩
  exact reports_of_unrounded hP.2 hunrounded

end Runs

/-! ## A priced line -/

section Example

attribute [local instance] byCodePoint

theorem thirteen_quarters : (0 : ℚ) ≤ 13 / 4 := by norm_num

/-- The buses are priced at 3.25 each. -/
def repriced : Fin 1 → Request := fun _ => .setCost 1 ⟨13 / 4, "JOD", thirteen_quarters⟩ (.number 3)

/-- The totals stay consistent while the buses are priced at 3.25 each. -/
theorem buses_priced : Consistent busTrip ∧
    Throughout Pool.step (fun P => Consistent P.state ∧
      ∀ eventId, Unrounded P.state.val eventId →
        Reports eventId P.state) (requesting busTrip repriced)
        [0, 0, 0, 0] := by
  have hconsistent : Consistent busTrip := by decide
  have hfound : EachStep Pool.step (fun P i => P.Undisturbed (fun _ => FoundAsRead) i)
      (requesting busTrip repriced) [0, 0, 0, 0] := by decide +kernel
  exact ⟨hconsistent, costs_run hconsistent repriced hfound⟩

/-- A manager. -/
def planner : Actor where
  user :=
    { id := "3", tenantId := some "school", role := "manager", email := "m@school", roles :=
    ["manager"] }
  id := .number 3

/-- The manager asks for three buses. -/
def threeBuses : Fin 1 → Request := fun _ => .updateLine 1 planner { quantity := some 3 }

/-- Three buses at 2.5 each, and a total of 5 until the line is priced again. -/
theorem buses_unpriced :
    ¬∀ (d : Db), Consistent d → ∀ (ι : Type) [DecidableEq ι] (requests : ι → Request)
    (is : List ι), Throughout Pool.step (fun P => Consistent P.state ∧
      ∀ eventId, Reports eventId P.state)
      (requesting d requests) is := by
  intro hclaim
  have hstart : Consistent busTrip := by decide
  have hend : ¬Consistent ([0, 0, 0].foldl Pool.step (requesting busTrip threeBuses)).state := by
    decide +kernel
  exact hend (hclaim busTrip hstart (Fin 1) threeBuses [0, 0, 0]).last.1

end Example

end Sams.Costs
