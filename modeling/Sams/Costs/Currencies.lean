import Sams.Costs.Totals

/-!
# The currency of a summary

A line is priced in the currency that its request names, and keeps it. The summary of an event adds
the totals whatever their currencies are, and reports the currency of the school.

**`currency_run`**: in every run in which lines are priced in the currency that the school has, and
a currency that the school takes is the one of every cost on record, every priced line of a summary
is priced in the currency that the summary reports.
-/

namespace Sams.Costs

open School (EventRow EventStatus Money Numeric Int4)
open Setup (ProfileRow ProfileUpdate)
open Trips (Actor ParsedId)
open Programs Rows Runs Interleaving TenantRepository

/-! ## The invariant -/

/-- The currency of the school, if it has a profile. -/
def schoolCurrency (t : Tables) : Option String := t.profile.map ProfileRow.currency

/-- Every cost is in the currency of the school. -/
def OneCurrency (d : Db) : Prop := ∀ c ∈ d.val.costs, schoolCurrency d.val = some c.currency

instance : DecidablePred OneCurrency := fun d =>
  inferInstanceAs (Decidable (∀ c ∈ d.val.costs, schoolCurrency d.val = some c.currency))

/-- A line is priced in the currency of the school, and the school takes no other currency than that
of the costs on record. -/
def InCurrency : Mark → Db → Prop
  | .price _ _ _ currency, d => schoolCurrency d.val = some currency
  | .reprice _ _ _ currency, d => schoolCurrency d.val = some currency
  | .quantity _ _, _ => True
  | .profile fields, d => ∀ currency ∈ fields.currency, ∀ c ∈ d.val.costs, c.currency = currency

instance (mark : Mark) (d : Db) : Decidable (InCurrency mark d) := by
  induction mark using Mark.casesOn <;> unfold InCurrency <;> infer_instance

/-! ## The writes -/

section Writes

variable {d d' : Db}

theorem oneCurrency_of_mem (hd : OneCurrency d) (hprofile : d'.val.profile = d.val.profile)
    (hcosts : ∀ c ∈ d'.val.costs, c ∈ d.val.costs) : OneCurrency d' := by
  intro c hc
  unfold schoolCurrency
  rw [hprofile]
  exact hd c (hcosts c hc)

theorem oneCurrency_upsertCost {resourceId : Nat} {unitPrice totalCost : ℚ} {currency : String}
    (hd : OneCurrency d) (h : Priced resourceId unitPrice totalCost currency d d')
    (hcurrency : schoolCurrency d.val = some currency) : OneCurrency d' := by
  intro c hc
  have hschool : schoolCurrency d'.val = schoolCurrency d.val := by
    unfold schoolCurrency
    rw [h.profile]
  rw [hschool]
  rcases h.rows c hc with hold | ⟨-, -, -, hwritten⟩
  · exact hd c hold
  · rw [hcurrency, hwritten]

theorem currency_createResource (eventId typeId : Nat) (description : Option String)
    (quantity user : Nat) :
    Moves (Keeps OneCurrency) (createResource eventId typeId description quantity user) := by
  intro d
  unfold createResource
  rw [after_query_bind]
  have hinsert : Keeps OneCurrency d (after (stmt fun t =>
      { t with
        lines := t.lines ++ [⟨d.val.lineSeq, eventId, typeId, description, quantity, user, none⟩]
        lineSeq := t.lineSeq + 1 }) d) := by
    refine after_exec_ind (fun hd => hd) fun d' hval hd => ?_
    exact oneCurrency_of_mem hd (by rw [hval]) fun c hc => by rwa [hval] at hc
  refine moves_bind_of_ok hinsert fun _ t h => ?_
  rwa [after_ok h] at hinsert

theorem currency_deleteLines (p : LineRow → Bool) : Moves (Keeps OneCurrency) (deleteLines p) := by
  unfold deleteLines
  refine moves_exec fun d _ hd => ?_
  exact oneCurrency_of_mem hd rfl fun c hc => (List.mem_filter.1 hc).1

/-- A school without a profile has no cost in its currency, so that it has none on record. -/
theorem currency_ensure :
    Moves (Keeps OneCurrency) (stmt fun t => { t with profile := t.profile.or (some {}) }) := by
  refine moves_exec fun d _ hd c hc => ?_
  obtain ⟨p, hp, hcurrency⟩ := Option.map_eq_some_iff.1 (hd c hc)
  show (d.val.profile.or (some {})).map ProfileRow.currency = some c.currency
  rw [hp]
  exact congrArg some hcurrency

/-- The currency of the school after an update is the one sent, or the one that it had. -/
theorem oneCurrency_update {fields : ProfileUpdate} {u : Unit} (hd : OneCurrency d)
    (hfound : InCurrency (.profile fields) d)
    (h : stmt (fun t => { t with profile := t.profile.map fields.write }) d = .ok u d') :
    OneCurrency d' := by
  have hval := exec_eq_ok.1 h
  intro c hc
  rw [hval] at hc
  have hschool := hd c hc
  unfold schoolCurrency at hschool ⊢
  obtain ⟨p, hp, hcurrency⟩ := Option.map_eq_some_iff.1 hschool
  rw [hval, hp]
  show some (fields.currency.getD p.currency) = some c.currency
  cases hsent : fields.currency with
  | none => exact congrArg some hcurrency
  | some currency => exact congrArg some (hfound currency hsent c hc).symm

end Writes

/-- The guarantee: no statement brings a second currency. -/
abbrev CurrencyKept : Option Mark → Db → Db → Prop := fun _ => Keeps OneCurrency

theorem allows_currency : Allows InCurrency CurrencyKept where
  refl _ := id
  create := currency_createResource
  delete := currency_deleteLines
  ensure := currency_ensure
  price eventId resourceId payload quantity user := by
    refine Proc.keeps_marked (fun d hfound id d' h hd => ?_) fun d _ e d' h => ?_
    · exact oneCurrency_upsertCost hd (upsertCost_ok h) hfound
    · rw [upsertCost_error h]
      exact id
  reprice eventId resourceId unitPrice quantity currency user _ _ := by
    refine Proc.keeps_marked (fun d hfound id d' h hd => ?_) fun d _ e d' h => ?_
    · exact oneCurrency_upsertCost hd (upsertCost_ok h) hfound
    · rw [upsertCost_error h]
      exact id
  quantity resourceId typeId description quantity user := by
    refine Proc.keeps_marked (fun d _ u d' h hd => ?_) fun d _ e d' h => ?_
    · unfold updateResource at h
      have hval := exec_eq_ok.1 h
      exact oneCurrency_of_mem hd (by rw [hval]) fun c hc => by rwa [hval] at hc
    · rw [updateResource_error h]
      exact id
  profile fields := by
    refine Proc.keeps_marked (fun d hfound u d' h hd => ?_) fun d _ e d' h => ?_
    · exact oneCurrency_update hd hfound h
    · rw [exec_eq_error h]
      exact id

/-! ## The summary -/

section Summary

variable [Collation]

/-- What a summary of the event reports: in the currency of the school, the sum of the totals as
floats, which is their sum where binary floating point rounds nothing. -/
structure Sums (eventId : Nat) (d : Db) (summary : ResourceSummary) : Prop where
  currency : summary.currency = schoolCurrency d.val
  floats : summary.totalCost = Binary64.flSum ((totals d.val eventId).map Binary64.fl)
  exact : Unrounded d.val eventId →
    summary.totalCost = ((linesOf d.val eventId).map (totalOf d.val)).sum

/-- Every priced line of the event is priced in this currency. -/
def PricedIn (eventId : Nat) (d : Db) (currency : Option String) : Prop :=
  ∀ l ∈ linesOf d.val eventId, ∀ c ∈ d.val.cost? l.id, currency = some c.currency

/-- The sum of totals that are not rounded. -/
theorem flSum_totals {eventId : Nat} {d : Db} (h : Unrounded d.val eventId) :
    Binary64.flSum ((totals d.val eventId).map Binary64.fl) =
      ((linesOf d.val eventId).map (totalOf d.val)).sum := by
  have hsame : (totals d.val eventId).map Binary64.fl = totals d.val eventId := by
    conv_rhs => rw [← List.map_id (totals d.val eventId)]
    exact List.map_congr_left h.1
  rw [hsame, Binary64.flSum_eq h.2, totals_sum]

theorem sums_summary (eventId : Nat) (d : Db) :
    ∃ summary, (TenantService.getResourceSummary eventId).seq d = .ok summary d ∧
      Sums eventId d summary := by
  obtain ⟨summary, hseq, htotal, hcurrency⟩ := summary_seq eventId d
  exact ⟨summary, hseq, hcurrency, htotal, fun h => htotal.trans (flSum_totals h)⟩

omit [Collation] in
theorem pricedIn_of_oneCurrency {d : Db} (hd : OneCurrency d) (eventId : Nat) :
    PricedIn eventId d (schoolCurrency d.val) :=
  fun _ _ c hc => hd c (List.mem_of_find?_eq_some hc)

end Summary

/-! ## Runs -/

section Runs

variable [Collation] {ι : Type} [DecidableEq ι]

/-- **A summary is in one currency** in every run whose requests price in the currency of the school
and do not change it beside costs in another: it reports the currency of the school and the sum of
the totals, and every priced line of it is priced in that currency. -/
theorem currency_run {d : Db} (hd : OneCurrency d) (requests : ι → Request) {is : List ι}
    (h : EachStep Pool.step (fun P i => P.Undisturbed (fun _ => InCurrency) i)
      (requesting d requests) is) :
    Throughout Pool.step (fun P => ∀ eventId, ∃ summary,
      (TenantService.getResourceSummary eventId).seq P.state = .ok summary P.state ∧
      Sums eventId P.state summary ∧ PricedIn eventId P.state summary.currency)
      (requesting d requests) is := by
  let I : Pool ι Mark PyError Db Unit → Prop := fun P =>
    P.Keeping (fun _ => InCurrency) (fun _ => CurrencyKept) ∧ OneCurrency P.state
  have hstart : I (requesting d requests) :=
    ⟨Pool.keeping_start fun i => allows_currency.keeps (requests i), hd⟩
  have hstep : ∀ P i, I P → P.Undisturbed (fun _ => InCurrency) i → I (P.step i) := by
    intro P i hP hi
    obtain ⟨hkeeping, hkept⟩ := hP.1.step (fun _ _ => id) hi
    exact ⟨hkeeping, hkept hP.2⟩
  refine (run_throughout hstep hstart h).mono fun P hP eventId => ?_
  obtain ⟨summary, hseq, hsums⟩ := sums_summary eventId P.state
  refine ⟨summary, hseq, hsums, ?_⟩
  rw [hsums.currency]
  exact pricedIn_of_oneCurrency hP.2 eventId

end Runs

/-! ## A bus in another currency -/

section Example

attribute [local instance] byCodePoint

/-- In a school that counts in Jordanian dinars the buses stay priced in these. -/
theorem buses_in_dinars : OneCurrency busTrip ∧
    Throughout Pool.step (fun P => ∀ eventId, ∃ summary,
      (TenantService.getResourceSummary eventId).seq P.state = .ok summary P.state ∧
      Sums eventId P.state summary ∧ PricedIn eventId P.state summary.currency)
      (requesting busTrip repriced) [0, 0, 0, 0] := by
  have hcurrency : OneCurrency busTrip := by decide
  have hfound : EachStep Pool.step (fun P i => P.Undisturbed (fun _ => InCurrency) i)
      (requesting busTrip repriced) [0, 0, 0, 0] := by decide +kernel
  exact ⟨hcurrency, currency_run hcurrency repriced hfound⟩

/-- The buses are priced at 3.25 dollars each. -/
def inDollars :
    Fin 1 → Request := fun _ => .setCost 1 ⟨13 / 4, "USD", thirteen_quarters⟩ (.number 3)

def afterDollars : Db := ([0, 0, 0, 0].foldl Pool.step (requesting busTrip inDollars)).state

theorem dollars_recorded : afterDollars.val.lines = busTrip.val.lines ∧
    (afterDollars.val.cost? 1).map CostRow.currency = some "USD" ∧
    schoolCurrency afterDollars.val = some "JOD" := by decide +kernel

/-- A total in dollars that the summary reports in dinars. -/
theorem dollars_as_dinars : ¬∀ (d : Db), OneCurrency d → ∀ (ι : Type) [DecidableEq ι]
    (requests : ι → Request) (is : List ι), Throughout Pool.step (fun P => ∀ eventId summary,
      (TenantService.getResourceSummary eventId).seq P.state = .ok summary P.state →
      PricedIn eventId P.state summary.currency) (requesting d requests) is := by
  intro hclaim
  have hstart : OneCurrency busTrip := by decide
  have hend := (hclaim busTrip hstart (Fin 1) inDollars [0, 0, 0, 0]).last
  obtain ⟨summary, hseq, hsums⟩ := sums_summary 1 afterDollars
  obtain ⟨hlines, hcost, hschool⟩ := dollars_recorded
  obtain ⟨c, hc, hdollars⟩ := Option.map_eq_some_iff.1 hcost
  have hline : (⟨1, 1, 1, none, 2, 2, none⟩ : LineRow) ∈ linesOf afterDollars.val 1 := by
    unfold linesOf
    rw [hlines]
    decide
  have hpriced := hend 1 summary hseq _ hline c hc
  rw [hsums.currency, hschool, hdollars] at hpriced
  exact absurd hpriced (by decide)

end Example

end Sams.Costs
