import Sams.Costs.Lines

/-!
# The requests on lines and costs

Any number of requests that add, update, delete, replace and price lines and that update the profile
of the school, their statements interleaved in any order. A guarantee that the statements keep to is
kept to by every request.
-/

namespace Sams.Costs

open School (EventRow EventStatus Money Numeric Int4)
open Setup (ProfileRow ProfileUpdate)
open Trips (Actor ParsedId)
open Programs Rows Interleaving TenantRepository

inductive Request where
  | setCost (resourceId : Nat) (payload : ResourceCostIn) (setByUserId : ParsedId)
  | updateLine (resourceId : Nat) (actor : Actor) (updates : ResourceLineUpdate)
  | addLine (eventId : Nat) (actor : Actor) (r : ResourceLineIn)
  | deleteLine (resourceId : Nat) (actor : Actor)
  | replaceLines (eventId : Nat) (resources : List ResourceLineIn) (addedByUserId : ParsedId)
  | updateProfile (fields : ProfileUpdate) (userRole : List String)

/-- The program of a request, its answer dropped. -/
def Request.program : Request → Task Unit
  | setCost i payload setBy => (fun _ => ()) <$> TenantService.setResourceCost i payload setBy
  | updateLine i actor updates => EventService.updateResourceLine i actor updates
  | addLine i actor r => (fun _ => ()) <$> EventService.addResourceLine i actor r
  | deleteLine i actor => EventService.deleteResourceLine i actor
  | replaceLines i resources addedBy => TenantService.addResourcesToEvent i resources addedBy
  | updateProfile fields userRole => SchoolService.updateProfile fields userRole

/-- What the statements of the requests keep to. A price that is written again is
one that is stored. -/
structure Allows (H : Mark → Db → Prop) (G : Option Mark → Db → Db → Prop) : Prop where
  refl : ∀ d, G none d d
  create : ∀ eventId typeId description quantity user,
    Moves (G none) (createResource eventId typeId description quantity user)
  delete : ∀ p, Moves (G none) (deleteLines p)
  ensure : Moves (G none) (stmt fun t => { t with profile := t.profile.or (some {}) })
  price : ∀ eventId resourceId (payload : ResourceCostIn) quantity user,
    (Proc.marked (.price resourceId payload.unitPrice quantity payload.currency)
      (upsertCost eventId resourceId payload.unitPrice (Binary64.product payload.unitPrice quantity)
        payload.currency user) : Task Nat).Keeps H G
  reprice : ∀ eventId resourceId (unitPrice : Money) quantity currency user, 0 ≤ unitPrice →
    Numeric unitPrice → (Proc.marked (.reprice resourceId unitPrice quantity currency)
      (upsertCost eventId resourceId (Binary64.fl (amount unitPrice))
        (Binary64.product (amount unitPrice) quantity) currency user) : Task Nat).Keeps H G
  quantity : ∀ resourceId typeId description quantity user,
    (Proc.marked (.quantity resourceId quantity)
      (updateResource resourceId typeId description (some quantity) user) : Task Unit).Keeps H G
  profile : ∀ fields, (Proc.marked (.profile fields)
    (stmt fun t => { t with profile := t.profile.map fields.write }) : Task Unit).Keeps H G

namespace Allows

variable {H : Mark → Db → Prop} {G : Option Mark → Db → Db → Prop} (h : Allows H G)

theorem keeps_ofExcept {α : Type} (x : Except PyError α) : (ofExcept x).Keeps H G := by
  cases x with
  | ok a => exact Proc.keeps_ret a
  | error e => exact Proc.keeps_fail e

theorem keeps_requireEditable (actor : Actor) (event : EventRow) :
    (EventService.requireEditable actor event).Keeps H G := by
  unfold EventService.requireEditable
  exact Proc.keeps_bind (keeps_ofExcept _) fun _ => Proc.keeps_failIf

include h

/-- The statements of `set_resource_cost` of the repository, if its write keeps to the guarantee. -/
theorem keeps_setResourceCost {mark : Mark} {resourceId : Nat} {unitPrice totalCost : ℚ}
    {currency : String} {setBy : ParsedId}
    (hwrite : ∀ eventId user, (Proc.marked mark
      (upsertCost eventId resourceId unitPrice totalCost currency user) : Task Nat).Keeps H G) :
    (setResourceCost mark resourceId unitPrice totalCost currency setBy).Keeps H G := by
  unfold setResourceCost
  refine Proc.keeps_bind (Proc.keeps_look h.refl _) fun eventId => ?_
  cases eventId with
  | none => exact Proc.keeps_fail _
  | some eventId => exact Proc.keeps_bind (keeps_ofExcept _) fun user => hwrite eventId user

theorem keeps_setCost (resourceId : Nat) (payload : ResourceCostIn) (setBy : ParsedId) :
    (TenantService.setResourceCost resourceId payload setBy).Keeps H G := by
  unfold TenantService.setResourceCost getResourceById getEventById
  refine Proc.keeps_bind (Proc.keeps_look h.refl _) fun resource => ?_
  cases resource with
  | none => exact Proc.keeps_fail _
  | some resource =>
    refine Proc.keeps_bind (Proc.keeps_look h.refl _) fun event => ?_
    cases event with
    | none => exact Proc.keeps_fail _
    | some event =>
      refine Proc.keeps_bind Proc.keeps_failIf fun _ => ?_
      exact h.keeps_setResourceCost fun eventId user => h.price _ _ payload _ _

theorem keeps_editableLine (resourceId : Nat) (actor : Actor) :
    (EventService.editableLine resourceId actor).Keeps H G := by
  unfold EventService.editableLine getResourceById getEventById
  refine Proc.keeps_bind (Proc.keeps_look h.refl _) fun resource => ?_
  cases resource with
  | none => exact Proc.keeps_fail _
  | some resource =>
    refine Proc.keeps_bind (Proc.keeps_look h.refl _) fun event => ?_
    cases event with
    | none => exact Proc.keeps_fail _
    | some event => exact Proc.keeps_bind (keeps_requireEditable _ _) fun _ => Proc.keeps_ret _

theorem keeps_reprice (resourceId quantity : Nat) (actor : Actor) :
    (EventService.reprice resourceId quantity actor).Keeps H G := by
  unfold EventService.reprice getResourceCostByResourceId
  have hread : (Proc.look fun d : Db => d.val.cost? resourceId : Task (Option CostRow)).Gives H G
      fun costInfo => ∀ c ∈ costInfo, 0 ≤ c.unitPrice ∧ Numeric c.unitPrice :=
    Proc.gives_look h.refl _ fun d c hc => d.ok.cost_unit_price c (List.mem_of_find?_eq_some hc)
  refine Proc.gives_bind hread fun costInfo hcost => ?_
  cases costInfo with
  | none => exact Proc.keeps_ret _
  | some costInfo =>
    obtain ⟨hnonneg, hrange⟩ := hcost costInfo rfl
    refine Proc.keeps_bind ?_ fun _ => Proc.keeps_ret _
    exact h.keeps_setResourceCost fun eventId user => h.reprice _ _ _ _ _ _ hnonneg hrange

theorem keeps_updateLine (resourceId : Nat) (actor : Actor) (updates : ResourceLineUpdate) :
    (EventService.updateResourceLine resourceId actor updates).Keeps H G := by
  unfold EventService.updateResourceLine
  refine Proc.keeps_bind (h.keeps_editableLine _ _) fun resource => ?_
  refine Proc.keeps_bind (keeps_ofExcept _) fun user => ?_
  refine Proc.keeps_bind (h.quantity _ _ _ _ _) fun _ => ?_
  exact Proc.keeps_ite (fun _ => h.keeps_reprice _ _ _) fun _ => Proc.keeps_ret _

theorem keeps_addLine (eventId : Nat) (actor : Actor) (r : ResourceLineIn) :
    (EventService.addResourceLine eventId actor r).Keeps H G := by
  unfold EventService.addResourceLine getEventById
  refine Proc.keeps_bind (Proc.keeps_look h.refl _) fun event => ?_
  cases event with
  | none => exact Proc.keeps_fail _
  | some event =>
    refine Proc.keeps_bind (keeps_requireEditable _ _) fun _ => ?_
    exact Proc.keeps_bind (keeps_ofExcept _) fun user => Proc.keeps_once (h.create _ _ _ _ _)

theorem keeps_deleteLine (resourceId : Nat) (actor : Actor) :
    (EventService.deleteResourceLine resourceId actor).Keeps H G := by
  unfold EventService.deleteResourceLine deleteResource
  exact Proc.keeps_bind (h.keeps_editableLine _ _) fun _ => Proc.keeps_once (h.delete _)

theorem keeps_replaceLines (eventId : Nat) (resources : List ResourceLineIn) (addedBy : ParsedId) :
    (TenantService.addResourcesToEvent eventId resources addedBy).Keeps H G := by
  unfold TenantService.addResourcesToEvent getEventById deleteResourcesForEvent
  refine Proc.keeps_bind (Proc.keeps_look h.refl _) fun event => ?_
  cases event with
  | none => exact Proc.keeps_fail _
  | some event =>
    refine Proc.keeps_bind Proc.keeps_failIf fun _ => ?_
    refine Proc.keeps_bind (Proc.keeps_once (h.delete _)) fun _ => ?_
    refine Proc.keeps_forM fun r _ => ?_
    unfold TenantService.insertLine
    refine Proc.keeps_bind (keeps_ofExcept _) fun user => ?_
    exact Proc.keeps_bind (Proc.keeps_once (h.create _ _ _ _ _)) fun _ => Proc.keeps_ret _

theorem keeps_ensureProfileRow : SchoolService.ensureProfileRow.Keeps H G := by
  unfold SchoolService.ensureProfileRow
  refine Proc.keeps_bind (Proc.keeps_look h.refl _) fun row => ?_
  cases row with
  | none => exact Proc.keeps_bind (Proc.keeps_once h.ensure) fun _ => Proc.keeps_ret _
  | some row => exact Proc.keeps_ret _

theorem keeps_checkUpdate (fields : ProfileUpdate) (current : ProfileRow) (userRole : List String) :
    (SchoolService.checkUpdate fields current userRole).Keeps H G := by
  unfold SchoolService.checkUpdate SchoolService.checkLive
  refine Proc.keeps_ite (fun _ => ?_) fun _ => Proc.keeps_ret _
  refine Proc.keeps_bind Proc.keeps_failIf fun _ => Proc.keeps_ite (fun _ => ?_) fun _ =>
    Proc.keeps_ret _
  refine Proc.keeps_bind Proc.keeps_failIf fun _ => ?_
  exact Proc.keeps_bind (Proc.keeps_look h.refl _) fun _ => Proc.keeps_failIf

theorem keeps_updateProfile (fields : ProfileUpdate) (userRole : List String) :
    (SchoolService.updateProfile fields userRole).Keeps H G := by
  unfold SchoolService.updateProfile
  refine Proc.keeps_bind Proc.keeps_failIf fun _ => ?_
  refine Proc.keeps_bind h.keeps_ensureProfileRow fun current => ?_
  refine Proc.keeps_bind (h.keeps_checkUpdate _ _ _) fun _ => ?_
  refine Proc.keeps_ite (fun _ => Proc.keeps_ret _) fun _ => ?_
  exact Proc.keeps_bind h.keeps_ensureProfileRow fun _ => h.profile fields

/-- **Every request keeps to the guarantee** that the statements keep to. -/
theorem keeps (r : Request) : r.program.Keeps H G := by
  cases r with
  | setCost i payload setBy => exact Proc.keeps_map (h.keeps_setCost i payload setBy)
  | updateLine i actor updates => exact h.keeps_updateLine i actor updates
  | addLine i actor r => exact Proc.keeps_map (h.keeps_addLine i actor r)
  | deleteLine i actor => exact h.keeps_deleteLine i actor
  | replaceLines i resources addedBy => exact h.keeps_replaceLines i resources addedBy
  | updateProfile fields userRole => exact h.keeps_updateProfile fields userRole

end Allows

/-- Requests at their start. -/
def requesting {ι : Type} (d : Db) (requests : ι → Request) : Pool ι Mark PyError Db Unit :=
  .start d fun i => (requests i).program

end Sams.Costs
