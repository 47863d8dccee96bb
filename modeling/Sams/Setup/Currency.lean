import Sams.Setup.Onboarding
import Sams.Trips.Editing

/-!
# The currency and the school code

Once a school is live its currency is fixed by the first money on record, and its code for good.
Before, neither is: a super admin, whom the gate lets through, may record money in a school that is
not live, and then any administrator may change the currency. And a code that is absent is compared
by the text `None`. In a run without the two the amounts on record keep their currency and the code
stays (**`meaning_run`**), whatever the requests do to the school's tables.
-/

namespace Sams.Setup

open School Programs Rows Runs SchoolService

/-- The currency stays where money is on record, and the code where the school is live. -/
structure KeepsMeaning (s s' : State) : Prop where
  currency : hasRecordedMoney s.val.school = true → s'.val.current.currency = s.val.current.currency
  code : s.val.current.activatedAt.isSome = true →
    s'.val.current.schoolCode = s.val.current.schoolCode

/-- An administrator does not change the currency of the money of a school that is not live, and
calls no school `None`. -/
def Op.Prudent (s : State) : Op → Prop
  | .call (.updateProfile fields u) => IsAdmin u →
    (s.val.current.activatedAt = none → hasRecordedMoney s.val.school = true →
      ¬ChangesCurrency fields s.val.current) ∧
    (s.val.current.activatedAt.isSome = true → s.val.current.schoolCode = none →
      fields.schoolCode ≠ some "None")
  | _ => True

theorem currency_write {fields : ProfileUpdate} {p : ProfileRow} (h : ¬ChangesCurrency fields p) :
    (fields.write p).currency = p.currency := by
  show fields.currency.getD p.currency = p.currency
  cases hc : fields.currency with
  | none => rfl
  | some c => exact not_not.1 fun hne => h ⟨c, hc, hne⟩

theorem code_write {fields : ProfileUpdate} {p : ProfileRow} (h : ¬ChangesCode fields p)
    (hnone : p.schoolCode = none → fields.schoolCode ≠ some "None") :
    (fields.write p).schoolCode = p.schoolCode := by
  show fields.schoolCode.or p.schoolCode = p.schoolCode
  cases hc : fields.schoolCode with
  | none => rfl
  | some c =>
    have hshown : c = Text.showOption p.schoolCode := not_not.1 fun hne => h ⟨c, hc, hne⟩
    cases hp : p.schoolCode with
    | none =>
      rw [hp] at hshown
      exact absurd (hc.trans (congrArg some hshown)) (hnone hp)
    | some code =>
      rw [hp] at hshown
      exact congrArg some hshown

section Unicode

variable [Unicode] {s : State}

theorem meaning_call {c : Call} (hprudent : (Op.call c).Prudent s) : KeepsMeaning s (c.step s) := by
  have hprofile : ∀ {p : ProfileRow} {s' : State}, Profiled p s s' →
      p.currency = s.val.current.currency →
      p.schoolCode = s.val.current.schoolCode → KeepsMeaning s s' := by
    intro p s' h hcurrency hcode
    exact ⟨fun _ => by rw [h.current, hcurrency], fun _ => by rw [h.current, hcode]⟩
  have hsame : ∀ {s' : State}, s'.val.profile = s.val.profile → KeepsMeaning s s' := by
    intro s' h
    have hcurrent : s'.val.current = s.val.current := by
      unfold Tables.current
      rw [h]
    exact ⟨fun _ => by rw [hcurrent], fun _ => by rw [hcurrent]⟩
  cases step_effect s c with
  | idle h => exact hprofile h rfl rfl
  | @updated fields u _ hadmin hcode hcurrency h =>
    obtain ⟨hsetup, hunnamed⟩ := hprudent hadmin
    refine ⟨fun hmoney => ?_, fun hlive => ?_⟩
    · rw [h.current]
      cases hactivated : s.val.current.activatedAt with
      | none => exact currency_write (hsetup hactivated hmoney)
      | some _ => exact currency_write (hcurrency (by rw [hactivated]; rfl) hmoney)
    · rw [h.current]
      exact code_write (hcode hlive) (hunnamed hlive)
  | committed _ _ _ h => exact hprofile h rfl rfl
  | activated _ _ _ h => exact hprofile h rfl rfl
  | grandfathered _ _ h => exact hprofile h rfl rfl
  | campus _ h => exact hsame (by rw [h])
  | contactCreated h => exact hsame (by rw [h])
  | contactUpdated _ h => exact hsame (by rw [h])
  | contactDeleted _ h => exact hsame (by rw [h])
  | structured h => exact hsame (by rw [h]; rfl)
  | imported h => exact hsame (by rw [h]; rfl)

theorem meaning_step {op : Op} (hprudent : op.Prudent s) : KeepsMeaning s (step s op) := by
  cases op with
  | call c => exact meaning_call hprudent
  | request user now work =>
    have hpass : KeepsMeaning s ((Call.pass user now).step s) := meaning_call trivial
    obtain ⟨d, h | h⟩ := step_request (s := s) user now work
    · rw [h]
      exact hpass
    · rw [h]
      exact ⟨hpass.currency, hpass.code⟩

/-- **Money keeps its meaning**: in every run whose steps are all prudent, of calls of the setup and
of requests that do anything to the school's tables, no step changes the currency where money is on
record, or the code of a school that is live. -/
theorem meaning_run {ops : List Op} (hprudent : EachStep step (fun s op => op.Prudent s) s ops) :
    EachStep step (fun s op => KeepsMeaning s (step s op)) s ops :=
  run_each (I := fun _ => True) (fun _ _ _ _ => trivial) (fun _ _ _ h => meaning_step h)
    trivial hprudent

end Unicode

section Example

attribute [local instance] ascii

/-- A tenant in setup, with one user, one grade and one class. -/
def staffedTenant : State where
  val :=
    { freshTenant.val with
      school :=
        { freshTenant.val.school with
          users := [⟨1, "a@x", "school_admin", []⟩]
          levels := [⟨1, "G1", none, none, none, some 1, true⟩]
          classes := [⟨1, "G1 - A", 1, none, 25, true, 1, some "A"⟩] } }
  ok := by decide +kernel

def superAdmin : Authz.CurrentUser where
  id := "1"
  tenantId := some "north"
  role := "super_admin"
  email := "root@x"
  roles := ["super_admin"]

/-- A super admin creates an event whose tickets cost something. -/
def pricedEvent : Op :=
  .request superAdmin 1 (discard (Trips.EventsRouter.createEvent ⟨superAdmin, .number 1⟩
    { title := "Zoo", date := 5, classMappings := [{ classId := 1, ticketPrice := 50000 }] } 1).seq)

/-- The administrator of the school then changes the currency. -/
theorem pricedEvent_changes : ¬EachStep step (fun s op => KeepsMeaning s (step s op)) staffedTenant
    [pricedEvent, .call (.updateProfile { currency := some "USD" } ["school_admin"])] := by
  rintro ⟨-, hkeeps, -⟩
  exact absurd (hkeeps.currency (by decide +kernel)) (by decide +kernel)

/-- An update of the name instead changes nothing that counts. -/
theorem pricedEvent_keeps : EachStep step (fun s op => KeepsMeaning s (step s op)) staffedTenant
    [pricedEvent, .call (.updateProfile { displayName := some "North" } ["school_admin"])] := by
  refine meaning_run ⟨trivial, fun _ => ⟨fun _ _ => ?_, fun _ _ => ?_⟩, trivial⟩
  · rintro ⟨c, hc, -⟩
    cases hc
  · exact fun h => by cases h

end Example

end Sams.Setup
