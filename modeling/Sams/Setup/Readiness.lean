import Sams.Setup.Onboarding

/-!
# When a school may go live

The profile is committed when it is complete, there is a campus and somebody to call in an
emergency. Activation trusts the commit, though all of that can be edited afterwards, and a look at
the setup of a school that has a structure activates it without any of that.

Activation succeeds where nothing blocks it, except where the campus or the contact went in the
meantime (**`activates_iff_unblocked`**). In a run that takes nothing back after the commit, and in
which no look finds a structure of an incomplete school, a school that goes live is complete
(**`onboarded_run`**).
-/

namespace Sams.Setup

open School Programs Rows Runs SchoolRepository SchoolService

/-! ## The list of what blocks -/

/-- A complete profile, a campus and an emergency contact. -/
structure Complete (t : Tables) : Prop where
  profile : t.current.missing = []
  campus : t.campuses ≠ []
  contact : hasEmergencyContact t = true

theorem blocking_eq_nil {t : Tables} : blocking t = [] ↔ t.current.profileCommittedAt ≠ none ∧
    t.campuses.any CampusRow.isPrimary = true ∧ hasEmergencyContact t = true ∧
      hasStructure t.school = true := by
  unfold blocking
  simp only [List.append_eq_nil_iff, ite_eq_right_iff, List.cons_ne_nil, imp_false, not_not]
  tauto

/-- When `activate` returns. -/
theorem activate_returns_iff {s : State} {userRole : List String} {now : Timestamp} :
    returns (SchoolService.activate userRole now) s = true ↔ IsAdmin userRole ∧
      s.val.current.activatedAt = none ∧ s.val.current.profileCommittedAt ≠ none ∧
        hasStructure s.val.school = true := by
  obtain ⟨s₁, hensure, hval⟩ := ensureProfileRow_ok s
  have hschool : s₁.val.school = s.val.school := (idle_of_ensured hval).school
  rw [returns_iff]
  unfold SchoolService.activate requireAdmin
  constructor
  · rintro ⟨⟨⟩, s', h⟩
    obtain ⟨⟨⟩, t, hcheck, h⟩ := bind_eq_ok.1 h
    obtain ⟨hadmin, rfl⟩ := raiseIf_eq_ok.1 hcheck
    obtain ⟨profile, t, hprofile, h⟩ := bind_eq_ok.1 h
    rw [hensure] at hprofile
    cases hprofile
    obtain ⟨⟨⟩, t, hcheck, h⟩ := bind_eq_ok.1 h
    obtain ⟨hlive, rfl⟩ := raiseIf_eq_ok.1 hcheck
    obtain ⟨⟨⟩, t, hcheck, h⟩ := bind_eq_ok.1 h
    obtain ⟨hcommitted, rfl⟩ := raiseIf_eq_ok.1 hcheck
    rw [query_bind] at h
    obtain ⟨⟨⟩, t, hcheck, -⟩ := bind_eq_ok.1 h
    obtain ⟨hstructure, rfl⟩ := raiseIf_eq_ok.1 hcheck
    rw [← hschool]
    exact ⟨not_not.1 hadmin, Option.not_isSome_iff_eq_none.1 hlive, hcommitted,
      not_not.1 hstructure⟩
  · rintro ⟨hadmin, hlive, hcommitted, hstructure⟩
    obtain ⟨s', hwrite, -⟩ := writeProfile_ok (fun p => p.live now) s₁
    refine ⟨(), s', bind_eq_ok.2 ⟨(), s, raiseIf_eq_ok.2 ⟨not_not.2 hadmin, rfl⟩, ?_⟩⟩
    refine bind_eq_ok.2 ⟨_, s₁, hensure, bind_eq_ok.2 ⟨(), s₁, raiseIf_eq_ok.2 ⟨?_, rfl⟩, ?_⟩⟩
    · rw [hlive]
      exact Bool.false_ne_true
    refine bind_eq_ok.2 ⟨(), s₁, raiseIf_eq_ok.2 ⟨hcommitted, rfl⟩, ?_⟩
    rw [query_bind]
    rw [← hschool] at hstructure
    exact bind_eq_ok.2 ⟨(), s₁, raiseIf_eq_ok.2 ⟨not_not.2 hstructure, rfl⟩, hwrite⟩

/-- Activation and the list of what blocks agree. -/
def Unblocked (s : State) (userRole : List String) (now : Timestamp) : Prop :=
  returns (SchoolService.activate userRole now) s = true ↔ blocking s.val = []

instance (s : State) (userRole : List String) (now : Timestamp) :
    Decidable (Unblocked s userRole now) :=
  inferInstanceAs (Decidable (_ ↔ _))

/-- **Activation succeeds where nothing blocks it**, for an administrator of a school that is not
live, if and only if what a committed profile with a structure vouches for is still there. -/
theorem activates_iff_unblocked {s : State} {userRole : List String} {now : Timestamp}
    (hadmin : IsAdmin userRole) (hsetup : s.val.current.activatedAt = none) :
    Unblocked s userRole now ↔
      (s.val.current.profileCommittedAt ≠ none → hasStructure s.val.school = true →
        s.val.campuses.any CampusRow.isPrimary = true ∧ hasEmergencyContact s.val = true) := by
  unfold Unblocked
  rw [activate_returns_iff, blocking_eq_nil]
  tauto

/-! ## Runs of the setup -/

/-- The profile is committed and the school is not live. -/
def Settling (t : Tables) : Prop :=
  t.current.profileCommittedAt ≠ none ∧ t.current.activatedAt = none

/-- A required field that is sent is not empty. -/
def ProfileUpdate.Filled (fields : ProfileUpdate) : Prop :=
  some "" ∉ [fields.legalName, fields.displayName, fields.schoolCode, fields.country,
    fields.timezone, fields.currency]

instance (fields : ProfileUpdate) : Decidable fields.Filled := inferInstanceAs (Decidable (_ ∉ _))

/-- An administrator takes nothing back after the commit: no required field is emptied, and somebody
is left to call; and no look finds a structure of a school that is not complete. -/
def Call.Careful (t : Tables) : Call → Prop
  | .updateProfile fields u => IsAdmin u → Settling t → fields.Filled
  | .updateContact id fields u => IsAdmin u → Settling t →
    ∃ c ∈ t.contacts, (if c.id = id then fields.write c else c).reachable = true
  | .deleteContact id u => IsAdmin u → Settling t → ∃ c ∈ t.contacts, c.id ≠ id ∧ c.reachable = true
  | c => c.looks = true → t.current.activatedAt = none → hasStructure t.school = true → Complete t

def Op.Careful (s : State) : Op → Prop
  | .call c => c.Careful s.val
  | .request user now _ => (Call.pass user now).Careful s.val

/-- If the school goes live, it is complete. -/
def Onboards (s s' : State) : Prop :=
  s.val.current.activatedAt = none → s'.val.current.activatedAt ≠ none → Complete s'.val

/-- What the commit found is still there. -/
def Vouched (t : Tables) : Prop := Settling t → Complete t

section Complete

variable {s s' : State} {p : ProfileRow}

theorem Profiled.complete (h : Profiled p s s') :
    Complete s'.val ↔ p.missing = [] ∧ s.val.campuses ≠ [] ∧ hasEmergencyContact s.val = true := by
  have hcontact : hasEmergencyContact s'.val = hasEmergencyContact s.val := by
    unfold hasEmergencyContact
    rw [h.contacts]
  constructor
  · rintro ⟨hprofile, hcampus, hmergency⟩
    rw [h.current] at hprofile
    rw [h.campuses] at hcampus
    rw [hcontact] at hmergency
    exact ⟨hprofile, hcampus, hmergency⟩
  · rintro ⟨hprofile, hcampus, hemergency⟩
    refine ⟨?_, ?_, ?_⟩
    · rw [h.current]
      exact hprofile
    · rw [h.campuses]
      exact hcampus
    · rw [hcontact]
      exact hemergency

theorem Profiled.settling (h : Profiled p s s') :
    Settling s'.val ↔ p.profileCommittedAt ≠ none ∧ p.activatedAt = none := by
  unfold Settling
  rw [h.current]

theorem missing_eq_nil : p.missing = [] ↔ ∀ f ∈ p.required, Text.nonEmpty f.2 ≠ none := by
  unfold ProfileRow.missing
  rw [List.map_eq_nil_iff, List.filter_eq_nil_iff]
  simp only [decide_eq_true_eq]

/-- A field that is sent and not empty fills its column. -/
theorem nonEmpty_or {field column : Option String} (hfield : field ≠ some "")
    (hcolumn : Text.nonEmpty column ≠ none) : Text.nonEmpty (field.or column) ≠ none := by
  cases field with
  | none => exact hcolumn
  | some v =>
    rw [Option.some_or, Text.nonEmpty_some fun h => hfield (by rw [h])]
    exact Option.some_ne_none v

theorem missing_write {fields : ProfileUpdate} (hfilled : fields.Filled) (h : p.missing = []) :
    (fields.write p).missing = [] := by
  rw [missing_eq_nil] at h ⊢
  unfold ProfileUpdate.Filled at hfilled
  unfold ProfileRow.required at h ⊢
  simp only [List.mem_cons, List.not_mem_nil, or_false, forall_eq_or_imp, forall_eq,
    not_or] at h hfilled ⊢
  obtain ⟨hlegal, hdisplay, hcode, hcountry, htimezone, hcurrency⟩ := h
  obtain ⟨hlegal', hdisplay', hcode', hcountry', htimezone', hcurrency'⟩ := hfilled
  refine ⟨nonEmpty_or (Ne.symm hlegal') hlegal, nonEmpty_or (Ne.symm hdisplay') hdisplay,
    nonEmpty_or (Ne.symm hcode') hcode, nonEmpty_or (Ne.symm hcountry') hcountry,
    nonEmpty_or (Ne.symm htimezone') htimezone, ?_⟩
  have hwritten := nonEmpty_or (Ne.symm hcurrency') hcurrency
  cases hc : fields.currency with
  | none =>
    rw [hc] at hwritten
    unfold ProfileUpdate.write
    rw [hc]
    exact hwritten
  | some currency =>
    rw [hc] at hwritten
    unfold ProfileUpdate.write
    rw [hc]
    exact hwritten

end Complete

/-- A careful look finds no structure of a school that is not complete. -/
theorem careful_looks {c : Call} {t : Tables} (h : c.Careful t) (hlooks : c.looks = true)
    (hsetup : t.current.activatedAt = none) (hstructure : hasStructure t.school = true) :
    Complete t := by
  cases c with
  | getSetupState now => exact h rfl hsetup hstructure
  | pass user now => exact h hlooks hsetup hstructure
  | _ => cases hlooks

section Unicode

variable [Unicode] {s : State}

/-- A call that is careful keeps what the commit found, and a school that it takes live is
complete. -/
theorem careful_call {c : Call} (hcareful : c.Careful s.val) (hvouched : Vouched s.val) :
    Vouched (c.step s).val ∧ Onboards s (c.step s) := by
  have hstill : ∀ {s' : State},
      (s.val.current.activatedAt = none → s'.val.current.activatedAt = none) →
      Onboards s s' := fun h hnone hlive => absurd (h hnone) hlive
  have hcontacts : ∀ {s' : State}, s'.val.profile = s.val.profile →
      (s.val.campuses ≠ [] → s'.val.campuses ≠ []) →
      (Settling s.val → hasEmergencyContact s.val = true → hasEmergencyContact s'.val = true) →
      Vouched s'.val ∧ Onboards s s' := by
    intro s' hprofile hcampuses hcontact
    have hcurrent : s'.val.current = s.val.current := by
      unfold Tables.current
      rw [hprofile]
    refine ⟨fun hsettling => ?_, hstill fun h => hcurrent ▸ h⟩
    unfold Settling at hsettling
    rw [hcurrent] at hsettling
    obtain ⟨hfilled, hcampus, hemergency⟩ := hvouched hsettling
    exact ⟨hcurrent ▸ hfilled, hcampuses hcampus, hcontact hsettling hemergency⟩
  cases step_effect s c with
  | idle h =>
    refine ⟨fun hsettling => ?_, hstill fun hnone => by rw [h.current]; exact hnone⟩
    have hcomplete := hvouched (h.settling.1 hsettling)
    exact h.complete.2 ⟨hcomplete.profile, hcomplete.campus, hcomplete.contact⟩
  | @updated fields u _ hadmin hcode hcurrency h =>
    refine ⟨fun hsettling => ?_, hstill fun hnone => by rw [h.current]; exact hnone⟩
    have hsettling := h.settling.1 hsettling
    have hcomplete := hvouched hsettling
    refine h.complete.2 ⟨missing_write (hcareful hadmin hsettling) hcomplete.profile,
      hcomplete.campus, hcomplete.contact⟩
  | committed hmissing hcampus hcontact h =>
    refine ⟨fun _ => h.complete.2 ⟨hmissing, hcampus, hcontact⟩, hstill fun hnone => ?_⟩
    rw [h.current]
    exact hnone
  | activated hsetup hcommitted hstructure h =>
    have hcomplete := hvouched ⟨Option.isSome_iff_ne_none.1 hcommitted, hsetup⟩
    have hcomplete' : Complete (Call.step s _).val :=
      h.complete.2 ⟨hcomplete.profile, hcomplete.campus, hcomplete.contact⟩
    exact ⟨fun _ => hcomplete', fun _ _ => hcomplete'⟩
  | grandfathered hlooks hstructure h =>
    have hcomplete := careful_looks hcareful hlooks hstructure.1 hstructure.2
    have hcomplete' : Complete (Call.step s c).val :=
      h.complete.2 ⟨hcomplete.profile, hcomplete.campus, hcomplete.contact⟩
    exact ⟨fun _ => hcomplete', fun _ _ => hcomplete'⟩
  | campus hsome h =>
    refine hcontacts (by rw [h]) (fun hcampus => ?_) fun _ hemergency => ?_
    · rw [h]
      exact fun hnone => hcampus (hsome hnone)
    · unfold hasEmergencyContact at hemergency ⊢
      rw [h]
      exact hemergency
  | contactCreated h =>
    refine hcontacts (by rw [h]) (fun hcampus => by rw [h]; exact hcampus) fun _ hemergency => ?_
    unfold hasEmergencyContact at hemergency ⊢
    rw [h, List.any_append, hemergency, Bool.true_or]
  | @contactUpdated id fields u _ hadmin h =>
    refine hcontacts (by rw [h]) (fun hcampus => by rw [h]; exact hcampus) fun hsettling _ => ?_
    obtain ⟨c, hc, hreachable⟩ := hcareful hadmin hsettling
    unfold hasEmergencyContact updateWhere at *
    rw [h, List.any_eq_true]
    refine ⟨_, List.mem_map_of_mem hc, ?_⟩
    simpa using hreachable
  | @contactDeleted id u _ hadmin h =>
    refine hcontacts (by rw [h]) (fun hcampus => by rw [h]; exact hcampus) fun hsettling _ => ?_
    obtain ⟨c, hc, hother, hreachable⟩ := hcareful hadmin hsettling
    unfold hasEmergencyContact at *
    rw [h, List.any_eq_true]
    exact ⟨c, List.mem_filter.2 ⟨hc, decide_eq_true hother⟩, hreachable⟩
  | structured h =>
    exact hcontacts (by rw [h]; rfl) (by rw [h]; exact id) (by rw [h]; exact fun _ => id)
  | imported h =>
    exact hcontacts (by rw [h]; rfl) (by rw [h]; exact id) (by rw [h]; exact fun _ => id)

theorem careful_step {op : Op} (hcareful : op.Careful s) (hvouched : Vouched s.val) :
    Vouched (step s op).val ∧ Onboards s (step s op) := by
  cases op with
  | call c => exact careful_call hcareful hvouched
  | request user now work =>
    have hpass : (Call.pass user now).Careful s.val := hcareful
    obtain ⟨hpassed, honboards⟩ := careful_call hpass hvouched
    obtain ⟨d, h | h⟩ := step_request (s := s) user now work
    · rw [h]
      exact ⟨hpassed, honboards⟩
    · rw [h]
      refine ⟨fun hsettling => ?_, fun hnone hlive => ?_⟩
      · obtain ⟨hfilled, hcampus, hcontact⟩ := hpassed hsettling
        exact ⟨hfilled, hcampus, hcontact⟩
      · obtain ⟨hfilled, hcampus, hcontact⟩ := honboards hnone hlive
        exact ⟨hfilled, hcampus, hcontact⟩

/-- One academic year, no structure and an empty profile. -/
structure Fresh (t : Tables) : Prop where
  year : t.school.years.length = 1
  levels : t.school.levels = []
  classes : t.school.classes = []
  profile : t.current = {}
  campuses : t.campuses = []
  contacts : t.contacts = []

/-- **Who goes live is onboarded**: in every run from a fresh tenant whose steps are all careful, a
school is complete at the moment it goes live. -/
theorem onboarded_run {ops : List Op} (hfresh : Fresh s.val)
    (hcareful : EachStep step (fun s op => op.Careful s) s ops) :
    EachStep step (fun s op => Onboards s (step s op)) s ops := by
  refine run_each (I := fun s => Vouched s.val) (fun s op hI hC => (careful_step hC hI).1)
    (fun s op hI hC => (careful_step hC hI).2) (fun hsettling => ?_) hcareful
  unfold Settling at hsettling
  rw [hfresh.profile] at hsettling
  exact absurd rfl hsettling.1

end Unicode

section Example

attribute [local instance] ascii

/-- The wizard as it is meant, up to the activation. -/
def wizard : List Op :=
  [.call (.updateProfile { legalName := some "North School", displayName := some "North"
                           schoolCode := some "N1", country := some "JO"
                           timezone := some "Asia/Amman" } ["school_admin"]),
   .call (.upsertCampus { name := some "Main" } ["school_admin"]),
   .call (.createContact { roleTitle := "Nurse", name := "Mona", phone := some "555"
                           isEmergencyContact := true } ["school_admin"]),
   .call (.commitProfile ["school_admin"] 1),
   .call (.saveAcademicStructure ["school_admin"]
     { system := some "IB", calendar := none, blackoutDates := []
       levels := [⟨none, some "G1", ⟨none, none, none, some 1⟩, true,
         [⟨none, some "G1 - A", some 25⟩]⟩] } none)]

/-- The wizard with the activation at its end takes care. -/
theorem wizard_onboards : EachStep step (fun s op => Onboards s (step s op)) freshTenant
    (wizard ++ [.call (.activate ["school_admin"] 2)]) := by
  refine onboarded_run ⟨rfl, rfl, rfl, rfl, rfl, rfl⟩ ⟨?_, ?_, ?_, ?_, ?_, ?_, trivial⟩
  · exact fun _ _ => by decide
  · exact fun h => absurd h Bool.false_ne_true
  · exact fun h => absurd h Bool.false_ne_true
  · exact fun h => absurd h Bool.false_ne_true
  · exact fun h => absurd h Bool.false_ne_true
  · exact fun h => absurd h Bool.false_ne_true

/-- A structure that is saved before anything else, and a look at the setup. -/
theorem structureFirst_skips : ¬EachStep step (fun s op => Onboards s (step s op)) freshTenant
    [.call (.saveAcademicStructure ["school_admin"]
      { system := some "IB", calendar := none, blackoutDates := []
        levels := [⟨none, some "G1", ⟨none, none, none, some 1⟩, true,
          [⟨none, some "G1 - A", some 25⟩]⟩] } none), .call (.getSetupState 1)] := by
  rintro ⟨-, honboards, -⟩
  exact absurd (honboards (by decide +kernel) (by decide +kernel)).campus (by decide +kernel)

/-- The tenant at the end of the wizard, whose contact is deleted. -/
def contactGone : State :=
  run step freshTenant (wizard ++ [.call (.deleteContact 100 ["school_admin"])])

/-- It is activated, though the missing contact blocks it. -/
theorem contactGone_activates : ¬Unblocked contactGone ["school_admin"] 2 := by
  decide +kernel

/-- Without the deletion nothing blocks. -/
theorem wizard_unblocked : Unblocked (run step freshTenant wizard) ["school_admin"] 2 :=
  (activates_iff_unblocked (by decide) (by decide +kernel)).2 fun _ _ => by decide +kernel

end Example

end Sams.Setup
