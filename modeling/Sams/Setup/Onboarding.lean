import Sams.Lib.Runs
import Sams.Setup.Profile

/-!
# A school in setup as a transition system

The calls of the setup, the two that write the academic structure among them, and the ordinary
requests, which pass the gate and then run any program on the school's tables. A call that
raises also leaves a state.

Every step does one of a few things (`Effect`, **`step_effect`**); what is proved
about runs uses these.
-/

namespace Sams.Setup

open School Programs Rows Runs SchoolRepository SchoolService

/-- A call of the setup, with the caller's roles where the service asks for them. -/
inductive Call where
  | getSetupState (now : Timestamp)
  | getProfileBundle
  | updateProfile (fields : ProfileUpdate) (userRole : List String)
  | upsertCampus (fields : CampusFields) (userRole : List String)
  | createContact (fields : ContactFields) (userRole : List String)
  | updateContact (contactId : Nat) (fields : ContactUpdate) (userRole : List String)
  | deleteContact (contactId : Nat) (userRole : List String)
  | commitProfile (userRole : List String) (now : Timestamp)
  | activate (userRole : List String) (now : Timestamp)
  | saveAcademicStructure (userRole : List String) (payload : StructureIn) (changedBy : Option Nat)
  | commitStructureImport (userRole : List String) (rows : List TenantRepository.ImportRow)
  /-- A request passes the gate, or does not. -/
  | pass (user : Authz.CurrentUser) (now : Timestamp)

/-- A call, or an ordinary request with its work on the school's tables. -/
inductive Op where
  | call (c : Call)
  | request (user : Authz.CurrentUser) (now : Timestamp) (work : Prog Unit)

section Unicode

variable [Unicode]

/-- The program of a call, its result dropped. -/
def Call.program : Call → Program Unit
  | .getSetupState now => discard (SchoolService.getSetupState now)
  | .getProfileBundle => discard SchoolRepository.ensureProfileRow
  | .updateProfile fields u => discard (SchoolService.updateProfile fields u)
  | .upsertCampus fields u => SchoolService.upsertCampus fields u
  | .createContact fields u => SchoolService.createContact fields u
  | .updateContact id fields u => SchoolService.updateContact id fields u
  | .deleteContact id u => SchoolService.deleteContact id u
  | .commitProfile u now => SchoolService.commitProfile u now
  | .activate u now => SchoolService.activate u now
  | .saveAcademicStructure u p by_ => onSchool (TenantService.saveAcademicStructure u p by_)
  | .commitStructureImport u rows => onSchool (discard (TenantService.commitStructureImport u rows))
  | .pass user now => requireTenantLive user now

def Op.program : Op → Program Unit
  | .call c => c.program
  | .request user now work => do
    requireTenantLive user now
    onSchool work

/-- The state a call leaves. -/
def Call.step (s : State) (c : Call) : State := after c.program s

/-- The state an operation leaves. -/
def step (s : State) (op : Op) : State := after op.program s

end Unicode

/-! ## What a step does -/

/-- The profile reads `p`, and nothing else changed. -/
def Profiled (p : ProfileRow) (s s' : State) : Prop :=
  ∃ row, s'.val = { s.val with profile := row } ∧ row.getD {} = p

/-- Nothing that a reader sees changed. -/
def Idle (s s' : State) : Prop := Profiled s.val.current s s'

/-- The school has a structure and is not live: the next look at it activates it. -/
def Grandfathers (s : State) : Prop :=
  s.val.current.activatedAt = none ∧ hasStructure s.val.school = true

instance (s : State) : Decidable (Grandfathers s) := inferInstanceAs (Decidable (_ ∧ _))

/-- The profile of a school that is activated now. -/
def ProfileRow.live (p : ProfileRow) (now : Timestamp) : ProfileRow :=
  { p with
    activatedAt := some now, curriculumLockedAt := some now
    structureCommittedAt := some (p.structureCommittedAt.getD now) }

/-- The profile of a school that is taken for an old one. -/
def ProfileRow.grandfathered (p : ProfileRow) (now : Timestamp) : ProfileRow :=
  { p.live now with profileCommittedAt := some (p.profileCommittedAt.getD now) }

/-- The looks that activate a school. -/
def Call.looks : Call → Bool
  | .getSetupState _ => true
  | .pass user _ => ¬user.hasRole "super_admin" ∧ (Text.nonEmpty user.tenantId).isSome
  | _ => false

/-- The setup's own effects: on the profile, the campuses and the contacts. -/
inductive Effect [Unicode] (s : State) : Call → State → Prop where
  | idle {c : Call} {s' : State} (h : Idle s s') : Effect s c s'
  | updated {fields : ProfileUpdate} {u : List String} {s' : State} (hadmin : IsAdmin u)
      (hcode : s.val.current.activatedAt.isSome → ¬SchoolService.ChangesCode fields s.val.current)
      (hcurrency : s.val.current.activatedAt.isSome → hasRecordedMoney s.val.school = true →
        ¬SchoolService.ChangesCurrency fields s.val.current)
      (h : Profiled (fields.write s.val.current) s s') : Effect s (.updateProfile fields u) s'
  | committed {u : List String} {now : Timestamp} {s' : State}
      (hmissing : s.val.current.missing = [])
      (hcampus : s.val.campuses ≠ []) (hcontact : hasEmergencyContact s.val = true)
      (h : Profiled { s.val.current with profileCommittedAt := some now } s s') :
      Effect s (.commitProfile u now) s'
  | activated {u : List String} {now : Timestamp} {s' : State}
      (hsetup : s.val.current.activatedAt = none)
      (hcommitted : s.val.current.profileCommittedAt.isSome)
      (hstructure : hasStructure s.val.school = true)
      (h : Profiled (s.val.current.live now) s s') : Effect s (.activate u now) s'
  | grandfathered {c : Call} {now : Timestamp} {s' : State} (hlooks : c.looks)
      (hstructure : Grandfathers s) (h : Profiled (s.val.current.grandfathered now) s s') :
      Effect s c s'
  | campus {fields : CampusFields} {u : List String} {campuses : List CampusRow} {seq : Nat}
      {s' : State} (hsome : campuses = [] → s.val.campuses = [])
      (h : s'.val = { s.val with campuses, campusSeq := seq }) : Effect s
        (.upsertCampus fields u) s'
  | contactCreated {fields : ContactFields} {u : List String} {s' : State}
      (h : s'.val = { s.val with
        contacts := s.val.contacts ++ [fields.row s.val.contactSeq]
        contactSeq := s.val.contactSeq + 1 }) :
      Effect s (.createContact fields u) s'
  | contactUpdated {id : Nat} {fields : ContactUpdate} {u : List String} {s' : State}
      (hadmin : IsAdmin u)
      (h : s'.val = { s.val with
        contacts := updateWhere (fun c => c.id = id) fields.write s.val.contacts }) :
      Effect s (.updateContact id fields u) s'
  | contactDeleted {id : Nat} {u : List String} {s' : State} (hadmin : IsAdmin u)
      (h : s'.val = { s.val with contacts := s.val.contacts.filter fun c => c.id ≠ id }) :
      Effect s (.deleteContact id u) s'
  | structured {userRole : List String} {p : StructureIn} {by_ : Option Nat} {s' : State}
      (h : s' = putSchool (after (TenantService.saveAcademicStructure userRole p by_) (schoolOf s))
        s) :
      Effect s (.saveAcademicStructure userRole p by_) s'
  | imported {userRole : List String} {rows : List TenantRepository.ImportRow} {s' : State}
      (h : s' = putSchool (after (TenantService.commitStructureImport userRole rows) (schoolOf s))
        s) :
      Effect s (.commitStructureImport userRole rows) s'

section Profiled

variable {p : ProfileRow} {s s' : State}

theorem Profiled.current (h : Profiled p s s') : s'.val.current = p := by
  obtain ⟨row, hval, hrow⟩ := h
  unfold Tables.current
  rw [hval]
  exact hrow

theorem Profiled.school (h : Profiled p s s') : s'.val.school = s.val.school := by
  obtain ⟨row, hval, -⟩ := h
  rw [hval]

theorem Profiled.campuses (h : Profiled p s s') : s'.val.campuses = s.val.campuses := by
  obtain ⟨row, hval, -⟩ := h
  rw [hval]

theorem Profiled.contacts (h : Profiled p s s') : s'.val.contacts = s.val.contacts := by
  obtain ⟨row, hval, -⟩ := h
  rw [hval]

/-- A row that was inserted makes no difference to what follows. -/
theorem Profiled.of_idle {s₁ : State} (hidle : Idle s s₁) (h : Profiled p s₁ s') :
    Profiled p s s' := by
  obtain ⟨row, hval, hrow⟩ := h
  obtain ⟨row₁, hval₁, -⟩ := hidle
  exact ⟨row, by rw [hval, hval₁], hrow⟩

end Profiled

theorem idle_refl (s : State) : Idle s s := ⟨s.val.profile, rfl, rfl⟩

/-! ## The programs -/

/-- A profile is written whatever it is: no constraint is on it. -/
theorem writeProfile_ok (f : ProfileRow → ProfileRow) (s : State) :
    ∃ s', writeProfile f s = .ok () s' ∧
      s'.val = { s.val with profile := s.val.profile.map f } := by
  have hok : Tables.Ok { s.val with profile := s.val.profile.map f } :=
    { s.ok with school := s.ok.school }
  refine ⟨⟨_, hok⟩, ?_, rfl⟩
  unfold writeProfile
  exact exec_of hok

/-- The reader finds the profile, or puts an empty one in. -/
theorem ensureProfileRow_ok (s : State) : ∃ s₁, ensureProfileRow s = .ok s.val.current s₁ ∧
    s₁.val = { s.val with profile := some s.val.current } := by
  unfold ensureProfileRow
  rw [query_bind]
  cases hprofile : s.val.profile with
  | some row =>
    have hrow : s.val.current = row := by
      unfold Tables.current
      rw [hprofile]
      rfl
    refine ⟨s, by rw [hrow]; rfl, ?_⟩
    rw [hrow, ← hprofile]
  | none =>
    have hrow : s.val.current = {} := by
      unfold Tables.current
      rw [hprofile]
      rfl
    rw [hrow]
    have hok : Tables.Ok { s.val with profile := some {} } := { s.ok with school := s.ok.school }
    exact ⟨⟨_, hok⟩, bind_eq_ok.2 ⟨(), _, exec_of hok, rfl⟩, rfl⟩

theorem idle_of_ensured {s s₁ : State} (h : s₁.val = { s.val with profile := some s.val.current }) :
    Idle s s₁ := ⟨_, h, rfl⟩

/-- A program that makes sure of the profile runs on from where it is found. -/
theorem after_ensure_bind {α : Type} (k : ProfileRow → Program α) (s : State) :
    ∃ s₁, s₁.val = { s.val with profile := some s.val.current } ∧
      after (ensureProfileRow >>= k) s = after (k s.val.current) s₁ := by
  obtain ⟨s₁, hok, hval⟩ := ensureProfileRow_ok s
  exact ⟨s₁, hval, after_bind_ok hok⟩

/-- Writing a profile that was found. -/
theorem profiled_writeProfile {f : ProfileRow → ProfileRow} {s s₁ : State}
    (h : s₁.val = { s.val with profile := some s.val.current }) :
    Profiled (f s.val.current) s (after (writeProfile f) s₁) := by
  obtain ⟨s', hok, hval⟩ := writeProfile_ok f s₁
  rw [after_ok hok]
  refine ⟨some (f s.val.current), ?_, rfl⟩
  rw [hval, h]
  rfl

/-- The checks on an update write nothing. -/
theorem after_checkUpdate (fields : ProfileUpdate) (p : ProfileRow) (userRole : List String)
    (s : State) :
    after (checkUpdate fields p userRole) s = s := by
  unfold checkUpdate
  simp only [after_raiseIf_bind, after_query_bind]
  unfold raiseIf onlyIf
  split_ifs <;> rfl

theorem checkUpdate_ok {fields : ProfileUpdate} {p : ProfileRow} {userRole : List String}
    {s s' : State} (h : checkUpdate fields p userRole s = .ok () s') :
    ¬ChangesCode fields p ∧ (hasRecordedMoney s.val.school = true → ¬ChangesCurrency fields p) := by
  unfold checkUpdate at h
  obtain ⟨⟨⟩, t, hcode, h⟩ := bind_eq_ok.1 h
  obtain ⟨hnot, rfl⟩ := raiseIf_eq_ok.1 hcode
  obtain ⟨⟨⟩, t, hrole, h⟩ := bind_eq_ok.1 h
  obtain ⟨-, rfl⟩ := raiseIf_eq_ok.1 hrole
  rw [query_bind, raiseIf_eq_ok] at h
  exact ⟨hnot, fun hmoney hcurrency => h.1 ⟨hcurrency, hmoney⟩⟩

/-- A check that follows a write leaves what was written. -/
theorem after_bind_check {m : Program Unit} {f : Tables → Bool} {e : PyError} {s : State} :
    after (m >>= fun _ => (read f >>= fun found => raiseIf (¬found) e)) s = after m s := by
  refine after_bind_idle (fun _ t => ?_) s
  rw [after_query_bind]
  unfold raiseIf onlyIf
  split_ifs <;> rfl

section Effects

variable [Unicode] {s : State} {userRole : List String} {now : Timestamp}

/-- Who is no administrator is refused before anything is read. -/
theorem effect_requireAdmin {α : Type} {c : Call} {k : Program α}
    (h : IsAdmin userRole → Effect s c (after k s)) :
    Effect s c (after (requireAdmin userRole >>= fun _ => k) s) := by
  unfold requireAdmin
  rw [after_raiseIf_bind]
  by_cases hadmin : IsAdmin userRole
  · rw [if_neg (not_not.2 hadmin)]
    exact h hadmin
  · rw [if_pos hadmin]
    exact .idle (idle_refl s)

/-- Activating what is taken for an old school, where there is a profile to write. -/
theorem effect_grandfather {c : Call} {P : Prop} [Decidable P] {s₁ : State} (hidle : Idle s s₁)
    (hP : P → c.looks = true ∧ Grandfathers s) :
    Effect s c (after (onlyIf P (grandfatherActivateIfMissing now)) s₁) := by
  by_cases h : P
  · rw [onlyIf_of h]
    obtain ⟨s', hok, hval⟩ := writeProfile_ok (fun p => if p.activatedAt = none then
      p.grandfathered now else p) s₁
    have hafter : after (grandfatherActivateIfMissing now) s₁ = s' := after_ok hok
    rw [hafter]
    obtain ⟨row, hrow, hcurrent⟩ := hidle
    rw [hrow] at hval
    cases row with
    | none => exact .idle ⟨none, hval, hcurrent⟩
    | some row =>
      have hread : row = s.val.current := hcurrent
      have hrecorded : (if row.activatedAt = none then row.grandfathered now else row) =
          s.val.current.grandfathered now := by
        rw [hread]
        exact if_pos (hP h).2.1
      exact .grandfathered (hP h).1 (hP h).2 ⟨_, hval, hrecorded⟩
  · rw [onlyIf, if_neg h]
    exact .idle hidle

theorem effect_getSetupState : Effect s (.getSetupState now)
    (after (discard (SchoolService.getSetupState now)) s) := by
  rw [after_discard]
  unfold SchoolService.getSetupState
  obtain ⟨s₁, hval, hafter⟩ := after_ensure_bind (fun profile => do
    let structured ← read fun t => hasStructure t.school
    onlyIf (profile.activatedAt = none ∧ structured) (grandfatherActivateIfMissing now)
    read setupState) s
  rw [hafter, after_query_bind, after_bind_idle fun _ _ => rfl]
  have hidle := idle_of_ensured hval
  refine effect_grandfather hidle fun h => ⟨rfl, h.1, ?_⟩
  rw [← hidle.school]
  exact h.2

theorem effect_pass (user : Authz.CurrentUser) : Effect s (.pass user now)
    (after (requireTenantLive user now) s) := by
  unfold requireTenantLive
  by_cases hfree : user.hasRole "super_admin" = true ∨ Text.nonEmpty user.tenantId = none
  · rw [if_pos hfree]
    exact .idle (idle_refl s)
  have hidle : ∀ (c : Prop) [Decidable c] (e : PyError) (t : State), after (raiseIf c e) t = t := by
    intro c _ e t
    unfold raiseIf onlyIf
    split_ifs <;> rfl
  rw [if_neg hfree, after_query_bind, after_query_bind, after_bind_idle fun _ => hidle _ _]
  refine effect_grandfather (idle_refl s) fun h => ⟨?_, ?_, h.2⟩
  · unfold Call.looks
    rw [decide_eq_true_eq]
    exact ⟨fun h => hfree (.inl h), Option.isSome_iff_ne_none.2 fun h => hfree (.inr h)⟩
  · have hnone := h.1
    dsimp only at hnone
    unfold Tables.current
    cases hprofile : s.val.profile with
    | none => rfl
    | some row =>
      rw [hprofile] at hnone
      exact hnone

theorem effect_updateProfile (fields : ProfileUpdate) : Effect s (.updateProfile fields userRole)
    (after (discard (SchoolService.updateProfile fields userRole)) s) := by
  rw [after_discard]
  unfold SchoolService.updateProfile
  refine effect_requireAdmin fun hadmin => ?_
  obtain ⟨s₁, hval, hafter⟩ := after_ensure_bind (fun current => do
    onlyIf current.activatedAt.isSome (checkUpdate fields current userRole)
    if fields = {} then
      return current
    SchoolRepository.updateProfile fields) s
  rw [hafter]
  have hidle := idle_of_ensured hval
  have hchecked : after (onlyIf (s.val.current.activatedAt.isSome = true)
      (checkUpdate fields s.val.current userRole)) s₁ = s₁ := by
    unfold onlyIf
    split_ifs
    · exact after_checkUpdate fields s.val.current userRole s₁
    · rfl
  rcases ok_or_error (onlyIf (s.val.current.activatedAt.isSome = true)
      (checkUpdate fields s.val.current userRole)) s₁ with ⟨⟨⟩, hok⟩ | ⟨e, herr⟩
  · rw [after_bind_ok hok, hchecked]
    rw [hchecked] at hok
    have hchecks : s.val.current.activatedAt.isSome = true → ¬ChangesCode fields s.val.current ∧
        (hasRecordedMoney s₁.val.school = true → ¬ChangesCurrency fields s.val.current) := by
      intro hlive
      rw [onlyIf_of hlive] at hok
      exact checkUpdate_ok hok
    by_cases hfields : fields = {}
    · rw [if_pos hfields]
      exact .idle hidle
    rw [if_neg hfields]
    unfold SchoolRepository.updateProfile
    obtain ⟨s₂, hval₂, hafter₂⟩ := after_ensure_bind (fun row => do
      writeProfile fields.write
      return fields.write row) s₁
    rw [hafter₂, after_bind_idle fun _ _ => rfl]
    have hprofiled := (profiled_writeProfile (f := fields.write) hval₂).of_idle hidle
    rw [hidle.current] at hprofiled
    rw [hidle.school] at hchecks
    exact .updated hadmin (fun h => (hchecks h).1) (fun h => (hchecks h).2) hprofiled
  · rw [after_bind_error herr, hchecked]
    exact .idle hidle

theorem effect_commitProfile :
    Effect s (.commitProfile userRole now)
      (after (SchoolService.commitProfile userRole now) s) := by
  unfold SchoolService.commitProfile
  refine effect_requireAdmin fun hadmin => ?_
  obtain ⟨s₁, hval, hafter⟩ := after_ensure_bind _ s
  rw [hafter]
  have hidle := idle_of_ensured hval
  rw [after_raiseIf_bind]
  by_cases hcommitted : s.val.current.profileCommittedAt.isSome = true
  · rw [if_pos hcommitted]
    exact .idle hidle
  rw [if_neg hcommitted, after_raiseIf_bind]
  by_cases hmissing : s.val.current.missing = []
  · rw [if_neg (not_not.2 hmissing), after_query_bind, after_raiseIf_bind, hidle.campuses]
    by_cases hcampus : s.val.campuses = []
    · rw [if_pos hcampus]
      exact .idle hidle
    rw [if_neg hcampus, after_query_bind, after_raiseIf_bind]
    have hcontacts : hasEmergencyContact s₁.val = hasEmergencyContact s.val := by
      unfold hasEmergencyContact
      rw [hidle.contacts]
    rw [hcontacts]
    by_cases hcontact : hasEmergencyContact s.val = true
    · rw [if_neg (not_not.2 hcontact)]
      exact .committed hmissing hcampus hcontact (profiled_writeProfile hval)
    · rw [if_pos hcontact]
      exact .idle hidle
  · rw [if_pos hmissing]
    exact .idle hidle

theorem effect_activate :
    Effect s (.activate userRole now) (after (SchoolService.activate userRole now) s) := by
  unfold SchoolService.activate
  refine effect_requireAdmin fun hadmin => ?_
  obtain ⟨s₁, hval, hafter⟩ := after_ensure_bind _ s
  rw [hafter]
  have hidle := idle_of_ensured hval
  rw [after_raiseIf_bind]
  by_cases hlive : s.val.current.activatedAt.isSome = true
  · rw [if_pos hlive]
    exact .idle hidle
  rw [if_neg hlive, after_raiseIf_bind]
  by_cases hcommitted : s.val.current.profileCommittedAt = none
  · rw [if_pos hcommitted]
    exact .idle hidle
  rw [if_neg hcommitted, after_query_bind, after_raiseIf_bind]
  by_cases hstructure : hasStructure s₁.val.school = true
  · rw [if_neg (not_not.2 hstructure)]
    rw [hidle.school] at hstructure
    exact .activated (Option.not_isSome_iff_eq_none.1 hlive)
      (Option.isSome_iff_ne_none.2 hcommitted)
      hstructure (profiled_writeProfile hval)
  · rw [if_pos hstructure]
    exact .idle hidle

theorem effect_upsertCampus (fields : CampusFields) : Effect s (.upsertCampus fields userRole)
    (after (SchoolService.upsertCampus fields userRole) s) := by
  unfold SchoolService.upsertCampus
  refine effect_requireAdmin fun hadmin => ?_
  unfold upsertPrimaryCampus
  rw [after_query_bind]
  cases Text.nonZero (primaryCampus s.val) with
  | some id =>
    refine after_exec_ind (motive := Effect s _) (.idle (idle_refl s)) fun s' hval => ?_
    refine .campus (fun h => ?_) hval
    exact List.map_eq_nil_iff.1 h
  | none =>
    dsimp only
    rw [after_raiseIf_bind]
    split_ifs
    · exact .idle (idle_refl s)
    · refine after_exec_ind (motive := Effect s _) (.idle (idle_refl s)) fun s' hval => ?_
      exact .campus
        (fun h => absurd h (List.append_ne_nil_of_right_ne_nil _ (List.cons_ne_nil _ _))) hval

theorem effect_createContact (fields : ContactFields) : Effect s (.createContact fields userRole)
    (after (SchoolService.createContact fields userRole) s) := by
  unfold SchoolService.createContact
  refine effect_requireAdmin fun hadmin => ?_
  unfold SchoolRepository.createContact
  refine after_exec_ind (motive := Effect s _) (.idle (idle_refl s)) fun s' hval => ?_
  exact .contactCreated hval

theorem effect_updateContact (id : Nat) (fields : ContactUpdate) :
    Effect s (.updateContact id fields userRole)
      (after (SchoolService.updateContact id fields userRole) s) := by
  unfold SchoolService.updateContact
  refine effect_requireAdmin fun hadmin => ?_
  unfold SchoolRepository.updateContact
  rw [bind_assoc, after_bind_check]
  refine after_exec_ind (motive := Effect s _) (.idle (idle_refl s)) fun s' hval => ?_
  exact .contactUpdated hadmin hval

theorem effect_deleteContact (id : Nat) : Effect s (.deleteContact id userRole)
    (after (SchoolService.deleteContact id userRole) s) := by
  unfold SchoolService.deleteContact
  refine effect_requireAdmin fun hadmin => ?_
  unfold SchoolRepository.deleteContact
  rw [after_query_bind, after_bind_idle]
  · refine after_exec_ind (motive := Effect s _) (.idle (idle_refl s)) fun s' hval => ?_
    exact .contactDeleted hadmin hval
  · intro _ t
    unfold raiseIf onlyIf
    split_ifs <;> rfl

/-- **What a call of the setup does.** -/
theorem step_effect (s : State) (c : Call) : Effect s c (c.step s) := by
  unfold Call.step
  cases c with
  | getSetupState now => exact effect_getSetupState
  | getProfileBundle =>
    obtain ⟨s₁, hok, hval⟩ := ensureProfileRow_ok s
    have hafter : after (Call.program .getProfileBundle) s = s₁ :=
      (after_discard ensureProfileRow s).trans (after_ok hok)
    rw [hafter]
    exact .idle (idle_of_ensured hval)
  | updateProfile fields u => exact effect_updateProfile fields
  | upsertCampus fields u => exact effect_upsertCampus fields
  | createContact fields u => exact effect_createContact fields
  | updateContact id fields u => exact effect_updateContact id fields
  | deleteContact id u => exact effect_deleteContact id
  | commitProfile u now => exact effect_commitProfile
  | activate u now => exact effect_activate
  | saveAcademicStructure u p by_ => exact .structured (after_onPart s)
  | commitStructureImport u rows =>
    refine .imported ((after_onPart s).trans ?_)
    rw [after_discard]
  | pass user now => exact effect_pass user

/-- A request passes the gate, and its work leaves the setup alone. -/
theorem step_request (user : Authz.CurrentUser) (now : Timestamp) (work : Prog Unit) :
    ∃ d : Db, step s (.request user now work) = (Call.pass user now).step s ∨
      step s (.request user now work) = putSchool d ((Call.pass user now).step s) := by
  rcases ok_or_error (requireTenantLive user now) s with ⟨⟨⟩, hok⟩ | ⟨e, herr⟩
  · refine ⟨after work (schoolOf ((Call.pass user now).step s)), .inr ?_⟩
    exact (after_bind_ok hok).trans (after_onPart _)
  · exact ⟨schoolOf s, .inl (after_bind_error herr)⟩

end Effects

/-! ## A fresh tenant -/

/-- One academic year, no structure and an empty profile. New rows are numbered from 100. -/
def freshTenant : State where
  val :=
    { school :=
        { users := [], teachers := [], levels := [], years := [⟨1, "Y1", .active, none, none, none⟩]
          classes := [], students := [], history := [], rollovers := [], lines := [], events := []
          eventClasses := [], enrollments := [], payments := [], resources :=
            [], resourceCosts := []
          parents := [], studentParents := [], notifications := [], auditLog := [], settings := []
          blackouts := [], curriculumLocked := false, seq := .startAt 100 }
      profile := some {}, campuses := [], contacts := [], campusSeq := 100, contactSeq := 100 }
  ok := by decide +kernel

end Sams.Setup
