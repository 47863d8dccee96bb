import Sams.Family.Sight
import Sams.School.Payments

/-!
# A school that fails

The sections of the overview stand in the order of the memberships, and a school whose reads fail
takes nothing from the others. There is one failure that the overview does not speak of: the lookup
of the parent by email catches whatever its statements raise, and the school is then shown as
one where the parent is nobody yet.

* **`fetchSchool_of_sound`** — a school whose reads come back has the section of a day without
  failures.
* **`fetchSchool_of_hidden`** — a failed lookup of the parent passes for a school without children.
* **`isolated_iff`** — failing schools are isolated just when no failure is one of these.
-/

namespace Sams.Family

open School Programs Runs Authz

/-- A day without failures. -/
def noOutage : Outage := fun _ => none

section Reads

variable {outage : Outage} {site : Site} {email : String} {m : Membership}

theorem reading_of_none {α : Type} {r : Read} (h : outage r = none) (a : α) :
    reading outage r (.ok a) = .ok a := by
  simp [reading, h, Except.mapError]

theorem reading_noOutage {α : Type} (r : Read) (a : α) : reading noOutage r (.ok a) = .ok a := rfl

theorem reading_of_some {α : Type} {r : Read} {f : Failure} (h : outage r = some f)
    (answer : Except PyError α) : reading outage r answer = .error f := by
  simp [reading, h]

theorem getPayments_of {enrollments : List EnrollmentListing}
    (h : enrollments = [] ∨ outage .payments = none) :
    getPaymentsForEnrollments outage site enrollments =
      getPaymentsForEnrollments noOutage site enrollments := by
  unfold getPaymentsForEnrollments
  by_cases hnone : enrollments = []
  · rw [if_pos hnone, if_pos hnone]
  · rw [if_neg hnone, if_neg hnone, reading_of_none (h.resolve_left hnone), reading_noOutage]

/-- What the reads of a user's family come to on a day without failures. -/
theorem fetchFamily_noOutage (site : Site) (m : Membership) (summary : LocaleSummary)
    (userId : Nat) :
    ∃ s, fetchFamily noOutage site m summary userId = .ok s ∧ s.status = .ok := by
  obtain ⟨events, hevents, -⟩ := eventsForParent_eq site.db userId
  obtain ⟨payments, hpayments⟩ : ∃ payments, getPaymentsForEnrollments noOutage site
      (enrollmentsForParent site.db.val userId) = .ok payments := by
    unfold getPaymentsForEnrollments
    split_ifs
    · exact ⟨_, rfl⟩
    · exact ⟨_, rfl⟩
  unfold fetchFamily
  rw [reading_noOutage, reading_noOutage, hevents, reading_noOutage]
  simp only [bind, Except.bind, hpayments]
  exact ⟨_, rfl, rfl⟩

theorem fetchFamily_of_sound {summary : LocaleSummary} {userId : Nat}
    (hchildren : outage .children = none)
    (henrollments : outage .enrollments = none) (hevents : outage .events = none)
    (hpayments : enrollmentsForParent site.db.val userId = [] ∨ outage .payments = none) :
    fetchFamily outage site m summary userId = fetchFamily noOutage site m summary userId := by
  obtain ⟨events, hread, -⟩ := eventsForParent_eq site.db userId
  unfold fetchFamily
  rw [hread]
  rw [reading_of_none hchildren, reading_of_none henrollments, reading_of_none hevents,
    reading_noOutage, reading_noOutage,
    reading_noOutage]
  simp only [bind, Except.bind, getPayments_of hpayments]

/-- The first of the reads that fails is what they come to. -/
theorem fetchFamily_of_failed {summary : LocaleSummary} {userId : Nat}
    (h : (outage .children).isSome ∨ (outage .enrollments).isSome ∨ (outage .events).isSome ∨
      enrollmentsForParent site.db.val userId ≠ [] ∧ (outage .payments).isSome) :
    ∃ f, fetchFamily outage site m summary userId = .error f := by
  obtain ⟨events, hread, -⟩ := eventsForParent_eq site.db userId
  unfold fetchFamily
  rw [hread]
  cases hchildren : outage .children with
  | some f =>
    rw [reading_of_some hchildren]
    exact ⟨f, rfl⟩
  | none =>
    rw [reading_of_none hchildren]
    cases henrollments : outage .enrollments with
    | some f =>
      rw [reading_of_some henrollments]
      exact ⟨f, rfl⟩
    | none =>
      rw [reading_of_none henrollments]
      cases hevents : outage .events with
      | some f =>
        rw [reading_of_some hevents]
        exact ⟨f, rfl⟩
      | none =>
        rw [reading_of_none hevents]
        rw [hchildren, henrollments, hevents] at h
        simp only [Option.isSome_none, Bool.false_eq_true, false_or] at h
        obtain ⟨hsome, hpayments⟩ := h
        obtain ⟨f, hf⟩ := Option.isSome_iff_exists.1 hpayments
        refine ⟨f, ?_⟩
        simp only [bind, Except.bind]
        unfold getPaymentsForEnrollments
        rw [if_neg hsome, reading_of_some hf]

/-- The lookup of the parent raises, and it is all that went wrong by then. -/
def Hidden (outage : Outage) (email : String) : Prop :=
  outage .summary = none ∧ email ≠ "" ∧ ∃ message, outage .user = some (.raised message)

variable [Unicode]

/-- Some read that is made for the school fails. -/
def readFails (outage : Outage) (site : Site) (email : String) : Bool :=
  (outage .summary).isSome ||
    (email ≠ "" && ((outage .user).isSome ||
      (userByEmail site.db.val email).any fun u =>
        (outage .children).isSome || (outage .enrollments).isSome || (outage .events).isSome ||
          (enrollmentsForParent site.db.val u.id ≠ [] && (outage .payments).isSome)))

theorem getUserByEmail_of_none (h : outage .user = none) :
    getUserByEmail outage site email = .ok (userByEmail site.db.val email) := by
  unfold getUserByEmail userByEmail
  by_cases hemail : email = ""
  · rw [if_pos hemail, if_pos hemail]
  · rw [if_neg hemail, if_neg hemail, h]

/-- **A school whose reads come back** has the section that it has when nothing fails. -/
theorem fetchSchool_of_sound (h : readFails outage site email = false) :
    fetchSchool outage site email m = fetchSchool noOutage site email m ∧
      (fetchSchool outage site email m).status = .ok := by
  unfold readFails at h
  rw [Bool.or_eq_false_iff] at h
  obtain ⟨hsummary, h⟩ := h
  have hsummary : outage .summary = none := by simpa using hsummary
  unfold fetchSchool fetchOneSchool
  rw [reading_of_none hsummary, reading_noOutage]
  by_cases hemail : email = ""
  · simp [hemail, getUserByEmail, emptySection, bind, Except.bind, pure, Except.pure]
  · simp only [ne_eq, hemail, not_false_eq_true, decide_true, Bool.true_and,
      Bool.or_eq_false_iff] at h
    obtain ⟨huser, h⟩ := h
    have huser : outage .user = none := by simpa using huser
    have hcalm : getUserByEmail noOutage site email = .ok (userByEmail site.db.val email) :=
      getUserByEmail_of_none rfl
    simp only [bind, Except.bind, getUserByEmail_of_none huser, hcalm]
    cases hfound : userByEmail site.db.val email with
    | none => exact ⟨rfl, rfl⟩
    | some u =>
      rw [hfound] at h
      simp only [Option.any_some, Bool.or_eq_false_iff, Option.isSome_eq_false_iff,
        Option.isNone_iff_eq_none, Bool.and_eq_false_iff, decide_eq_false_iff_not, not_not] at h
      obtain ⟨⟨⟨hchildren, henrollments⟩, hevents⟩, hpayments⟩ := h
      obtain ⟨s, hcalm, hok⟩ := fetchFamily_noOutage site m (getLocaleSummary site) u.id
      dsimp only
      rw [fetchFamily_of_sound hchildren henrollments hevents hpayments, hcalm]
      exact ⟨rfl, hok⟩

/-- **A failed lookup of the parent** passes for a school where the parent is nobody yet. -/
theorem fetchSchool_of_hidden (h : Hidden outage email) :
    fetchSchool outage site email m = emptySection m (getLocaleSummary site) := by
  obtain ⟨hsummary, hemail, message, huser⟩ := h
  unfold fetchSchool fetchOneSchool getUserByEmail
  rw [reading_of_none hsummary, if_neg hemail, huser]
  rfl

/-- Any other failure is told. -/
theorem fetchSchool_of_failed (h : readFails outage site email = true)
    (hidden : ¬Hidden outage email) :
    ∃ message, fetchSchool outage site email m = errorSection m message := by
  have htold : ∀ f, fetchOneSchool outage site m email = .error f →
      ∃ message, fetchSchool outage site email m = errorSection m message := by
    intro f hf
    refine ⟨f.message, ?_⟩
    unfold fetchSchool
    rw [hf]
  unfold readFails at h
  cases hsummary : outage .summary with
  | some f =>
    refine htold f ?_
    unfold fetchOneSchool
    rw [reading_of_some hsummary]
    rfl
  | none =>
    simp only [hsummary, Option.isSome_none, Bool.false_or, Bool.and_eq_true, ne_eq,
      decide_eq_true_eq] at h
    obtain ⟨hemail, h⟩ := h
    cases huser : outage .user with
    | some f =>
      cases f with
      | raised message => exact absurd ⟨hsummary, hemail, message, huser⟩ hidden
      | timedOut =>
        refine htold .timedOut ?_
        unfold fetchOneSchool getUserByEmail
        rw [reading_of_none hsummary, if_neg hemail, huser]
        rfl
    | none =>
      rw [huser, Option.isSome_none, Bool.false_or] at h
      cases hfound : userByEmail site.db.val email with
      | none =>
        rw [hfound] at h
        cases h
      | some u =>
        rw [hfound] at h
        simp only [Option.any_some, Bool.or_eq_true, Bool.and_eq_true, decide_eq_true_eq,
          or_assoc] at h
        obtain ⟨f, hf⟩ : ∃ f, fetchFamily outage site m (getLocaleSummary site) u.id = .error f :=
          fetchFamily_of_failed h
        refine htold f ?_
        unfold fetchOneSchool
        rw [reading_of_none hsummary, getUserByEmail_of_none huser, hfound]
        exact hf

/-! ## The sections -/

/-- A section that is read is empty, or the one of a user's family. -/
theorem fetchOneSchool_cases {s : SchoolSection} (h : fetchOneSchool outage site m email = .ok s) :
    (∃ summary, s = emptySection m summary) ∨ ∃ summary u, userByEmail site.db.val email = some u ∧
      fetchFamily outage site m summary u.id = .ok s := by
  unfold fetchOneSchool at h
  cases hsummary : reading outage .summary (.ok (getLocaleSummary site)) with
  | error f =>
    rw [hsummary] at h
    cases h
  | ok summary =>
    cases huser : getUserByEmail outage site email with
    | error f =>
      rw [hsummary, huser] at h
      cases h
    | ok found =>
      rw [hsummary, huser] at h
      cases found with
      | none =>
        cases h
        exact .inl ⟨summary, rfl⟩
      | some u =>
        refine .inr ⟨summary, u, ?_, h⟩
        unfold getUserByEmail at huser
        by_cases hemail : email = ""
        · rw [if_pos hemail] at huser
          cases huser
        · rw [if_neg hemail] at huser
          split at huser
          · cases huser
          · cases huser
          · exact Except.ok.inj huser

omit [Unicode] in
/-- What the section of a family is made of. -/
theorem fetchFamily_ok {s : SchoolSection} {summary : LocaleSummary} {userId : Nat}
    (h : fetchFamily outage site m summary userId = .ok s) :
    ∃ events, eventsForParent site.db userId = .ok events ∧
      s = { emptySection m summary with
        children := ((linkedStudents site.db.val userId).map (childRow site)).map childEntry
        enrollments := (enrollmentsForParent site.db.val userId).map
          (familyEnrollment events (paymentOf site)) } := by
  obtain ⟨events, hread, -⟩ := eventsForParent_eq site.db userId
  refine ⟨events, hread, ?_⟩
  unfold fetchFamily at h
  rw [hread] at h
  cases hchildren : outage .children with
  | some f =>
    rw [reading_of_some hchildren] at h
    cases h
  | none =>
    cases henrollments : outage .enrollments with
    | some f =>
      rw [reading_of_none hchildren, reading_of_some henrollments] at h
      cases h
    | none =>
      cases hevents : outage .events with
      | some f =>
        rw [reading_of_none hchildren, reading_of_none henrollments, reading_of_some hevents] at h
        cases h
      | none =>
        rw [reading_of_none hchildren, reading_of_none henrollments, reading_of_none hevents] at h
        simp only [bind, Except.bind, pure, Except.pure] at h
        unfold getPaymentsForEnrollments at h
        by_cases hnone : enrollmentsForParent site.db.val userId = []
        · rw [if_pos hnone] at h
          rw [hnone] at h ⊢
          exact (Except.ok.inj h).symm
        · rw [if_neg hnone] at h
          cases hpayments : outage .payments with
          | some f =>
            rw [reading_of_some hpayments] at h
            cases h
          | none =>
            rw [reading_of_none hpayments] at h
            exact (Except.ok.inj h).symm

/-- What can be read of a section: its place, and the fields of its children. -/
theorem fetchOneSchool_ok {s : SchoolSection} (h : fetchOneSchool outage site m email = .ok s) :
    s.tenantId = m.tenantId ∧ s.role = m.role ∧ ∀ c ∈ s.children, ∀ f ∈ c, f.1 ∈ childFields := by
  rcases fetchOneSchool_cases h with ⟨summary, rfl⟩ | ⟨summary, u, -, hfamily⟩
  · exact ⟨rfl, rfl, fun c hc => absurd hc List.not_mem_nil⟩
  · obtain ⟨events, -, rfl⟩ := fetchFamily_ok hfamily
    refine ⟨rfl, rfl, ?_⟩
    intro c hc f hf
    obtain ⟨row, -, rfl⟩ := List.mem_map.1 hc
    obtain ⟨k, hk, rfl⟩ := List.mem_map.1 hf
    exact hk

theorem fetchSchool_place (outage : Outage) (site : Site) (email : String) (m : Membership) :
    (fetchSchool outage site email m).tenantId = m.tenantId ∧
      (fetchSchool outage site email m).role = m.role ∧
      ∀ c ∈ (fetchSchool outage site email m).children, ∀ f ∈ c, f.1 ∈ childFields := by
  unfold fetchSchool
  cases h : fetchOneSchool outage site m email with
  | ok s => exact fetchOneSchool_ok h
  | error f => exact ⟨rfl, rfl, fun c hc => absurd hc List.not_mem_nil⟩

end Reads

/-! ## The overview -/

section Overview

variable [Unicode] (sites : String → Site) (outage : Nat → Outage) (email : String)
  (memberships : List Membership)

/-- The section of the membership at a place. -/
def sectionAt (p : Membership × Nat) : SchoolSection :=
  fetchSchool (outage p.2) (sites p.1.tenantId) email p.1

/-- The reads of the school at a place. -/
def failsAt (p : Membership × Nat) : Bool := readFails (outage p.2) (sites p.1.tenantId) email

/-- **Failing schools are isolated**: under every schedule the schools come back, each has
its section in the order of the memberships, the failed ones are named, and the others are as on a
day without failures. No child has a field that is not in the list. -/
structure Isolated : Prop where
  ends : ∀ turns, ∃ more o, getOverview sites outage email memberships (turns ++ more) =
    .ok (some o)
  order : ∀ turns o, getOverview sites outage email memberships turns = .ok (some o) →
    o.schools.map (fun s => (s.tenantId, s.role)) = memberships.map fun m => (m.tenantId, m.role)
  degraded : ∀ turns o, getOverview sites outage email memberships turns = .ok (some o) →
    o.degraded = (memberships.zipIdx.filter (failsAt sites outage email)).map fun p => p.1.tenantId
  others : ∀ turns o calm o', getOverview sites outage email memberships turns = .ok (some o) →
    getOverview sites (fun _ => noOutage) email memberships calm = .ok (some o') →
    ∀ p ∈ memberships.zipIdx, failsAt sites outage email p = false →
      o.schools[p.2]? = o'.schools[p.2]?
  children : ∀ turns o, getOverview sites outage email memberships turns = .ok (some o) →
    ∀ s ∈ o.schools, ∀ c ∈ s.children, ∀ f ∈ c, f.1 ∈ childFields

variable {sites outage email memberships}

omit [Unicode] in
/-- An exception that `gather` hands back never arises: `fetch_school` caught it. -/
theorem collect_ok (ms : List Membership) (sections : List SchoolSection)
    (h : sections.length = ms.length) :
    (collect ms (sections.map .ok)).schools = sections := by
  unfold collect
  dsimp only
  induction ms generalizing sections with
  | nil => rw [List.length_eq_zero_iff.1 h]; rfl
  | cons m ms ih =>
    cases sections with
    | nil => cases h
    | cons s sections =>
      rw [List.map_cons, List.zipWith_cons_cons, ih sections (by simpa using h)]

/-- What an overview that has come back is. -/
theorem getOverview_some {turns : List Fanout.Turn} {o : Overview}
    (h : getOverview sites outage email memberships turns = .ok (some o)) :
    o.schools = memberships.zipIdx.map (sectionAt sites outage email) ∧
      o.degraded = (o.schools.filter fun s => s.status = .error).map SchoolSection.tenantId := by
  unfold getOverview at h
  split_ifs at h
  dsimp only at h
  rw [Except.ok.injEq, Option.map_eq_some_iff] at h
  obtain ⟨results, hresults, rfl⟩ := h
  refine ⟨?_, rfl⟩
  rw [Fanout.gathered hresults]
  have hfetches : fetches sites outage email memberships =
      (memberships.zipIdx.map (sectionAt sites outage email)).map .ok := by
    rw [List.map_map]
    rfl
  rw [hfetches]
  exact collect_ok _ _ (by simp)

theorem getOverview_ends (hlen : memberships.length ≤ maxMemberships) (turns : List Fanout.Turn) :
    ∃ more o, getOverview sites outage email memberships (turns ++ more) = .ok (some o) := by
  have hcap : 0 < permits memberships.length := by
    unfold permits maxConcurrency
    split_ifs <;> omega
  obtain ⟨more, hmore⟩ := Fanout.completes hcap
    ((Fanout.sound_initial (fetches sites outage email memberships)).run _ turns)
  refine ⟨more, collect memberships (fetches sites outage email memberships), ?_⟩
  unfold getOverview
  rw [if_neg (by omega)]
  dsimp only
  rw [run_append, hmore]
  rfl

omit [Unicode] in
/-- A filter that keeps no more than another, and as much, keeps the same. -/
theorem keeps_of_length {α : Type} {p q : α → Bool} {l : List α}
    (hpq : ∀ a ∈ l, p a = true → q a = true)
    (hlen : (l.filter q).length ≤ (l.filter p).length) : ∀ a ∈ l, q a = true → p a = true := by
  have hsub : (l.filter q).filter p = l.filter p := by
    rw [List.filter_filter]
    refine List.filter_congr fun a ha => ?_
    cases hp : p a with
    | true => simp [hpq a ha hp]
    | false => simp
  have hall : ((l.filter q).filter p).length = (l.filter q).length := by
    have hle := List.length_filter_le p (l.filter q)
    rw [hsub] at hle ⊢
    omega
  intro a ha hq
  exact List.length_filter_eq_length_iff.1 hall a (List.mem_filter.2 ⟨ha, hq⟩)

/-- The sections that tell of an error. -/
theorem degraded_eq {turns : List Fanout.Turn} {o : Overview}
    (h : getOverview sites outage email memberships turns = .ok (some o)) :
    o.degraded = (memberships.zipIdx.filter fun p =>
      (sectionAt sites outage email p).status = .error).map fun p => p.1.tenantId := by
  obtain ⟨hschools, hdegraded⟩ := getOverview_some h
  rw [hdegraded, hschools, List.filter_map, List.map_map]
  refine List.map_congr_left fun p _ => ?_
  exact (fetchSchool_place (outage p.2) (sites p.1.tenantId) email p.1).1

/-- A section tells of an error only when a read failed, and always unless the failure is hidden. -/
theorem sectionAt_status (p : Membership × Nat) :
    ((sectionAt sites outage email p).status = .error → failsAt sites outage email p = true) ∧
      (failsAt sites outage email p = true → ¬Hidden (outage p.2) email →
        (sectionAt sites outage email p).status = .error) := by
  constructor
  · intro hstatus
    cases hfails : failsAt sites outage email p with
    | true => rfl
    | false =>
      have hok := (fetchSchool_of_sound (m := p.1) hfails).2
      rw [sectionAt, hok] at hstatus
      cases hstatus
  · intro hfails hidden
    obtain ⟨message, hsection⟩ := fetchSchool_of_failed (m := p.1) hfails hidden
    rw [sectionAt, hsection]
    rfl

theorem failsAt_of_hidden {p : Membership × Nat} (h : Hidden (outage p.2) email) :
    failsAt sites outage email p = true := by
  obtain ⟨-, hemail, message, huser⟩ := h
  simp [failsAt, readFails, hemail, huser]

/-- **Failing schools are isolated** just when no lookup of the parent raises. -/
theorem isolated_iff (sites : String → Site) (outage : Nat → Outage) (email : String)
    (memberships : List Membership) (hlen : memberships.length ≤ maxMemberships) :
    Isolated sites outage email memberships ↔
      ∀ i < memberships.length, ¬Hidden (outage i) email := by
  constructor
  · intro h i hi hidden
    obtain ⟨turns, o, ho⟩ := h.ends []
    rw [List.nil_append] at ho
    have hlists := h.degraded turns o ho
    rw [degraded_eq ho] at hlists
    have hlength := congrArg List.length hlists
    rw [List.length_map, List.length_map] at hlength
    have hmem : (memberships[i], i) ∈ memberships.zipIdx := by
      rw [List.mem_zipIdx_iff_getElem?]
      exact List.getElem?_eq_getElem hi
    have herror := keeps_of_length (fun p _ hp => (sectionAt_status p).1 (of_decide_eq_true hp))
      hlength.ge (memberships[i], i) hmem (failsAt_of_hidden hidden)
    have hsection : sectionAt sites outage email (memberships[i], i) =
        emptySection memberships[i] (getLocaleSummary (sites memberships[i].tenantId)) :=
      fetchSchool_of_hidden hidden
    rw [decide_eq_true_eq, hsection] at herror
    cases herror
  · intro h
    have hseen : ∀ p ∈ memberships.zipIdx, ¬Hidden (outage p.2) email := by
      intro p hp
      obtain ⟨hi, -⟩ := List.getElem?_eq_some_iff.1 (List.mem_zipIdx_iff_getElem?.1 hp)
      exact h p.2 hi
    refine ⟨getOverview_ends hlen, fun turns o ho => ?_, fun turns o ho => ?_,
      fun turns o calm o' ho ho' p hp hfails => ?_, fun turns o ho s hs => ?_⟩
    · rw [(getOverview_some ho).1, List.map_map]
      have hplace : ∀ p ∈ memberships.zipIdx, ((fun s : SchoolSection => (s.tenantId, s.role)) ∘
          sectionAt sites outage email) p = (fun m : Membership => (m.tenantId, m.role)) p.1 := by
        intro p _
        obtain ⟨htenant, hrole, -⟩ := fetchSchool_place (outage p.2) (sites p.1.tenantId) email p.1
        exact Prod.ext htenant hrole
      calc memberships.zipIdx.map ((fun s : SchoolSection => (s.tenantId, s.role)) ∘
            sectionAt sites outage email)
          = memberships.zipIdx.map fun p => (p.1.tenantId, p.1.role) := List.map_congr_left hplace
        _ = (memberships.zipIdx.map Prod.fst).map fun m => (m.tenantId, m.role) := by
          rw [List.map_map]
          rfl
        _ = memberships.map fun m => (m.tenantId, m.role) := by rw [List.zipIdx_map_fst]
    · rw [degraded_eq ho]
      congr 1
      refine List.filter_congr fun p hp => ?_
      rw [Bool.eq_iff_iff, decide_eq_true_eq]
      exact ⟨(sectionAt_status p).1, fun hfails => (sectionAt_status p).2 hfails (hseen p hp)⟩
    · have hi := List.mem_zipIdx_iff_getElem?.1 hp
      have hsame := (fetchSchool_of_sound (m := p.1) hfails).1
      rw [(getOverview_some ho).1, (getOverview_some ho').1, List.getElem?_map, List.getElem?_map,
        List.getElem?_zipIdx, hi]
      simp only [Option.map_some, Nat.zero_add, Option.some.injEq]
      exact hsame
    · rw [(getOverview_some ho).1] at hs
      obtain ⟨p, -, rfl⟩ := List.mem_map.1 hs
      exact (fetchSchool_place (outage p.2) (sites p.1.tenantId) email p.1).2.2

end Overview

/-! ## A lookup that raises -/

section Example

attribute [local instance] ascii

/-- The small school as a tenant. -/
def tripSite : Site where
  state :=
    { val :=
        { school := tripSchool.val, profile := some {}, campuses := [], contacts := []
          campusSeq := 0, contactSeq := 0 }
      ok := by decide +kernel }
  studentCreatedAt _ := 0
  paymentCreatedAt _ := 0

/-- The users of the second school cannot be read. -/
def usersDown : Nat → Outage := fun i r =>
  if i = 1 ∧ r = .user then some (.raised "connection was closed") else none

def twoMemberships : List Membership := [⟨"north", "parent"⟩, ⟨"south", "parent"⟩]

/-- The second school is shown as one where the parent has no children. -/
theorem lookup_passes_for_empty :
    ¬Isolated (fun _ => tripSite) usersDown "p@school" twoMemberships := by
  intro h
  obtain ⟨turns, o, ho⟩ := h.ends []
  rw [List.nil_append] at ho
  have hdegraded := h.degraded turns o ho
  rw [degraded_eq ho] at hdegraded
  revert hdegraded
  decide +kernel

/-- The lookup of the first school does not come back in time, and the profile of the second cannot
be read. -/
def twoOfThreeDown : Nat → Outage := fun i r =>
  if i = 0 ∧ r = .user then some .timedOut
  else if i = 1 ∧ r = .summary then some (.raised "connection was closed")
  else none

def threeMemberships : List Membership := twoMemberships ++ [⟨"west", "parent"⟩]

/-- Both are named, and the third is as on a day without failures. -/
theorem isolated_twoOfThree : threeMemberships.length ≤ maxMemberships ∧
    Isolated (fun _ => tripSite) twoOfThreeDown "p@school" threeMemberships := by
  refine ⟨by decide, (isolated_iff _ _ _ _ (by decide)).2 ?_⟩
  rintro i - ⟨-, -, message, hraised⟩
  unfold twoOfThreeDown at hraised
  rw [if_neg (by simp : ¬(i = 1 ∧ Read.user = .summary))] at hraised
  split_ifs at hraised
  cases hraised

end Example

end Sams.Family
