import Sams.Trips.Leaks
import Sams.Trips.Publishing

/-!
# The calls that tell the amounts

For each route that answers with the event as it is stored, and each actor whom it lets
through, a school in which a call of that actor succeeds, whatever the subsidy of its
event: the answer tells it.
-/

namespace Sams.Trips

open School Programs Rows Runs Interleaving TenantRepository TenantService

/-! ## Calls that succeed -/

section Succeed

variable {actor : Actor} {eventId : Nat} {d d₁ d₂ : Db} {row row' : EventRow}

theorem getEventById_returns (i : Nat) (d : Db) : (getEventById i).seq d =
    .ok ((d.val.event? i).map fun row => ⟨row, classMappings d.val i⟩) d := by
  rw [getEventById_seq]
  rfl

theorem getEventById_bind_seq {α : Type} {f : Option Event → Task α}
    (h : d.val.event? eventId = some row) :
    (getEventById eventId >>= f).seq d = (f (some ⟨row, classMappings d.val eventId⟩)).seq d := by
  have hget := getEventById_returns eventId d
  rw [h] at hget
  rw [Proc.seq_bind, bind_of_ok hget]
  rfl

theorem failIf_bind_seq {α : Type} {c : Prop} [Decidable c] {e : PyError} {f : Unit → Task α}
    (h : ¬c) : (Proc.failIf c e >>= f).seq d = (f ()).seq d := by
  unfold Proc.failIf
  rw [if_neg h]
  rfl

theorem bind_seq_of_ok {α β : Type} {p : Task α} {f : α → Task β} {a : α} (h : p.seq d = .ok a d₁) :
    (p >>= f).seq d = (f a).seq d₁ := by
  rw [Proc.seq_bind, bind_of_ok h]

theorem wrap_seq_of_ok {α : Type} {p : Task α} {g : PyError → PyError} {a : α}
    (h : p.seq d = .ok a d₁) : (p.wrap g).seq d = .ok a d₁ := by
  rw [Proc.seq_wrap, rescue_of_ok h]

/-- A transition succeeds when its checks, its effects and its write do. -/
theorem transitionEvent_seq {action : EventAction} {next : EventStatus} {role : String}
    {reason : Option String} {now : Timestamp} {fields : UpdateFields}
    (hevent : d.val.event? eventId = some row)
    (htransition : transitions row.status action = some (next, role))
    (hrole : actor.isOneOf (allowedFor action role) = true)
    (hchecks : (checkPreconditions ⟨row, classMappings d.val eventId⟩ action actor reason).seq d =
      .ok () d)
    (heffects : (effects eventId ⟨row, classMappings d.val eventId⟩ next action actor reason
      now).seq d = .ok fields d₁)
    (hwrite : updateEventStatus eventId fields d₁ = .ok () d₂)
    (hafter : d₂.val.event? eventId = some row') :
    (transitionEvent eventId action actor reason now).seq d =
      .ok (some ⟨row', classMappings d₂.val eventId⟩) d₂ := by
  have hmarked : (Proc.marked (.status eventId row.status next) (updateEventStatus eventId fields) :
      Task Unit).seq d₁ = .ok () d₂ := by
    rw [Proc.seq_marked]
    exact hwrite
  unfold transitionEvent
  rw [getEventById_bind_seq hevent]
  dsimp only
  rw [htransition]
  dsimp only
  rw [failIf_bind_seq (not_not.2 hrole), bind_seq_of_ok hchecks, bind_seq_of_ok heffects,
    bind_seq_of_ok hmarked, getEventById_returns, hafter]
  rfl

end Succeed

/-! ## The school of a teacher -/

/-- A school with one class, whose head is the teacher `n`. -/
def tripTables (n : Nat) (events : List EventRow) (maps : List EventClassRow)
    (notes : List NotificationRow) (seq : Sequences) : Tables :=
  { smallSchoolTables with
    users := [{ id := n, email := "t@school", role := "teacher", roles := [] }]
    teachers := [{ id := n, name := "T" }]
    classes := [⟨1, "G1 - A", 1, some n, 25, true, 1, some "A"⟩]
    students := []
    events := events
    eventClasses := maps
    notifications := notes
    seq := seq }

/-- Rows of events that the tables of the school take. -/
structure TripRows (n : Nat) (events : List EventRow) (maps : List EventClassRow)
    (notes : List NotificationRow) : Prop where
  events_keyed : Keyed EventRow.id events
  maps_keyed : Keyed EventClassRow.id maps
  notes_keyed : Keyed NotificationRow.id notes
  created : ∀ e ∈ events, e.createdBy = n ∧ e.managerReviewerId = none ∧ e.financeReviewerId = none
  amounts : ∀ e ∈ events, ∀ m ∈ e.amounts, Numeric m
  attendance : ∀ e ∈ events, ∀ k ∈ e.predictedAttendance, Int4 k
  mapped : ∀ m ∈ maps, m.classId = 1 ∧ m.eventId ∈ events.map EventRow.id ∧ Numeric m.ticketPrice
  notified : ∀ x ∈ notes, x.eventId ∈ events.map EventRow.id ∧ x.recipientUserId = n ∧
    ∀ title ∈ x.titleOverride, title.length ≤ 255

theorem tripTables_ok {n : Nat} {events : List EventRow} {maps : List EventClassRow}
    {notes : List NotificationRow} (h : TripRows n events maps notes) (seq : Sequences) :
    (tripTables n events maps notes seq).Ok := by
  obtain ⟨hevents, hmaps, hnotes, hcreated, hamounts, hattendance, hmapped, hnotified⟩ := h
  have hclass : ∀ m ∈ maps, m.classId = 1 := fun m hm => (hmapped m hm).1
  have hmap : ∀ m ∈ maps, m.eventId ∈ events.map EventRow.id := fun m hm => (hmapped m hm).2.1
  have hcreator : ∀ e ∈ events, e.createdBy = n := fun e he => (hcreated e he).1
  have hmanager : ∀ e ∈ events, ∀ k, e.managerReviewerId = some k → k = n := by
    intro e he k hk
    rw [(hcreated e he).2.1] at hk
    cases hk
  have hfinance : ∀ e ∈ events, ∀ k, e.financeReviewerId = some k → k = n := by
    intro e he k hk
    rw [(hcreated e he).2.2] at hk
    cases hk
  have hnote : ∀ x ∈ notes, x.eventId ∈ events.map EventRow.id := fun x hx => (hnotified x hx).1
  have hrecipient : ∀ x ∈ notes, x.recipientUserId = n := fun x hx => (hnotified x hx).2.1
  have hprice : ∀ m ∈ maps, Numeric m.ticketPrice := fun m hm => (hmapped m hm).2.2
  have htitle : ∀ x ∈ notes, ∀ title, x.titleOverride = some title → title.length ≤ 255 :=
    fun x hx => (hnotified x hx).2.2
  constructor
  · constructor <;> simp [tripTables, smallSchoolTables, Keyed] <;> assumption
  · constructor <;> simp [tripTables, smallSchoolTables, Keyed]
  · constructor <;> simp [tripTables, smallSchoolTables, LevelRow.integers] <;>
      first | assumption | decide
  · constructor <;> simp [tripTables, smallSchoolTables, Refers]
  · constructor <;> simp [tripTables, smallSchoolTables, Refers]
    exact hclass
  · constructor <;> simp only [tripTables, smallSchoolTables, Refers, Option.mem_def] <;>
      simp <;> first | assumption | simpa using hmap
  · constructor <;> simp [tripTables, smallSchoolTables, Refers] <;>
      first | assumption | simpa using hnote

/-- The event of the school. -/
def tripEvent (n : Nat) (status : EventStatus) (amount : Money) : EventRow where
  id := 1
  title := "Museum"
  address := some ""
  schoolSubsidy := amount
  date := 0
  createdBy := n
  createdAt := 0
  status := status

/-- The event is for the class. -/
def tripClass : EventClassRow := { id := 1, eventId := 1, classId := 1 }

/-- The school with one event. -/
theorem tripRows_single {n : Nat} {e : EventRow} {notes : List NotificationRow} (hid : e.id = 1)
    (hcreated : e.createdBy = n) (hmanager : e.managerReviewerId = none)
    (hfinance : e.financeReviewerId = none) (hamounts : ∀ m ∈ e.amounts, Numeric m)
    (hattendance : ∀ k ∈ e.predictedAttendance, Int4 k) (hkeyed : Keyed NotificationRow.id notes)
    (hnotes : ∀ x ∈ notes, x.eventId = 1 ∧ x.recipientUserId = n ∧
      ∀ title ∈ x.titleOverride, title.length ≤ 255) : TripRows n [e] [tripClass] notes where
  events_keyed := by simp [Keyed]
  maps_keyed := by simp [Keyed]
  notes_keyed := hkeyed
  created := by simpa using ⟨hcreated, hmanager, hfinance⟩
  amounts := by simpa using hamounts
  attendance := by simpa using hattendance
  mapped := by simpa [tripClass, hid] using numeric_zero
  notified := by simpa [hid] using hnotes

theorem tripRows {n : Nat} {status : EventStatus} {amount : Money} (h : Numeric amount) :
    TripRows n [tripEvent n status amount] [tripClass] [] :=
  tripRows_single rfl rfl rfl rfl (by simpa [EventRow.amounts, tripEvent] using h)
    (by simp [tripEvent]) (by simp [Keyed]) (by simp)

/-- The teacher's school, with an event of some status and with some subsidy. -/
def trip (n : Nat) (status : EventStatus) (amount : Money) (h : Numeric amount) : Db where
  val := tripTables n [tripEvent n status amount] [tripClass] [] (.startAt 2)
  ok := tripTables_ok (tripRows h) _

/-- Some call of the route tells the actor the subsidy of an event, whatever it is. -/
def Discloses (actor : Actor) (route : Route) : Prop :=
  ∃ n status call, EventCall.route call = route ∧ ∀ amount h, ∃ event,
    call.answer actor (trip n status amount h) = .ok (.event event) ∧
      event.schoolSubsidy = some amount

theorem samePublic_trip (n : Nat) (status : EventStatus) {amount amount' : Money}
    (h : Numeric amount) (h' : Numeric amount') :
    SamePublic (trip n status amount h) (trip n status amount' h') := rfl

theorem not_private_of_discloses {actor : Actor} {r : Route} (h : Discloses actor r) :
    ¬Private r actor := by
  intro hprivate
  obtain ⟨n, status, call, hroute, hanswer⟩ := h
  have hone : Numeric 1 := by decide
  obtain ⟨event, hevent, hamount⟩ := hanswer 0 numeric_zero
  obtain ⟨event', hevent', hamount'⟩ := hanswer 1 hone
  have hsame := hprivate call hroute _ _ (samePublic_trip n status numeric_zero hone)
  rw [hevent, hevent'] at hsame
  cases hsame
  rw [hamount] at hamount'
  exact absurd hamount' (by decide)

section Discloses

variable {actor : Actor} {n : Nat} {amount : Money} (h : Numeric amount)

theorem event?_trip (status : EventStatus) :
    (trip n status amount h).val.event? 1 = some (tripEvent n status amount) := rfl

/-! ### Editing

A request that writes back what it has read changes nothing. -/

theorem setFields_same {d : Db} {i : Nat} {row : EventRow} (hrow : d.val.event? i = some row) :
    setFields i (EventsRouter.patchedFields row {}) d = .ok () d := by
  obtain ⟨hmem, hid⟩ := d.ok.keys.events.find?_eq_some.1 hrow
  have hsame : updateWhere (fun e => decide (e.id = i)) (fun e =>
      { e with
        title := row.title
        description := row.description
        address := row.address
        schoolSubsidy := row.schoolSubsidy
        date := row.date }) d.val.events = d.val.events := by
    refine updateWhere_eq_self fun e he hei => ?_
    have heq : e = row := d.ok.keys.events.eq_of_key_eq he hmem (by simp_all)
    rw [heq]
  unfold setFields
  exact exec_eq_ok.2 (congrArg (fun events => ({ d.val with events } : Tables)) hsame).symm

theorem discloses_patch (hactor : ¬MaySet actor) (hpatch : Tells actor .patch) :
    Discloses actor .patch := by
  obtain ⟨htenant, hteaches, n, hid⟩ := hpatch
  refine ⟨n, .draft, .patch 1 {}, rfl, fun amount h => ?_⟩
  have hevent := event?_trip (n := n) h .draft
  have heditable : EventService.isEditable actor (tripEvent n .draft amount) = .ok true :=
    (isEditable_iff hactor).2 ⟨rfl, hid, hteaches⟩
  have hwrite : (Proc.marked (.keepSubsidy 1 amount) (TenantRepository.updateEvent 1
      (EventsRouter.patchedFields (tripEvent n .draft amount) {})) : Task (Option EventRow)).seq
        (trip n .draft amount h) = .ok (some (tripEvent n .draft amount))
          (trip n .draft amount h) := by
    rw [Proc.seq_marked]
    exact bind_eq_ok.2 ⟨(), _, setFields_same hevent, rfl⟩
  refine ⟨EventsRouter.returned (tripEvent n .draft amount), ?_, rfl⟩
  unfold EventCall.answer EventCall.program
  rw [outcome_map]
  refine congrArg (Except.map Answer.event) (outcome_of_ok (t := trip n .draft amount h) ?_)
  unfold EventsRouter.patchEvent EventsRouter.requireTenant
  rw [failIf_bind_seq (by simpa [Option.isSome_iff_ne_none] using htenant)]
  refine wrap_seq_of_ok ?_
  rw [getEventById_bind_seq hevent]
  dsimp only
  rw [heditable]
  refine (failIf_bind_seq (by simp)).trans ?_
  exact (bind_seq_of_ok hwrite).trans rfl

/-- The teacher may write the classes of the event, none here. -/
theorem ownMappings_seq (status : EventStatus)
    (hown : "event_teacher" ∈ actor.user.roles ∨
      "teacher" ∈ actor.user.roles ∧ actor.id = .number n) :
    (ownMappings 1 [] actor.user.roles actor.id).seq (trip n status amount h) =
      .ok [] (trip n status amount h) := by
  unfold ownMappings
  by_cases hstaff : "school_admin" ∈ actor.user.roles ∨ "event_teacher" ∈ actor.user.roles ∨
      "manager" ∈ actor.user.roles
  · rw [if_pos hstaff]
    rfl
  · obtain ⟨hteacher, hid⟩ := hown.resolve_left fun hin => hstaff (.inr (.inl hin))
    have hclasses : getClassesByHeadTeacher (trip n status amount h).val n = [1] := by
      simp [getClassesByHeadTeacher, trip, tripTables]
    have hlook : (Proc.look fun d => getClassesByHeadTeacher d.val n : Task (List Nat)).seq
        (trip n status amount h) = .ok [1] (trip n status amount h) := by
      rw [Proc.seq_look, ← hclasses]
      rfl
    rw [if_neg hstaff, if_pos hteacher, hid]
    exact (bind_seq_of_ok hlook).trans rfl

theorem discloses_update (hactor : ¬MaySet actor) (hupdate : Tells actor .update) :
    Discloses actor .update := by
  obtain ⟨hrole, ⟨hteaches, n, hid⟩, hown⟩ := hupdate
  have hown : "event_teacher" ∈ actor.user.roles ∨
      "teacher" ∈ actor.user.roles ∧ actor.id = .number n := by
    refine hown.imp_right fun ⟨hteacher, n', hn'⟩ => ⟨hteacher, ?_⟩
    rw [hn'] at hid
    have hn : (n' : Int) = n := Except.ok.inj hid
    rw [hn', Int.ofNat_inj.1 hn]
  refine ⟨n, .draft, .update 1 { title := "Museum", date := 0 }, rfl, fun amount h => ?_⟩
  have hevent := event?_trip (n := n) h .draft
  have heditable : EventService.isEditable actor (tripEvent n .draft amount) = .ok true :=
    (isEditable_iff hactor).2 ⟨rfl, hid, hteaches⟩
  have hwrite : setFieldsAndClasses 1 (EventsRouter.patchedFields (tripEvent n .draft amount) {}) []
      (trip n .draft amount h) = .ok () (trip n .draft amount h) := by
    unfold setFieldsAndClasses
    exact transaction_eq_ok.2 (bind_eq_ok.2 ⟨(), _, setFields_same hevent, rfl⟩)
  let event : Event := ⟨tripEvent n .draft amount, classMappings (trip n .draft amount h).val 1⟩
  have hupdate : (TenantService.updateEventFull (.keepSubsidy 1 amount) 1
      (EventsRouter.patchedFields (tripEvent n .draft amount) {}) [] actor.user.roles actor.id).seq
        (trip n .draft amount h) = .ok event (trip n .draft amount h) := by
    unfold TenantService.updateEventFull TenantRepository.updateEventFull
    rw [bind_seq_of_ok (ownMappings_seq h .draft hown), bind_assoc]
    have hmarked : (Proc.marked (.keepSubsidy 1 amount) (setFieldsAndClasses 1
        (EventsRouter.patchedFields (tripEvent n .draft amount) {}) []) : Task Unit).seq
          (trip n .draft amount h) = .ok () (trip n .draft amount h) := by
      rw [Proc.seq_marked]
      exact hwrite
    exact (bind_seq_of_ok hmarked).trans (getEventById_bind_seq hevent)
  refine ⟨EventResponse.plain event, ?_, rfl⟩
  unfold EventCall.answer EventCall.program
  rw [outcome_map]
  refine congrArg (Except.map Answer.event) (outcome_of_ok (t := trip n .draft amount h) ?_)
  unfold EventsRouter.updateEvent
  rw [failIf_bind_seq (not_not.2 hrole)]
  refine wrap_seq_of_ok ?_
  rw [getEventById_bind_seq hevent]
  simp only [EventService.resolveSubsidy, if_neg (not_privileged hactor)]
  have hrequired : (EventService.requireEditable actor (tripEvent n .draft amount)).seq
      (trip n .draft amount h) = .ok () (trip n .draft amount h) := by
    unfold EventService.requireEditable
    rw [heditable]
    rfl
  rw [bind_seq_of_ok hrequired]
  exact (bind_seq_of_ok hupdate).trans rfl

/-! ### The workflow -/

/-- A transition of the event that succeeds up to its write succeeds, and keeps the subsidy. -/
theorem transition_trip {status next : EventStatus} {role : String} {d₁ : Db} {seq : Sequences}
    (action : EventAction) (reason : Option String) (now : Timestamp) (fields : UpdateFields)
    (notes : List NotificationRow)
    (htransition : transitions status action = some (next, role))
    (hrole : actor.isOneOf (allowedFor action role) = true)
    (hchecks : (checkPreconditions ⟨tripEvent n status amount,
      classMappings (trip n status amount h).val 1⟩ action actor reason).seq
        (trip n status amount h) = .ok () (trip n status amount h))
    (heffects : (effects 1 ⟨tripEvent n status amount,
      classMappings (trip n status amount h).val 1⟩ next action actor reason now).seq
        (trip n status amount h) = .ok fields d₁)
    (hd₁ : d₁.val = tripTables n [tripEvent n status amount] [tripClass] notes seq)
    (hreviewer : fields.managerReviewerId = none)
    (hattendance : ∀ k ∈ fields.predictedAttendance, Int4 k)
    (hkeyed : Keyed NotificationRow.id notes)
    (hnotes : ∀ x ∈ notes, x.eventId = 1 ∧ x.recipientUserId = n ∧
      ∀ title ∈ x.titleOverride, title.length ≤ 255) :
    ∃ event d₂, (transitionEvent 1 action actor reason now).seq (trip n status amount h) =
      .ok (some event) d₂ ∧ event.row.schoolSubsidy = amount := by
  let row := fields.write none (tripEvent n status amount)
  have hrows : TripRows n [row] [tripClass] notes :=
    tripRows_single rfl rfl rfl rfl (by simpa [EventRow.amounts, row, UpdateFields.write, tripEvent]
      using h) (by simpa [row, UpdateFields.write, tripEvent] using hattendance) hkeyed hnotes
  let d₂ : Db := ⟨tripTables n [row] [tripClass] notes seq, tripTables_ok hrows seq⟩
  have hwrite : updateEventStatus 1 fields d₁ = .ok () d₂ := by
    unfold updateEventStatus
    rw [hreviewer]
    show writeEventStatus 1 fields none d₁ = _
    unfold writeEventStatus
    refine exec_eq_ok.2 ?_
    rw [hd₁]
    rfl
  exact ⟨⟨row, classMappings d₂.val 1⟩, d₂,
    transitionEvent_seq (event?_trip h status) htransition hrole hchecks heffects hwrite rfl, rfl⟩

/-- The answer to a transition tells the subsidy. -/
theorem respond_transition {action : EventAction} {reason : Option String} {now : Timestamp}
    {d : Db} (hdone : ∃ event d₂, (transitionEvent 1 action actor reason now).seq d =
      .ok (some event) d₂ ∧ event.row.schoolSubsidy = amount) :
    ∃ event d₂, (do respond (← transitionEvent 1 action actor reason now) : Task EventResponse).seq
      d =
      .ok event d₂ ∧ event.schoolSubsidy = some amount := by
  obtain ⟨event, d₂, hseq, hamount⟩ := hdone
  exact ⟨.plain event, d₂, bind_seq_of_ok hseq, congrArg some hamount⟩

/-- A route that answers so discloses the subsidy. -/
theorem discloses_of_seq (n : Nat) (status : EventStatus) (call : EventCall)
    {p : Task EventResponse} (hprogram : call.program actor = .event <$> p)
    (hp : ∀ amount h, ∃ event d₂, p.seq (trip n status amount h) = .ok event d₂ ∧
      event.schoolSubsidy = some amount) : Discloses actor call.route := by
  refine ⟨n, status, call, rfl, fun amount h => ?_⟩
  obtain ⟨event, d₂, hseq, hamount⟩ := hp amount h
  refine ⟨event, ?_, hamount⟩
  unfold EventCall.answer
  rw [hprogram, outcome_map, outcome_of_ok hseq]
  rfl

/-- Publishing notifies nobody here. -/
theorem publish_trip {action : EventAction} {role : String} (now : Timestamp)
    (htransition : transitions .approved action = some (.published, role))
    (hrole : actor.isOneOf (allowedFor action role) = true) :
    ∃ event d₂, (transitionEvent 1 action actor none now).seq (trip n .approved amount h) =
      .ok (some event) d₂ ∧ event.row.schoolSubsidy = amount := by
  cases action with
  | submit =>
    exact transition_trip h .submit none now { status := .published } [] htransition hrole rfl rfl
      rfl rfl (by simp) (by simp [Keyed]) (by simp)
  | teacherPublish | publish | managerPublish =>
    exact transition_trip h _ none now { status := .published, publishedAt := some now } []
      htransition hrole rfl rfl rfl rfl (by simp) (by simp [Keyed]) (by simp)
  | _ => cases htransition

theorem discloses_publish (hactor : ¬MaySet actor) (hpublish : Tells actor .publish) :
    Discloses actor .publish := by
  obtain ⟨htenant, hroles, hrole⟩ := hpublish
  refine discloses_of_seq 0 .approved (.publish 1 0) rfl fun amount h => ?_
  obtain ⟨event, d₂, hseq, hamount⟩ := respond_transition (publish_trip (n := 0) h 0 rfl hrole)
  refine ⟨event, d₂, ?_, hamount⟩
  unfold EventsRouter.teacherPublishEvent EventsRouter.requireTenant
    EventService.resolvePublishAction
  rw [failIf_bind_seq (by simpa [Option.isSome_iff_ne_none] using htenant),
    failIf_bind_seq (not_not.2 hroles), if_neg (not_manager hactor)]
  exact wrap_seq_of_ok hseq

/-- A submission notifies nobody here either. -/
theorem submitEffects_trip (event : Event)
    (hclasses : event.classMappings.map ClassMapping.classId = [1])
    (now : Timestamp) : (effects 1 event .proposed .submitForApproval actor none now).seq
      (trip n .draft amount h) =
    .ok { status := .proposed, predictedAttendance := some 0, submittedAt := some now }
      (trip n .draft amount h) := by
  have hmanagers : getAllManagers (trip n .draft amount h).val = [] := by
    simp [getAllManagers, trip, tripTables]
  have hlook : (Proc.look fun d => getAllManagers d.val : Task (List Nat)).seq
      (trip n .draft amount h) = .ok [] (trip n .draft amount h) := by
    rw [Proc.seq_look, ← hmanagers]
    rfl
  have hpredicted : (predicted [1]).seq (trip n .draft amount h) =
      .ok (some 0) (trip n .draft amount h) := by
    unfold predicted getPredictedAttendance
    rw [if_neg (by simp), map_eq_pure_bind, if_neg (by simp), bind_assoc]
    have hcount : (Proc.look fun d => getStudentCountForClasses d.val [1] : Task Nat).seq
        (trip n .draft amount h) = .ok 0 (trip n .draft amount h) := rfl
    have hnone : attendance 0 = 0 := by decide
    rw [bind_seq_of_ok hcount, hnone]
    rfl
  unfold effects submitEffects
  dsimp only
  rw [if_pos (by decide), hclasses, bind_seq_of_ok hpredicted, bind_seq_of_ok hlook]
  rfl

theorem discloses_submit (hsubmit : Tells actor .submit) :
    Discloses actor .submit := by
  obtain ⟨htenant, hsubmit | hpublish⟩ := hsubmit
  · obtain ⟨hsubmitter, hrole, n, hid⟩ := hsubmit
    refine discloses_of_seq n .draft (.submit 1 0) rfl fun amount h => ?_
    have hchecks : (checkPreconditions ⟨tripEvent n .draft amount,
        classMappings (trip n .draft amount h).val 1⟩ .submitForApproval actor none).seq
          (trip n .draft amount h) = .ok () (trip n .draft amount h) := by
      unfold checkPreconditions
      rw [if_pos (by decide), hid]
      refine (failIf_bind_seq fun hnot => ?_).trans rfl
      exact hnot.1 rfl
    have hdone := transition_trip h .submitForApproval none 0
      { status := .proposed, predictedAttendance := some 0, submittedAt := some 0 } [] rfl hrole
      hchecks (submitEffects_trip h _ rfl 0) rfl rfl (by simp; decide) (by simp [Keyed]) (by simp)
    obtain ⟨event, d₂, hseq, hamount⟩ := respond_transition hdone
    refine ⟨event, d₂, ?_, hamount⟩
    unfold EventsRouter.submitEvent EventsRouter.requireTenant
    rw [failIf_bind_seq (by simpa [Option.isSome_iff_ne_none] using htenant)]
    refine wrap_seq_of_ok ?_
    rw [getEventById_bind_seq (event?_trip h .draft)]
    have haction : EventService.resolveSubmitAction (tripEvent n .draft amount).status actor =
        .ok .submitForApproval := if_pos ⟨rfl, hsubmitter⟩
    dsimp only
    rw [haction]
    exact hseq
  · obtain ⟨hroles, hrole⟩ := hpublish
    refine discloses_of_seq 0 .approved (.submit 1 0) rfl fun amount h => ?_
    obtain ⟨event, d₂, hseq, hamount⟩ := respond_transition (publish_trip (n := 0) h 0 rfl hrole)
    refine ⟨event, d₂, ?_, hamount⟩
    unfold EventsRouter.submitEvent EventsRouter.requireTenant
    rw [failIf_bind_seq (by simpa [Option.isSome_iff_ne_none] using htenant)]
    refine wrap_seq_of_ok ?_
    rw [getEventById_bind_seq (event?_trip h .approved)]
    have haction : EventService.resolveSubmitAction (tripEvent 0 .approved amount).status actor =
        .ok .teacherPublish := by
      unfold EventService.resolveSubmitAction
      rw [if_neg (by simp [tripEvent]), if_pos ⟨rfl, hroles⟩]
    dsimp only
    rw [haction]
    exact hseq

/-- The creator is told why the event was rejected. -/
def rejectionNote (n : Nat) : NotificationRow where
  id := 2
  eventId := 1
  recipientUserId := n
  titleOverride :=
    some ("Event 'Museum' rejected by manager. Reason: " ++ Text.showOption (some "No"))

theorem reject_trip {action : EventAction} {role : String}
    (htransition : transitions .proposed action = some (.draft, role))
    (hrole : actor.isOneOf (allowedFor action role) = true) :
    ∃ event d₂, (transitionEvent 1 action actor (some "No") 0).seq (trip n .proposed amount h) =
      .ok (some event) d₂ ∧ event.row.schoolSubsidy = amount := by
  have hkeyed : Keyed NotificationRow.id [rejectionNote n] := by simp [Keyed]
  have hnotes : ∀ x ∈ [rejectionNote n], x.eventId = 1 ∧ x.recipientUserId = n ∧
      ∀ title ∈ x.titleOverride, title.length ≤ 255 := by
    have hlength : ∀ title ∈ (rejectionNote 0).titleOverride, title.length ≤ 255 := by
      decide +kernel
    simpa [rejectionNote] using hlength
  have hrows : TripRows n [tripEvent n .proposed amount] [tripClass] [rejectionNote n] :=
    tripRows_single rfl rfl rfl rfl (by simpa [EventRow.amounts, tripEvent] using h)
      (by simp [tripEvent]) hkeyed hnotes
  let seq : Sequences := { Sequences.startAt 2 with notification := 3 }
  let d₁ : Db := ⟨tripTables n [tripEvent n .proposed amount] [tripClass] [rejectionNote n] seq,
    tripTables_ok hrows seq⟩
  have hnotified : (Proc.once (createNotification 1 n (rejectionNote n).titleOverride) :
      Task Unit).seq (trip n .proposed amount h) = .ok () d₁ := by
    rw [Proc.seq_once]
    unfold createNotification
    exact exec_eq_ok.2 rfl
  cases action with
  | managerReject | reject =>
    exact transition_trip h _ (some "No") 0
      { status := .draft, rejectionReason := some (Text.strip "No") } [rejectionNote n] htransition
      hrole rfl ((bind_seq_of_ok hnotified).trans rfl) rfl rfl (by simp) hkeyed hnotes
  | _ => cases htransition

theorem discloses_managerDecision (hdecide : Tells actor .managerDecision) :
    Discloses actor .managerDecision := by
  obtain ⟨htenant, hrole⟩ := hdecide
  refine discloses_of_seq 0 .proposed (.managerDecision 1 .reject (some "No") 0) rfl
    fun amount h => ?_
  obtain ⟨event, d₂, hseq, hamount⟩ := respond_transition (reject_trip (n := 0) h rfl hrole)
  refine ⟨event, d₂, ?_, hamount⟩
  unfold EventsRouter.managerDecision EventsRouter.requireTenant
  rw [failIf_bind_seq (by simpa [Option.isSome_iff_ne_none] using htenant)]
  exact wrap_seq_of_ok hseq

/-! ### Cloning -/

/-- What the event is cloned to. -/
def clonedEvent (n : Nat) (amount : Money) : EventRow where
  id := 2
  title := "Template - Museum"
  address := some ""
  schoolSubsidy := amount
  date := thirtyDays
  createdBy := n
  createdAt := 0

/-- The class of the clone. -/
def clonedClass : EventClassRow := { id := 2, eventId := 2, classId := 1 }

theorem tripRows_clone {n : Nat} {amount : Money} (h : Numeric amount) :
    TripRows n [tripEvent n .published amount, clonedEvent n amount] [tripClass,
      clonedClass] [] where
  events_keyed := by simp [Keyed, tripEvent, clonedEvent]
  maps_keyed := by simp [Keyed, tripClass, clonedClass]
  notes_keyed := by simp [Keyed]
  created := by simp [tripEvent, clonedEvent]
  amounts := by simpa [EventRow.amounts, tripEvent, clonedEvent] using h
  attendance := by simp [tripEvent, clonedEvent]
  mapped := by simpa [tripClass, clonedClass, tripEvent, clonedEvent] using numeric_zero
  notified := by simp

/-- The school with the clone. -/
def clonedTrip (n : Nat) (amount : Money) (h : Numeric amount) : Db where
  val :=
    tripTables n [tripEvent n .published amount, clonedEvent n amount] [tripClass, clonedClass] []
    { Sequences.startAt 2 with event := 3, eventClass := 3 }
  ok := tripTables_ok (tripRows_clone h) _

theorem insertWithClasses_trip (classMappings : List ClassMapping) :
    insertWithClasses (cloneFields ⟨tripEvent n .published amount, classMappings⟩ 0) n
      [{ classId := 1 }] 0 (trip n .published amount h) = .ok 2 (clonedTrip n amount h) := by
  have hrows : TripRows n [tripEvent n .published amount, clonedEvent n amount] [tripClass] [] :=
    { tripRows_clone h with
      maps_keyed := by simp [Keyed]
      mapped := by simpa [tripClass, tripEvent, clonedEvent] using numeric_zero }
  let seq : Sequences := { Sequences.startAt 2 with event := 3 }
  let d₁ : Db := ⟨tripTables n [tripEvent n .published amount, clonedEvent n amount] [tripClass] []
    seq, tripTables_ok hrows seq⟩
  have hevent : insertEvent (cloneFields ⟨tripEvent n .published amount, classMappings⟩ 0) n 0
      (trip n .published amount h) = .ok 2 d₁ := by
    unfold insertEvent
    rw [query_bind]
    exact bind_eq_ok.2 ⟨(), d₁, exec_eq_ok.2 rfl, rfl⟩
  have hclass : insertEventClass 2 { classId := 1 } d₁ = .ok () (clonedTrip n amount h) := by
    unfold insertEventClass
    exact exec_eq_ok.2 rfl
  unfold insertWithClasses
  refine transaction_eq_ok.2 (bind_eq_ok.2 ⟨2, d₁, hevent, bind_eq_ok.2 ⟨(), _, ?_, rfl⟩⟩)
  exact bind_eq_ok.2 ⟨(), _, hclass, rfl⟩

theorem createEvent_trip (classMappings : List ClassMapping)
    (hrequire : Authz.require actor.user.roles ["school_admin", "teacher"] = true) :
    (TenantService.createEvent (cloneFields ⟨tripEvent n .published amount, classMappings⟩ 0)
      (.number n) [{ classId := 1 }] actor.user.roles 0).seq (trip n .published amount h) =
    .ok (some ⟨clonedEvent n amount, Trips.classMappings (clonedTrip n amount h).val 2⟩)
      (clonedTrip n amount h) := by
  have hinsert : (Proc.once (insertWithClasses (cloneFields ⟨tripEvent n .published amount,
      classMappings⟩ 0) n [{ classId := 1 }] 0) : Task Nat).seq (trip n .published amount h) =
        .ok 2 (clonedTrip n amount h) := by
    rw [Proc.seq_once]
    exact insertWithClasses_trip h classMappings
  have hcreate : (TenantRepository.createEvent (cloneFields ⟨tripEvent n .published amount,
      classMappings⟩ 0) (.number n) [{ classId := 1 }] 0).seq (trip n .published amount h) =
        .ok (some ⟨clonedEvent n amount, Trips.classMappings (clonedTrip n amount h).val 2⟩)
          (clonedTrip n amount h) :=
    (bind_seq_of_ok hinsert).trans (getEventById_returns 2 (clonedTrip n amount h))
  unfold TenantService.createEvent
  rw [failIf_bind_seq (not_not.2 hrequire), bind_seq_of_ok hcreate]
  rfl

theorem discloses_clone (hclone : Tells actor .clone) : Discloses actor .clone := by
  obtain ⟨hrole, hrequire, n, hid⟩ := hclone
  refine discloses_of_seq n .published (.clone 1 0) rfl fun amount h => ?_
  let event : Event := ⟨clonedEvent n amount, classMappings (clonedTrip n amount h).val 2⟩
  have hclone : (cloneEvent 1 actor.id actor.user.roles 0).seq (trip n .published amount h) =
      .ok (some event) (clonedTrip n amount h) := by
    unfold cloneEvent
    rw [failIf_bind_seq (not_not.2 hrequire), getEventById_bind_seq (event?_trip h .published), hid]
    exact (bind_seq_of_ok (createEvent_trip h _ hrequire)).trans rfl
  refine ⟨.plain event, clonedTrip n amount h, ?_, rfl⟩
  unfold EventsRouter.cloneEventEndpoint
  rw [failIf_bind_seq (not_not.2 hrole)]
  refine wrap_seq_of_ok ?_
  rw [bind_seq_of_ok hclone]
  rfl

end Discloses

/-! ## Which routes are private -/

/-- **Which routes tell the amounts.** For an actor who may not set the subsidy, a route answers the
same in any two states that differ in the amounts only, if and only if it hides the amounts or lets
no request of the actor through. -/
theorem private_iff {actor : Actor} (h : ¬MaySet actor) (route : Route) :
    Private route actor ↔ ¬Tells actor route := by
  refine ⟨fun hprivate htells => ?_, private_of_not_tells h⟩
  refine not_private_of_discloses (r := route) ?_ hprivate
  cases route with
  | clone => exact discloses_clone htells
  | update => exact discloses_update h htells
  | patch => exact discloses_patch h htells
  | submit => exact discloses_submit htells
  | managerDecision => exact discloses_managerDecision htells
  | publish => exact discloses_publish h htells
  | _ => exact htells.elim

theorem patch_private_iff : ¬MaySet teacherActor ∧
    (Private .patch teacherActor ↔ ¬Tells teacherActor .patch) :=
  ⟨by decide, private_iff (by decide) .patch⟩

/-- The teacher who patches their draft with nothing is answered its subsidy. -/
theorem patch_not_private :
    ¬∀ (actor : Actor) (route : Route), ¬MaySet actor → Private route actor := by
  intro hprivate
  have hactor : ¬MaySet teacherActor := by decide
  have htells : Tells teacherActor .patch := ⟨by decide, .inl (by decide), 2, rfl⟩
  exact not_private_of_discloses (discloses_patch hactor htells)
    (hprivate teacherActor .patch hactor)

end Sams.Trips
