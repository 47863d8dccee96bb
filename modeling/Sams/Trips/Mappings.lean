import Sams.Trips.Publishing
import Sams.School.Guarded

/-!
# One mapping for each event and class

The database lets an event have several mappings of one class. A creation inserts one for each item
of its payload, and an update one for each item whose class the event was not for when the update
began: both transactions look at no row that they have inserted themselves.

**`mappings_run`**: in every run, interleaved in any order, in which each creation names
its classes once and each update names those that are new to the event once, an event has
one mapping for a class.
-/

namespace Sams.Trips

open School Programs Rows Runs Interleaving TenantRepository TenantService

/-- The event and the class of a mapping. -/
def pairOf (m : EventClassRow) : Nat × Nat := (m.eventId, m.classId)

/-- No event has two mappings of a class. -/
def OneEach (d : Db) : Prop := Keyed pairOf d.val.eventClasses

instance (d : Db) : Decidable (OneEach d) := inferInstanceAs (Decidable (List.Nodup _))

/-- The classes that the event has no mapping of. -/
def unmapped (d : Db) (eventId : Nat) (classIds : List Nat) : List Nat :=
  classIds.filter fun c => (eventId, c) ∉ d.val.eventClasses.map pairOf

/-- The classes that a payload names. -/
def classIdsOf (mappings : List ClassMappingRequest) : List Nat := mappings.map (·.classId)

theorem oneEach_refl (d : Db) : Keeps OneEach d d := id

/-! ## The writes -/

section Writes

variable {d d' : Db} {eventId : Nat}

/-- Mappings that are added are told apart by their classes. -/
theorem oneEach_append {classIds : List Nat} (hd : OneEach d) (hclasses : classIds.Nodup)
    (hnew : ∀ c ∈ classIds, (eventId, c) ∉ d.val.eventClasses.map pairOf)
    (h : d'.val.eventClasses.map pairOf = d.val.eventClasses.map pairOf ++
      classIds.map (eventId, ·)) :
    OneEach d' := by
  unfold OneEach Keyed
  rw [h, List.nodup_append]
  refine ⟨hd, hclasses.map fun c c' hc => congrArg Prod.snd hc, ?_⟩
  intro pair hpair pair' hpair' heq
  obtain ⟨c, hc, rfl⟩ := List.mem_map.1 hpair'
  exact hnew c hc (heq ▸ hpair)

theorem insertEventClass_pairs {mapping : ClassMappingRequest} {u : Unit}
    (h : insertEventClass eventId mapping d = .ok u d') :
    d'.val.eventClasses.map pairOf = d.val.eventClasses.map pairOf ++
      [(eventId, mapping.classId)] := by
  unfold insertEventClass at h
  rw [exec_eq_ok.1 h]
  simp [pairOf]

/-- The mappings of a new event. -/
theorem insertEventClasses_pairs {mappings : List ClassMappingRequest} {u : PUnit}
    (h : mappings.forM (insertEventClass eventId) d = .ok u d') :
    d'.val.eventClasses.map pairOf =
      d.val.eventClasses.map pairOf ++ (classIdsOf mappings).map (eventId, ·) := by
  let I : List ClassMappingRequest → Db → Prop := fun rest t =>
    t.val.eventClasses.map pairOf ++ (classIdsOf rest).map (eventId, ·) =
      d.val.eventClasses.map pairOf ++ (classIdsOf mappings).map (eventId, ·)
  have hstep : ∀ mapping rest t t', I (mapping :: rest) t →
      insertEventClass eventId mapping t = .ok ⟨⟩ t' → I rest t' := by
    intro mapping rest t t' hI hins
    show t'.val.eventClasses.map pairOf ++ _ = _
    rw [insertEventClass_pairs hins, List.append_assoc]
    exact hI
  have hend : I [] d' := forM_ok_rec I hstep h rfl
  simpa [I, classIdsOf] using hend

/-- A class that is there keeps its mapping, and one that is not gets one. -/
theorem upsertEventClass_pairs {existing : List EventClassRow}
    {mapping : ClassMappingRequest} {u : Unit}
    (h : upsertEventClass eventId existing mapping d = .ok u d') :
    d'.val.eventClasses.map pairOf = d.val.eventClasses.map pairOf ++
      if mapping.classId ∈ existing.map (·.classId) then [] else [(eventId, mapping.classId)] := by
  unfold upsertEventClass at h
  by_cases hmem : mapping.classId ∈ existing.map (·.classId)
  · rw [if_pos hmem, List.append_nil]
    cases hlast : (existing.filter fun m => decide (m.classId = mapping.classId)).getLast? with
    | none =>
      obtain ⟨row, hrow, hclass⟩ := List.mem_map.1 hmem
      have hnil := List.getLast?_eq_none_iff.1 hlast
      have hin : row ∈ existing.filter fun m => decide (m.classId = mapping.classId) := by
        simp [hrow, hclass]
      rw [hnil] at hin
      cases hin
    | some row =>
      rw [hlast] at h
      rw [exec_eq_ok.1 h]
      exact map_updateWhere fun _ _ _ => rfl
  · rw [if_neg hmem]
    have hnil : existing.filter (fun m => decide (m.classId = mapping.classId)) = [] := by
      rw [List.filter_eq_nil_iff]
      intro row hrow hclass
      exact hmem (List.mem_map.2 ⟨row, hrow, of_decide_eq_true hclass⟩)
    rw [hnil] at h
    exact insertEventClass_pairs h

/-- The mappings that an update adds. -/
theorem upsertEventClasses_pairs {existing : List EventClassRow}
    {mappings : List ClassMappingRequest}
    {u : PUnit} (h : mappings.forM (upsertEventClass eventId existing) d = .ok u d') :
    d'.val.eventClasses.map pairOf = d.val.eventClasses.map pairOf ++
      ((classIdsOf mappings).filter fun c => c ∉ existing.map (·.classId)).map (eventId, ·) := by
  let new : List ClassMappingRequest → List (Nat × Nat) := fun rest =>
    ((classIdsOf rest).filter fun c => c ∉ existing.map (·.classId)).map (eventId, ·)
  let I : List ClassMappingRequest → Db → Prop := fun rest t =>
    t.val.eventClasses.map pairOf ++ new rest = d.val.eventClasses.map pairOf ++ new mappings
  have hstep : ∀ mapping rest t t', I (mapping :: rest) t →
      upsertEventClass eventId existing mapping t = .ok ⟨⟩ t' → I rest t' := by
    intro mapping rest t t' hI hins
    show t'.val.eventClasses.map pairOf ++ new rest = _
    rw [upsertEventClass_pairs hins, List.append_assoc]
    refine Eq.trans (congrArg _ ?_) hI
    show _ = ((mapping.classId :: classIdsOf rest).filter fun c => c ∉ existing.map (·.classId)).map
      (eventId, ·)
    by_cases hmem : mapping.classId ∈ existing.map (·.classId)
    · rw [if_pos hmem, List.filter_cons_of_neg (by simpa using hmem)]
      rfl
    · rw [if_neg hmem, List.filter_cons_of_pos (by simpa using hmem)]
      rfl
  have hend : I [] d' := forM_ok_rec I hstep h rfl
  simpa [I, new, classIdsOf] using hend

/-- A new event is for no class yet. -/
theorem oneEach_insertWithClasses {fields : EventFields} {createdBy : Nat}
    {mappings : List ClassMappingRequest} {now : Timestamp}
    (hclasses : (classIdsOf mappings).Nodup) :
    Moves (Keeps OneEach) (insertWithClasses fields createdBy mappings now) := by
  intro d
  unfold insertWithClasses
  refine after_transaction_ind (motive := fun d' => Keeps OneEach d d') (oneEach_refl d)
    fun id d' h hd => ?_
  obtain ⟨i, d₁, hinsert, h⟩ := bind_eq_ok.1 h
  obtain ⟨⟨⟩, d₂, hmappings, h⟩ := bind_eq_ok.1 h
  obtain ⟨-, rfl⟩ := pure_eq_ok.1 h
  unfold insertEvent at hinsert
  rw [query_bind] at hinsert
  obtain ⟨⟨⟩, d₃, hexec, hret⟩ := bind_eq_ok.1 hinsert
  obtain ⟨rfl, rfl⟩ := pure_eq_ok.1 hret
  have hval := exec_eq_ok.1 hexec
  have hpairs := insertEventClasses_pairs hmappings
  have hsame : d₃.val.eventClasses = d.val.eventClasses := by rw [hval]
  rw [hsame] at hpairs
  refine oneEach_append hd hclasses (fun c _ hpair => ?_) hpairs
  -- its id is no other event's, and a mapping is of an event that is there
  obtain ⟨m, hm, hkey⟩ := List.mem_map.1 hpair
  obtain ⟨e, he, hid⟩ := d.ok.events.event_class_event.exists_row hm rfl
  have hkeys := d₃.ok.keys.events
  rw [hval] at hkeys
  exact hkeys.ne_of_append e he (hid.trans (congrArg Prod.fst hkey))

theorem mem_pairs {c : Nat} : (eventId, c) ∈ d.val.eventClasses.map pairOf ↔
    c ∈ (d.val.eventClasses.filter fun m => m.eventId = eventId).map (·.classId) := by
  simp [pairOf, and_assoc]

/-- What an update takes for granted is that it names the classes that are new to the event once. -/
theorem oneEach_setFieldsAndClasses {fields : EventFields} {mappings : List ClassMappingRequest}
    {d : Db} (hclasses : (unmapped d eventId (classIdsOf mappings)).Nodup) :
    Keeps OneEach d (after (setFieldsAndClasses eventId fields mappings) d) := by
  unfold setFieldsAndClasses
  refine after_transaction_ind (motive := fun d' => Keeps OneEach d d') (oneEach_refl d)
    fun u d' h hd => ?_
  obtain ⟨⟨⟩, d₁, hset, h⟩ := bind_eq_ok.1 h
  rw [query_bind] at h
  dsimp only at h
  unfold setFields at hset
  have hval := exec_eq_ok.1 hset
  have hsame : d₁.val.eventClasses = d.val.eventClasses := by rw [hval]
  have hpairs := upsertEventClasses_pairs h
  rw [hsame] at hpairs
  have hnew : ((classIdsOf mappings).filter fun c =>
      c ∉ (d.val.eventClasses.filter fun m => m.eventId = eventId).map (·.classId)) =
      unmapped d eventId (classIdsOf mappings) := by
    refine List.filter_congr fun c _ => ?_
    simp only [mem_pairs]
  rw [hnew] at hpairs
  refine oneEach_append hd hclasses (fun c hc => ?_) hpairs
  simpa using (List.mem_filter.1 hc).2

end Writes

/-! ## The requests -/

/-- What an update takes for granted: the classes that it names and that are new to the
event are told apart. -/
def NamesOnce (classIds : List Nat) : Mark → Db → Prop
  | .setSubsidy eventId _, d | .keepSubsidy eventId _, d => (unmapped d eventId classIds).Nodup
  | _, _ => True

instance (classIds : List Nat) (mark : Mark) (d : Db) : Decidable (NamesOnce classIds mark d) := by
  induction mark using Mark.casesOn <;> unfold NamesOnce <;> infer_instance

/-- The guarantee: an event never has two mappings of a class. -/
abbrev OneEachKept : Option Mark → Db → Db → Prop := fun _ => Keeps OneEach

section Requests

variable {H : Mark → Db → Prop} {eventId : Nat} {classIds : List Nat}

theorem stable_oneEach : Proc.Stable (Keeps OneEach) OneEach := fun _ _ hd h => h hd

/-- A request that writes no mapping. -/
theorem keeps_notification (i r : Nat) (title : Option String) :
    (Proc.once (createNotification i r title) : Task Unit).Keeps H OneEachKept := by
  refine Proc.keeps_once ?_
  unfold createNotification
  exact moves_exec fun _ _ => id

theorem oneEach_create {fields : EventFields} {createdBy : ParsedId}
    {mappings : List ClassMappingRequest} {userRole : List String} {now : Timestamp}
    (hclasses : (classIdsOf mappings).Nodup) :
    (TenantService.createEvent fields createdBy mappings userRole now).Keeps H OneEachKept := by
  unfold TenantService.createEvent TenantRepository.createEvent
  refine Proc.keeps_bind Proc.keeps_failIf fun _ => ?_
  refine Proc.keeps_bind ?_ fun event => ?_
  · refine Proc.keeps_bind (keeps_ofExcept _) fun createdBy => ?_
    exact Proc.keeps_bind (Proc.keeps_once (oneEach_insertWithClasses hclasses)) fun _ =>
      keeps_getEventById oneEach_refl _
  · refine Proc.keeps_bind (Proc.keeps_foldlM fun userIds mapping _ => ?_) fun userIds => ?_
    · exact Proc.keeps_bind (Proc.keeps_look oneEach_refl _) fun _ => Proc.keeps_ret _
    · refine Proc.keeps_bind ?_ fun _ => Proc.keeps_ret _
      cases event with
      | none => exact Proc.keeps_failIf
      | some event => exact Proc.keeps_forM fun _ _ => keeps_notification _ _ _

theorem oneEach_createEvent (actor : Actor) {payload : EventCreateRequest} (now : Timestamp)
    (hclasses : (classIdsOf payload.classMappings).Nodup) :
    (EventsRouter.createEvent actor payload now).Keeps H OneEachKept := by
  unfold EventsRouter.createEvent
  refine Proc.keeps_bind Proc.keeps_failIf fun _ => Proc.Keeps.wrap ?_ _
  refine Proc.keeps_bind (oneEach_create hclasses) fun event => ?_
  cases event with
  | none => exact Proc.keeps_fail _
  | some event => exact Proc.keeps_ret _

theorem classIds_sublist (t : Tables) (rows : List EventClassRow) :
    ((rows.filterMap (classMapping t)).map (·.classId)).Sublist (rows.map (·.classId)) := by
  induction rows with
  | nil => exact List.Sublist.refl _
  | cons row rows ih =>
    cases hmapping : classMapping t row with
    | none =>
      rw [List.filterMap_cons_none hmapping]
      exact ih.cons _
    | some mapping =>
      have hclass : mapping.classId = row.classId := by
        unfold classMapping at hmapping
        obtain ⟨_, _, hmapping⟩ := Option.bind_eq_some_iff.1 hmapping
        obtain ⟨_, _, hmapping⟩ := Option.bind_eq_some_iff.1 hmapping
        cases hmapping
        rfl
      rw [List.filterMap_cons_some hmapping, List.map_cons, List.map_cons, hclass]
      exact ih.cons_cons _

/-- The classes of an event as they are read. -/
theorem nodup_classMappings {d : Db} (hd : OneEach d) (eventId : Nat) :
    ((classMappings d.val eventId).map (·.classId)).Nodup := by
  refine List.Nodup.sublist (classIds_sublist d.val _) ?_
  refine List.Nodup.map_on (fun m hm m' hm' hclass => ?_)
    (List.Nodup.filter _ (List.Nodup.of_map _ hd))
  obtain ⟨hm, hevent⟩ := List.mem_filter.1 hm
  obtain ⟨hm', hevent'⟩ := List.mem_filter.1 hm'
  have hevents : m.eventId = m'.eventId :=
    (of_decide_eq_true hevent).trans (of_decide_eq_true hevent').symm
  exact hd.eq_of_key_eq hm hm' (Prod.ext hevents hclass)

theorem valid_getEventById :
    (getEventById eventId).Valid H (Keeps OneEach) OneEachKept
      (fun event d => OneEach d ∧ ∀ e ∈ event, (e.classMappings.map (·.classId)).Nodup)
        OneEach := by
  unfold getEventById
  refine Proc.Gives.frame_bind (Proc.keeps_look oneEach_refl _) (fun _ _ _ h => h) stable_oneEach
    fun row _ => ?_
  cases row with
  | none => exact Proc.valid_ret fun d hd => ⟨hd, by simp⟩
  | some row =>
    refine Proc.valid_bind (M := fun mappings d => OneEach d ∧ (mappings.map (·.classId)).Nodup) ?_
      fun mappings => Proc.valid_ret fun d hd => ⟨hd.1, ?_⟩
    · refine Proc.valid_act (fun d hd _ mappings d' hm => ?_) (fun d _ _ e d' hm => by cases hm)
        fun mappings d d' hd h => ⟨h hd.1, hd.2⟩
      obtain ⟨rfl, rfl⟩ := query_eq_ok.1 hm
      exact ⟨oneEach_refl d, hd, nodup_classMappings hd eventId⟩
    · intro e he
      cases he
      exact hd.2

theorem oneEach_copyResources (i j : Nat) (createdBy : ParsedId) :
    (copyResources i j createdBy).Keeps H OneEachKept := by
  refine keeps_copyResources ⟨oneEach_refl, fun i => ?_, fun i u => ?_⟩ _ _ _
  · refine Proc.keeps_once ?_
    unfold deleteResourcesForEvent
    exact moves_exec fun _ _ => id
  · refine Proc.keeps_once ?_
    unfold createResource
    exact moves_exec fun _ _ => id

/-- A clone is for the classes of the original, which are told apart. -/
theorem oneEach_cloneEvent (actor : Actor) (eventId : Nat) (now : Timestamp) :
    (EventsRouter.cloneEventEndpoint actor eventId now).Valid H (Keeps OneEach) OneEachKept
      (fun _ _ => True) OneEach := by
  unfold EventsRouter.cloneEventEndpoint TenantService.cloneEvent
  refine Proc.Gives.frame_bind Proc.keeps_failIf (fun _ _ _ h => h) stable_oneEach fun _ _ =>
    Proc.Valid.wrap ?_ _
  refine Proc.valid_bind (M := fun _ _ => True) ?_ fun event => (keeps_respond event).valid _ _
  refine Proc.Gives.frame_bind Proc.keeps_failIf (fun _ _ _ h => h) stable_oneEach fun _ _ => ?_
  refine Proc.valid_bind valid_getEventById fun original => ?_
  cases original with
  | none => exact Proc.valid_fail _
  | some original =>
    refine Proc.valid_of_start fun d hd => ?_
    have hclasses : (classIdsOf (original.classMappings.map fun m =>
        { classId := m.classId, ticketPrice := m.ticketPrice })).Nodup := by
      have hread := hd.2 original rfl
      unfold classIdsOf
      rwa [List.map_map]
    refine (oneEach_create hclasses).bind fun newEvent => ?_
    cases newEvent with
    | none => exact Proc.valid_fail _
    | some newEvent =>
      refine (oneEach_copyResources _ _ _).bind fun _ => ?_
      exact (keeps_getEventById oneEach_refl _).valid _ _

/-- What a teacher may write is part of the payload. -/
theorem gives_ownMappings (mappings : List ClassMappingRequest) (userRole : List String)
    (userId : ParsedId) :
    (ownMappings eventId mappings userRole userId).Gives H OneEachKept fun own =>
      own.Sublist mappings := by
  unfold ownMappings
  refine Proc.gives_ite (fun _ => Proc.gives_ret (List.Sublist.refl _)) fun _ =>
    Proc.gives_ite (fun _ => ?_) fun _ => Proc.gives_fail _
  refine Proc.gives_bind (keeps_ofExcept _) fun userId _ => ?_
  refine Proc.gives_bind (Proc.keeps_look oneEach_refl _) fun classes _ => ?_
  refine Proc.gives_bind Proc.keeps_failIf fun _ _ => ?_
  refine Proc.gives_bind (keeps_getEventById oneEach_refl _) fun event _ => ?_
  cases event with
  | none => exact Proc.gives_fail _
  | some event =>
    refine Proc.gives_bind Proc.keeps_failIf fun _ _ => Proc.gives_ret ?_
    exact List.filter_sublist

/-- The write of an update. -/
theorem oneEach_updateEventFull {mark : Mark} {fields : EventFields}
    {mappings own : List ClassMappingRequest} (hown : own.Sublist mappings)
    (hmark : mark = .setSubsidy eventId fields.schoolSubsidy ∨
      mark = .keepSubsidy eventId fields.schoolSubsidy) :
    (TenantRepository.updateEventFull mark eventId fields own).Keeps
      (NamesOnce (classIdsOf mappings))
      OneEachKept := by
  unfold TenantRepository.updateEventFull
  refine Proc.keeps_bind ?_ fun _ => keeps_getEventById oneEach_refl _
  have hwrite : ∀ d, NamesOnce (classIdsOf mappings) mark d →
      Keeps OneEach d (after (setFieldsAndClasses eventId fields own) d) := by
    intro d hnames
    refine oneEach_setFieldsAndClasses ?_
    have hall : (unmapped d eventId (classIdsOf mappings)).Nodup := by
      rcases hmark with rfl | rfl <;> exact hnames
    exact List.Nodup.sublist ((hown.map _).filter _) hall
  refine Proc.keeps_marked (fun d hnames u d' hm => ?_) fun d hnames e d' hm => ?_
  · have hkept := hwrite d hnames
    rwa [after_ok hm] at hkept
  · have hkept := hwrite d hnames
    rwa [after_error hm] at hkept

theorem oneEach_updateEvent (actor : Actor) (eventId : Nat) (payload : EventCreateRequest) :
    (EventsRouter.updateEvent actor eventId payload).Keeps
      (NamesOnce (classIdsOf payload.classMappings))
      OneEachKept := by
  unfold EventsRouter.updateEvent TenantService.updateEventFull
  refine Proc.keeps_bind Proc.keeps_failIf fun _ => Proc.Keeps.wrap ?_ _
  refine Proc.keeps_bind (keeps_getEventById oneEach_refl _) fun event => ?_
  cases event with
  | none => exact Proc.keeps_fail _
  | some event =>
    refine Proc.keeps_bind ?_ fun _ => ?_
    · unfold EventService.requireEditable
      exact Proc.keeps_bind (keeps_ofExcept _) fun _ => Proc.keeps_failIf
    · refine Proc.keeps_bind ?_ fun _ => Proc.keeps_ret _
      refine Proc.gives_bind (gives_ownMappings payload.classMappings _ _) fun own hown => ?_
      refine Proc.keeps_bind (oneEach_updateEventFull hown ?_) fun written => ?_
      · by_cases hprivileged : actor.isOneOf EventService.privileged = true
        · rw [if_pos hprivileged]
          exact .inl rfl
        · rw [if_neg hprivileged]
          refine .inr ?_
          unfold EventService.resolveSubsidy
          rw [if_neg hprivileged]
          rfl
      · cases written with
        | none => exact Proc.keeps_fail _
        | some written => exact Proc.keeps_ret _

theorem oneEach_selectAudience (actor : Actor) (eventId : Nat) (payload : AudienceSelect) :
    (EventsRouter.selectAudience actor eventId payload).Keeps
      (NamesOnce (classIdsOf payload.mappings))
      OneEachKept := by
  unfold EventsRouter.selectAudience EventsRouter.requireTenant
  refine Proc.keeps_bind Proc.keeps_failIf fun _ => Proc.Keeps.wrap ?_ _
  refine Proc.keeps_bind (keeps_getEventById oneEach_refl _) fun event => ?_
  cases event with
  | none => exact Proc.keeps_fail _
  | some event =>
    refine Proc.keeps_bind (keeps_ofExcept _) fun _ => Proc.keeps_bind Proc.keeps_failIf fun _ => ?_
    refine Proc.keeps_bind ?_ fun _ => keeps_getPredictedAttendance oneEach_refl _
    exact oneEach_updateEventFull (List.Sublist.refl _) (.inr rfl)

end Requests

/-! ## Deleting classes -/

/-- No mapping is added, and those that are left stay as they are. -/
def LeavesMappings (d d' : Db) : Prop :=
  (d'.val.eventClasses.map pairOf).Sublist (d.val.eventClasses.map pairOf)

instance : IsPreorder Db LeavesMappings where
  refl _ := List.Sublist.refl _
  trans _ _ _ h h' := h'.trans h

theorem LeavesMappings.keeps {d d' : Db} (h : LeavesMappings d d') : Keeps OneEach d d' :=
  fun hd => List.Nodup.sublist h hd

theorem leavesMappings_deleteClass (userRole : List String) (classId : Nat)
    (changedBy : Option Nat) :
    Moves LeavesMappings (School.TenantService.deleteClass userRole classId changedBy) := by
  have hclasses : ∀ (f : Tables → Tables), (∀ t, (f t).eventClasses = t.eventClasses) →
      Moves LeavesMappings (stmt f) := by
    intro f hf
    refine moves_exec fun d _ => ?_
    show ((f d.val).eventClasses.map pairOf).Sublist _
    rw [hf]
  unfold School.TenantService.deleteClass TenantRepository.deleteClass
  refine moves_gated (moves_bind (moves_transaction ?_) fun _ => moves_pure _)
  refine moves_bind (moves_query _) fun existing => moves_bind (moves_raiseIf _ _) fun _ => ?_
  refine moves_bind ?_ fun _ => ?_
  · unfold removeClasses blockIfClassesHaveEnrollmentHistory
    refine moves_bind (moves_bind (moves_query _) fun _ => moves_raiseIf _ _) fun _ => ?_
    refine moves_bind (moves_query _) fun affected => ?_
    refine moves_bind (hclasses _ fun _ => rfl) fun _ => ?_
    refine moves_bind (moves_forM fun s _ => ?_) fun _ => ?_
    · unfold recordClassChange
      exact hclasses _ fun _ => rfl
    · refine moves_bind (moves_exec fun d _ => ?_) fun _ => moves_exec fun d _ => ?_
      · exact List.filter_sublist.map _
      · exact List.filter_sublist.map _
  · unfold AuditService.record
    exact hclasses _ fun _ => rfl

/-! ## Runs -/

/-- A request that may write the classes of an event, and any other whose actions add none. -/
inductive MappingRequest where
  | create (actor : Actor) (payload : EventCreateRequest) (now : Timestamp)
  | clone (actor : Actor) (eventId : Nat) (now : Timestamp)
  | update (actor : Actor) (eventId : Nat) (payload : EventCreateRequest)
  | audience (actor : Actor) (eventId : Nat) (payload : AudienceSelect)
  | deleteClass (userRole : List String) (classId : Nat) (changedBy : Option Nat)
  | other (work : Task Unit) (leaves : work.Keeps (fun _ _ => True) fun _ => LeavesMappings)

namespace MappingRequest

def program : MappingRequest → Task Unit
  | create actor payload now => (fun _ => ()) <$> EventsRouter.createEvent actor payload now
  | clone actor eventId now => (fun _ => ()) <$> EventsRouter.cloneEventEndpoint actor eventId now
  | update actor eventId payload => (fun _ => ()) <$> EventsRouter.updateEvent actor eventId payload
  | audience actor eventId payload =>
    (fun _ => ()) <$> EventsRouter.selectAudience actor eventId payload
  | deleteClass userRole classId changedBy =>
    (fun _ => ()) <$> Proc.once (School.TenantService.deleteClass userRole classId changedBy)
  | other work _ => work

/-- A creation names each class once. -/
def CreatesOnce : MappingRequest → Prop
  | create _ payload _ => (classIdsOf payload.classMappings).Nodup
  | _ => True

/-- What an update takes for granted when it writes. -/
def UpdatesOnce : MappingRequest → Mark → Db → Prop
  | update _ _ payload => NamesOnce (classIdsOf payload.classMappings)
  | audience _ _ payload => NamesOnce (classIdsOf payload.mappings)
  | _ => fun _ _ => True

instance (r : MappingRequest) (mark : Mark) (d : Db) : Decidable (r.UpdatesOnce mark d) := by
  cases r <;> unfold UpdatesOnce <;> infer_instance

/-- Every request keeps to one mapping for a class. -/
theorem valid (r : MappingRequest) (hcreates : r.CreatesOnce) :
    r.program.Valid r.UpdatesOnce (Keeps OneEach) OneEachKept (fun _ _ => True) OneEach := by
  cases r with
  | create actor payload now =>
    exact (Proc.keeps_map (oneEach_createEvent actor now hcreates)).valid _ _
  | clone actor eventId now =>
    show ((fun _ => ()) <$> EventsRouter.cloneEventEndpoint actor eventId now : Task Unit).Valid
        _ _ _ _ _
    rw [map_eq_pure_bind]
    exact Proc.valid_bind (oneEach_cloneEvent actor eventId now) fun _ =>
      Proc.valid_ret fun _ _ => trivial
  | update actor eventId payload =>
    exact (Proc.keeps_map (oneEach_updateEvent actor eventId payload)).valid _ _
  | audience actor eventId payload =>
    exact (Proc.keeps_map (oneEach_selectAudience actor eventId payload)).valid _ _
  | deleteClass userRole classId changedBy =>
    refine (Proc.keeps_map (Proc.keeps_once ?_)).valid _ _
    exact (leavesMappings_deleteClass _ _ _).mono fun _ _ h => h.keeps
  | other work hwork =>
    have hkeeps : work.Keeps (other work hwork).UpdatesOnce OneEachKept :=
      Proc.Valid.weaken (fun _ _ _ => trivial) (fun _ _ _ h => h.keeps) hwork
    exact Proc.Gives.valid hkeeps _ _

end MappingRequest

section Runs

variable {ι : Type} [DecidableEq ι]

/-- Requests of these kinds, any number of them, at their start. -/
def mapping (d : Db) (requests : ι → MappingRequest) : Pool ι Mark PyError Db Unit :=
  .start d fun i => (requests i).program

/-- **An event has one mapping for a class** in every run in which each creation names its classes
once, and each update those that are new to the event when it writes. -/
theorem mappings_run {d : Db} (hd : OneEach d) (requests : ι → MappingRequest)
    (hcreates : ∀ i, (requests i).CreatesOnce) {is : List ι}
    (h : EachStep Pool.step (fun P i => P.Undisturbed (fun i => (requests i).UpdatesOnce) i)
      (mapping d requests) is) :
    Throughout Pool.step (fun P => OneEach P.state) (mapping d requests) is := by
  let I : Pool ι Mark PyError Db Unit → Prop := fun P =>
    P.Sound (fun i => (requests i).UpdatesOnce) (Keeps OneEach) (fun _ => OneEachKept)
      (fun _ _ _ => True) ∧ OneEach P.state
  have hstart : I (mapping d requests) :=
    ⟨fun i => ⟨OneEach, stable_oneEach, hd, (requests i).valid (hcreates i)⟩, hd⟩
  refine (run_throughout (I := I) (fun P i hP hi => ?_) hstart h).mono fun P hP => hP.2
  have hrely : ∀ (_ : ι) mark s s', OneEachKept mark s s' → Keeps OneEach s s' := fun _ _ _ _ h => h
  obtain ⟨hsound, hkept⟩ := hP.1.step (fun _ => oneEach_refl) hrely hi
  exact ⟨hsound, hkept hP.2⟩

end Runs

/-! ## A class that is named twice -/

/-- The small school with a second class and the draft of its teacher, which is for the first. -/
def draftTrip : Db where
  val := { tripSchool.val with
    classes := tripSchool.val.classes ++ [⟨2, "G1 - B", 1, none, 25, true, 1, some "B"⟩] }
  ok := by decide +kernel

/-- The teacher selects the classes of the draft in two requests at once. -/
def selectClasses (classIds : List Nat) (_ : Bool) : MappingRequest :=
  .audience teacherActor 1 { classIds }

/-- Both requests have read the draft when the first adds the class, and the
second finds it there. -/
theorem selected_once : Throughout Pool.step (fun P => OneEach P.state)
    (mapping draftTrip (selectClasses [2])) [false, false, true, true, false, true] := by
  have hstart : OneEach draftTrip := by decide +kernel
  have hnames : EachStep Pool.step
      (fun P i => P.Undisturbed (fun i => (selectClasses [2] i).UpdatesOnce) i)
      (mapping draftTrip (selectClasses [2])) [false, false, true, true, false, true] := by
    decide +kernel
  exact mappings_run hstart (selectClasses [2]) (fun _ => trivial) hnames

/-- One request names the class twice, and two mappings are added. -/
theorem selected_twice : OneEach draftTrip ∧ ¬Throughout Pool.step (fun P => OneEach P.state)
    (mapping draftTrip (selectClasses [2, 2])) [false, false, false] := by
  refine ⟨by decide +kernel, fun h => ?_⟩
  have htwice : ¬OneEach (run Pool.step (mapping draftTrip (selectClasses [2, 2]))
      [false, false, false]).state := by decide +kernel
  exact htwice h.last

end Sams.Trips
