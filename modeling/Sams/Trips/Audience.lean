import Sams.Lib.Twins
import Sams.Trips.Mappings

/-!
# The audience of an event

A selection of classes is saved as an upsert on the mappings that the transaction reads first.
A class that the event is for has the ticket price of its last mapping written, another gets a
mapping, and no mapping is deleted.

**`selects_iff`**: a selection that succeeds leaves the event for exactly the selected classes, at
their prices, with the prediction of those, if and only if the event was for no other class before
and each mapping that is not written had a price of the selection.

**`ownClasses_only`**: a full update by a teacher leaves the mappings of the classes that they do
not head as they are, and succeeds only on an event for a class that they head.
-/

namespace Sams.Trips

open School Programs Rows Interleaving TenantRepository TenantService

/-- The mappings of an event. -/
def mappingsOf (t : Tables) (eventId : Nat) : List EventClassRow :=
  t.eventClasses.filter fun m => m.eventId = eventId

/-- The mapping of the class in `existing_map`. -/
def lastOf (existing : List EventClassRow) (classId : Nat) : Option EventClassRow :=
  (existing.filter fun m => m.classId = classId).getLast?

/-- What an update never writes of a mapping. -/
def identity (m : EventClassRow) : Nat × Nat × Nat := (m.id, m.eventId, m.classId)

/-- No mapping is deleted or moved to another event or class. -/
def Retains (d d' : Db) : Prop :=
  d.val.eventClasses.map identity <+: d'.val.eventClasses.map identity

instance : IsPreorder Db Retains where
  refl _ := List.prefix_rfl
  trans _ _ _ := List.IsPrefix.trans

/-- The mapping has a price that the payload gives to its class. -/
def Offered (mappings : List ClassMappingRequest) (m : EventClassRow) : Prop :=
  ∃ x ∈ mappings, x.classId = m.classId ∧ x.ticketPrice = m.ticketPrice

instance (mappings : List ClassMappingRequest) (m : EventClassRow) :
    Decidable (Offered mappings m) :=
  inferInstanceAs (Decidable (∃ x ∈ mappings, _))

/-! ## The upsert -/

section Upsert

variable {existing : List EventClassRow} {eventId classId : Nat} {x : ClassMappingRequest}
variable {row m r : EventClassRow} {d d' : Db} {u : Unit}

theorem mem_lastOf (h : lastOf existing classId = some row) :
    row ∈ existing ∧ row.classId = classId := by
  have hrow := List.mem_of_getLast? h
  obtain ⟨hmem, hclass⟩ := List.mem_filter.1 hrow
  exact ⟨hmem, of_decide_eq_true hclass⟩

theorem not_mem_of_lastOf (h : lastOf existing classId = none) (hm : m ∈ existing) :
    m.classId ≠ classId := by
  intro hclass
  have hnil := List.getLast?_eq_none_iff.1 h
  have hin : m ∈ existing.filter fun m => m.classId = classId :=
    List.mem_filter.2 ⟨hm, decide_eq_true hclass⟩
  rw [hnil] at hin
  cases hin

/-- What one round of the loop writes. -/
theorem upsertEventClass_cases (h : upsertEventClass eventId existing x d = .ok u d') :
    (∃ row, lastOf existing x.classId = some row ∧
      d'.val.eventClasses = updateWhere (fun m => m.id = row.id)
        (fun m => { m with ticketPrice := x.ticketPrice }) d.val.eventClasses) ∨
    (lastOf existing x.classId = none ∧
      d'.val.eventClasses = d.val.eventClasses ++
        [⟨d.val.seq.eventClass, eventId, x.classId, x.ticketPrice⟩]) := by
  unfold upsertEventClass at h
  cases hlast : lastOf existing x.classId with
  | some row =>
    unfold lastOf at hlast
    rw [hlast] at h
    exact .inl ⟨row, rfl, by rw [exec_eq_ok.1 h]⟩
  | none =>
    unfold lastOf at hlast
    rw [hlast] at h
    unfold insertEventClass at h
    exact .inr ⟨rfl, by rw [exec_eq_ok.1 h]⟩

theorem retains_upsert (h : upsertEventClass eventId existing x d = .ok u d') : Retains d d' := by
  unfold Retains
  rcases upsertEventClass_cases h with ⟨row, -, hval⟩ | ⟨-, hval⟩
  · have hkeys : d'.val.eventClasses.map identity = d.val.eventClasses.map identity := by
      rw [hval]
      exact map_updateWhere fun _ _ _ => rfl
    exact ⟨[], (List.append_nil _).trans hkeys.symm⟩
  · rw [hval, List.map_append]
    exact List.prefix_append _ _

/-- A mapping of before is known by its id. -/
theorem Retains.same (h : Retains d d') (hr : r ∈ d.val.eventClasses) (hm : m ∈ d'.val.eventClasses)
    (hid : m.id = r.id) : m.eventId = r.eventId ∧ m.classId = r.classId := by
  obtain ⟨r', hr', hidentity⟩ := List.mem_map.1 (h.subset (List.mem_map_of_mem hr))
  have hid' : r'.id = m.id := (congrArg Prod.fst hidentity).trans hid.symm
  obtain rfl := d'.ok.keys.eventClasses.eq_of_key_eq hr' hm hid'
  exact ⟨congrArg (·.2.1) hidentity, congrArg (·.2.2) hidentity⟩

end Upsert

/-! ## The transaction -/

section Update

variable {eventId : Nat} {fields : EventFields} {mappings : List ClassMappingRequest} {d d' : Db}

/-- The transaction is its loop on the mappings of before. -/
theorem setFieldsAndClasses_loop {u : Unit}
    (h : setFieldsAndClasses eventId fields mappings d = .ok u d') :
    ∃ d₁, d₁.val.eventClasses = d.val.eventClasses ∧
      mappings.forM (upsertEventClass eventId (mappingsOf d.val eventId)) d₁ = .ok ⟨⟩ d' := by
  unfold setFieldsAndClasses at h
  obtain ⟨⟨⟩, d₁, hset, h⟩ := bind_eq_ok.1 (transaction_eq_ok.1 h)
  rw [query_bind] at h
  dsimp only at h
  unfold setFields at hset
  have hsame : d₁.val.eventClasses = d.val.eventClasses := by rw [exec_eq_ok.1 hset]
  refine ⟨d₁, hsame, ?_⟩
  rw [hsame] at h
  exact h

/-- A rule for the transaction: an invariant of the mappings along the items still to come. -/
theorem setFieldsAndClasses_rec (I : List ClassMappingRequest → List EventClassRow → Prop)
    (hstep : ∀ x rest t t', x ∈ mappings → Retains d t → I (x :: rest) t.val.eventClasses →
      upsertEventClass eventId (mappingsOf d.val eventId) x t = .ok ⟨⟩ t' →
        I rest t'.val.eventClasses)
    (hstart : I mappings d.val.eventClasses) {u : Unit}
    (h : setFieldsAndClasses eventId fields mappings d = .ok u d') : I [] d'.val.eventClasses := by
  obtain ⟨d₁, hsame, hloop⟩ := setFieldsAndClasses_loop h
  let J : List ClassMappingRequest → Db → Prop := fun rest t =>
    (∀ x ∈ rest, x ∈ mappings) ∧ Retains d t ∧ I rest t.val.eventClasses
  have hstart' : J mappings d₁ := by
    have hretains : Retains d d₁ := ⟨[], by rw [List.append_nil, hsame]⟩
    exact ⟨fun _ hx => hx, hretains, hsame.symm ▸ hstart⟩
  refine (forM_ok_rec J (fun x rest t t' hJ hround => ?_) hloop hstart').2.2
  obtain ⟨hin, hretains, hI⟩ := hJ
  refine ⟨fun y hy => hin y (List.mem_cons_of_mem _ hy), ?_, ?_⟩
  · exact trans_of Retains hretains (retains_upsert hround)
  · exact hstep x rest t t' (hin x List.mem_cons_self) hretains hI hround

/-- The classes of the event are those of before and those of the payload. -/
theorem classes_setFieldsAndClasses {u : Unit}
    (h : setFieldsAndClasses eventId fields mappings d = .ok u d') (c : Nat) :
    c ∈ (mappingsOf d'.val eventId).map (·.classId) ↔
      c ∈ (mappingsOf d.val eventId).map (·.classId) ∨ c ∈ classIdsOf mappings := by
  obtain ⟨d₁, hsame, hloop⟩ := setFieldsAndClasses_loop h
  have hpairs := upsertEventClasses_pairs hloop
  have hmem : c ∈ (mappingsOf d'.val eventId).map (·.classId) ↔
      (eventId, c) ∈ d'.val.eventClasses.map pairOf := mem_pairs.symm
  have hmem' : c ∈ (mappingsOf d.val eventId).map (·.classId) ↔
      (eventId, c) ∈ d.val.eventClasses.map pairOf := mem_pairs.symm
  rw [hmem, hpairs, hsame, List.mem_append, ← hmem']
  have hnew : (eventId, c) ∈ ((classIdsOf mappings).filter fun c =>
      c ∉ (mappingsOf d.val eventId).map (·.classId)).map (eventId, ·) ↔
      c ∈ classIdsOf mappings ∧ c ∉ (mappingsOf d.val eventId).map (·.classId) := by
    simp only [List.mem_map, List.mem_filter, decide_eq_true_eq, Prod.mk.injEq, true_and,
      exists_eq_right]
  rw [hnew]
  by_cases hold : c ∈ (mappingsOf d.val eventId).map (·.classId)
  · exact iff_of_true (.inl hold) (.inl hold)
  · exact or_congr_right (and_iff_left hold)

/-- A mapping that is not the last of its class is as it was. -/
theorem kept_of_not_last {m : EventClassRow} (hm : m ∈ mappingsOf d.val eventId)
    (hlast : lastOf (mappingsOf d.val eventId) m.classId ≠ some m) {u : Unit}
    (h : setFieldsAndClasses eventId fields mappings d = .ok u d') : m ∈ d'.val.eventClasses := by
  have hmem := (List.mem_filter.1 hm).1
  refine setFieldsAndClasses_rec (fun _ l => m ∈ l) (fun x rest t t' _ _ hI hround => ?_) hmem h
  rcases upsertEventClass_cases hround with ⟨row, hrow, hval⟩ | ⟨-, hval⟩
  · rw [hval]
    refine mem_updateWhere_of_not hI (decide_eq_false fun hid => ?_)
    obtain ⟨hin, hclass⟩ := mem_lastOf hrow
    obtain rfl := d.ok.keys.eventClasses.eq_of_key_eq hmem (List.mem_filter.1 hin).1 hid
    rw [hclass] at hlast
    exact hlast hrow
  · rw [hval]
    exact List.mem_append_left _ hI

/-- A mapping has a price of the payload, or it is of before and not the last of its class. -/
theorem offered_or_old (hcovers : ∀ m ∈ mappingsOf d.val eventId, m.classId ∈ classIdsOf mappings)
    {u : Unit} (h : setFieldsAndClasses eventId fields mappings d = .ok u d') :
    ∀ m ∈ mappingsOf d'.val eventId, Offered mappings m ∨
      m ∈ mappingsOf d.val eventId ∧ lastOf (mappingsOf d.val eventId) m.classId ≠ some m := by
  let I : List ClassMappingRequest → List EventClassRow → Prop := fun rest l =>
    ∀ m ∈ l, m.eventId = eventId → Offered mappings m ∨ m ∈ mappingsOf d.val eventId ∧
      (lastOf (mappingsOf d.val eventId) m.classId = some m → m.classId ∈ classIdsOf rest)
  have hstart : I mappings d.val.eventClasses := by
    intro m hm hevent
    have hmem : m ∈ mappingsOf d.val eventId := List.mem_filter.2 ⟨hm, decide_eq_true hevent⟩
    exact .inr ⟨hmem, fun _ => hcovers m hmem⟩
  have hend : I [] d'.val.eventClasses := by
    refine setFieldsAndClasses_rec I (fun x rest t t' hx hretains hI hround => ?_) hstart h
    intro m hm hevent
    rcases upsertEventClass_cases hround with ⟨row, hrow, hval⟩ | ⟨hnone, hval⟩
    · rw [hval] at hm
      obtain ⟨hrowIn, hrowClass⟩ := mem_lastOf hrow
      obtain ⟨m₀, hm₀, rfl⟩ := mem_updateWhere.1 hm
      by_cases hid : m₀.id = row.id
      · -- its price is written
        have hclass := (hretains.same (List.mem_filter.1 hrowIn).1 hm₀ hid).2
        rw [if_pos (decide_eq_true hid)]
        exact .inl ⟨x, hx, hrowClass.symm.trans hclass.symm, rfl⟩
      · rw [if_neg (by simpa using hid)] at hevent ⊢
        refine (hI m₀ hm₀ hevent).imp_right fun ⟨hmem, hlast⟩ => ⟨hmem, fun hm₀last => ?_⟩
        rcases List.mem_cons.1 (hlast hm₀last) with hclass | hrest
        · -- the last mapping of the class is the one that is written
          rw [hclass] at hm₀last
          obtain rfl := Option.some.inj (hrow.symm.trans hm₀last)
          exact absurd rfl hid
        · exact hrest
    · rw [hval] at hm
      rcases List.mem_append.1 hm with hm | hm
      · refine (hI m hm hevent).imp_right fun ⟨hmem, hlast⟩ => ⟨hmem, fun hmlast => ?_⟩
        rcases List.mem_cons.1 (hlast hmlast) with hclass | hrest
        · exact absurd hclass (not_mem_of_lastOf hnone hmem)
        · exact hrest
      · obtain rfl := List.mem_singleton.1 hm
        exact .inl ⟨x, hx, rfl, rfl⟩
  intro m hm
  obtain ⟨hmem, hevent⟩ := List.mem_filter.1 hm
  refine (hend m hmem (of_decide_eq_true hevent)).imp_right fun ⟨hold, hlast⟩ => ⟨hold, fun h => ?_⟩
  exact absurd (hlast h) (by simp [classIdsOf])

end Update

/-! ## Selecting -/

/-- The event is for exactly the classes of the selection, at their prices, and the prediction is
that of its classes. -/
structure Selects (mappings : List ClassMappingRequest) (eventId n : Nat) (d' : Db) : Prop where
  classes : ∀ c, c ∈ (mappingsOf d'.val eventId).map (·.classId) ↔ c ∈ classIdsOf mappings
  prices : ∀ m ∈ mappingsOf d'.val eventId, Offered mappings m
  prediction : n = attendance
    (getStudentCountForClasses d'.val ((mappingsOf d'.val eventId).map (·.classId)))

/-- The event is for classes of the selection only, and the mappings that an update does not write
have a price of it. -/
def TakesOver (mappings : List ClassMappingRequest) (eventId : Nat) (d : Db) : Prop :=
  ∀ m ∈ mappingsOf d.val eventId, m.classId ∈ classIdsOf mappings ∧
    (lastOf (mappingsOf d.val eventId) m.classId ≠ some m → Offered mappings m)

section Select

variable {actor : Actor} {eventId n : Nat} {payload : AudienceSelect} {d d' : Db}

theorem studentCount_congr {t : Tables} {classIds classIds' : List Nat}
    (h : ∀ c, c ∈ classIds ↔ c ∈ classIds') :
    getStudentCountForClasses t classIds = getStudentCountForClasses t classIds' := by
  unfold getStudentCountForClasses
  simp only [h]

theorem getPredictedAttendance_seq (classIds : List Nat) (d : Db) :
    (getPredictedAttendance classIds).seq d =
      .ok (attendance (getStudentCountForClasses d.val classIds)) d := by
  unfold getPredictedAttendance
  by_cases hnil : classIds = []
  · subst hnil
    have hcount : getStudentCountForClasses d.val [] = 0 := by simp [getStudentCountForClasses]
    rw [if_pos rfl, hcount]
    rfl
  · rw [if_neg hnil, Proc.seq_bind, Proc.seq_look, query_bind]
    rfl

/-- A selection that succeeds is one transaction and the prediction for the classes it names. -/
theorem selectAudience_ok
    (h : (EventsRouter.selectAudience actor eventId payload).seq d = .ok n d') :
    ∃ fields, setFieldsAndClasses eventId fields payload.mappings d = .ok () d' ∧
      n = attendance (getStudentCountForClasses d'.val (classIdsOf payload.mappings)) := by
  unfold EventsRouter.selectAudience EventsRouter.requireTenant at h
  rw [Proc.seq_bind, Proc.seq_failIf, raiseIf_bind] at h
  split_ifs at h
  have h := Proc.seq_wrap_eq_ok.1 h
  rw [Proc.seq_bind, getEventById_seq, query_bind] at h
  cases hrow : d.val.event? eventId with
  | none =>
    rw [hrow] at h
    exact (throw_eq_ok.1 h).elim
  | some row =>
    rw [hrow] at h
    dsimp only [Option.map_some] at h
    rw [Proc.seq_bind] at h
    obtain ⟨editable, t, heditable, h⟩ := bind_eq_ok.1 h
    obtain ⟨-, rfl⟩ := ofExcept_eq_ok.1 heditable
    rw [Proc.seq_bind, Proc.seq_failIf, raiseIf_bind] at h
    split_ifs at h
    unfold TenantRepository.updateEventFull at h
    rw [Proc.seq_bind, Proc.seq_bind, Proc.seq_marked, getEventById_seq] at h
    obtain ⟨event, t, hupdate, h⟩ := bind_eq_ok.1 h
    obtain ⟨⟨⟩, t₁, hset, hread⟩ := bind_eq_ok.1 hupdate
    obtain ⟨-, rfl⟩ := query_eq_ok.1 hread
    rw [getPredictedAttendance_seq] at h
    cases h
    exact ⟨_, hset, rfl⟩

/-- **A selection that succeeds selects exactly its classes** if and only if the event was for no
other class and each mapping that an update does not write had a price of the selection. -/
theorem selects_iff (h : (EventsRouter.selectAudience actor eventId payload).seq d = .ok n d') :
    Selects payload.mappings eventId n d' ↔ TakesOver payload.mappings eventId d := by
  obtain ⟨fields, hset, hn⟩ := selectAudience_ok h
  constructor
  · intro hselects m hm
    refine ⟨?_, fun hlast => ?_⟩
    · refine (hselects.classes m.classId).1 ((classes_setFieldsAndClasses hset m.classId).2 ?_)
      exact .inl (List.mem_map_of_mem hm)
    · have hkept := kept_of_not_last hm hlast hset
      exact hselects.prices m (List.mem_filter.2 ⟨hkept, (List.mem_filter.1 hm).2⟩)
  · intro htakes
    have hclasses : ∀ c, c ∈ (mappingsOf d'.val eventId).map (·.classId) ↔
        c ∈ classIdsOf payload.mappings := by
      intro c
      rw [classes_setFieldsAndClasses hset c]
      refine or_iff_right_of_imp fun hold => ?_
      obtain ⟨m, hm, rfl⟩ := List.mem_map.1 hold
      exact (htakes m hm).1
    refine ⟨hclasses, fun m hm => ?_, ?_⟩
    · rcases offered_or_old (fun m hm => (htakes m hm).1) hset m hm with hoffered | ⟨hold, hlast⟩
      · exact hoffered
      · exact (htakes m hold).2 hlast
    · rw [hn, studentCount_congr hclasses]

end Select

/-- The teacher of the draft, which is for the first class, selects the second in its place. -/
theorem audience_selected : ∃ n d',
    (EventsRouter.selectAudience teacherActor 1 { classIds := [2] }).seq draftTrip = .ok n d' ∧
      (Selects [{ classId := 2 }] 1 n d' ↔ TakesOver [{ classId := 2 }] 1 draftTrip) := by
  have hreturns : returns (EventsRouter.selectAudience teacherActor 1 { classIds := [2] }).seq
      draftTrip = true := by decide +kernel
  obtain ⟨n, d', h⟩ := returns_iff.1 hreturns
  exact ⟨n, d', h, selects_iff h⟩

/-- The event is still for the first class. -/
theorem audience_not_narrowed : ∃ n d',
    (EventsRouter.selectAudience teacherActor 1 { classIds := [2] }).seq draftTrip = .ok n d' ∧
      ¬Selects [{ classId := 2 }] 1 n d' := by
  have hreturns : returns (EventsRouter.selectAudience teacherActor 1 { classIds := [2] }).seq
      draftTrip = true := by decide +kernel
  obtain ⟨n, d', h⟩ := returns_iff.1 hreturns
  refine ⟨n, d', h, fun hselects => ?_⟩
  obtain ⟨fields, hset, -⟩ := selectAudience_ok h
  have hfirst : 1 ∈ (mappingsOf draftTrip.val 1).map (·.classId) := by decide +kernel
  have hstill := (classes_setFieldsAndClasses hset 1).2 (.inl hfirst)
  exact absurd ((hselects.classes 1).1 hstill) (by decide)

/-! ## A teacher's update -/

section Teacher

variable {mark : Mark} {eventId : Nat} {fields : EventFields} {mappings : List ClassMappingRequest}
variable {userRole : List String} {userId : ParsedId} {event : Event} {d d' : Db}

/-- The classes that the actor heads. -/
def headed (t : Tables) : ParsedId → List Nat
  | .number n => getClassesByHeadTeacher t n
  | .other _ => []

/-- The mappings of the event to classes of others. -/
def othersMappings (t : Tables) (eventId : Nat) (own : List Nat) : List EventClassRow :=
  (mappingsOf t eventId).filter fun m => m.classId ∉ own

/-- Saving mappings of own classes leaves the others. -/
theorem othersMappings_setFieldsAndClasses {own : List Nat} (hown : ∀ x ∈ mappings, x.classId ∈ own)
    {u : Unit} (h : setFieldsAndClasses eventId fields mappings d = .ok u d') :
    othersMappings d'.val eventId own = othersMappings d.val eventId own := by
  let others : List EventClassRow → List EventClassRow := fun l =>
    (l.filter fun m => m.eventId = eventId).filter fun m => m.classId ∉ own
  refine setFieldsAndClasses_rec (fun _ l => others l = others d.val.eventClasses)
    (fun x rest t t' hx hretains hI hround => ?_) rfl h
  rcases upsertEventClass_cases hround with ⟨row, hrow, hval⟩ | ⟨-, hval⟩
  · rw [hval, ← hI]
    obtain ⟨hrowIn, hrowClass⟩ := mem_lastOf hrow
    simp only [others, List.filter_filter]
    refine filter_updateWhere_of_not fun m hm hid => ?_
    have hclass := (hretains.same (List.mem_filter.1 hrowIn).1 hm (of_decide_eq_true hid)).2
    have hin : m.classId ∈ own := by
      rw [hclass, hrowClass]
      exact hown x hx
    simp [hin]
  · rw [hval, ← hI]
    have hin := hown x hx
    simp [others, hin]

/-- What is checked before a teacher's update, and the one transaction that it is. -/
theorem updateEventFull_teacher_ok (hteacher : "teacher" ∈ userRole)
    (hstaff : ¬("school_admin" ∈ userRole ∨ "event_teacher" ∈ userRole ∨ "manager" ∈ userRole))
    (h : (TenantService.updateEventFull mark eventId fields mappings userRole userId).seq d =
      .ok event d') :
    (∃ m ∈ mappingsOf d.val eventId, m.classId ∈ headed d.val userId) ∧
      setFieldsAndClasses eventId fields (mappings.filter fun m => m.classId ∈ headed d.val userId)
        d =
        .ok () d' := by
  unfold TenantService.updateEventFull at h
  rw [Proc.seq_bind] at h
  obtain ⟨own, d₁, hown, h⟩ := bind_eq_ok.1 h
  have hchecked : (∃ m ∈ mappingsOf d.val eventId, m.classId ∈ headed d.val userId) ∧
      own = (mappings.filter fun m => m.classId ∈ headed d.val userId) ∧ d₁ = d := by
    unfold ownMappings at hown
    rw [if_neg hstaff, if_pos hteacher, Proc.seq_bind] at hown
    obtain ⟨t, d₂, hid, hchecks⟩ := bind_eq_ok.1 hown
    obtain ⟨hcolumn, rfl⟩ := ofExcept_eq_ok.1 hid
    obtain rfl := column_eq_ok.1 hcolumn
    rw [Proc.seq_bind, Proc.seq_look, query_bind, Proc.seq_bind, Proc.seq_failIf,
      raiseIf_bind] at hchecks
    split_ifs at hchecks
    rw [Proc.seq_bind, getEventById_seq, query_bind] at hchecks
    cases hrow : d.val.event? eventId with
    | none =>
      rw [hrow] at hchecks
      exact (throw_eq_ok.1 hchecks).elim
    | some row =>
      rw [hrow] at hchecks
      dsimp only [Option.map_some] at hchecks
      rw [Proc.seq_bind, Proc.seq_failIf] at hchecks
      obtain ⟨⟨⟩, d₂, hmapped, hret⟩ := bind_eq_ok.1 hchecks
      obtain ⟨hany, rfl⟩ := raiseIf_eq_ok.1 hmapped
      obtain ⟨rfl, rfl⟩ := pure_eq_ok.1 hret
      obtain ⟨m, hm, hclass⟩ := List.any_eq_true.1 (not_not.1 hany)
      obtain ⟨row, hrow, hsame⟩ :=
        List.mem_map.1 ((classIds_sublist _ _).subset (List.mem_map_of_mem hm))
      exact ⟨⟨row, hrow, hsame ▸ of_decide_eq_true hclass⟩, rfl, rfl⟩
  obtain ⟨hmapped, rfl, rfl⟩ := hchecked
  refine ⟨hmapped, ?_⟩
  unfold TenantRepository.updateEventFull at h
  rw [Proc.seq_bind, Proc.seq_bind, Proc.seq_marked, getEventById_seq] at h
  obtain ⟨found, d₂, hupdate, h⟩ := bind_eq_ok.1 h
  obtain ⟨⟨⟩, d₃, hset, hread⟩ := bind_eq_ok.1 hupdate
  obtain ⟨-, rfl⟩ := query_eq_ok.1 hread
  cases found with
  | none => exact (throw_eq_ok.1 h).elim
  | some found =>
    obtain ⟨-, rfl⟩ := pure_eq_ok.1 h
    exact hset

/-- **A teacher's full update touches only their own classes**: the mappings of the other classes
are as before, and the event was for a class that the teacher heads. -/
theorem ownClasses_only (hteacher : "teacher" ∈ userRole)
    (hstaff : ¬("school_admin" ∈ userRole ∨ "event_teacher" ∈ userRole ∨ "manager" ∈ userRole))
    (h : (TenantService.updateEventFull mark eventId fields mappings userRole userId).seq d =
      .ok event d') :
    othersMappings d'.val eventId (headed d.val userId) =
        othersMappings d.val eventId (headed d.val userId) ∧
      ∃ m ∈ mappingsOf d.val eventId, m.classId ∈ headed d.val userId := by
  obtain ⟨hmapped, hset⟩ := updateEventFull_teacher_ok hteacher hstaff h
  refine ⟨othersMappings_setFieldsAndClasses (fun x hx => ?_) hset, hmapped⟩
  exact of_decide_eq_true (List.mem_filter.1 hx).2

end Teacher

/-- A draft for two classes, of which a teacher heads the first. -/
def ownTrip : Db where
  val := { draftTrip.val with
    eventClasses := draftTrip.val.eventClasses ++ [⟨2, 1, 2, 9⟩]
    teachers := [⟨2, "T"⟩]
    classes := [⟨1, "G1 - A", 1, some 2, 25, true, 1, some "A"⟩,
      ⟨2, "G1 - B", 1, none, 25, true, 1, some "B"⟩] }
  ok := by decide +kernel

/-- The teacher names both classes, and only the price of their own is written. -/
theorem second_class_kept : ∃ event d',
    (TenantService.updateEventFull (.keepSubsidy 1 0) 1
        { title := "Museum", description := "", address := none, schoolSubsidy := 0, date := 0 }
        [{ classId := 1, ticketPrice := 5 }, { classId := 2, ticketPrice := 7 }] ["teacher"]
        (.number 2)).seq ownTrip = .ok event d' ∧
      othersMappings d'.val 1 (headed ownTrip.val (.number 2)) = [⟨2, 1, 2, 9⟩] := by
  have hreturns : returns (TenantService.updateEventFull (.keepSubsidy 1 0) 1
      { title := "Museum", description := "", address := none, schoolSubsidy := 0, date := 0 }
      [{ classId := 1, ticketPrice := 5 }, { classId := 2, ticketPrice := 7 }] ["teacher"]
      (.number 2)).seq ownTrip = true := by decide +kernel
  have hothers : othersMappings ownTrip.val 1 (headed ownTrip.val (.number 2)) =
      [⟨2, 1, 2, 9⟩] := by decide +kernel
  obtain ⟨event, d', h⟩ := returns_iff.1 hreturns
  exact ⟨event, d', h, (ownClasses_only (by decide) (by decide) h).1.trans hothers⟩

end Sams.Trips
