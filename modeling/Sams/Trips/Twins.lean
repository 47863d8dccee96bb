import Sams.Lib.Twins
import Sams.Trips.Editing
import Sams.Trips.Listing

/-!
# States that differ in the amounts only

Two states have the same public part when they are the same but for the subsidies and the total
costs of the events. The database takes or refuses a statement in both alike, as long as the amounts
that it writes are in range, and what the requests read is the same in both but for the amounts.
-/

namespace Sams.Trips

open School Programs Rows Interleaving TenantRepository TenantService

/-! ## The public part -/

/-- An event without its amounts. -/
def withoutAmounts (e : EventRow) : EventRow := { e with schoolSubsidy := 0, totalCost := none }

/-- The tables without the amounts of the events. -/
def publicPart (t : Tables) : Tables := { t with events := t.events.map withoutAmounts }

/-- The two states differ only in the amounts. -/
def SamePublic (d d' : Db) : Prop := publicPart d.val = publicPart d'.val

instance (d d' : Db) : Decidable (SamePublic d d') := inferInstanceAs (Decidable (_ = _))

/-- The amounts are in the range of their columns. -/
def Priced (t : Tables) : Prop := ∀ e ∈ t.events, ∀ m ∈ e.amounts, Numeric m

theorem priced (d : Db) : Priced d.val := d.ok.checks.event_amounts

theorem numeric_zero : Numeric 0 := by decide

theorem priced_publicPart (t : Tables) : Priced (publicPart t) := by
  intro e he m hm
  obtain ⟨e₀, -, rfl⟩ := List.mem_map.1 he
  have hm : m = 0 := by simpa [withoutAmounts, EventRow.amounts] using hm
  rw [hm]
  exact numeric_zero

theorem map_id_withoutAmounts (es : List EventRow) :
    (es.map withoutAmounts).map EventRow.id = es.map EventRow.id := by
  rw [List.map_map]
  rfl

/-- The constraints look at the amounts only for their range. -/
theorem ok_publicPart {t : Tables} (h : Priced t) : (publicPart t).Ok ↔ t.Ok := by
  have hkeys : (publicPart t).PrimaryKeys ↔ t.PrimaryKeys := by
    simp only [Tables.primaryKeys_iff, publicPart, Keyed, map_id_withoutAmounts]
  have hchecks : (publicPart t).Checks ↔ t.Checks := by
    have hpublic := priced_publicPart t
    unfold Priced at h hpublic
    simp only [Tables.checks_iff]
    rw [iff_true_intro h, iff_true_intro hpublic]
    simp only [publicPart, List.forall_mem_map]
    exact Iff.rfl
  have hevents : (publicPart t).EventRefs ↔ t.EventRefs := by
    simp only [Tables.eventRefs_iff, publicPart, Refers, List.forall_mem_map, map_id_withoutAmounts]
    exact Iff.rfl
  have hcontacts : (publicPart t).ContactRefs ↔ t.ContactRefs := by
    simp only [Tables.contactRefs_iff, publicPart, Refers, map_id_withoutAmounts]
  have hunique : (publicPart t).UniqueKeys ↔ t.UniqueKeys := by
    simp only [Tables.uniqueKeys_iff, publicPart]
  have hplacements : (publicPart t).PlacementRefs ↔ t.PlacementRefs := by
    simp only [Tables.placementRefs_iff, publicPart]
  have hrollovers : (publicPart t).RolloverRefs ↔ t.RolloverRefs := by
    simp only [Tables.rolloverRefs_iff, publicPart]
  rw [Tables.ok_iff, Tables.ok_iff, hkeys, hunique, hchecks, hplacements, hrollovers, hevents,
    hcontacts]

/-! ## Statements -/

/-- Two statements with the same public effect, whose amounts are in range. -/
theorem paired_stmt {f f' : Tables → Tables}
    (hpublic : ∀ t t', publicPart t = publicPart t' → publicPart (f t) = publicPart (f' t'))
    (hf : ∀ t, Priced t → Priced (f t)) (hf' : ∀ t, Priced t → Priced (f' t)) :
    Paired SamePublic (· = ·) (stmt f) (stmt f') := by
  refine paired_exec (fun d d' hd => ?_) fun d d' hd _ _ => hpublic d.val d'.val hd
  rw [← ok_publicPart (hf d.val (priced d)), ← ok_publicPart (hf' d'.val (priced d')),
    hpublic d.val d'.val hd]

/-- A statement that does not look at the amounts. -/
theorem paired_stmt_self {f : Tables → Tables} (hpublic : ∀ t, publicPart (f t) = f (publicPart t))
    (hf : ∀ t, Priced t → Priced (f t)) : Paired SamePublic (· = ·) (stmt f) (stmt f) :=
  paired_stmt (fun t t' h => by rw [hpublic, hpublic, h]) hf hf

/-- What is read without the amounts is the same. -/
theorem twin_look_public {α : Type} {f : Tables → α} (hf : ∀ t, f (publicPart t) = f t) :
    (Proc.look fun d => f d.val : Task α).Twin SamePublic (· = ·) (Proc.look fun d => f d.val) :=
  Proc.twin_look fun d d' hd => by rw [← hf d.val, ← hf d'.val, hd]

theorem paired_read_public {α : Type} {f : Tables → α} (hf : ∀ t, f (publicPart t) = f t) :
    Paired SamePublic (· = ·) (read f) (read f) :=
  paired_query fun d d' hd => by
    show f d.val = f d'.val
    rw [← hf d.val, ← hf d'.val, hd]

theorem priced_of_events {t t' : Tables} (h : t'.events = t.events) (ht : Priced t) :
    Priced t' := fun e he => ht e (h ▸ he)

/-! ## Events that differ in the amounts -/

/-- The two rows differ only in the amounts, which are in range. -/
structure AlikeRows (e e' : EventRow) : Prop where
  rows : withoutAmounts e = withoutAmounts e'
  priced : ∀ m ∈ e.amounts, Numeric m
  priced' : ∀ m ∈ e'.amounts, Numeric m

/-- The two events differ only in the amounts. -/
structure Alike (e e' : Event) : Prop where
  rows : AlikeRows e.row e'.row
  classMappings : e.classMappings = e'.classMappings

theorem AlikeRows.exists_amounts {e e' : EventRow} (h : AlikeRows e e') :
    ∃ subsidy cost, e' = { e with schoolSubsidy := subsidy, totalCost := cost } := by
  refine ⟨e'.schoolSubsidy, e'.totalCost, ?_⟩
  have hrows := h.rows
  cases e
  cases e'
  simp only [withoutAmounts, EventRow.mk.injEq] at hrows ⊢
  simp [hrows]

theorem event?_public (t : Tables) (i : Nat) :
    (publicPart t).event? i = (t.event? i).map withoutAmounts := by
  unfold publicPart Tables.event?
  dsimp only
  rw [List.find?_map]
  rfl

theorem priced_of_event? {t : Tables} (ht : Priced t) {i : Nat} {e : EventRow}
    (h : t.event? i = some e) : ∀ m ∈ e.amounts, Numeric m := ht e (List.mem_of_find?_eq_some h)

/-- The row of an event is there in both states or in neither. -/
theorem alike_event? {d d' : Db} (h : SamePublic d d') (i : Nat) :
    Option.Rel AlikeRows (d.val.event? i) (d'.val.event? i) := by
  have hpublic : (d.val.event? i).map withoutAmounts = (d'.val.event? i).map withoutAmounts := by
    rw [← event?_public, ← event?_public, h]
  cases he : d.val.event? i with
  | none =>
    rw [he, Option.map_none, eq_comm, Option.map_eq_none_iff] at hpublic
    rw [hpublic]
    exact .none
  | some e =>
    cases he' : d'.val.event? i with
    | none =>
      rw [he, he'] at hpublic
      cases hpublic
    | some e' =>
      rw [he, he'] at hpublic
      exact .some ⟨Option.some.inj hpublic, priced_of_event? (priced d) he,
        priced_of_event? (priced d') he'⟩

theorem twin_getEventById (i : Nat) :
    (getEventById i).Twin SamePublic (Option.Rel Alike) (getEventById i) := by
  unfold getEventById
  refine Proc.twin_bind (Proc.twin_look fun d d' hd => alike_event? hd i) fun row row' hrow => ?_
  cases hrow with
  | none => exact Proc.twin_ret .none
  | some hrow =>
    refine Proc.twin_bind_eq (twin_look_public (f := fun t => classMappings t i) fun _ => rfl)
      fun classMappings => ?_
    exact Proc.twin_ret (.some ⟨hrow, rfl⟩)

/-- What follows from an event that is there in both states or in neither. -/
theorem twin_getEventById_bind {α : Type} {Q : α → α → Prop} {i : Nat}
    {f f' : Option Event → Task α} (hnone : (f none).Twin SamePublic Q (f' none))
    (hsome : ∀ event event', Alike event event' →
      (f (some event)).Twin SamePublic Q (f' (some event'))) :
    (getEventById i >>= f).Twin SamePublic Q (getEventById i >>= f') :=
  Proc.twin_bind (twin_getEventById i) fun event event' h => by
    cases h with
    | none => exact hnone
    | some h => exact hsome _ _ h

theorem Alike.exists_amounts {e e' : Event} (h : Alike e e') : ∃ subsidy cost,
    e' = ⟨{ e.row with schoolSubsidy := subsidy, totalCost := cost }, e.classMappings⟩ := by
  obtain ⟨subsidy, cost, hrow⟩ := h.rows.exists_amounts
  refine ⟨subsidy, cost, ?_⟩
  rw [← hrow, h.classMappings]

theorem twin_ofExcept {α : Type} (x : Except PyError α) :
    (ofExcept x).Twin SamePublic (· = ·) (ofExcept x) := by
  cases x with
  | ok a => exact Proc.twin_ret rfl
  | error e => exact Proc.twin_fail e

/-! ## The writes -/

section Writes

variable {eventId : Nat}

theorem paired_createNotification (r : Nat) (title : Option String) :
    Paired SamePublic (· = ·) (createNotification eventId r title)
      (createNotification eventId r title) := by
  unfold createNotification
  exact paired_stmt_self (fun _ => rfl) fun _ => priced_of_events rfl

theorem priced_updateWhere {t : Tables} {p : EventRow → Bool} {f : EventRow → EventRow}
    (hf : ∀ e, (∀ m ∈ e.amounts, Numeric m) → ∀ m ∈ (f e).amounts, Numeric m) (ht : Priced t) :
    Priced { t with events := updateWhere p f t.events } := by
  intro e' he'
  rcases cases_of_mem_updateWhere he' with ⟨he, -⟩ | ⟨e, he, -, rfl⟩
  · exact ht e' he
  · exact hf e (ht e he)

/-- An update of an event by two functions that have the same public effect. -/
theorem paired_updateWhere {f f' g : EventRow → EventRow}
    (hg : ∀ e, withoutAmounts (f e) = g (withoutAmounts e))
    (hg' : ∀ e, withoutAmounts (f' e) = g (withoutAmounts e))
    (hf : ∀ e, (∀ m ∈ e.amounts, Numeric m) → ∀ m ∈ (f e).amounts, Numeric m)
    (hf' : ∀ e, (∀ m ∈ e.amounts, Numeric m) → ∀ m ∈ (f' e).amounts, Numeric m) :
    Paired SamePublic (· = ·)
      (stmt fun t => { t with
        events := updateWhere (fun e => decide (e.id = eventId)) f t.events })
      (stmt fun t => { t with
        events := updateWhere (fun e => decide (e.id = eventId)) f' t.events }) := by
  have hpublic : ∀ t {f : EventRow → EventRow},
      (∀ e, withoutAmounts (f e) = g (withoutAmounts e)) →
      publicPart { t with events := updateWhere (fun e => decide (e.id = eventId)) f t.events } =
        { publicPart t with
          events := updateWhere (fun e => decide (e.id = eventId)) g (publicPart t).events } := by
    intro t f hf
    unfold publicPart
    dsimp only
    have hcomm := map_updateWhere_comm (g := withoutAmounts) (l := t.events)
      (p := fun e => decide (e.id = eventId)) (fun e => rfl) hf
    rw [hcomm]
  refine paired_stmt (fun t t' h => ?_) (fun _ => priced_updateWhere hf) fun _ =>
    priced_updateWhere hf'
  rw [hpublic t hg, hpublic t' hg', h]

theorem paired_updateEventStatus (fields : UpdateFields) :
    Paired SamePublic (· = ·) (updateEventStatus eventId fields)
      (updateEventStatus eventId fields) := by
  have hwrite : ∀ reviewer, Paired SamePublic (· = ·) (writeEventStatus eventId fields reviewer)
      (writeEventStatus eventId fields reviewer) := fun reviewer =>
    paired_updateWhere (g := fields.write reviewer) (fun _ => rfl) (fun _ => rfl) (fun _ h => h)
      fun _ h => h
  unfold updateEventStatus
  cases fields.managerReviewerId with
  | none => exact hwrite none
  | some id =>
    cases id with
    | number n => exact hwrite (some n)
    | other asInt => exact paired_throw _

/-- The fields differ only in the subsidy, which is in range. -/
structure AlikeFields (fields fields' : EventFields) : Prop where
  others : { fields with schoolSubsidy := 0 } = { fields' with schoolSubsidy := 0 }
  priced : Numeric fields.schoolSubsidy
  priced' : Numeric fields'.schoolSubsidy

variable {fields fields' : EventFields} (h : AlikeFields fields fields')

include h

theorem paired_setFields :
    Paired SamePublic (· = ·) (setFields eventId fields) (setFields eventId fields') := by
  obtain ⟨hfields, hpriced, hpriced'⟩ := h
  simp only [EventFields.mk.injEq, true_and] at hfields
  obtain ⟨htitle, hdescription, haddress, hdate⟩ := hfields
  unfold setFields
  refine paired_updateWhere
    (g := fun e => { e with
      title := fields.title
      description := fields.description
      address := fields.address
      date := fields.date
      schoolSubsidy := 0 })
    (fun e => rfl) (fun e => ?_) (fun e he => ?_) fun e he => ?_
  · simp only [withoutAmounts, htitle, hdescription, haddress, hdate]
  · exact List.forall_mem_cons.2 ⟨hpriced, fun m hm => he m (List.mem_cons_of_mem _ hm)⟩
  · exact List.forall_mem_cons.2 ⟨hpriced', fun m hm => he m (List.mem_cons_of_mem _ hm)⟩

omit h in
theorem paired_insertEventClass (m : ClassMappingRequest) :
    Paired SamePublic (· = ·) (insertEventClass eventId m) (insertEventClass eventId m) := by
  unfold insertEventClass
  exact paired_stmt_self (fun _ => rfl) fun _ => priced_of_events rfl

omit h in
theorem paired_upsertEventClass (existing : List EventClassRow) (m : ClassMappingRequest) :
    Paired SamePublic (· = ·) (upsertEventClass eventId existing m)
      (upsertEventClass eventId existing m) := by
  unfold upsertEventClass
  cases (existing.filter fun r => decide (r.classId = m.classId)).getLast? with
  | none => exact paired_insertEventClass m
  | some row => exact paired_stmt_self (fun _ => rfl) fun _ => priced_of_events rfl

theorem paired_setFieldsAndClasses (mappings : List ClassMappingRequest) :
    Paired SamePublic (· = ·) (setFieldsAndClasses eventId fields mappings)
      (setFieldsAndClasses eventId fields' mappings) := by
  unfold setFieldsAndClasses
  refine paired_transaction (paired_bind (paired_setFields h) fun _ _ _ => ?_)
  refine paired_bind (paired_read_public
    (f := fun t => t.eventClasses.filter fun m => decide (m.eventId = eventId)) fun _ => rfl)
    fun existing _ hexisting => ?_
  subst hexisting
  exact paired_forM fun m _ => paired_upsertEventClass existing m

theorem paired_updateEvent : Paired SamePublic (Option.Rel AlikeRows)
    (TenantRepository.updateEvent eventId fields) (TenantRepository.updateEvent eventId fields') :=
  paired_bind (paired_setFields h) fun _ _ _ => paired_query fun _ _ hd => alike_event? hd eventId

omit h in
theorem publicPart_insert (t : Tables) (e : EventRow) :
    publicPart { t with
      events := t.events ++ [e], seq := { t.seq with event := t.seq.event + 1 } } =
    { publicPart t with
      events := (publicPart t).events ++ [withoutAmounts e]
      seq := { (publicPart t).seq with event := (publicPart t).seq.event + 1 } } := by
  simp [publicPart]

omit h in
theorem priced_insert {t : Tables} {e : EventRow} (he : ∀ m ∈ e.amounts, Numeric m)
    (ht : Priced t) : Priced { t with
      events := t.events ++ [e], seq := { t.seq with event := t.seq.event + 1 } } := by
  intro e' he'
  rcases List.mem_append.1 he' with he' | he'
  · exact ht e' he'
  · rw [List.mem_singleton.1 he']
    exact he

theorem paired_insertEvent (createdBy : Nat) (now : Timestamp) :
    Paired SamePublic (· = ·) (insertEvent fields createdBy now)
      (insertEvent fields' createdBy now) := by
  obtain ⟨hfields, hpriced, hpriced'⟩ := h
  simp only [EventFields.mk.injEq, true_and] at hfields
  obtain ⟨htitle, hdescription, haddress, hdate⟩ := hfields
  unfold insertEvent
  refine paired_bind (paired_read_public (f := fun t => t.seq.event) fun _ => rfl)
    fun id _ hid => ?_
  subst hid
  refine paired_bind (paired_stmt (fun t t' ht => ?_) (fun t => priced_insert ?_)
    fun t => priced_insert ?_) fun _ _ _ => paired_pure rfl
  · rw [publicPart_insert, publicPart_insert, ht]
    simp only [withoutAmounts, htitle, hdescription, haddress, hdate]
  · simpa [EventRow.amounts] using hpriced
  · simpa [EventRow.amounts] using hpriced'

theorem paired_insertWithClasses (createdBy : Nat) (mappings : List ClassMappingRequest)
    (now : Timestamp) : Paired SamePublic (· = ·) (insertWithClasses fields createdBy mappings now)
      (insertWithClasses fields' createdBy mappings now) := by
  unfold insertWithClasses
  refine paired_transaction (paired_bind (paired_insertEvent h createdBy now) fun id _ hid => ?_)
  subst hid
  exact paired_bind (paired_forM fun m _ => paired_insertEventClass m) fun _ _ _ => paired_pure rfl

end Writes

end Sams.Trips
