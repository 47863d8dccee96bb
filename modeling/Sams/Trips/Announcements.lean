import Sams.Trips.Publishing

/-!
# Who hears of an event before it is published

A notification shows its event to whoever receives it. Submissions tell the managers, decisions the
creator, and a publication the students and their parents, one by one, before the status is written.
Creating an event tells the students of its classes at once.

**`unannounced_run`**: no student or parent is told of an unpublished event of someone else,
in every run of calls that create no event for a class with a student in it and whose
announcements all fit.
-/

namespace Sams.Trips

open School Programs Rows Runs Interleaving TenantRepository TenantService

/-- The account of a student or of a parent. -/
def FamilyAccount (d : Db) (userId : Nat) : Prop :=
  ∃ u ∈ d.val.users, u.id = userId ∧ (u.role = "student" ∨ u.role = "parent")

instance (d : Db) (userId : Nat) : Decidable (FamilyAccount d userId) :=
  inferInstanceAs (Decidable (∃ u ∈ d.val.users, _))

/-- Of an event that is not published no student and no parent is told but its creator. -/
def Unannounced (d : Db) : Prop :=
  ∀ e ∈ d.val.events, e.status ≠ .published → ∀ n ∈ d.val.notifications, n.eventId = e.id →
    FamilyAccount d n.recipientUserId → n.recipientUserId = e.createdBy

instance (d : Db) : Decidable (Unannounced d) := inferInstanceAs (Decidable (∀ e ∈ d.val.events, _))

/-- The sequence of the notifications is ahead of the ids that it gave. -/
def Sequenced (d : Db) : Prop := ∀ n ∈ d.val.notifications, n.id < d.val.seq.notification

instance (d : Db) : Decidable (Sequenced d) :=
  inferInstanceAs (Decidable (∀ n ∈ d.val.notifications, _))

/-- The accounts are the same, and an unpublished event is announced only where one was before. -/
structure Discreet (d d' : Db) : Prop where
  users : d'.val.users = d.val.users
  sequenced : Sequenced d → Sequenced d'
  unannounced : Unannounced d → Unannounced d'

instance : IsPreorder Db Discreet where
  refl _ := ⟨rfl, id, id⟩
  trans _ _ _ h h' :=
    ⟨h'.users.trans h.users, h'.sequenced ∘ h.sequenced, h'.unannounced ∘ h.unannounced⟩

/-! ## Statements -/

section Statements

variable {d d' : Db}

theorem familyAccount_congr (h : d'.val.users = d.val.users) (userId : Nat) :
    FamilyAccount d' userId ↔ FamilyAccount d userId := by
  unfold FamilyAccount
  rw [h]

/-- Statements that notify nobody and leave the creator and an unpublished status as they are.
Nobody was notified of a new event. -/
theorem discreet_of_events (husers : d'.val.users = d.val.users)
    (hnotes : d'.val.notifications = d.val.notifications)
    (hseq : d'.val.seq.notification = d.val.seq.notification)
    (hevents : ∀ e' ∈ d'.val.events, e'.status ≠ .published →
      e'.id ∉ d.val.events.map EventRow.id ∨
        ∃ e ∈ d.val.events, e.id = e'.id ∧ e.createdBy = e'.createdBy ∧ e.status ≠ .published) :
    Discreet d d' where
  users := husers
  sequenced h := by
    unfold Sequenced at h ⊢
    rw [hnotes, hseq]
    exact h
  unannounced h := by
    intro e' he' hstatus' n hn hevent hfamily
    rw [hnotes] at hn
    rw [familyAccount_congr husers] at hfamily
    rcases hevents e' he' hstatus' with hnew | ⟨e, he, hid, hcreator, hstatus⟩
    · obtain ⟨e, he, hid⟩ := d.ok.contacts.notification_event.exists_row hn rfl
      exact absurd (List.mem_map.2 ⟨e, he, hid.trans hevent⟩) hnew
    · exact (h e he hstatus n hn (hevent.trans hid.symm) hfamily).trans hcreator

/-- Statements that touch neither accounts nor events nor notifications. -/
theorem discreet_of_eq (husers : d'.val.users = d.val.users)
    (hevents : d'.val.events = d.val.events)
    (hnotes : d'.val.notifications = d.val.notifications)
    (hseq : d'.val.seq.notification = d.val.seq.notification) : Discreet d d' := by
  refine discreet_of_events husers hnotes hseq fun e' he' hstatus => .inr ?_
  rw [hevents] at he'
  exact ⟨e', he', rfl, rfl, hstatus⟩

/-- Events are rewritten without their ids, their creators and a status of `published`. -/
theorem discreet_updateWhere {p : EventRow → Bool} {f : EventRow → EventRow}
    (husers : d'.val.users = d.val.users) (hevents : d'.val.events = updateWhere p f d.val.events)
    (hnotes : d'.val.notifications = d.val.notifications)
    (hseq : d'.val.seq.notification = d.val.seq.notification)
    (hf : ∀ e ∈ d.val.events, p e = true → (f e).id = e.id ∧ (f e).createdBy = e.createdBy ∧
      (e.status = .published → (f e).status = .published)) : Discreet d d' := by
  refine discreet_of_events husers hnotes hseq fun e' he' hstatus' => .inr ?_
  rw [hevents] at he'
  rcases cases_of_mem_updateWhere he' with ⟨he, -⟩ | ⟨e, he, hp, rfl⟩
  · exact ⟨e', he, rfl, rfl, hstatus'⟩
  · obtain ⟨hid, hcreator, hstatus⟩ := hf e he hp
    exact ⟨e, he, hid.symm, hcreator.symm, fun h => hstatus' (hstatus h)⟩

/-- Who may be told of the event: who is no student and no parent, the creator, and everyone
once it is published. -/
def MayHear (d : Db) (eventId r : Nat) : Prop :=
  FamilyAccount d r → ∀ e ∈ d.val.events, e.id = eventId → e.status = .published ∨ r = e.createdBy

/-- A notification to whoever may hear of the event. -/
theorem discreet_createNotification {eventId r : Nat} (title : Option String)
    (h : MayHear d eventId r) : Discreet d (after (createNotification eventId r title) d) := by
  unfold createNotification
  refine after_exec_ind (refl_of Discreet d) fun s' hval => ?_
  have husers : s'.val.users = d.val.users := by rw [hval]
  refine ⟨husers, fun hseq n hn => ?_, fun hd e he hstatus n hn hevent hfamily => ?_⟩
  · simp only [hval, List.mem_append, List.mem_singleton] at hn ⊢
    rcases hn with hn | rfl
    · exact Nat.lt_succ_of_lt (hseq n hn)
    · exact Nat.lt_succ_self _
  · rw [familyAccount_congr husers] at hfamily
    simp only [hval, List.mem_append, List.mem_singleton] at he hn
    rcases hn with hn | rfl
    · exact hd e he hstatus n hn hevent hfamily
    · exact (h hfamily e he hevent.symm).resolve_left hstatus

end Statements

/-! ## Editing -/

theorem discreet_setFields (eventId : Nat) (fields : EventFields) :
    Moves Discreet (setFields eventId fields) := by
  unfold setFields
  refine moves_exec fun d hok => ?_
  exact discreet_updateWhere rfl rfl rfl rfl fun e _ _ => ⟨rfl, rfl, id⟩

theorem discreet_setFieldsAndClasses (eventId : Nat) (fields : EventFields)
    (mappings : List ClassMappingRequest) :
    Moves Discreet (setFieldsAndClasses eventId fields mappings) := by
  unfold setFieldsAndClasses
  refine moves_transaction (moves_bind (discreet_setFields _ _) fun _ => ?_)
  refine moves_bind (moves_query _) fun existing => moves_forM fun m _ => ?_
  unfold upsertEventClass insertEventClass
  cases (existing.filter fun r => decide (r.classId = m.classId)).getLast? with
  | none => exact moves_exec fun _ _ => discreet_of_eq rfl rfl rfl rfl
  | some row => exact moves_exec fun _ _ => discreet_of_eq rfl rfl rfl rfl

theorem keeps_of_discreet {α : Type} {mark : Mark} {m : Prog α} (h : Moves Discreet m) :
    (Proc.marked mark m : Task α).Keeps (fun _ _ => True) fun _ => Discreet :=
  Proc.keeps_marked (fun d _ _ _ hm => after_ok hm ▸ h d) fun d _ _ _ hm => after_error hm ▸ h d

theorem allowsEdits_discreet (eventId : Nat) :
    AllowsEdits (fun _ _ => True) (fun _ => Discreet) eventId fun _ => True where
  refl d := refl_of _ d
  set _ _ _ := keeps_of_discreet (discreet_setFieldsAndClasses _ _ _)
  keep _ _ := keeps_of_discreet (discreet_setFieldsAndClasses _ _ _)
  patch _ := keeps_of_discreet (moves_bind (discreet_setFields _ _) fun _ => moves_query _)
  subsidy _ _ := by
    refine keeps_of_discreet ?_
    unfold TenantRepository.updateSubsidy
    exact moves_exec fun d _ => discreet_updateWhere rfl rfl rfl rfl fun e _ _ => ⟨rfl, rfl, id⟩

/-! ## Creating -/

/-- A new event and its classes, and nothing else. -/
structure Inserted (createdBy id : Nat) (d d' : Db) : Prop where
  users : d'.val.users = d.val.users
  students : d'.val.students = d.val.students
  notifications : d'.val.notifications = d.val.notifications
  seq : d'.val.seq.notification = d.val.seq.notification
  events : ∃ e, d'.val.events = d.val.events ++ [e] ∧ e.id = id ∧ e.createdBy = createdBy

theorem inserted_of_ok {fields : EventFields} {createdBy id : Nat}
    {mappings : List ClassMappingRequest} {now : Timestamp} {d d' : Db}
    (h : insertWithClasses fields createdBy mappings now d = .ok id d') :
    Inserted createdBy id d d' := by
  unfold insertWithClasses insertEvent at h
  obtain ⟨eventId, t, hevent, h⟩ := bind_eq_ok.1 (transaction_eq_ok.1 h)
  rw [query_bind] at hevent
  obtain ⟨⟨⟩, t', hinsert, hret⟩ := bind_eq_ok.1 hevent
  obtain ⟨rfl, rfl⟩ := pure_eq_ok.1 hret
  obtain ⟨⟨⟩, t₁, hclasses, hret⟩ := bind_eq_ok.1 h
  obtain ⟨rfl, rfl⟩ := pure_eq_ok.1 hret
  have hval := exec_eq_ok.1 hinsert
  -- the classes touch nothing of this
  have hrest := forM_ok_rec (fun _ t => Inserted createdBy d.val.seq.event d t)
    (fun m rest s s' hI hstep => ?_) hclasses ?_
  · exact hrest
  · unfold insertEventClass at hstep
    have hval := exec_eq_ok.1 hstep
    obtain ⟨husers, hstudents, hnotes, hseq, e, he, hrest⟩ := hI
    exact ⟨by rw [hval, ← husers], by rw [hval, ← hstudents], by rw [hval, ← hnotes],
      by rw [hval, ← hseq], e, by rw [hval, ← he], hrest⟩
  · exact ⟨by rw [hval], by rw [hval], by rw [hval], by rw [hval], _, by rw [hval], rfl, rfl⟩

namespace Inserted

variable {createdBy id : Nat} {d d' : Db}

theorem discreet (h : Inserted createdBy id d d') : Discreet d d' := by
  obtain ⟨e, hevents, -⟩ := h.events
  refine discreet_of_events h.users h.notifications h.seq fun e' he' hstatus => ?_
  have hkeys := d'.ok.keys.events
  rw [hevents] at hkeys he'
  rcases List.mem_append.1 he' with hold | hnew
  · exact .inr ⟨e', hold, rfl, rfl, hstatus⟩
  · rw [List.mem_singleton] at hnew
    subst hnew
    refine .inl fun hin => ?_
    obtain ⟨e, he, hid⟩ := List.mem_map.1 hin
    exact hkeys.ne_of_append e he hid

/-- The event of this id is the one that was created. -/
theorem creator (h : Inserted createdBy id d d') {e : EventRow} (he : e ∈ d'.val.events)
    (hid : e.id = id) : e.createdBy = createdBy := by
  obtain ⟨row, hevents, hrow, hcreator⟩ := h.events
  have hmem : row ∈ d'.val.events := by simp [hevents]
  rw [d'.ok.keys.events.eq_of_key_eq he hmem (hid.trans hrow.symm), hcreator]

end Inserted

/-- The students to notify are those of the classes. -/
theorem addStudents_seq (mappings : List ClassMappingRequest) (userIds : List Nat) (d : Db) :
    ∃ found, (mappings.foldlM addStudents userIds).seq d = .ok found d ∧
      ∀ u ∈ found, u ∈ userIds ∨ ∃ m ∈ mappings, u ∈ studentsOf d.val m.classId := by
  induction mappings generalizing userIds with
  | nil => exact ⟨userIds, rfl, fun u hu => .inl hu⟩
  | cons m mappings ih =>
    obtain ⟨found, hok, hfound⟩ := ih (userIds ∪ studentsOf d.val m.classId)
    refine ⟨found, ?_, fun u hu => ?_⟩
    · rw [List.foldlM_cons, Proc.seq_bind]
      exact hok
    rcases hfound u hu with hin | ⟨m', hm', hin⟩
    · rcases List.mem_union_iff.1 hin with hin | hin
      · exact .inl hin
      · exact .inr ⟨m, List.mem_cons_self, hin⟩
    · exact .inr ⟨m', List.mem_cons_of_mem _ hm', hin⟩

/-- Notifications that leave the events as they are. -/
structure Notifies (d d' : Db) : Prop where
  events : d'.val.events = d.val.events
  discreet : Discreet d d'

instance : IsPreorder Db Notifies where
  refl d := ⟨rfl, refl_of Discreet d⟩
  trans _ _ _ h h' := ⟨h'.events.trans h.events, trans_of Discreet h.discreet h'.discreet⟩

theorem notifies_one {d : Db} {eventId r : Nat} (title : Option String) (h : MayHear d eventId r) :
    Notifies d (after (createNotification eventId r title) d) := by
  refine ⟨?_, discreet_createNotification title h⟩
  unfold createNotification
  exact after_exec_ind rfl fun s' hval => by rw [hval]

theorem notifies_all {d : Db} {eventId : Nat} {recipients : List Nat} {title : Option String}
    (h : ∀ r ∈ recipients, MayHear d eventId r) :
    Notifies d (after (recipients.forM fun r =>
      (Proc.once (createNotification eventId r title) : Task Unit)).seq d) := by
  -- who may hear is the same after each notification
  let A : Db → Db → Prop := fun t t' => Notifies d t → Notifies d t'
  have hpreorder : IsPreorder Db A := { refl := fun _ => id, trans := fun _ _ _ h h' => h' ∘ h }
  rw [Proc.seq_forM]
  have hmoves : Moves A (recipients.forM fun r =>
      (Proc.once (createNotification eventId r title) : Task Unit).seq) := by
    refine moves_forM fun r hr t ht => ?_
    rw [Proc.seq_once]
    refine trans_of Notifies ht (notifies_one title fun hfamily e he hid => ?_)
    rw [familyAccount_congr ht.discreet.users] at hfamily
    rw [ht.events] at he
    exact h r hr hfamily e he hid
  exact hmoves d (refl_of Notifies d)

/-- Where the event is created, no student whose account it is but the creator's is in its
classes. -/
def CreatesQuietly (d : Db) (fields : EventFields) (createdBy : ParsedId)
    (classMappings : List ClassMappingRequest) (userRole : List String) (now : Timestamp) : Prop :=
  ∀ n, createdBy = .number n → Authz.require userRole ["school_admin", "teacher"] = true →
    returns (insertWithClasses fields n classMappings now) d = true →
    ∀ m ∈ classMappings, ∀ u ∈ studentsOf d.val m.classId, FamilyAccount d u → u = n

section Create

variable {fields : EventFields} {createdBy : ParsedId} {mappings : List ClassMappingRequest}
variable {userRole : List String} {now : Timestamp} {d d' : Db}

/-- What the repository's part of a creation does. -/
theorem createEvent_cases (fields : EventFields) (createdBy : ParsedId)
    (mappings : List ClassMappingRequest) (now : Timestamp) (d : Db) :
    (∃ e, (TenantRepository.createEvent fields createdBy mappings now).seq d = .error e d) ∨
    ∃ n id t, createdBy = .number n ∧ insertWithClasses fields n mappings now d = .ok id t ∧
      (TenantRepository.createEvent fields createdBy mappings now).seq d =
        .ok ((t.val.event? id).map fun row => ⟨row, classMappings t.val id⟩) t := by
  unfold TenantRepository.createEvent
  cases createdBy with
  | other asInt => exact .inl ⟨_, rfl⟩
  | number n =>
    show (∃ e, (Proc.once (insertWithClasses fields n mappings now) >>=
      getEventById : Task _).seq d = .error e d) ∨ _
    rw [Proc.seq_bind, Proc.seq_once]
    rcases ok_or_error (insertWithClasses fields n mappings now) d with ⟨id, hok⟩ | ⟨e, herror⟩
    · refine .inr ⟨n, id, _, rfl, hok, ?_⟩
      show (insertWithClasses fields n mappings now >>= fun i => (getEventById i).seq) d = _
      simp only [bind, EStateM.bind, hok, getEventById_seq, query]
    · have hsame : after (insertWithClasses fields n mappings now) d = d := by
        unfold insertWithClasses at herror ⊢
        exact transaction_eq_error herror
      refine .inl ⟨e, ?_⟩
      rw [hsame] at herror
      simp only [bind, EStateM.bind, herror]

theorem discreet_createEvent (h : CreatesQuietly d fields createdBy mappings userRole now) :
    Discreet d
      (after (TenantService.createEvent fields createdBy mappings userRole now).seq d) := by
  unfold TenantService.createEvent
  rw [Proc.seq_bind, Proc.seq_failIf, after_raiseIf_bind]
  split_ifs with hrole
  · rw [Proc.seq_bind]
    rcases createEvent_cases fields createdBy mappings now d with ⟨e, herror⟩ |
      ⟨n, id, t, rfl, hinsert, hok⟩
    · rw [after_bind_error herror]
      exact refl_of Discreet d
    have hinserted := inserted_of_ok hinsert
    have hquiet := h n rfl hrole (returns_iff.2 ⟨id, t, hinsert⟩)
    obtain ⟨found, hfound, hmembers⟩ := addStudents_seq mappings [] t
    refine trans_of Discreet hinserted.discreet ?_
    rw [after_bind_ok hok, Proc.seq_bind, after_bind_ok hfound, Proc.seq_bind,
      after_bind_idle fun _ _ => rfl]
    cases hevent : t.val.event? id with
    | none =>
      show Discreet t (after (Proc.failIf (found ≠ []) _ : Task Unit).seq t)
      rw [Proc.seq_failIf]
      exact moves_raiseIf _ _ t
    | some row =>
      have hid : row.id = id := by simpa using List.find?_some hevent
      refine (notifies_all fun u hu hfamily e he hei => .inr ?_).discreet
      rcases hmembers u hu with hnil | ⟨m, hm, hin⟩
      · cases hnil
      · have hstudent : u ∈ studentsOf d.val m.classId := by
          unfold studentsOf at hin ⊢
          rwa [hinserted.students] at hin
        rw [familyAccount_congr hinserted.users] at hfamily
        rw [hquiet m hm u hstudent hfamily, hinserted.creator he (hei.trans hid)]
  · exact refl_of Discreet d

theorem allowsResources_discreet :
    AllowsResources (fun _ _ => True) fun _ => Discreet where
  refl d := refl_of _ d
  clear _ := by
    refine Proc.keeps_once ?_
    unfold deleteResourcesForEvent
    exact moves_exec fun _ _ => discreet_of_eq rfl rfl rfl rfl
  resource _ _ := by
    refine Proc.keeps_once ?_
    unfold createResource
    exact moves_exec fun _ _ => discreet_of_eq rfl rfl rfl rfl

theorem discreet_cloneEvent {eventId : Nat}
    (h : ∀ row, d.val.event? eventId = some row →
      CreatesQuietly d (cloneFields ⟨row, classMappings d.val eventId⟩ now) createdBy
        ((classMappings d.val eventId).map fun m =>
          { classId := m.classId, ticketPrice := m.ticketPrice })
        userRole now) :
    Discreet d (after (cloneEvent eventId createdBy userRole now).seq d) := by
  unfold cloneEvent
  rw [Proc.seq_bind, Proc.seq_failIf, after_raiseIf_bind]
  split_ifs with hrole
  · rw [Proc.seq_bind, getEventById_seq, after_query_bind]
    cases hrow : d.val.event? eventId with
    | none => exact refl_of Discreet d
    | some row =>
      dsimp only [Option.map_some]
      rw [Proc.seq_bind]
      refine moves_bind_of_ok (discreet_createEvent (h row hrow)) fun created t hcreated => ?_
      refine trans_of Discreet (after_ok hcreated ▸ discreet_createEvent (h row hrow)) ?_
      cases created with
      | none => exact refl_of Discreet t
      | some newEvent =>
        have hcopy := Proc.keeps_bind (keeps_copyResources allowsResources_discreet eventId
          newEvent.row.id createdBy) fun _ => keeps_getEventById
            allowsResources_discreet.refl newEvent.row.id
        exact hcopy.moves trivial
  · exact refl_of Discreet d

end Create


/-! ## Announcing -/

section Announcing

variable {eventId : Nat} {d t : Db}

/-- A notification of an event that is there to an account that is there is
stored, if its title fits. -/
theorem createNotification_returns {r : Nat} {title : String} (hseq : Sequenced d)
    (hevent : eventId ∈ d.val.events.map EventRow.id) (huser : r ∈ d.val.users.map UserRow.id)
    (hfits : title.length ≤ 255) :
    ∃ d', createNotification eventId r (some title) d = .ok () d' := by
  obtain ⟨hkeys, hunique, hchecks, hplacements, hrollovers, hevents, hcontacts⟩ := d.ok
  unfold createNotification
  refine ⟨_, exec_of ⟨{ hkeys with
      notifications := hkeys.notifications.append fun n hn => (hseq n hn).ne }, { hunique with },
    { hchecks with notification_title := fun n hn => ?_ }, { hplacements with },
      { hrollovers with },
    { hevents with },
    { hcontacts with
      notification_event := hcontacts.notification_event.append ?_
      notification_recipient := hcontacts.notification_recipient.append ?_ }⟩⟩
  · rcases List.mem_append.1 hn with hn | hn
    · exact hchecks.notification_title n hn
    · rw [List.mem_singleton.1 hn]
      simpa using hfits
  · simpa using hevent
  · simpa using huser

/-- A title that is too long is refused. -/
theorem createNotification_refused {r : Nat} {title : String} (hlong : ¬title.length ≤ 255) :
    createNotification eventId r (some title) d = .error .databaseError d := by
  unfold createNotification
  refine dif_neg fun hok => hlong ?_
  exact hok.checks.notification_title _ (List.mem_append_right _ (List.mem_singleton_self _)) title
    rfl

/-- Notifications of the event were added and nothing else was touched. -/
structure Announced (eventId : Nat) (d t : Db) : Prop where
  only : OnlyNotifies d t
  sequenced : Sequenced t
  added : ∀ n ∈ t.val.notifications, n ∈ d.val.notifications ∨ n.eventId = eventId

theorem Announced.refl (h : Sequenced d) : Announced eventId d d :=
  ⟨refl_of OnlyNotifies d, h, fun _ hn => .inl hn⟩

theorem Announced.users (h : Announced eventId d t) : t.val.users = d.val.users := by
  rw [h.only.rest]

theorem Announced.events (h : Announced eventId d t) : t.val.events = d.val.events := by
  rw [h.only.rest]

theorem announce_returns (event : Event) {r : Nat} {title : String} (ht : Announced eventId d t)
    (hevent : eventId ∈ d.val.events.map EventRow.id) (huser : r ∈ d.val.users.map UserRow.id)
    (hfits : title.length ≤ 255) :
    ∃ t', (announce eventId event r title).seq t = .ok () t' ∧ Announced eventId d t' := by
  obtain ⟨t', hok⟩ :=
    createNotification_returns ht.sequenced (ht.events ▸ hevent) (ht.users ▸ huser)
    hfits
  have hval := hok
  unfold createNotification at hval
  rw [exec_eq_ok] at hval
  refine ⟨t', by unfold announce; rw [Proc.seq_marked]; exact hok,
    trans_of OnlyNotifies ht.only (createNotification_ok hok).1, ?_, ?_⟩
  · intro n hn
    simp only [hval, List.mem_append, List.mem_singleton] at hn ⊢
    rcases hn with hn | rfl
    · exact Nat.lt_succ_of_lt (ht.sequenced n hn)
    · exact Nat.lt_succ_self _
  · intro n hn
    simp only [hval, List.mem_append, List.mem_singleton] at hn
    rcases hn with hn | rfl
    · exact ht.added n hn
    · exact .inr rfl

/-- The accounts of the students in some classes. -/
theorem student_account {classIds : List Nat} {s : Nat}
    (h : s ∈ getStudentsInClasses d.val classIds) : s ∈ d.val.users.map UserRow.id := by
  obtain ⟨row, hrow, rfl⟩ := List.mem_map.1 h
  exact d.ok.placements.student_user row (List.mem_filter.1 hrow).1 _ rfl

theorem parent_account {s p : Nat} (h : p ∈ getParentsOf d.val s) :
    p ∈ d.val.users.map UserRow.id := by
  obtain ⟨m, hm, rfl⟩ := List.mem_map.1 h
  obtain ⟨parent, hparent, hid⟩ := d.ok.contacts.map_parent.exists_row (List.mem_filter.1 hm).1 rfl
  exact hid ▸ d.ok.contacts.parent_user parent hparent _ rfl

/-- Where all the titles fit that are used, everyone is told. -/
theorem announceAll_returns (event : Event) {studentTitle parentTitle : String} (hseq : Sequenced d)
    (hevent : eventId ∈ d.val.events.map EventRow.id) (hstudent : studentTitle.length ≤ 255)
    (hparent : parentTitle.length ≤ 255 ∨
      ∀ s ∈ getStudentsInClasses d.val (event.classMappings.map ClassMapping.classId),
        getParentsOf d.val s = []) :
    ∃ t, (announceAll eventId event studentTitle parentTitle).seq d = .ok () t ∧
      Announced eventId d t := by
  unfold announceAll
  dsimp only
  split_ifs with hclasses
  · exact ⟨d, rfl, .refl hseq⟩
  · rw [Proc.seq_bind, Proc.seq_look, query_bind, Proc.seq_forM]
    refine forM_returns (I := Announced eventId d) (fun s hs t ht => ?_) (.refl hseq)
    obtain ⟨t', htold, ht'⟩ := announce_returns event ht hevent (student_account hs) hstudent
    have hparents : getParentsOf t'.val s = getParentsOf d.val s := getParentsOf_eq ht'.only s
    have hround : ∀ p ∈ getParentsOf t'.val s, ∀ t, Announced eventId d t →
        ∃ t', (announce eventId event p parentTitle).seq t = .ok () t' ∧
          Announced eventId d t' := by
      intro p hp t ht
      rw [hparents] at hp
      rcases hparent with hfits | hnone
      · exact announce_returns event ht hevent (parent_account hp) hfits
      · rw [hnone s hs] at hp
        cases hp
    obtain ⟨t'', htolds, ht''⟩ := forM_returns hround ht'
    refine ⟨t'', ?_, ht''⟩
    rw [Proc.seq_bind]
    refine bind_eq_ok.2 ⟨⟨⟩, t', htold, ?_⟩
    rw [Proc.seq_bind, Proc.seq_look, query_bind, Proc.seq_forM]
    exact htolds

/-- Where the title for the students does not fit, nobody is told. -/
theorem after_announceAll (eventId : Nat) (d : Db) (event : Event) {studentTitle : String}
    (parentTitle : String) (hlong : ¬studentTitle.length ≤ 255) :
    after (announceAll eventId event studentTitle parentTitle).seq d = d := by
  unfold announceAll
  dsimp only
  split_ifs with hclasses
  · rfl
  · rw [Proc.seq_bind, Proc.seq_look, after_query_bind, Proc.seq_forM]
    cases getStudentsInClasses d.val (event.classMappings.map ClassMapping.classId) with
    | nil => rfl
    | cons s rest =>
      have hrefused : (announce eventId event s studentTitle).seq d = .error .databaseError d := by
        unfold announce
        rw [Proc.seq_marked]
        exact createNotification_refused hlong
      have hround : (do
          announce eventId event s studentTitle
          let parents ← Proc.look fun d => getParentsOf d.val s
          parents.forM fun p => announce eventId event p parentTitle : Task PUnit).seq d =
            .error .databaseError d := by
        rw [Proc.seq_bind]
        exact bind_eq_error.2 (.inl hrefused)
      exact after_bind_error hround

end Announcing


/-! ## Moving on -/

/-- The titles of the announcements of a publication, to the students and to the parents. -/
def announcements (action : EventAction) (title : String) : String × String :=
  if action = .managerPublish then
    ("New Event Published: '" ++ title ++ "'",
      "New Child Event: '" ++ title ++ "' has been published!")
  else
    ("New school trip published: '" ++ title ++ "' – enroll now!",
      "Your child's school trip '" ++ title ++ "' is now open for enrollment!")

/-- Where the call publishes and the announcement to the students can be stored, that to the parents
can be too, or none of the students has a parent. -/
def AnnouncementsFit (d : Db) (eventId : Nat) (action : EventAction) (actor : Actor) : Prop :=
  action ∈ publishing → ∀ row next role, d.val.event? eventId = some row →
    transitions row.status action = some (next, role) →
    actor.isOneOf (allowedFor action role) = true →
    (announcements action row.title).1.length ≤ 255 →
    (announcements action row.title).2.length ≤ 255 ∨
      ∀ s ∈ getStudentsInClasses d.val ((classMappings d.val eventId).map ClassMapping.classId),
        getParentsOf d.val s = []

section Moving

variable {eventId : Nat} {action : EventAction} {actor : Actor} {reason : Option String}
variable {now : Timestamp} {d : Db} {event : Event} {next : EventStatus}

theorem effects_announce (haction : action ∈ publishing) :
    effects eventId event next action actor reason now =
      (announceAll eventId event (announcements action event.row.title).1
        (announcements action event.row.title).2 >>= fun _ =>
          (pure { status := next, publishedAt := some now } : Task UpdateFields)) := by
  simp only [publishing, List.mem_cons, List.not_mem_nil, or_false] at haction
  rcases haction with rfl | rfl | rfl <;> rfl

/-- The status is written, of an event that is not published or with the status of one. -/
theorem discreet_updateEventStatus {fields : UpdateFields}
    (h : ∀ e ∈ d.val.events, e.id = eventId → e.status = .published → fields.status = .published) :
    Discreet d (after (updateEventStatus eventId fields) d) := by
  rcases updateEventStatus_cases eventId fields with ⟨reviewer, hcase⟩ | hcase
  · rw [hcase]
    unfold writeEventStatus
    refine after_exec_ind (refl_of Discreet d) fun s' hval => ?_
    refine discreet_updateWhere (p := fun e => e.id = eventId) (f := fields.write reviewer)
      (by rw [hval]) (by rw [hval]) (by rw [hval]) (by rw [hval]) fun e he hid => ?_
    exact ⟨rfl, rfl, fun hpublished => h e he (by simpa using hid) hpublished⟩
  · rw [hcase]
    exact refl_of Discreet d

/-- The creator of the event hears of it. -/
theorem creator_hears {row : EventRow} (hrow : d.val.event? eventId = some row) :
    MayHear d eventId row.createdBy := by
  obtain ⟨hmem, hid⟩ := d.ok.keys.events.find?_eq_some.1 hrow
  intro _ e he hei
  rw [d.ok.keys.events.eq_of_key_eq he hmem (hei.trans hid.symm)]
  exact .inr rfl

/-- A manager's account is no student's and no parent's. -/
theorem manager_hears {m : Nat} (h : m ∈ getAllManagers d.val) : MayHear d eventId m := by
  rintro ⟨u, hu, hid, hrole⟩
  obtain ⟨u', hu', rfl⟩ := List.mem_map.1 h
  obtain ⟨hmem, hmanager⟩ := List.mem_filter.1 hu'
  rw [d.ok.keys.users.eq_of_key_eq hu hmem hid] at hrole
  rw [of_decide_eq_true hmanager] at hrole
  exact absurd hrole (by decide)

/-- Beside the publications, an action tells the managers or the creator. -/
theorem notifies_effects {row : EventRow} {mappings : List ClassMapping}
    (hrow : d.val.event? eventId = some row) (haction : action ∉ publishing) :
    Notifies d (after (effects eventId ⟨row, mappings⟩ next action actor reason now).seq d) := by
  have hcreator := creator_hears hrow
  unfold effects
  dsimp only
  split_ifs with hsubmit happrove hreject hpublish hmanager
  · unfold submitEffects
    have hidle := (keeps_predicted (H := fun _ _ => True) (G := fun _ => Same id)
      (fun d => refl_of (Same id) d) (mappings.map ClassMapping.classId)).moves trivial (s := d)
    rw [Proc.seq_bind]
    refine moves_bind_of_ok ?_ fun attendance t hok => ?_
    · rw [show after _ d = d from hidle]
      exact refl_of Notifies d
    · obtain rfl : t = d := (after_ok hok).symm.trans hidle
      rw [Proc.seq_bind, Proc.seq_look, after_query_bind, Proc.seq_bind,
        after_bind_idle fun _ _ => rfl]
      exact notifies_all fun m hm => manager_hears hm
  · rw [Proc.seq_bind, Proc.seq_once, after_bind_idle fun _ _ => rfl]
    exact notifies_one _ hcreator
  · rw [Proc.seq_bind, Proc.seq_once, after_bind_idle fun _ _ => rfl]
    exact notifies_one _ hcreator
  · exact absurd (by rcases hpublish with rfl | rfl <;> decide) haction
  · exact absurd (by rw [hmanager]; decide) haction
  · exact refl_of Notifies d

/-- Publishing an event that is there violates no constraint. -/
theorem publication_returns (eventId : Nat) (now : Timestamp) (t : Db) :
    ∃ t', updateEventStatus eventId { status := .published, publishedAt := some now }
      t = .ok () t' ∧ t'.val = { t.val with
        events := updateWhere (fun e => e.id = eventId)
          (UpdateFields.write { status := .published, publishedAt := some now } none)
            t.val.events } := by
  let fields : UpdateFields := { status := .published, publishedAt := some now }
  let write : EventRow → EventRow :=
    fun e => if decide (e.id = eventId) then fields.write none e else e
  have hid : ∀ e, (write e).id = e.id := fun e => by dsimp only [write]; split_ifs <;> rfl
  have hcreator : ∀ e, (write e).createdBy = e.createdBy := fun e => by
    dsimp only [write]; split_ifs <;> rfl
  have hmanager : ∀ e, (write e).managerReviewerId = e.managerReviewerId := fun e => by
    dsimp only [write]; split_ifs <;> rfl
  have hfinance : ∀ e, (write e).financeReviewerId = e.financeReviewerId := fun e => by
    dsimp only [write]; split_ifs <;> rfl
  have hamounts : ∀ e, (write e).amounts = e.amounts := fun e => by
    dsimp only [write]; split_ifs <;> rfl
  have hattendance : ∀ e, (write e).predictedAttendance = e.predictedAttendance := fun e => by
    dsimp only [write]; split_ifs <;> rfl
  obtain ⟨hkeys, hunique, hchecks, hplacements, hrollovers, hevents, hcontacts⟩ := t.ok
  show ∃ t', writeEventStatus eventId fields none t = .ok () t' ∧ _
  unfold writeEventStatus
  refine ⟨_, exec_of ⟨{ hkeys with events := hkeys.events.map hid }, { hunique with },
    { hchecks with event_amounts := ?_, event_predicted_attendance := ?_ }, { hplacements with },
    { hrollovers with },
    { hevents with
      event_created_by := hevents.event_created_by.map_same fun e => congrArg some (hcreator e)
      event_manager_reviewer := hevents.event_manager_reviewer.map_same hmanager
      event_finance_reviewer := hevents.event_finance_reviewer.map_same hfinance
      event_class_event := hevents.event_class_event.map_right hid
      resource_event := hevents.resource_event.map_right hid
      cost_event := hevents.cost_event.map_right hid },
    { hcontacts with notification_event := hcontacts.notification_event.map_right hid }⟩, rfl⟩
  · intro e he
    obtain ⟨x, hx, rfl⟩ := List.mem_map.1 he
    exact (hamounts x).symm ▸ hchecks.event_amounts x hx
  · intro e he
    obtain ⟨x, hx, rfl⟩ := List.mem_map.1 he
    exact (hattendance x).symm ▸ hchecks.event_predicted_attendance x hx

/-- A publication whose announcements fit tells of a published event only; and one whose first
announcement is refused tells nobody. -/
theorem discreet_publishing {α : Type} {row : EventRow} {found : EventStatus} (k : Unit → Task α)
    (hk : ∀ s, after (k ()).seq s = s) (hseq : Sequenced d) (hrow : d.val.event? eventId = some row)
    (haction : action ∈ publishing)
    (hfit : (announcements action row.title).1.length ≤ 255 →
      (announcements action row.title).2.length ≤ 255 ∨
        ∀ s ∈ getStudentsInClasses d.val ((classMappings d.val eventId).map ClassMapping.classId),
          getParentsOf d.val s = []) :
    Discreet d (after (do
      let fields ← effects eventId ⟨row, classMappings d.val eventId⟩ .published action
        actor reason now
      Proc.marked (.status eventId found .published) (updateEventStatus eventId fields)
      k () : Task α).seq d) := by
  rw [effects_announce haction, bind_assoc, Proc.seq_bind]
  by_cases hstudent : (announcements action row.title).1.length ≤ 255
  · obtain ⟨hmem, hid⟩ := d.ok.keys.events.find?_eq_some.1 hrow
    obtain ⟨t, hok, hannounced⟩ := announceAll_returns ⟨row, classMappings d.val eventId⟩ hseq
      (List.mem_map.2 ⟨row, hmem, hid⟩) hstudent (hfit hstudent)
    obtain ⟨t', hwrite, hval⟩ := publication_returns eventId now t
    rw [after_bind_ok hok, pure_bind, Proc.seq_bind, Proc.seq_marked, after_bind_ok hwrite, hk]
    have husers : t'.val.users = d.val.users := by
      rw [hval, ← hannounced.users]
    refine ⟨husers, fun _ n hn => ?_, fun hd e he hstatus n hn hevent hfamily => ?_⟩
    · rw [hval] at hn ⊢
      exact hannounced.sequenced n hn
    · rw [familyAccount_congr husers] at hfamily
      rw [hval] at he hn
      rcases cases_of_mem_updateWhere he with ⟨hold, hother⟩ | ⟨x, hx, hxid, rfl⟩
      · rcases hannounced.added n hn with hn | hn
        · exact hd e (hannounced.events ▸ hold) hstatus n hn hevent hfamily
        · simp [← hevent, hn] at hother
      · exact absurd rfl hstatus
  · have hidle := after_announceAll eventId d ⟨row, classMappings d.val eventId⟩
      (announcements action row.title).2 hstudent
    refine moves_bind_of_ok ?_ fun u t hok => ?_
    · rw [hidle]
      exact refl_of Discreet d
    · obtain rfl : t = d := (after_ok hok).symm.trans hidle
      rw [pure_bind, Proc.seq_bind, Proc.seq_marked]
      rw [after_bind_idle fun _ s => hk s]
      exact discreet_updateEventStatus fun _ _ _ _ => rfl

/-- **One transition** is discreet, if its announcements fit. -/
theorem discreet_transitionEvent (hseq : Sequenced d)
    (hfit : AnnouncementsFit d eventId action actor) :
    Discreet d (after (transitionEvent eventId action actor reason now).seq d) := by
  unfold transitionEvent
  rw [Proc.seq_bind, getEventById_seq, after_query_bind]
  cases hrow : d.val.event? eventId with
  | none => exact refl_of Discreet d
  | some row =>
    dsimp only [Option.map_some]
    cases htransition : transitions row.status action with
    | none => exact refl_of Discreet d
    | some target =>
      obtain ⟨next, role⟩ := target
      dsimp only
      rw [Proc.seq_bind, Proc.seq_failIf, after_raiseIf_bind]
      split_ifs with hrole
      · have hchecks := (keeps_checkPreconditions (H := fun _ _ => True) (G := fun _ => Same id)
          ⟨row, classMappings d.val eventId⟩ action actor reason).moves trivial (s := d)
        rw [Proc.seq_bind]
        refine moves_bind_of_ok ?_ fun u t hok => ?_
        · rw [show after _ d = d from hchecks]
          exact refl_of Discreet d
        obtain rfl : t = d := (after_ok hok).symm.trans hchecks
        have hidle : ∀ s, after (getEventById eventId).seq s = s := fun s => by
          rw [getEventById_seq]
          rfl
        by_cases haction : action ∈ publishing
        · obtain rfl : next = .published := by
            rcases transitions_cases htransition (by rintro rfl; simp [publishing] at haction) with
              ⟨-, -, h⟩ | ⟨-, -, h⟩ | ⟨-, -, h⟩ | ⟨-, h, -⟩
            · exact absurd haction ((actions_apart.2.2 h).2.2)
            · exact absurd haction ((actions_apart.1 h).2)
            · exact absurd haction (actions_apart.2.1 h)
            · exact h
          exact discreet_publishing (fun _ => getEventById eventId) hidle hseq hrow haction
            (hfit haction row _ role hrow htransition hrole)
        · rw [Proc.seq_bind]
          have heffects : Notifies t
              (after (effects eventId ⟨row, classMappings t.val eventId⟩ next action
              actor reason now).seq t) := notifies_effects hrow haction
          refine moves_bind_of_ok heffects.discreet fun fields t' hok => ?_
          rw [after_ok hok] at heffects
          refine trans_of Discreet heffects.discreet ?_
          rw [Proc.seq_bind, Proc.seq_marked, after_bind_idle fun _ s => hidle s]
          refine discreet_updateEventStatus fun e he hid hpublished => ?_
          -- the event is as it was read, and no transition starts from `published`
          obtain ⟨hmem, hrowid⟩ := t.ok.keys.events.find?_eq_some.1 hrow
          rw [heffects.events] at he
          rw [t.ok.keys.events.eq_of_key_eq he hmem (hid.trans hrowid.symm)] at hpublished
          rw [hpublished] at htransition
          cases action <;> cases htransition
      · exact refl_of Discreet d

end Moving

/-! ## Runs -/

/-- A call of the service. -/
inductive TripCall where
  | create (fields : EventFields) (createdBy : ParsedId) (classMappings : List ClassMappingRequest)
      (userRole : List String) (now : Timestamp)
  | clone (eventId : Nat) (createdBy : ParsedId) (userRole : List String) (now : Timestamp)
  | update (actor : Actor) (eventId : Nat) (payload : EventCreateRequest)
  | patch (actor : Actor) (eventId : Nat) (payload : EventPatchRequest)
  | audience (actor : Actor) (eventId : Nat) (payload : AudienceSelect)
  /-- Submitting, approving, rejecting and publishing. -/
  | transition (eventId : Nat) (call : TransitionCall)

namespace TripCall

/-- The program of a call, its answer dropped. -/
def program : TripCall → Task Unit
  | create fields createdBy mappings userRole now =>
    (fun _ => ()) <$> TenantService.createEvent fields createdBy mappings userRole now
  | clone i createdBy userRole now => (fun _ => ()) <$> cloneEvent i createdBy userRole now
  | update actor i payload => (fun _ => ()) <$> EventsRouter.updateEvent actor i payload
  | patch actor i payload => (fun _ => ()) <$> EventsRouter.patchEvent actor i payload
  | audience actor i payload => (fun _ => ()) <$> EventsRouter.selectAudience actor i payload
  | transition i call => (fun _ => ()) <$> call.program i

/-- The school after a call, whether it returned or raised. -/
def step (d : Db) (call : TripCall) : Db := after call.program.seq d

/-- The call creates no event for a class with a student in it who is not its creator, and announces
nothing of which only the first part fits. -/
def Quiet (d : Db) : TripCall → Prop
  | create fields createdBy mappings userRole now =>
    CreatesQuietly d fields createdBy mappings userRole now
  | clone i createdBy userRole now => ∀ row, d.val.event? i = some row →
    CreatesQuietly d (cloneFields ⟨row, classMappings d.val i⟩ now) createdBy
      ((classMappings d.val i).map fun m => { classId := m.classId, ticketPrice := m.ticketPrice })
      userRole now
  | transition i call => AnnouncementsFit d i call.action call.actor
  | _ => True

theorem seq_dropped {α : Type} (p : Task α) (d : Db) :
    after ((fun _ => ()) <$> p : Task Unit).seq d = after p.seq d := by
  rw [map_eq_pure_bind, Proc.seq_bind]
  exact after_bind_idle (fun _ _ => rfl) d

/-- **One call** is discreet. -/
theorem discreet_step {d : Db} {call : TripCall} (hseq : Sequenced d) (h : call.Quiet d) :
    Discreet d (call.step d) := by
  unfold step program
  cases call with
  | create fields createdBy mappings userRole now =>
    rw [seq_dropped]
    exact discreet_createEvent h
  | clone i createdBy userRole now =>
    rw [seq_dropped]
    exact discreet_cloneEvent h
  | update actor i payload =>
    rw [seq_dropped]
    exact (keeps_updateEvent (allowsEdits_discreet i) fun _ => trivial).moves trivial
  | patch actor i payload =>
    rw [seq_dropped]
    exact (keeps_patchEvent (allowsEdits_discreet i) actor payload).moves trivial
  | audience actor i payload =>
    rw [seq_dropped]
    exact (keeps_selectAudience (allowsEdits_discreet i) actor payload).moves trivial
  | transition i call =>
    rw [seq_dropped]
    exact discreet_transitionEvent hseq h

end TripCall

/-- **Unpublished trips stay unannounced** in every run of quiet calls. -/
theorem unannounced_run {d : Db} (hd : Unannounced d) (hseq : Sequenced d) {calls : List TripCall}
    (h : EachStep TripCall.step (fun d call => call.Quiet d) d calls) :
    Throughout TripCall.step Unannounced d calls := by
  let I : Db → Prop := fun d => Unannounced d ∧ Sequenced d
  have hstep : ∀ d call, I d → TripCall.Quiet d call → I (call.step d) := by
    intro d call hI hquiet
    have hdiscreet := TripCall.discreet_step hI.2 hquiet
    exact ⟨hdiscreet.unannounced hI.1, hdiscreet.sequenced hI.2⟩
  exact (run_throughout (I := I) hstep ⟨hd, hseq⟩ h).mono fun _ hI => hI.1


/-- The teacher publishes the approved event, and creates another for no class yet. -/
def publishAndCreate : List TripCall :=
  [.transition 1 { action := .publish, actor := teacherActor, reason := none, now := 5 },
    .create { title := "Zoo", description := "", address := none, schoolSubsidy := 0, date := 0 }
      (.number 2) [] ["teacher"] 6]

theorem publishAndCreate_unannounced :
    Throughout TripCall.step Unannounced approvedTrip publishAndCreate := by
  refine unannounced_run (by decide) (by decide) ⟨?_, ?_, trivial⟩
  · intro _ row next role hrow _ _ _
    obtain rfl := Option.some.inj hrow
    exact .inl (by decide +kernel)
  · intro n _ _ _ m hm
    cases hm

/-- The teacher creates an event for the class of a student. -/
def createForClass : TripCall :=
  .create { title := "Zoo", description := "", address := none, schoolSubsidy := 0, date := 0 }
    (.number 2) [{ classId := 1 }] ["teacher"] 0

/-- The draft is announced to the student at once. -/
theorem draft_announced : Unannounced smallSchool ∧ Sequenced smallSchool ∧
    ¬Throughout TripCall.step Unannounced smallSchool [createForClass] := by
  have hannounced : ¬Unannounced (createForClass.step smallSchool) := by decide +kernel
  exact ⟨by decide, by decide, fun ⟨_, hlast⟩ => hannounced hlast⟩

end Sams.Trips
