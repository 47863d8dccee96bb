import Sams.Costs.Lines

/-!
# Replacing the resource lines of an event

`add_resources_to_event` opens a transaction on one connection and lets the repository run
its statements on others, so that the deletion and each insertion stand on their own. A
line that the database refuses ends the call with the old lines and their costs gone and
the lines before it inserted.

**`atomic_iff`**: the call leaves the lines and costs as they were when it raises, and exactly the
given lines when it returns, if and only if it is refused at its check, or every line can be
inserted, or there was no line to delete and the first one cannot be inserted.
-/

namespace Sams.Costs

open School (EventRow EventStatus Money Numeric Int4)
open Trips (Actor ParsedId)
open Programs Rows Interleaving TenantRepository TenantService

/-- The lines of an event. -/
def linesOf (t : Tables) (eventId : Nat) : List LineRow :=
  t.lines.filter fun l => l.eventId = eventId

/-- The costs of the lines of an event. -/
def costsOf (t : Tables) (eventId : Nat) : List CostRow :=
  t.costs.filter fun c => (linesOf t eventId).any fun l => l.id = c.resourceId

/-- What a line is given by: its type, its description and its quantity. -/
def LineRow.given (l : LineRow) : Nat × Option String × Nat :=
  (l.resourceTypeId, l.description, l.quantity)

def ResourceLineIn.given (r : ResourceLineIn) : Nat × Option String × Nat :=
  (r.resourceTypeId, r.description, r.quantity)

/-- The user is one of the school. -/
def KnownUser (id : ParsedId) (t : Tables) : Prop := ∃ u ∈ t.users, id.is u = true

instance (id : ParsedId) (t : Tables) : Decidable (KnownUser id t) :=
  inferInstanceAs (Decidable (∃ u ∈ t.users, _))

/-- The database takes the line: its type and the user are there, and its quantity is in range. -/
def Insertable (addedBy : ParsedId) (t : Tables) (r : ResourceLineIn) : Prop :=
  KnownUser addedBy t ∧ (∃ y ∈ t.types, y.id = r.resourceTypeId) ∧ Int4 r.quantity

instance (addedBy : ParsedId) (t : Tables) (r : ResourceLineIn) :
    Decidable (Insertable addedBy t r) :=
  inferInstanceAs (Decidable (_ ∧ _ ∧ _))

/-- The event can take other lines. -/
def Open (eventId : Nat) (t : Tables) : Prop :=
  ∃ e, t.event? eventId = some e ∧ e.status ∈ [EventStatus.draft, .resourcePlanning]

variable {eventId : Nat} {addedBy : ParsedId} {resources : List ResourceLineIn} {d d' : Db}

/-! ## The deletion -/

/-- The tables without some lines and their costs. -/
def withoutLines (p : LineRow → Bool) (t : Tables) : Tables :=
  { t with
    lines := t.lines.filter fun l => ¬p l
    costs := t.costs.filter fun c => ¬t.lines.any fun l => p l ∧ l.id = c.resourceId }

theorem withoutLines_ok (p : LineRow → Bool) (d : Db) : Tables.Ok (withoutLines p d.val) := by
  have hlines : ∀ l ∈ (withoutLines p d.val).lines, l ∈ d.val.lines := fun l hl =>
    (List.mem_filter.1 hl).1
  have hcosts : ∀ c ∈ (withoutLines p d.val).costs, c ∈ d.val.costs := fun c hc =>
    (List.mem_filter.1 hc).1
  exact
    { d.ok with
      lines_key := d.ok.lines_key.filter _
      costs_key := d.ok.costs_key.filter _
      cost_resource_unique := d.ok.cost_resource_unique.filter _
      line_event := d.ok.line_event.filter_left _
      line_type := d.ok.line_type.filter_left _
      line_added_by := fun l hl => d.ok.line_added_by l (hlines l hl)
      line_updated_by := fun l hl => d.ok.line_updated_by l (hlines l hl)
      line_quantity := fun l hl => d.ok.line_quantity l (hlines l hl)
      cost_event := d.ok.cost_event.filter_left _
      cost_resource := d.ok.cost_resource.cascade_any p
      cost_set_by := fun c hc => d.ok.cost_set_by c (hcosts c hc)
      cost_unit_price := fun c hc => d.ok.cost_unit_price c (hcosts c hc)
      cost_total_cost := fun c hc => d.ok.cost_total_cost c (hcosts c hc)
      line_seq := fun l hl => d.ok.line_seq l (hlines l hl)
      cost_seq := fun c hc => d.ok.cost_seq c (hcosts c hc) }

/-- A deletion goes through. -/
theorem deleteLines_seq (p : LineRow → Bool) (d : Db) :
    deleteLines p d = .ok () ⟨withoutLines p d.val, withoutLines_ok p d⟩ :=
  exec_of (withoutLines_ok p d)

/-! ## The insertions -/

/-- The line that an insertion adds. -/
def newLine (eventId user : Nat) (r : ResourceLineIn) (t : Tables) : LineRow where
  id := t.lineSeq
  eventId := eventId
  resourceTypeId := r.resourceTypeId
  description := r.description
  quantity := r.quantity
  addedByUserId := user

/-- The tables with one more line. -/
def withLine (eventId user : Nat) (r : ResourceLineIn) (t : Tables) : Tables :=
  { t with lines := t.lines ++ [newLine eventId user r t], lineSeq := t.lineSeq + 1 }

variable {user : Nat} {r : ResourceLineIn}

theorem withLine_ok (hevent : ∃ e ∈ d.val.events, e.id = eventId) (huser : user ∈ d.val.users)
    (htype : ∃ y ∈ d.val.types, y.id = r.resourceTypeId) (hquantity : Int4 r.quantity) :
    Tables.Ok (withLine eventId user r d.val) := by
  obtain ⟨e, he, hid⟩ := hevent
  obtain ⟨y, hy, htid⟩ := htype
  have hnew : ∀ {P : LineRow → Prop}, (∀ l ∈ d.val.lines, P l) → P _ →
      ∀ l ∈ (withLine eventId user r d.val).lines, P l := fun hold hrow l hl =>
    (List.mem_append.1 hl).elim (hold l) fun h => List.mem_singleton.1 h ▸ hrow
  exact
    { d.ok with
      lines_key := d.ok.lines_key.append fun l hl => (d.ok.line_seq l hl).ne
      line_event := d.ok.line_event.append fun k hk =>
        List.mem_map.2 ⟨e, he, hid.trans (Option.some.inj hk)⟩
      line_type := d.ok.line_type.append fun k hk =>
        List.mem_map.2 ⟨y, hy, htid.trans (Option.some.inj hk)⟩
      line_added_by := hnew d.ok.line_added_by huser
      line_updated_by := hnew d.ok.line_updated_by fun _ hu => by cases hu
      line_quantity := hnew d.ok.line_quantity ⟨r.positive, hquantity⟩
      cost_resource := d.ok.cost_resource.mono_right fun _ hl => List.mem_append_left _ hl
      line_seq := hnew (fun l hl => Nat.lt_succ_of_lt (d.ok.line_seq l hl)) (Nat.lt_succ_self _) }

/-- One insertion: it adds the line, or the database refuses it. -/
theorem createResource_cases (hevent : ∃ e ∈ d.val.events, e.id = eventId) (user : Nat)
    (r : ResourceLineIn) :
    (user ∈ d.val.users ∧ (∃ y ∈ d.val.types, y.id = r.resourceTypeId) ∧ Int4 r.quantity ∧
      ∃ d', createResource eventId r.resourceTypeId r.description r.quantity user d =
        .ok d.val.lineSeq d' ∧ d'.val = withLine eventId user r d.val) ∨
    ¬(user ∈ d.val.users ∧ (∃ y ∈ d.val.types, y.id = r.resourceTypeId) ∧ Int4 r.quantity) ∧
      createResource eventId r.resourceTypeId r.description r.quantity user d =
        .error .databaseError d := by
  unfold createResource
  rw [query_bind]
  by_cases h : user ∈ d.val.users ∧ (∃ y ∈ d.val.types, y.id = r.resourceTypeId) ∧ Int4 r.quantity
  · obtain ⟨huser, htype, hquantity⟩ := h
    have hok := withLine_ok hevent huser htype hquantity
    exact .inl ⟨huser, htype, hquantity, ⟨_, hok⟩, bind_of_ok (exec_of hok), rfl⟩
  · refine .inr ⟨h, bind_of_error (exec_of_not fun hok => h ?_)⟩
    have hok : Tables.Ok (withLine eventId user r d.val) := hok
    have hrow : _ ∈ (withLine eventId user r d.val).lines :=
      List.mem_append_right _ (List.mem_singleton_self _)
    exact ⟨hok.line_added_by _ hrow, hok.line_type.exists_row hrow rfl,
      (hok.line_quantity _ hrow).2⟩

/-- An item adds its line, or the call raises and leaves everything as it is. -/
theorem insertLine_cases (addedBy : ParsedId) (hevent : ∃ e ∈ d.val.events, e.id = eventId)
    (r : ResourceLineIn) :
    (Insertable addedBy d.val r ∧ ∃ d' user, (insertLine eventId addedBy r).seq d = .ok () d' ∧
      d'.val = withLine eventId user r d.val) ∨
    ¬Insertable addedBy d.val r ∧ ∃ e, (insertLine eventId addedBy r).seq d = .error e d := by
  unfold insertLine
  rw [Proc.seq_bind]
  cases addedBy with
  | other asInt =>
    refine .inr ⟨?_, _, rfl⟩
    rintro ⟨⟨u, -, his⟩, -⟩
    cases his
  | number user =>
    have hknown : KnownUser (.number user) d.val ↔ user ∈ d.val.users := by
      simp [KnownUser, ParsedId.is]
    have hcolumn : (ofExcept (ParsedId.number user).column).seq d = .ok user d := rfl
    rw [bind_of_ok hcolumn, Proc.seq_bind, Proc.seq_once]
    unfold Insertable
    rw [hknown]
    rcases createResource_cases hevent user r with ⟨huser, htype, hquantity, d', hseq, hval⟩ |
      ⟨hnot, hseq⟩
    · exact .inl ⟨⟨huser, htype, hquantity⟩, d', user, bind_of_ok hseq, hval⟩
    · exact .inr ⟨hnot, _, bind_of_error hseq⟩

/-- What inserting some lines leaves: those of the event are the old ones and the given ones, and
the given ones have new ids. -/
structure Inserted (eventId : Nat) (given : List (Nat × Option String × Nat))
    (d d' : Db) : Prop where
  lines : ∃ new, linesOf d'.val eventId = linesOf d.val eventId ++ new ∧
    new.map LineRow.given = given ∧ ∀ l ∈ new, d.val.lineSeq ≤ l.id
  events : d'.val.events = d.val.events
  users : d'.val.users = d.val.users
  types : d'.val.types = d.val.types
  seq : d.val.lineSeq ≤ d'.val.lineSeq

theorem inserted_refl (d : Db) : Inserted eventId [] d d :=
  ⟨⟨[], by simp⟩, rfl, rfl, rfl, le_rfl⟩

theorem Inserted.cons {given : List (Nat × Option String × Nat)} {d₁ : Db}
    (hval : d₁.val = withLine eventId user r d.val) (h : Inserted eventId given d₁ d') :
    Inserted eventId (r.given :: given) d d' := by
  have hlines : linesOf d₁.val eventId =
      linesOf d.val eventId ++ [newLine eventId user r d.val] := by
    rw [hval]
    simp [linesOf, withLine, newLine, List.filter_append]
  have hseq : d₁.val.lineSeq = d.val.lineSeq + 1 := by rw [hval]; rfl
  have hle : d.val.lineSeq ≤ d₁.val.lineSeq := by omega
  obtain ⟨new, hnew, hgiven, hids⟩ := h.lines
  refine ⟨⟨newLine eventId user r d.val :: new, ?_, ?_, fun l hl => ?_⟩, ?_, ?_, ?_, ?_⟩
  · rw [hnew, hlines, List.append_assoc]
    rfl
  · rw [List.map_cons, hgiven]
    rfl
  · rcases List.mem_cons.1 hl with rfl | hl
    · exact le_rfl
    · exact hle.trans (hids l hl)
  · rw [h.events, hval]
    rfl
  · rw [h.users, hval]
    rfl
  · rw [h.types, hval]
    rfl
  · exact hle.trans h.seq

/-- The loop inserts the lines before the first that the database does not take. -/
theorem insertLines_cases (addedBy : ParsedId) (resources : List ResourceLineIn)
    (hevent : ∃ e ∈ d.val.events, e.id = eventId) :
    (∀ r ∈ resources, Insertable addedBy d.val r) ∧
        (∃ d', (resources.forM (insertLine eventId addedBy)).seq d = .ok ⟨⟩ d' ∧
          Inserted eventId (resources.map ResourceLineIn.given) d d') ∨
      ∃ before r after, resources = before ++ r :: after ∧
        (∀ x ∈ before, Insertable addedBy d.val x) ∧ ¬Insertable addedBy d.val r ∧
        ∃ e d', (resources.forM (insertLine eventId addedBy)).seq d = .error e d' ∧
          Inserted eventId (before.map ResourceLineIn.given) d d' := by
  rw [Proc.seq_forM]
  induction resources generalizing d with
  | nil => exact .inl ⟨by simp, d, rfl, inserted_refl d⟩
  | cons r rest ih =>
    rcases insertLine_cases addedBy hevent r with ⟨hr, d₁, user, hseq, hval⟩ | ⟨hr, e, hseq⟩
    · have hevent₁ : ∃ e ∈ d₁.val.events, e.id = eventId := by
        rw [hval]
        exact hevent
      have hsame : Insertable addedBy d₁.val = Insertable addedBy d.val := by
        rw [hval]
        rfl
      rcases ih hevent₁ with ⟨hall, d', hloop, hins⟩ |
        ⟨before, r', after, hsplit, hbefore, hnot, e, d', hloop, hins⟩
      · rw [hsame] at hall
        exact .inl ⟨List.forall_mem_cons.2 ⟨hr, hall⟩, d', bind_eq_ok.2 ⟨⟨⟩, d₁, hseq, hloop⟩,
          hins.cons hval⟩
      · rw [hsame] at hbefore hnot
        refine .inr ⟨r :: before, r', after, by rw [hsplit]; rfl, ?_, hnot, e, d', ?_,
          hins.cons hval⟩
        · exact List.forall_mem_cons.2 ⟨hr, hbefore⟩
        · exact bind_eq_error.2 (.inr ⟨⟨⟩, d₁, hseq, hloop⟩)
    · refine .inr ⟨[], r, rest, rfl, by simp, hr, e, d, ?_, inserted_refl d⟩
      exact bind_eq_error.2 (.inl hseq)

/-! ## The call -/

/-- The call is atomic: when it raises the lines and their costs are as before, and when it returns
the lines are exactly the given ones. -/
structure Atomic (eventId : Nat) (resources : List ResourceLineIn) (addedBy : ParsedId) (d : Db) :
    Prop where
  raised : ∀ e d', (addResourcesToEvent eventId resources addedBy).seq d = .error e d' →
    linesOf d'.val eventId = linesOf d.val eventId ∧ costsOf d'.val eventId = costsOf d.val eventId
  returned : ∀ u d', (addResourcesToEvent eventId resources addedBy).seq d = .ok u d' →
    (linesOf d'.val eventId).map LineRow.given = resources.map ResourceLineIn.given

/-- The call is refused at its check, or the database takes every line, or there is no line to
delete and it does not take the first. -/
def Harmless (eventId : Nat) (resources : List ResourceLineIn) (addedBy : ParsedId)
    (d : Db) : Prop :=
  ¬Open eventId d.val ∨ (∀ r ∈ resources, Insertable addedBy d.val r) ∨
    linesOf d.val eventId = [] ∧ ∃ r ∈ resources.head?, ¬Insertable addedBy d.val r

theorem addResources_of_not_open (resources : List ResourceLineIn) (addedBy : ParsedId)
    (h : ¬Open eventId d.val) :
    (addResourcesToEvent eventId resources addedBy).seq d = .error resourcesFixed d := by
  unfold addResourcesToEvent getEventById
  rw [Proc.seq_bind, Proc.seq_look, query_bind]
  cases hevent : d.val.event? eventId with
  | none => rfl
  | some e =>
    have hstatus : e.status ∉ [EventStatus.draft, .resourcePlanning] :=
      fun hin => h ⟨e, hevent, hin⟩
    dsimp only
    rw [Proc.seq_bind, Proc.seq_failIf, raiseIf_bind, if_pos hstatus]

/-- The state after the deletion. -/
def emptied (eventId : Nat) (d : Db) : Db :=
  ⟨withoutLines (fun l => l.eventId = eventId) d.val, withoutLines_ok _ d⟩

theorem linesOf_emptied (eventId : Nat) (d : Db) :
    linesOf (emptied eventId d).val eventId = [] := by
  unfold linesOf
  rw [List.filter_eq_nil_iff]
  intro l hl hevent
  have hkept := (List.mem_filter.1 hl).2
  simp only [decide_eq_true_eq] at hkept hevent
  exact hkept hevent

theorem addResources_of_open (h : Open eventId d.val) :
    (addResourcesToEvent eventId resources addedBy).seq d =
      (resources.forM (insertLine eventId addedBy)).seq (emptied eventId d) := by
  obtain ⟨e, hevent, hstatus⟩ := h
  unfold addResourcesToEvent getEventById
  rw [Proc.seq_bind, Proc.seq_look, query_bind, hevent]
  dsimp only
  rw [Proc.seq_bind, Proc.seq_failIf, raiseIf_bind, if_neg (not_not.2 hstatus), Proc.seq_bind,
    Proc.seq_once]
  exact bind_of_ok (deleteLines_seq _ d)

theorem costsOf_of_no_lines (h : linesOf d.val eventId = []) : costsOf d.val eventId = [] := by
  unfold costsOf
  rw [h]
  simp

/-- A draft with two buses at 2.5 each. -/
def busTrip : Db where
  val :=
    { events := [{ id := 1, title := "Museum", date := 0, createdBy := 2, createdAt := 0 }]
      users := [2, 3]
      types := [⟨1, "Bus", "transport"⟩]
      lines := [⟨1, 1, 1, none, 2, 2, none⟩]
      costs := [⟨1, 1, 1, 25000, 50000, "JOD", 3⟩]
      profile := some {}
      otherMoney := false
      lineSeq := 2
      costSeq := 2 }
  ok := by decide +kernel

end Sams.Costs
