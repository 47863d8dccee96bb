import Sams.Identities.Revisions

/-!
# From emails to identities

An identity is drawn for each email of the three account stores, unless the email is of two stores
and nobody has said whether it is one person (`identify_eq`, `undecided_eq_nil`).

The rest is what the statements do: which identities there are (`mem_ids`, `email_mem_ids`), whose
they are (`identityOf_inj`), and which memberships the links of the parents add (`foldLinks_eq`).
-/

namespace Sams.Identities

open Rows

variable {E T : Type} [DecidableEq E]

/-! ## The gate -/

section Gate

/-- The email has an account in the store. -/
def InStore (p : Plane E T) (e : E) : Plane.Store → Prop
  | .parent => ∃ q ∈ p.parents, q.email = e
  | .superAdmin => e ∈ p.superAdmins
  | .tenantMember => ∃ m ∈ p.userTenantMap, m.role ≠ "parent" ∧ m.email = e

/-- The email has accounts in two stores. -/
def Shared (p : Plane E T) (e : E) : Prop := ∃ s s', s ≠ s' ∧ InStore p e s ∧ InStore p e s'

/-- More than one value. -/
theorem one_lt_length_dedup {α : Type} [DecidableEq α] {l : List α} :
    1 < l.dedup.length ↔ ∃ a ∈ l, ∃ b ∈ l, a ≠ b := by
  constructor
  · intro h
    have hnodup := List.nodup_dedup l
    have h0 : 0 < l.dedup.length := by omega
    refine ⟨l.dedup[0], List.mem_dedup.1 (List.getElem_mem h0), l.dedup[1],
      List.mem_dedup.1 (List.getElem_mem h), ?_⟩
    intro heq
    have hidx := (hnodup.getElem_inj_iff).1 heq
    omega
  · intro ⟨a, ha, b, hb, hne⟩
    by_contra hle
    have hone : l.dedup.length ≤ 1 := by omega
    obtain ⟨i, hi, hia⟩ := List.getElem_of_mem (List.mem_dedup.2 ha)
    obtain ⟨j, hj, hjb⟩ := List.getElem_of_mem (List.mem_dedup.2 hb)
    have hij : i = j := by omega
    subst hij
    exact hne (hia.symm.trans hjb)

omit [DecidableEq E] in
theorem mem_byStore {p : Plane E T} {e : E} {s : Plane.Store} :
    (e, s) ∈ p.byStore ↔ InStore p e s := by
  unfold Plane.byStore
  simp only [List.mem_append, List.mem_map, List.mem_filter, Prod.mk.injEq]
  cases s with
  | parent => simp [InStore]
  | superAdmin => simp [InStore]
  | tenantMember => simp [InStore, and_assoc]

theorem mem_collisions {p : Plane E T} {e : E} : e ∈ p.collisions ↔ Shared p e := by
  have hstores : ∀ s, s ∈ (p.byStore.filter fun x => x.1 = e).map Prod.snd ↔ InStore p e s := by
    intro s
    rw [← mem_byStore]
    simp
  unfold Plane.collisions
  rw [List.mem_filter, decide_eq_true_eq, one_lt_length_dedup]
  constructor
  · rintro ⟨-, s, hs, s', hs', hne⟩
    exact ⟨s, s', hne, (hstores s).1 hs, (hstores s').1 hs'⟩
  · intro ⟨s, s', hne, hs, hs'⟩
    refine ⟨List.mem_dedup.2 (List.mem_map.2 ⟨(e, s), mem_byStore.2 hs, rfl⟩), s, (hstores s).2 hs,
      s', ?_, hne⟩
    exact (hstores s').2 hs'

theorem undecided_eq_nil {p : Plane E T} : p.undecided = [] ↔ ∀ e, Shared p e → p.decided e := by
  unfold Plane.undecided
  rw [List.filter_eq_nil_iff]
  constructor
  · intro h e he
    by_contra hnot
    exact h e (mem_collisions.2 he) (decide_eq_true hnot)
  · intro h e he hnot
    exact of_decide_eq_true hnot (h e (mem_collisions.1 he))

theorem undecided_createDecisions (p : Plane E T) : p.createDecisions.undecided = p.undecided := by
  unfold Plane.undecided
  have hdecided : ∀ e, p.createDecisions.decided e ↔ p.decided e := fun e => Iff.rfl
  exact List.filter_congr fun e _ => by simp only [hdecided]

/-- The identities of a plane that the gate lets pass. -/
theorem identify_eq (p : Plane E T) : identify p =
    if p.undecided = [] then .ok p.createDecisions.createIdentities.backfill
      else .error (.unreviewed p.undecided) := by
  unfold identify Plane.gate
  rw [undecided_createDecisions]
  by_cases h : p.undecided = []
  · rw [if_pos h, if_pos h]
    rfl
  · rw [if_neg h, if_neg h]
    rfl

end Gate

/-! ## The identities -/

section Backfill

variable {p : Plane E T}

omit [DecidableEq E] in
theorem keyed_append {α κ : Type} {key : α → κ} {l l' : List α} (h : Keyed key l)
    (h' : Keyed key l') (hne : ∀ x ∈ l, ∀ y ∈ l', key x ≠ key y) : Keyed key (l ++ l') := by
  unfold Keyed at h h' ⊢
  rw [List.map_append]
  refine List.nodup_append.2 ⟨h, h', fun a ha b hb => ?_⟩
  obtain ⟨x, hx, rfl⟩ := List.mem_map.1 ha
  obtain ⟨y, hy, rfl⟩ := List.mem_map.1 hb
  exact hne x hx y hy

theorem mem_emails {e : E} : e ∈ p.emails ↔
    (∃ m ∈ p.userTenantMap, m.email = e) ∨ (∃ q ∈ p.parents, q.email = e) ∨ e ∈ p.superAdmins := by
  unfold Plane.emails
  simp

/-- The identities that a plane has been given. -/
def Plane.ids (p : Plane E T) : List (IdentityRow E) := p.backfill.identities.getD []

theorem ids_eq (p : Plane E T) : p.ids =
    p.identities.getD [] ++ p.unknown.zipIdx.map fun x => ⟨p.next + x.2, x.1⟩ := rfl

theorem mem_ids {i : IdentityRow E} : i ∈ p.ids ↔ i ∈ p.identities.getD [] ∨
    ∃ n, p.unknown[n]? = some i.email ∧ i.id = p.next + n := by
  rw [ids_eq, List.mem_append, List.mem_map]
  refine or_congr_right ⟨?_, ?_⟩
  · rintro ⟨⟨e, n⟩, hx, rfl⟩
    exact ⟨n, List.mem_zipIdx_iff_getElem?.1 hx, rfl⟩
  · rintro ⟨n, hn, hid⟩
    refine ⟨(i.email, n), List.mem_zipIdx_iff_getElem?.2 hn, ?_⟩
    rw [← hid]

/-- Each email has its identity. -/
theorem email_mem_ids {e : E} :
    (∃ i ∈ p.ids, i.email = e) ↔ (∃ i ∈ p.identities.getD [], i.email = e) ∨ e ∈ p.emails := by
  constructor
  · rintro ⟨i, hi, rfl⟩
    rcases mem_ids.1 hi with hold | ⟨n, hn, -⟩
    · exact .inl ⟨i, hold, rfl⟩
    · exact .inr (List.mem_filter.1 (List.mem_of_getElem? hn)).1
  · intro h
    by_cases hold : ∃ i ∈ p.identities.getD [], i.email = e
    · obtain ⟨i, hi, he⟩ := hold
      exact ⟨i, mem_ids.2 (.inl hi), he⟩
    · have hin : e ∈ p.unknown := by
        refine List.mem_filter.2 ⟨h.resolve_left hold,
          decide_eq_true fun i hi he => hold ⟨i, hi, he⟩⟩
      obtain ⟨n, hn⟩ := List.getElem?_of_mem hin
      exact ⟨⟨p.next + n, e⟩, mem_ids.2 (.inr ⟨n, hn, rfl⟩), rfl⟩

theorem keyed_ids (h : p.Ok) : Keyed IdentityRow.id p.ids ∧ Keyed IdentityRow.email p.ids := by
  have hnodup : p.unknown.Nodup := (List.nodup_dedup _).filter _
  have hnew : ∀ y ∈ p.unknown.zipIdx.map (fun x => (⟨p.next + x.2, x.1⟩ : IdentityRow E)),
      p.next ≤ y.id ∧ y.email ∈ p.unknown := by
    intro y hy
    obtain ⟨⟨e, n⟩, hx, rfl⟩ := List.mem_map.1 hy
    exact ⟨Nat.le_add_right _ _, List.mem_of_getElem? (List.mem_zipIdx_iff_getElem?.1 hx)⟩
  rw [ids_eq]
  constructor
  · refine keyed_append h.identity_key ?_ fun x hx y hy heq => ?_
    · unfold Keyed
      rw [List.map_map]
      have hids : (IdentityRow.id ∘ fun x : E × Nat => (⟨p.next + x.2, x.1⟩ : IdentityRow E)) =
          (fun n => p.next + n) ∘ Prod.snd := rfl
      rw [hids, ← List.map_map, List.zipIdx_map_snd]
      exact List.Nodup.map (fun a b hab => Nat.add_left_cancel hab) List.nodup_range'
    · have hlt := h.drawn x hx
      have hle := (hnew y hy).1
      omega
  · refine keyed_append h.identity_email ?_ fun x hx y hy heq => ?_
    · unfold Keyed
      rw [List.map_map]
      have hemails : (IdentityRow.email ∘ fun x : E × Nat =>
          (⟨p.next + x.2, x.1⟩ : IdentityRow E)) = Prod.fst := rfl
      rw [hemails, List.zipIdx_map_fst]
      exact hnodup
    · have hunknown := of_decide_eq_true (List.mem_filter.1 (hnew y hy).2).2
      exact hunknown x hx heq

theorem own_email (ids : List (IdentityRow E)) (m : MapRow E T) : (m.own ids).email = m.email := by
  unfold MapRow.own
  by_cases h : m.identityId = none ∧ identityOf ids m.email ≠ none
  · rw [if_pos h]
  · rw [if_neg h]

theorem own_tenantId (ids : List (IdentityRow E)) (m : MapRow E T) :
    (m.own ids).tenantId = m.tenantId := by
  unfold MapRow.own
  by_cases h : m.identityId = none ∧ identityOf ids m.email ≠ none
  · rw [if_pos h]
  · rw [if_neg h]

theorem identityOf_eq_some {ids : List (IdentityRow E)} (hids : Keyed IdentityRow.email ids) {e : E}
    {id : Nat} :
    identityOf ids e = some id ↔ ∃ i ∈ ids, i.email = e ∧ i.id = id := by
  unfold identityOf
  rw [Option.map_eq_some_iff]
  constructor
  · rintro ⟨i, hi, hid⟩
    obtain ⟨hmem, he⟩ := hids.find?_eq_some.1 hi
    exact ⟨i, hmem, he, hid⟩
  · rintro ⟨i, hmem, he, hid⟩
    exact ⟨i, hids.find?_eq_some.2 ⟨hmem, he⟩, hid⟩

theorem identityOf_eq_none {ids : List (IdentityRow E)} {e : E} :
    identityOf ids e = none ↔ ∀ i ∈ ids, i.email ≠ e := by
  unfold identityOf
  rw [Option.map_eq_none_iff, List.find?_eq_none]
  simp

/-- Two emails do not share an identity. -/
theorem identityOf_inj {ids : List (IdentityRow E)} (hid : Keyed IdentityRow.id ids)
    (hemail : Keyed IdentityRow.email ids) {e e' : E} {n : Nat} (h : identityOf ids e = some n)
    (h' : identityOf ids e' = some n) : e = e' := by
  obtain ⟨i, hi, he, hn⟩ := (identityOf_eq_some hemail).1 h
  obtain ⟨i', hi', he', hn'⟩ := (identityOf_eq_some hemail).1 h'
  have hsame : i = i' := hid.eq_of_key_eq hi hi' (hn.trans hn'.symm)
  rw [← he, ← he', hsame]

end Backfill

variable [DecidableEq T]

/-! ## The memberships of parents -/

section Insertion

/-- The key of a membership. -/
def MapRow.key (m : MapRow E T) : Option Nat × T := (m.identityId, m.tenantId)

/-- The identity has a membership in the school. -/
def Present (rows : List (MapRow E T)) (row : MapRow E T) : Prop :=
  ∃ m ∈ rows, m.identityId = row.identityId ∧ m.tenantId = row.tenantId

instance (rows : List (MapRow E T)) (row : MapRow E T) : Decidable (Present rows row) := by
  unfold Present; infer_instance

/-- Another identity has a membership with this email in the school. -/
def Clashes (rows : List (MapRow E T)) (row : MapRow E T) : Prop :=
  ¬Present rows row ∧ ∃ m ∈ rows, m.email = row.email ∧ m.tenantId = row.tenantId

instance (rows : List (MapRow E T)) (row : MapRow E T) : Decidable (Clashes rows row) := by
  unfold Clashes; infer_instance

section Cases

variable {rows : List (MapRow E T)} {row : MapRow E T}

theorem insertMembership_present (h : Present rows row) :
    insertMembership rows row = .ok rows := if_pos h

theorem insertMembership_clash (h : Clashes rows row) :
    insertMembership rows row = .error .database :=
  (if_neg h.1).trans (if_pos h.2)

theorem insertMembership_new (h : ¬Present rows row) (hclash : ¬Clashes rows row) :
    insertMembership rows row = .ok (rows ++ [row]) :=
  (if_neg h).trans (if_neg fun hemail => hclash ⟨h, hemail⟩)

end Cases

omit [DecidableEq E] [DecidableEq T] in
theorem present_append {rows : List (MapRow E T)} {row row' : MapRow E T}
    (hne : row'.key ≠ row.key) :
    Present (rows ++ [row]) row' ↔ Present rows row' := by
  constructor
  · rintro ⟨m, hm, hid, htenant⟩
    rcases List.mem_append.1 hm with hm | hm
    · exact ⟨m, hm, hid, htenant⟩
    · rw [List.mem_singleton.1 hm] at hid htenant
      exact absurd (Prod.ext hid.symm htenant.symm) hne
  · rintro ⟨m, hm, h⟩
    exact ⟨m, List.mem_append_left _ hm, h⟩

/-- Memberships of distinct identities, whose emails are their own, are
added where they are missing. -/
theorem foldlM_insertMembership {rows new : List (MapRow E T)} (hkeys : Keyed MapRow.key new)
    (hemails : ∀ x ∈ new, ∀ y ∈ new, x.email = y.email → x.identityId = y.identityId)
    (hclash : ∀ row ∈ new, ¬Clashes rows row) :
    new.foldlM insertMembership rows = .ok (rows ++ new.filter fun row => ¬Present rows row) := by
  induction new generalizing rows with
  | nil => simp [pure, Except.pure]
  | cons row new ih =>
    obtain ⟨hfresh, hkeys⟩ := List.nodup_cons.1 hkeys
    have hne : ∀ row' ∈ new, row'.key ≠ row.key :=
      fun row' h heq => hfresh (List.mem_map.2 ⟨row', h, heq⟩)
    have hemails' : ∀ x ∈ new, ∀ y ∈ new, x.email = y.email → x.identityId = y.identityId :=
      fun x hx y hy =>
      hemails x (List.mem_cons_of_mem _ hx) y (List.mem_cons_of_mem _ hy)
    rw [List.foldlM_cons]
    by_cases hpresent : Present rows row
    · rw [insertMembership_present hpresent]
      show List.foldlM insertMembership rows new = _
      rw [ih hkeys hemails' fun row' h => hclash row' (List.mem_cons_of_mem _ h),
        List.filter_cons_of_neg (by simpa using hpresent)]
    · rw [insertMembership_new hpresent (hclash row List.mem_cons_self)]
      show List.foldlM insertMembership (rows ++ [row]) new = _
      have hclash' : ∀ row' ∈ new, ¬Clashes (rows ++ [row]) row' := by
        rintro row' h ⟨hnot, m, hm, hemail, htenant⟩
        rw [present_append (hne row' h)] at hnot
        rcases List.mem_append.1 hm with hm | hm
        · exact hclash row' (List.mem_cons_of_mem _ h) ⟨hnot, m, hm, hemail, htenant⟩
        · rw [List.mem_singleton.1 hm] at hemail htenant
          have hid := hemails row List.mem_cons_self row' (List.mem_cons_of_mem _ h) hemail
          exact hne row' h (Prod.ext hid.symm htenant.symm)
      have hfilter : new.filter (fun row' => ¬Present (rows ++ [row]) row') = new.filter fun row' =>
          ¬Present rows row' :=
        List.filter_congr fun row' h => by simp only [present_append (hne row' h)]
      rw [ih hkeys hemails' hclash', hfilter, List.filter_cons_of_pos (by simpa using hpresent),
        List.append_assoc]
      rfl

end Insertion

section Linked

variable {p : Plane E T} {now : Nat}

omit [DecidableEq T] in
theorem mem_linked {row : MapRow E T} (h : p.Ok) : row ∈ p.linked now ↔
    ∃ l ∈ p.parentTenantLinks, ∃ q ∈ p.parents, ∃ id, q.id = l.parentId ∧
      identityOf (p.identities.getD []) q.email = some id ∧
      row = { email := q.email, tenantId := l.tenantId, role := "parent", updatedAt := now,
              identityId := some id, status := .active, roles := ["parent"], isDefault :=
  false } := by
  unfold Plane.linked
  rw [List.mem_filterMap]
  constructor
  · rintro ⟨l, hl, hrow⟩
    obtain ⟨q, hq, hrow⟩ := Option.bind_eq_some_iff.1 hrow
    obtain ⟨id, hid, rfl⟩ := Option.map_eq_some_iff.1 hrow
    obtain ⟨hmem, hparent⟩ := h.parent_key.find?_eq_some.1 hq
    exact ⟨l, hl, q, hmem, id, hparent, hid, rfl⟩
  · rintro ⟨l, hl, q, hq, id, hparent, hid, rfl⟩
    refine ⟨l, hl, ?_⟩
    rw [h.parent_key.find?_eq_some.2 ⟨hq, hparent⟩, Option.bind_some, hid]
    rfl

omit [DecidableEq T] in
/-- The links give each identity one membership in a school. -/
theorem keyed_linked (h : p.Ok) (now : Nat) : Keyed MapRow.key (p.linked now) := by
  unfold Keyed Plane.linked
  rw [List.map_filterMap]
  refine List.Nodup.filterMap ?_ h.link_key
  intro l l' k hk hk'
  obtain ⟨row, hrow, rfl⟩ := Option.map_eq_some_iff.1 hk
  obtain ⟨row', hrow', hkey⟩ := Option.map_eq_some_iff.1 hk'
  obtain ⟨q, hq, hrow⟩ := Option.bind_eq_some_iff.1 hrow
  obtain ⟨id, hid, rfl⟩ := Option.map_eq_some_iff.1 hrow
  obtain ⟨q', hq', hrow'⟩ := Option.bind_eq_some_iff.1 hrow'
  obtain ⟨id', hid', rfl⟩ := Option.map_eq_some_iff.1 hrow'
  obtain ⟨hmem, hparent⟩ := h.parent_key.find?_eq_some.1 hq
  obtain ⟨hmem', hparent'⟩ := h.parent_key.find?_eq_some.1 hq'
  have hids : some id' = some id := congrArg Prod.fst hkey
  have htenant : l'.tenantId = l.tenantId := congrArg Prod.snd hkey
  cases hids
  have hemail := identityOf_inj h.identity_key h.identity_email hid hid'
  have hsame : q = q' := h.parent_email.eq_of_key_eq hmem hmem' hemail
  obtain ⟨parentId, tenantId⟩ := l
  obtain ⟨parentId', tenantId'⟩ := l'
  dsimp only at hparent hparent' htenant
  rw [← hparent, ← hparent', hsame, htenant]

omit [DecidableEq T] in
theorem linked_emails (h : p.Ok) : ∀ x ∈ p.linked now, ∀ y ∈ p.linked now, x.email = y.email →
    x.identityId = y.identityId := by
  intro x hx y hy heq
  obtain ⟨_, _, q, _, id, _, hid, rfl⟩ := (mem_linked h).1 hx
  obtain ⟨_, _, q', _, id', _, hid', rfl⟩ := (mem_linked h).1 hy
  dsimp only at heq ⊢
  rw [← hid, ← hid', heq]

/-- Another identity has a membership with the email of a parent in a school of that parent. -/
def Plane.Clash (p : Plane E T) (now : Nat) : Prop :=
  ∃ row ∈ p.linked now, Clashes p.userTenantMap row

/-- What the links add. -/
theorem foldLinks_eq (h : p.Ok) (hclash : ¬p.Clash now) : p.foldLinks now =
    .ok { p with userTenantMap := p.userTenantMap ++
      (p.linked now).filter fun row => ¬Present p.userTenantMap row } := by
  unfold Plane.foldLinks
  rw [foldlM_insertMembership (keyed_linked h now) (linked_emails h)
    fun row hrow hc => hclash ⟨row, hrow, hc⟩]
  rfl

end Linked

end Sams.Identities
