import Sams.Identities.Migrations

/-!
# Starting again

The service runs its statements each time it starts, and commits each of them by itself. A start
that was cut short is followed by another, which finds the tables as the first one left them.

A statement that has been run changes nothing when it is run again, and nothing that the later ones
do undoes it, but for the last: it seeds a super admin, who has no identity before the next start
draws one. **`restart`**: so the starts that were cut short, however many and wherever, do not show
in what the next one makes, except in that identity where one of them had come to its end.
-/

namespace Sams.Identities

open Rows Resuming

variable {E T : Type} [DecidableEq E] [DecidableEq T]

/-! ## What each statement leaves alone -/

section Settled

variable {p : Plane E T}

omit [DecidableEq T] in
theorem unknown_eq_nil :
    p.unknown = [] ↔ ∀ e ∈ p.emails, ∃ i ∈ p.identities.getD [], i.email = e := by
  unfold Plane.unknown
  rw [List.filter_eq_nil_iff]
  simp

theorem settled_widen : Settled (fun _ : Nat => widen) p ↔ p.primaryKey ≠ .email := by
  constructor
  · intro h hpk
    have hrun : widen p = .ok p := h 0
    unfold widen Plane.rekey at hrun
    rw [if_pos hpk] at hrun
    by_cases hholds : PrimaryKey.emailTenant.Holds p.userTenantMap
    · rw [if_pos hholds] at hrun
      have hkey := congrArg Plane.primaryKey (Except.ok.inj hrun)
      rw [hpk] at hkey
      cases hkey
    · rw [if_neg hholds] at hrun
      cases hrun
  · intro h _
    exact if_neg h

omit [DecidableEq E] [DecidableEq T] in
theorem settled_createDecisions :
    Settled
      (fun (_ : Nat) (p : Plane E T) => (.ok p.createDecisions : Except (Abort E) (Plane E T))) p ↔
      p.identityMergeDecisions.isSome := by
  constructor
  · intro h
    have heq := congrArg Plane.identityMergeDecisions (Except.ok.inj (h 0))
    rw [← heq]
    rfl
  · intro h _
    obtain ⟨d, hd⟩ := Option.isSome_iff_exists.1 h
    show Except.ok { p with identityMergeDecisions := some (p.identityMergeDecisions.getD []) } = _
    rw [hd, Option.getD_some, ← hd]

omit [DecidableEq E] [DecidableEq T] in
theorem settled_createIdentities :
    Settled (fun (_ : Nat) (p : Plane E T) =>
      (.ok p.createIdentities : Except (Abort E) (Plane E T))) p ↔ p.identities.isSome := by
  constructor
  · intro h
    have heq := congrArg Plane.identities (Except.ok.inj (h 0))
    rw [← heq]
    rfl
  · intro h _
    obtain ⟨ids, hids⟩ := Option.isSome_iff_exists.1 h
    show Except.ok { p with identities := some (p.identities.getD []) } = _
    rw [hids, Option.getD_some, ← hids]

omit [DecidableEq T] in
theorem settled_backfill :
    Settled (fun (_ : Nat) (p : Plane E T) => (.ok p.backfill : Except (Abort E) (Plane E T))) p ↔
      p.identities.isSome ∧ p.unknown = [] := by
  constructor
  · intro h
    have heq := Except.ok.inj (h 0)
    have hids := congrArg Plane.identities heq
    have hnext : p.next + p.unknown.length = p.next := congrArg Plane.next heq
    refine ⟨?_, List.eq_nil_of_length_eq_zero (by omega)⟩
    rw [← hids]
    rfl
  · intro ⟨hsome, hnil⟩ _
    obtain ⟨ids, hids⟩ := Option.isSome_iff_exists.1 hsome
    have hsame : p.ids = ids := by
      rw [ids_eq, hnil, hids]
      simp
    have hnext : p.next + p.unknown.length = p.next := by
      rw [hnil]
      rfl
    show Except.ok { p with identities := some p.ids, next := p.next + p.unknown.length } = _
    rw [hsame, ← hids, hnext]

omit [DecidableEq E] [DecidableEq T] in
theorem settled_addColumns :
    Settled (fun (_ : Nat) (p : Plane E T) => (.ok p.addColumns : Except (Abort E) (Plane E T))) p ↔
      p.lifecycle = true := by
  constructor
  · intro h
    have heq := Except.ok.inj (h 0)
    unfold Plane.addColumns at heq
    by_cases hl : p.lifecycle = true
    · exact hl
    · rw [if_neg hl] at heq
      exact (congrArg Plane.lifecycle heq).symm
  · intro h _
    show Except.ok p.addColumns = _
    unfold Plane.addColumns
    rw [if_pos h]

omit [DecidableEq T] in
theorem settled_own :
    Settled (fun (_ : Nat) (p : Plane E T) => (.ok p.own : Except (Abort E) (Plane E T))) p ↔
      ∀ m ∈ p.userTenantMap, m.own (p.identities.getD []) = m := by
  constructor
  · intro h
    have heq : p.userTenantMap.map (MapRow.own (p.identities.getD [])) = p.userTenantMap :=
      congrArg Plane.userTenantMap (Except.ok.inj (h 0))
    rw [← List.map_id p.userTenantMap, List.map_map, Function.comp_id] at heq
    exact List.map_inj_left.1 heq
  · intro h _
    show Except.ok { p with
        userTenantMap := p.userTenantMap.map (MapRow.own (p.identities.getD [])) } = _
    rw [List.map_inj_left.2 h, List.map_id']

theorem settled_adopt :
    Settled (fun _ : Nat => adopt) p ↔ p.unowned ≠ [] ∨ p.primaryKey = .identityTenant := by
  constructor
  · intro h
    by_contra hnot
    obtain ⟨hun, hpk⟩ := not_or.1 hnot
    have hrun : adopt p = .ok p := h 0
    unfold adopt Plane.rekey at hrun
    rw [if_pos ⟨not_not.1 hun, hpk⟩] at hrun
    by_cases hholds : PrimaryKey.identityTenant.Holds p.userTenantMap
    · rw [if_pos hholds] at hrun
      exact hpk (congrArg Plane.primaryKey (Except.ok.inj hrun)).symm
    · rw [if_neg hholds] at hrun
      cases hrun
  · intro h _
    refine if_neg fun hboth => ?_
    rcases h with h | h
    · exact h hboth.1
    · exact hboth.2 h

theorem settled_createEmailTenantIndex :
    Settled (fun (_ : Nat) (p : Plane E T) => p.createEmailTenantIndex) p ↔
      p.emailTenantIndex = true := by
  constructor
  · intro h
    by_contra hnot
    have hrun : p.createEmailTenantIndex = .ok p := h 0
    unfold Plane.createEmailTenantIndex at hrun
    rw [if_neg hnot] at hrun
    by_cases hkeyed : Keyed (fun m => (m.email, m.tenantId)) p.userTenantMap
    · rw [if_pos hkeyed] at hrun
      exact hnot (congrArg Plane.emailTenantIndex (Except.ok.inj hrun)).symm
    · rw [if_neg hkeyed] at hrun
      cases hrun
  · intro h _
    exact if_pos h

omit [DecidableEq E] [DecidableEq T] in
theorem settled_createDefaultIndex :
    Settled (fun (_ : Nat) (p : Plane E T) => p.createDefaultIndex) p ↔ p.defaultIndex = true := by
  constructor
  · intro h
    by_contra hnot
    have hrun : p.createDefaultIndex = .ok p := h 0
    unfold Plane.createDefaultIndex at hrun
    rw [if_neg hnot] at hrun
    by_cases hkeyed : Keyed MapRow.identityId (p.userTenantMap.filter MapRow.isDefault)
    · rw [if_pos hkeyed] at hrun
      exact hnot (congrArg Plane.defaultIndex (Except.ok.inj hrun)).symm
    · rw [if_neg hkeyed] at hrun
      cases hrun
  · intro h _
    exact if_pos h

end Settled

/-! ## The links -/

section Links

/-- Inserted rows come after the ones that are there, and each is present in the end. -/
theorem insertMemberships_ok {rows new rows' : List (MapRow E T)}
    (h : new.foldlM insertMembership rows = .ok rows') :
    (∃ added, rows' = rows ++ added ∧ ∀ row ∈ added, row ∈ new) ∧
      ∀ row ∈ new, Present rows' row := by
  induction new generalizing rows with
  | nil =>
    cases h
    exact ⟨⟨[], by simp, nofun⟩, nofun⟩
  | cons row new ih =>
    rw [List.foldlM_cons] at h
    by_cases hpresent : Present rows row
    · rw [insertMembership_present hpresent] at h
      obtain ⟨⟨added, rfl, hadded⟩, hnew⟩ := ih h
      refine ⟨⟨added, rfl, fun r hr => List.mem_cons_of_mem _ (hadded r hr)⟩, fun r hr => ?_⟩
      rcases List.mem_cons.1 hr with rfl | hr
      · obtain ⟨m, hm, hsame⟩ := hpresent
        exact ⟨m, List.mem_append_left _ hm, hsame⟩
      · exact hnew r hr
    · by_cases hclash : Clashes rows row
      · rw [insertMembership_clash hclash] at h
        cases h
      · rw [insertMembership_new hpresent hclash] at h
        obtain ⟨⟨added, rfl, hadded⟩, hnew⟩ := ih h
        refine ⟨⟨row :: added, List.append_assoc rows [row] added, fun r hr => ?_⟩, fun r hr => ?_⟩
        · rcases List.mem_cons.1 hr with rfl | hr
          · exact List.mem_cons_self
          · exact List.mem_cons_of_mem _ (hadded r hr)
        · rcases List.mem_cons.1 hr with rfl | hr
          · exact ⟨r, List.mem_append_left _ (List.mem_append_right _ List.mem_cons_self), rfl, rfl⟩
          · exact hnew r hr

/-- Rows that are all present are not inserted. -/
theorem insertMemberships_present {rows new : List (MapRow E T)}
    (h : ∀ row ∈ new, Present rows row) :
    new.foldlM insertMembership rows = .ok rows := by
  induction new with
  | nil => rfl
  | cons row new ih =>
    rw [List.foldlM_cons, insertMembership_present (h row List.mem_cons_self)]
    exact ih fun r hr => h r (List.mem_cons_of_mem _ hr)

variable {p q : Plane E T} {now : Nat}

omit [DecidableEq T] in
/-- A row of the links is that of a parent and its identity. -/
theorem of_mem_linked {row : MapRow E T} (h : row ∈ p.linked now) :
    (∃ x ∈ p.parents, x.email = row.email) ∧ row.identityId ≠ none := by
  unfold Plane.linked at h
  obtain ⟨l, hl, hrow⟩ := List.mem_filterMap.1 h
  obtain ⟨x, hx, hrow⟩ := Option.bind_eq_some_iff.1 hrow
  obtain ⟨id, hid, rfl⟩ := Option.map_eq_some_iff.1 hrow
  exact ⟨⟨x, List.mem_of_find?_eq_some hx, rfl⟩, nofun⟩

omit [DecidableEq T] in
/-- At another time the links give the same memberships. -/
theorem linked_at {row : MapRow E T} (now' : Nat) (h : row ∈ p.linked now) :
    { row with updatedAt := now' } ∈ p.linked now' := by
  unfold Plane.linked at h ⊢
  obtain ⟨l, hl, hrow⟩ := List.mem_filterMap.1 h
  obtain ⟨x, hx, hrow⟩ := Option.bind_eq_some_iff.1 hrow
  obtain ⟨id, hid, rfl⟩ := Option.map_eq_some_iff.1 hrow
  refine List.mem_filterMap.2 ⟨l, hl, ?_⟩
  rw [hx, Option.bind_some, hid]
  rfl

theorem foldLinks_ok (h : p.foldLinks now = .ok q) : ∃ added,
    q = { p with userTenantMap := p.userTenantMap ++ added } ∧ (∀ row ∈ added, row ∈ p.linked now) ∧
      ∀ row ∈ p.linked now, Present q.userTenantMap row := by
  unfold Plane.foldLinks at h
  cases hfold : List.foldlM insertMembership p.userTenantMap (p.linked now) with
  | error e =>
    rw [hfold] at h
    cases h
  | ok rows =>
    rw [hfold] at h
    obtain ⟨⟨added, rfl, hadded⟩, hnew⟩ := insertMemberships_ok hfold
    cases h
    exact ⟨added, rfl, hadded, hnew⟩

theorem repeatable_foldLinks : Repeatable fun (now : Nat) (p : Plane E T) => p.foldLinks now := by
  intro now p q h now'
  obtain ⟨added, rfl, -, hnew⟩ := foldLinks_ok h
  show Plane.foldLinks _ now' = _
  unfold Plane.foldLinks
  rw [insertMemberships_present]
  · rfl
  · intro row hrow
    obtain ⟨m, hm, hid, htenant⟩ := hnew { row with updatedAt := now } (linked_at now hrow)
    exact ⟨m, hm, hid, htenant⟩

end Links

/-! ## What the statements keep -/

section Keeping

variable {p q : Plane E T} {now : Nat}

/-- What every statement keeps. -/
structure Keeping (p q : Plane E T) : Prop where
  widened : p.primaryKey ≠ .email → q.primaryKey ≠ .email
  adopted : p.primaryKey = .identityTenant → q.primaryKey = .identityTenant
  decisions : p.identityMergeDecisions.isSome → q.identityMergeDecisions.isSome
  identities : p.identities.isSome → q.identities.isSome
  unknown : p.unknown = [] → q.unknown = []
  lifecycle : p.lifecycle = true → q.lifecycle = true
  emailTenantIndex : p.emailTenantIndex = true → q.emailTenantIndex = true
  defaultIndex : p.defaultIndex = true → q.defaultIndex = true

omit [DecidableEq T] in
theorem Keeping.refl (p : Plane E T) : Keeping p p := ⟨id, id, id, id, id, id, id, id⟩

theorem rekey_ok {k : PrimaryKey} (h : p.rekey k = .ok q) : q = { p with primaryKey := k } := by
  unfold Plane.rekey at h
  by_cases hholds : k.Holds p.userTenantMap
  · rw [if_pos hholds] at h
    exact (Except.ok.inj h).symm
  · rw [if_neg hholds] at h
    cases h

theorem widen_ok (h : widen p = .ok q) :
    q = p ∧ p.primaryKey ≠ .email ∨ q = { p with primaryKey := .emailTenant } ∧
      p.primaryKey = .email := by
  unfold widen at h
  by_cases hpk : p.primaryKey = .email
  · rw [if_pos hpk] at h
    exact .inr ⟨rekey_ok h, hpk⟩
  · rw [if_neg hpk] at h
    exact .inl ⟨(Except.ok.inj h).symm, hpk⟩

theorem adopt_ok (h : adopt p = .ok q) :
    q = p ∧ (p.unowned ≠ [] ∨ p.primaryKey = .identityTenant) ∨
      q = { p with primaryKey := .identityTenant } := by
  unfold adopt at h
  by_cases hboth : p.unowned = [] ∧ p.primaryKey ≠ .identityTenant
  · rw [if_pos hboth] at h
    exact .inr (rekey_ok h)
  · rw [if_neg hboth] at h
    refine .inl ⟨(Except.ok.inj h).symm, ?_⟩
    by_contra hnot
    obtain ⟨hun, hpk⟩ := not_or.1 hnot
    exact hboth ⟨not_not.1 hun, hpk⟩

theorem createEmailTenantIndex_ok (h : p.createEmailTenantIndex = .ok q) :
    q = { p with emailTenantIndex := true } := by
  unfold Plane.createEmailTenantIndex at h
  by_cases hindex : p.emailTenantIndex = true
  · rw [if_pos hindex] at h
    rw [← hindex]
    exact (Except.ok.inj h).symm
  · rw [if_neg hindex] at h
    by_cases hkeyed : Keyed (fun m => (m.email, m.tenantId)) p.userTenantMap
    · rw [if_pos hkeyed] at h
      exact (Except.ok.inj h).symm
    · rw [if_neg hkeyed] at h
      cases h

omit [DecidableEq E] [DecidableEq T] in
theorem createDefaultIndex_ok (h : p.createDefaultIndex = .ok q) :
    q = { p with defaultIndex := true } := by
  unfold Plane.createDefaultIndex at h
  by_cases hindex : p.defaultIndex = true
  · rw [if_pos hindex] at h
    rw [← hindex]
    exact (Except.ok.inj h).symm
  · rw [if_neg hindex] at h
    by_cases hkeyed : Keyed MapRow.identityId (p.userTenantMap.filter MapRow.isDefault)
    · rw [if_pos hkeyed] at h
      exact (Except.ok.inj h).symm
    · rw [if_neg hkeyed] at h
      cases h

omit [DecidableEq T] in
theorem unknown_backfill : p.backfill.unknown = [] :=
  unknown_eq_nil.2 fun _ he => email_mem_ids.2 (.inr he)

omit [DecidableEq T] in
/-- The emails of a table whose rows have other columns. -/
theorem unknown_map {f : MapRow E T → MapRow E T} (hf : ∀ m, (f m).email = m.email)
    (h : p.unknown = []) :
    Plane.unknown { p with userTenantMap := p.userTenantMap.map f } = [] := by
  refine unknown_eq_nil.2 fun e he => unknown_eq_nil.1 h e (mem_emails.2 ?_)
  rcases mem_emails.1 he with ⟨m', hm', rfl⟩ | h
  · obtain ⟨m, hm, rfl⟩ := List.mem_map.1 hm'
    exact .inl ⟨m, hm, (hf m).symm⟩
  · exact .inr h

omit [DecidableEq T] in
theorem keeping_addColumns (p : Plane E T) : Keeping p p.addColumns := by
  unfold Plane.addColumns
  by_cases hl : p.lifecycle = true
  · rw [if_pos hl]
    exact .refl p
  · rw [if_neg hl]
    exact { Keeping.refl p with unknown := unknown_map fun _ => rfl, lifecycle := fun _ => rfl }

theorem keeping_foldLinks (h : p.foldLinks now = .ok q) : Keeping p q := by
  obtain ⟨added, rfl, hadded, -⟩ := foldLinks_ok h
  refine { Keeping.refl p with unknown := fun hnil => ?_ }
  refine unknown_eq_nil.2 fun e he => unknown_eq_nil.1 hnil e (mem_emails.2 ?_)
  rcases mem_emails.1 he with ⟨m, hm, rfl⟩ | h
  · rcases List.mem_append.1 hm with hm | hm
    · exact .inl ⟨m, hm, rfl⟩
    · obtain ⟨x, hx, hemail⟩ := (of_mem_linked (hadded m hm)).1
      exact .inr (.inl ⟨x, hx, hemail⟩)
  · exact .inr h

theorem keeping_of_mem {f : Statement (Plane E T) (Abort E) Nat} (hf : f ∈ statements)
    (h : f now p = .ok q) :
    Keeping p q := by
  unfold statements at hf
  simp only [List.mem_cons, List.not_mem_nil, or_false] at hf
  rcases hf with rfl | rfl | rfl | rfl | rfl | rfl | rfl | rfl | rfl | rfl
  · rcases widen_ok h with ⟨rfl, -⟩ | ⟨rfl, hpk⟩
    · exact .refl _
    · refine { Keeping.refl p with widened := fun _ => nofun, adopted := fun hpk' => ?_ }
      rw [hpk] at hpk'
      cases hpk'
  · cases h
    exact { Keeping.refl p with decisions := fun _ => rfl }
  · cases h
    refine { Keeping.refl p with identities := fun _ => rfl, unknown := fun hnil => ?_ }
    exact unknown_eq_nil.2 (unknown_eq_nil.1 hnil)
  · cases h
    exact { Keeping.refl p with identities := fun _ => rfl, unknown := fun _ => unknown_backfill }
  · cases h
    exact keeping_addColumns p
  · cases h
    exact { Keeping.refl p with unknown := unknown_map fun m => own_email _ m }
  · rcases adopt_ok h with ⟨rfl, -⟩ | rfl
    · exact .refl _
    · exact { Keeping.refl p with widened := fun _ => nofun, adopted := fun _ => rfl }
  · rw [createEmailTenantIndex_ok h]
    exact { Keeping.refl p with emailTenantIndex := fun _ => rfl }
  · rw [createDefaultIndex_ok h]
    exact { Keeping.refl p with defaultIndex := fun _ => rfl }
  · exact keeping_foldLinks h

/-- The statements that come after the identities have been given to the rows. -/
theorem adds_of_mem {f : Statement (Plane E T) (Abort E) Nat} (hf : f ∈ statements.drop 6)
    (h : f now p = .ok q) :
    q.identities = p.identities ∧
      ∃ added, q.userTenantMap = p.userTenantMap ++ added ∧
        ∀ row ∈ added, row.identityId ≠ none := by
  unfold statements at hf
  simp only [List.drop_succ_cons, List.drop_zero, List.mem_cons, List.not_mem_nil, or_false] at hf
  have hnone : p.userTenantMap = p.userTenantMap ++ [] := (List.append_nil _).symm
  rcases hf with rfl | rfl | rfl | rfl
  · rcases adopt_ok h with ⟨rfl, -⟩ | rfl
    · exact ⟨rfl, [], hnone, nofun⟩
    · exact ⟨rfl, [], hnone, nofun⟩
  · rw [createEmailTenantIndex_ok h]
    exact ⟨rfl, [], hnone, nofun⟩
  · rw [createDefaultIndex_ok h]
    exact ⟨rfl, [], hnone, nofun⟩
  · obtain ⟨added, rfl, hadded, -⟩ := foldLinks_ok h
    exact ⟨rfl, added, rfl, fun row hrow => (of_mem_linked (hadded row hrow)).2⟩

end Keeping

/-! ## The start -/

omit [DecidableEq T] in
theorem own_own (ids : List (IdentityRow E)) (m : MapRow E T) :
    (m.own ids).own ids = m.own ids := by
  by_cases h : m.identityId = none ∧ identityOf ids m.email ≠ none
  · have hown : m.own ids = { m with
        identityId := identityOf ids m.email, roles :=
          if m.roles = [] then [m.role] else m.roles } := if_pos h
    rw [hown]
    exact if_neg fun hnot => h.2 hnot.1
  · have hown : m.own ids = m := if_neg h
    rw [hown, hown]

theorem repeatable_of_mem {f : Statement (Plane E T) (Abort E) Nat} (hf : f ∈ statements) :
    Repeatable f := by
  unfold statements at hf
  simp only [List.mem_cons, List.not_mem_nil, or_false] at hf
  rcases hf with rfl | rfl | rfl | rfl | rfl | rfl | rfl | rfl | rfl | rfl
  · intro now p q h
    refine settled_widen.2 ?_
    rcases widen_ok h with ⟨rfl, hpk⟩ | ⟨rfl, -⟩
    · exact hpk
    · exact nofun
  · intro now p q h
    cases h
    exact settled_createDecisions.2 rfl
  · intro now p q h
    cases h
    exact settled_createIdentities.2 rfl
  · intro now p q h
    cases h
    exact settled_backfill.2 ⟨rfl, unknown_backfill⟩
  · intro now p q h
    cases h
    refine settled_addColumns.2 ?_
    unfold Plane.addColumns
    by_cases hl : p.lifecycle = true
    · rwa [if_pos hl]
    · rw [if_neg hl]
  · intro now p q h
    cases h
    refine settled_own.2 fun m' hm' => ?_
    obtain ⟨m, hm, rfl⟩ := List.mem_map.1 hm'
    exact own_own _ m
  · intro now p q h
    refine settled_adopt.2 ?_
    rcases adopt_ok h with ⟨rfl, hleft⟩ | rfl
    · exact hleft
    · exact .inr rfl
  · intro now p q h
    rw [createEmailTenantIndex_ok h]
    exact settled_createEmailTenantIndex.2 rfl
  · intro now p q h
    rw [createDefaultIndex_ok h]
    exact settled_createDefaultIndex.2 rfl
  · exact repeatable_foldLinks

/-- A row that has been given its identity keeps it under the statements that follow. -/
theorem keeps_own {g : Statement (Plane E T) (Abort E) Nat} (hg : g ∈ statements.drop 6) :
    Keeps g fun (_ : Nat) (p : Plane E T) => (.ok p.own : Except (Abort E) (Plane E T)) := by
  intro now p q hsettled h
  obtain ⟨hids, added, hrows, hadded⟩ := adds_of_mem hg h
  refine settled_own.2 fun m hm => ?_
  rw [hids]
  rw [hrows] at hm
  rcases List.mem_append.1 hm with hm | hm
  · exact settled_own.1 hsettled m hm
  · exact if_neg fun hboth => hadded m hm hboth.1

theorem keeps_adopt {g : Statement (Plane E T) (Abort E) Nat} (hg : g ∈ statements.drop 7) :
    Keeps g fun (_ : Nat) (p : Plane E T) => adopt p := by
  intro now p q hsettled h
  have hmem : g ∈ statements.drop 6 := List.mem_of_mem_drop (i := 1) hg
  obtain ⟨-, added, hrows, -⟩ := adds_of_mem hmem h
  refine settled_adopt.2 ?_
  rcases settled_adopt.1 hsettled with hun | hpk
  · obtain ⟨m, hm⟩ := List.exists_mem_of_ne_nil _ hun
    obtain ⟨hm, hnone⟩ := List.mem_filter.1 hm
    refine .inl (List.ne_nil_of_mem (a := m) (List.mem_filter.2 ⟨?_, hnone⟩))
    rw [hrows]
    exact List.mem_append_left _ hm
  · exact .inr ((keeping_of_mem (List.mem_of_mem_drop hg) h).adopted hpk)

theorem resumable : Resumable (statements : List (Statement (Plane E T) (Abort E) Nat)) := by
  have hkeeping : ∀ {k : Nat} {g : Statement (Plane E T) (Abort E) Nat}, g ∈ statements.drop k →
      ∀ {t p q}, g t p = .ok q → Keeping p q :=
        fun hg _ _ _ h => keeping_of_mem (List.mem_of_mem_drop hg) h
  refine ⟨fun f hf => repeatable_of_mem hf, ?_⟩
  unfold statements
  refine .cons (fun g hg t p q hs h => settled_widen.2
    ((hkeeping (k := 1) hg h).widened (settled_widen.1 hs))) ?_
  refine .cons (fun g hg t p q hs h =>
    settled_createDecisions.2 ((hkeeping (k := 2) hg h).decisions (settled_createDecisions.1 hs)))
      ?_
  refine .cons (fun g hg t p q hs h =>
    settled_createIdentities.2
      ((hkeeping (k := 3) hg h).identities (settled_createIdentities.1 hs))) ?_
  refine .cons (fun g hg t p q hs h => settled_backfill.2 ?_) ?_
  · have hkeep := hkeeping (k := 4) hg h
    obtain ⟨hsome, hnil⟩ := settled_backfill.1 hs
    exact ⟨hkeep.identities hsome, hkeep.unknown hnil⟩
  refine .cons (fun g hg t p q hs h =>
    settled_addColumns.2 ((hkeeping (k := 5) hg h).lifecycle (settled_addColumns.1 hs))) ?_
  refine .cons (fun g hg => keeps_own hg) ?_
  refine .cons (fun g hg => keeps_adopt hg) ?_
  refine .cons (fun g hg t p q hs h => settled_createEmailTenantIndex.2
    ((hkeeping (k := 8) hg h).emailTenantIndex (settled_createEmailTenantIndex.1 hs))) ?_
  refine .cons (fun g hg t p q hs h => settled_createDefaultIndex.2
    ((hkeeping (k := 9) hg h).defaultIndex (settled_createDefaultIndex.1 hs))) ?_
  exact .cons (fun g hg => nomatch hg) .nil

theorem timeless : ∀ f ∈ (statements (E := E) (T := T)).dropLast, ∀ t t', f t = f t' := by
  intro f hf t t'
  unfold statements at hf
  simp only [List.dropLast, List.mem_cons, List.not_mem_nil, or_false] at hf
  rcases hf with rfl | rfl | rfl | rfl | rfl | rfl | rfl | rfl | rfl <;> rfl

/-! ## The seed -/

section Seed

variable {p q : Plane E T} {sa : E} {t now : Nat}

omit [DecidableEq T] in
theorem seedSuperAdmin_of_mem (h : sa ∈ p.superAdmins) : p.seedSuperAdmin sa = p := if_pos h

omit [DecidableEq T] in
theorem seedSuperAdmin_eq (p : Plane E T) (sa : E) : ∃ superAdmins, sa ∈ superAdmins ∧
    p.seedSuperAdmin sa = { p with superAdmins } := by
  by_cases h : sa ∈ p.superAdmins
  · exact ⟨p.superAdmins, h, if_pos h⟩
  · exact ⟨p.superAdmins ++ [sa], List.mem_append_right _ List.mem_cons_self, if_neg h⟩

omit [DecidableEq T] in
/-- A known email keeps its identity where others are drawn. -/
theorem identityOf_ids {e : E} (h : ∃ i ∈ p.identities.getD [], i.email = e) :
    identityOf p.ids e = identityOf (p.identities.getD []) e := by
  obtain ⟨i, hi, he⟩ := h
  have hfound : ((p.identities.getD []).find? fun i => i.email = e).isSome := by
    rw [List.find?_isSome]
    exact ⟨i, hi, decide_eq_true he⟩
  unfold identityOf
  rw [ids_eq, List.find?_append, Option.or_of_isSome hfound]

/-- What a start has made of the tables, and a later one has drawn of the super admins. -/
theorem settled_drawn (h : runAll statements t p = .ok q) {superAdmins : List E} :
    ∀ f ∈ statements, Settled f (Plane.backfill { q with superAdmins }) := by
  have hall := resumable.settled h
  unfold statements at hall ⊢
  simp only [List.forall_mem_cons] at hall ⊢
  obtain ⟨hwiden, hdecisions, hidentities, hbackfill, hcolumns, hown, hadopt, hindex, hdefault,
      hfold, -⟩ := hall
  obtain ⟨-, hnil⟩ := settled_backfill.1 hbackfill
  have hknown : ∀ e, (∃ m ∈ q.userTenantMap, m.email = e) ∨ (∃ x ∈ q.parents, x.email = e) →
      ∃ i ∈ q.identities.getD [], i.email = e := fun e he =>
    unknown_eq_nil.1 hnil e (mem_emails.2 (he.imp_right .inl))
  rw [settled_widen] at hwiden
  rw [settled_createDecisions] at hdecisions
  rw [settled_addColumns] at hcolumns
  rw [settled_adopt] at hadopt
  rw [settled_createEmailTenantIndex] at hindex
  rw [settled_createDefaultIndex] at hdefault
  refine ⟨settled_widen.2 hwiden, settled_createDecisions.2 hdecisions,
    settled_createIdentities.2 rfl, settled_backfill.2 ⟨rfl, unknown_backfill⟩,
      settled_addColumns.2 hcolumns, ?_, settled_adopt.2 hadopt,
    settled_createEmailTenantIndex.2 hindex, settled_createDefaultIndex.2 hdefault, ?_, nofun⟩
  · refine settled_own.2 fun m hm => if_neg fun hboth => ?_
    -- a row without an identity would have been given one
    have hsame := settled_own.1 hown m hm
    obtain ⟨i, hi, he⟩ := hknown m.email (.inl ⟨m, hm, rfl⟩)
    have hsome : identityOf (q.identities.getD []) m.email ≠ none :=
      fun hnone => identityOf_eq_none.1 hnone i hi he
    unfold MapRow.own at hsame
    rw [if_pos ⟨hboth.1, hsome⟩] at hsame
    exact hsome ((congrArg MapRow.identityId hsame).trans hboth.1)
  · intro now
    obtain ⟨-, -, -, hpresent⟩ := foldLinks_ok (hfold now)
    have hlinked : Plane.linked (Plane.backfill { q with superAdmins }) now = q.linked now := by
      refine List.filterMap_congr fun l _ => ?_
      show ((q.parents.find? fun x => x.id = l.parentId).bind fun x =>
        (identityOf (Plane.ids { q with superAdmins }) x.email).map _) = _
      cases hx : q.parents.find? fun x => x.id = l.parentId with
      | none => rfl
      | some x =>
        have hid := identityOf_ids (p := { q with superAdmins })
          (hknown x.email (.inr ⟨x, List.mem_of_find?_eq_some hx, rfl⟩))
        rw [Option.bind_some, Option.bind_some, hid]
    have hrows : (q.linked now).foldlM insertMembership q.userTenantMap = .ok q.userTenantMap :=
      insertMemberships_present hpresent
    show Plane.foldLinks _ now = _
    unfold Plane.foldLinks
    rw [hlinked]
    show (List.foldlM insertMembership q.userTenantMap (q.linked now)).bind _ = _
    rw [hrows]
    rfl

/-- The statements before the identities are drawn. -/
theorem settled_seeded (h : runAll statements t p = .ok q) {superAdmins : List E} :
    ∀ f ∈ statements.take 3, Settled f { q with superAdmins } := by
  have hall := resumable.settled h
  unfold statements at hall ⊢
  simp only [List.take, List.forall_mem_cons] at hall ⊢
  obtain ⟨hwiden, hdecisions, hidentities, -⟩ := hall
  rw [settled_widen] at hwiden
  rw [settled_createDecisions] at hdecisions
  rw [settled_createIdentities] at hidentities
  exact ⟨settled_widen.2 hwiden, settled_createDecisions.2 hdecisions,
    settled_createIdentities.2 hidentities, nofun⟩

/-- After a start that has come to its end another has the identity of the super admin
to draw, and no more. -/
theorem take_seeded (h : runAll statements t p = .ok q) (sa : E) (i now : Nat) :
    runAll ((startUp sa).take i) now (q.seedSuperAdmin sa) =
      .ok (if i ≤ 3 then q.seedSuperAdmin sa else (q.seedSuperAdmin sa).backfill) := by
  obtain ⟨superAdmins, hmem, hseed⟩ := seedSuperAdmin_eq q sa
  rw [hseed]
  have hdrawn : ∀ f ∈ startUp sa, Settled f (Plane.backfill { q with superAdmins }) := by
    intro f hf
    rcases List.mem_append.1 hf with hf | hf
    · exact settled_drawn h f hf
    · rw [List.mem_singleton.1 hf]
      exact fun _ => congrArg Except.ok (seedSuperAdmin_of_mem hmem)
  by_cases hi : i ≤ 3
  · rw [if_pos hi]
    refine runAll_settled (fun f hf => settled_seeded h f ?_) now
    have hmem : f ∈ (startUp sa).take 3 := (List.take_prefix_take_left hi).subset hf
    exact hmem
  · obtain ⟨j, rfl⟩ : ∃ j, i = 4 + j := ⟨i - 4, by omega⟩
    rw [if_neg hi, List.take_add, runAll_append]
    have hfirst : runAll ((startUp sa).take 4) now { q with superAdmins } =
        .ok (Plane.backfill { q with superAdmins }) := by
      have hfour : (startUp sa : List (Statement (Plane E T) (Abort E) Nat)).take 4 =
          statements.take 3 ++ [fun _ p => .ok p.backfill] := rfl
      rw [hfour, runAll_append, runAll_settled (settled_seeded h)]
      rfl
    rw [hfirst]
    exact runAll_settled (fun f hf => hdrawn f (List.mem_of_mem_drop (List.mem_of_mem_take hf))) now

/-- Once that identity has been drawn, nothing is left to do. -/
theorem take_drawn (h : runAll statements t p = .ok q) (sa : E) (i now : Nat) :
    runAll ((startUp sa).take i) now (q.seedSuperAdmin sa).backfill =
      .ok (q.seedSuperAdmin sa).backfill := by
  obtain ⟨superAdmins, hmem, hseed⟩ := seedSuperAdmin_eq q sa
  rw [hseed]
  refine runAll_settled (fun f hf => ?_) now
  rcases List.mem_append.1 (List.mem_of_mem_take hf) with hf | hf
  · exact settled_drawn h f hf
  · rw [List.mem_singleton.1 hf]
    exact fun _ => congrArg Except.ok (seedSuperAdmin_of_mem hmem)

end Seed

/-! ## Any number of starts -/

section Starts

variable {p q r : Plane E T} {sa : E}

/-- What a start leaves that is cut short after `k` statements, or that fails before. -/
def startTables (sa : E) (p : Plane E T) (k now : Nat) : Plane E T :=
  reached ((startUp sa).take k) now p

/-- What starts at these times come to: they have all ended before the seed, or
one has come past it. -/
inductive Begun (p : Plane E T) (sa : E) (times : List Nat) : Plane E T → Prop where
  | short (cut : List (Nat × Nat)) (hcut : ∀ c ∈ cut, c.2 ∈ times) :
      Begun p sa times (cut.foldl (fun p c => reached (statements.take c.1) c.2 p) p)
  | seeded {t : Nat} {q : Plane E T} (ht : t ∈ times) (h : runAll statements t p = .ok q) :
      Begun p sa times (q.seedSuperAdmin sa)
  | drawn {t : Nat} {q : Plane E T} (ht : t ∈ times) (h : runAll statements t p = .ok q) :
      Begun p sa times (q.seedSuperAdmin sa).backfill

theorem take_startUp {i : Nat}
    (h : i ≤ (statements : List (Statement (Plane E T) (Abort E) Nat)).length) :
    (startUp sa : List (Statement (Plane E T) (Abort E) Nat)).take i = statements.take i :=
  List.take_append_of_le_length h

/-- The statements after starts that have ended before the seed. -/
theorem runAll_short (p : Plane E T) (cut : List (Nat × Nat)) (now : Nat) :
    ∃ t ∈ now :: cut.map Prod.snd,
    runAll statements now (cut.foldl (fun p c => reached (statements.take c.1) c.2 p) p) =
      runAll statements t p :=
  rerun_any (l := statements.dropLast) resumable timeless cut now p

theorem Begun.start {times : List Nat} (h : Begun p sa times r) (k : Nat) {now : Nat}
    (hnow : now ∈ times) :
    Begun p sa times (startTables sa r k now) := by
  obtain ⟨j, hj⟩ := runAll_reached ((startUp sa).take k) now r
  rw [List.take_take] at hj
  unfold startTables
  generalize reached ((startUp sa).take k) now r = r' at hj ⊢
  cases h with
  | short cut hcut =>
    by_cases hi : min j k ≤ (statements : List (Statement (Plane E T) (Abort E) Nat)).length
    · rw [take_startUp hi] at hj
      rw [← reached_of_ok hj]
      have hmore : ∀ c ∈ cut ++ [(min j k, now)], c.2 ∈ times := by
        intro c hc
        rcases List.mem_append.1 hc with hc | hc
        · exact hcut c hc
        · rw [List.mem_singleton.1 hc]
          exact hnow
      have hbegun : Begun p sa times _ := .short (cut ++ [(min j k, now)]) hmore
      rwa [List.foldl_append] at hbegun
    · rw [List.take_of_length_le
        (by rw [startUp, List.length_append, List.length_singleton]; omega), startUp,
        runAll_append] at hj
      obtain ⟨t, ht, hrun⟩ := runAll_short p cut now
      rw [hrun] at hj
      cases hq : runAll statements t p with
      | error e =>
        rw [hq] at hj
        cases hj
      | ok q =>
        rw [hq] at hj
        rw [← Except.ok.inj hj]
        refine .seeded ?_ hq
        rcases List.mem_cons.1 ht with rfl | ht
        · exact hnow
        · obtain ⟨c, hc, rfl⟩ := List.mem_map.1 ht
          exact hcut c hc
  | @seeded t q ht hq =>
    rw [take_seeded hq] at hj
    rw [← Except.ok.inj hj]
    by_cases hi : min j k ≤ 3
    · rw [if_pos hi]
      exact .seeded ht hq
    · rw [if_neg hi]
      exact .drawn ht hq
  | @drawn t q ht hq =>
    rw [take_drawn hq] at hj
    rw [← Except.ok.inj hj]
    exact .drawn ht hq

theorem begun_starts (p : Plane E T) (sa : E) (cut : List (Nat × Nat)) (now : Nat) :
    Begun p sa (now :: cut.map Prod.snd) (cut.foldl (fun p c => startTables sa p c.1 c.2) p) := by
  have hrun : ∀ (l : List (Nat × Nat)), l ⊆ cut → ∀ r, Begun p sa (now :: cut.map Prod.snd) r →
      Begun p sa (now :: cut.map Prod.snd) (l.foldl (fun p c => startTables sa p c.1 c.2) r) := by
    intro l
    induction l with
    | nil => exact fun _ r h => h
    | cons c l ih =>
      intro hsub r h
      rw [List.cons_subset] at hsub
      exact ih hsub.2 _ (h.start c.1 (List.mem_cons_of_mem _ (List.mem_map.2 ⟨c, hsub.1, rfl⟩)))
  exact hrun cut (List.Subset.refl _) p (.short [] nofun)

theorem superAdmins_of_mem {f : Statement (Plane E T) (Abort E) Nat}
    (hf : f ∈ statements) {now : Nat} (h : f now p = .ok q) : q.superAdmins = p.superAdmins := by
  unfold statements at hf
  simp only [List.mem_cons, List.not_mem_nil, or_false] at hf
  rcases hf with rfl | rfl | rfl | rfl | rfl | rfl | rfl | rfl | rfl | rfl
  · rcases widen_ok h with ⟨rfl, -⟩ | ⟨rfl, -⟩ <;> rfl
  · cases h
    rfl
  · cases h
    rfl
  · cases h
    rfl
  · cases h
    unfold Plane.addColumns
    by_cases hl : p.lifecycle = true
    · rw [if_pos hl]
    · rw [if_neg hl]
  · cases h
    rfl
  · rcases adopt_ok h with ⟨rfl, -⟩ | rfl <;> rfl
  · rw [createEmailTenantIndex_ok h]
  · rw [createDefaultIndex_ok h]
  · obtain ⟨added, rfl, -⟩ := foldLinks_ok h
    rfl

theorem superAdmins_of_ok {l : List (Statement (Plane E T) (Abort E) Nat)}
    (hl : l ⊆ statements) {now : Nat}
    (h : runAll l now p = .ok q) : q.superAdmins = p.superAdmins := by
  refine runAll_preserves (R := fun a b : Plane E T => b.superAdmins = a.superAdmins)
    (fun _ => rfl) ?_ ?_ h
  · exact fun h h' => h'.trans h
  · exact fun f hf s s' h => superAdmins_of_mem (hl hf) h

theorem superAdmins_short (p : Plane E T) (cut : List (Nat × Nat)) :
    (cut.foldl (fun p c => reached (statements.take c.1) c.2 p) p).superAdmins = p.superAdmins := by
  induction cut generalizing p with
  | nil => rfl
  | cons c cut ih =>
    obtain ⟨j, hj⟩ := runAll_reached (statements.take c.1) c.2 p
    rw [List.foldl_cons, ih]
    exact superAdmins_of_ok (fun f hf => List.mem_of_mem_take (List.mem_of_mem_take hf)) hj

theorem initializeTables_bind (p : Plane E T) (sa : E) (now : Nat) :
    initializeTables p sa now = (runAll statements now p).bind fun q =>
      .ok (q.seedSuperAdmin sa) := by
  unfold initializeTables startUp
  rw [runAll_append]
  rfl

/-- After any number of starts that were **cut short**, at any statement each, a start does to the
tables what a single one would have done to them at first, at the time of one of the starts. Where
one of them has come to its end, and so has seeded the super admin, the next one draws the identity
of that super admin besides. -/
theorem restart (p : Plane E T) (sa : E) (cut : List (Nat × Nat)) (now : Nat) :
    ∃ t ∈ now :: cut.map Prod.snd,
      initializeTables (cut.foldl (fun p c => startTables sa p c.1 c.2) p) sa now =
        if sa ∈ (cut.foldl (fun p c => startTables sa p c.1 c.2) p).superAdmins
        then (initializeTables p sa t).map Plane.backfill else initializeTables p sa t := by
  have hseeded : ∀ q : Plane E T, sa ∈ (q.seedSuperAdmin sa).superAdmins := by
    intro q
    obtain ⟨superAdmins, hmem, hseed⟩ := seedSuperAdmin_eq q sa
    rwa [hseed]
  have hbegun := begun_starts p sa cut now
  generalize cut.foldl (fun p c => startTables sa p c.1 c.2) p = r at hbegun ⊢
  cases hbegun with
  | short cut' hcut =>
    obtain ⟨t, ht, hrun⟩ := runAll_short p cut' now
    refine ⟨t, ?_, ?_⟩
    · rcases List.mem_cons.1 ht with rfl | ht
      · exact List.mem_cons_self
      · obtain ⟨c, hc, rfl⟩ := List.mem_map.1 ht
        exact hcut c hc
    rw [superAdmins_short, initializeTables_bind, initializeTables_bind, hrun]
    by_cases hsa : sa ∈ p.superAdmins
    · rw [if_pos hsa]
      cases hq : runAll statements t p with
      | error e => rfl
      | ok q =>
        have hmem : sa ∈ q.superAdmins := by rwa [superAdmins_of_ok (List.Subset.refl _) hq]
        have hsettled : Except.ok q.backfill = (Except.ok q : Except (Abort E) (Plane E T)) :=
          resumable.settled hq (fun _ p => .ok p.backfill) (by simp [statements]) 0
        show Except.ok (q.seedSuperAdmin sa) = Except.ok (q.seedSuperAdmin sa).backfill
        rw [seedSuperAdmin_of_mem hmem, hsettled]
    · rw [if_neg hsa]
  | @seeded t q ht hq =>
    refine ⟨t, ht, ?_⟩
    have hall :=
      take_seeded hq sa (startUp sa : List (Statement (Plane E T) (Abort E) Nat)).length now
    rw [List.take_length, if_neg (by simp [startUp, statements])] at hall
    rw [if_pos (hseeded q), initializeTables_bind p, hq]
    exact hall
  | @drawn t q ht hq =>
    refine ⟨t, ht, ?_⟩
    have hall :=
      take_drawn hq sa (startUp sa : List (Statement (Plane E T) (Abort E) Nat)).length now
    rw [List.take_length] at hall
    have hmem : sa ∈ (q.seedSuperAdmin sa).backfill.superAdmins := hseeded q
    rw [if_pos hmem, initializeTables_bind p, hq]
    exact hall

end Starts

end Sams.Identities
