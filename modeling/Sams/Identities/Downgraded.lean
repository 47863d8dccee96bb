import Mathlib.Data.String.Basic
import Sams.Identities.Upgraded

/-!
# Back to emails

The way back drops the identities, and the columns that hold the state of a membership; the old key
then leaves room for one row of an email, the newest.

**`downgraded`**: it always comes to its end, each email keeps exactly one row, and the
tables can be upgraded again. **`round_trip`**: an upgrade that is taken back leaves the
row of an email as it was, unless that email is of a parent with a link to another school:
that link has become a newer row.
-/

namespace Sams.Identities

open Rows

variable {E T : Type} [DecidableEq E] [LinearOrder T]

/-! ## The newest rows -/

section Newest

variable {rows : List (MapRow E T)}

omit [DecidableEq E] in
theorem not_newer_self (m : MapRow E T) : ¬m.Newer m := by
  rintro (h | ⟨-, h⟩)
  · exact absurd h (lt_irrefl _)
  · exact absurd h (lt_irrefl _)

omit [DecidableEq E] in
theorem Newer.trans {a b c : MapRow E T} (hab : a.Newer b) (hbc : b.Newer c) : a.Newer c := by
  rcases hab with hab | ⟨hab, hab'⟩ <;> rcases hbc with hbc | ⟨hbc, hbc'⟩
  · exact .inl (hbc.trans hab)
  · exact .inl (hbc ▸ hab)
  · exact .inl (hab ▸ hbc)
  · exact .inr ⟨hbc.trans hab, hbc'.trans hab'⟩

omit [DecidableEq E] in
/-- Two rows of which neither is newer are of one time and one school. -/
theorem eq_of_not_newer {a b : MapRow E T} (hab : ¬a.Newer b) (hba : ¬b.Newer a) :
    a.updatedAt = b.updatedAt ∧ a.tenantId = b.tenantId := by
  have hle : ¬b.updatedAt < a.updatedAt := fun h => hab (.inl h)
  have hge : ¬a.updatedAt < b.updatedAt := fun h => hba (.inl h)
  have htime : a.updatedAt = b.updatedAt := by omega
  refine ⟨htime, ?_⟩
  rcases lt_trichotomy a.tenantId b.tenantId with h | h | h
  · exact absurd (.inr ⟨htime, h⟩) hba
  · exact h
  · exact absurd (.inr ⟨htime.symm, h⟩) hab

theorem mem_newestOf {u : MapRow E T} : u ∈ newestOf rows ↔
    u ∈ rows ∧ ∀ keep ∈ rows, keep.email = u.email → ¬keep.Newer u := by
  unfold newestOf
  rw [List.mem_filter, decide_eq_true_eq]

/-- An email has one newest row. -/
theorem keyed_newestOf (h : Keyed (fun m => (m.email, m.tenantId)) rows) :
    Keyed MapRow.email (newestOf rows) := by
  refine List.Nodup.map_on (fun x hx y hy heq => ?_) ((List.Nodup.of_map _ h).filter _)
  obtain ⟨hx, hxnew⟩ := mem_newestOf.1 hx
  obtain ⟨hy, hynew⟩ := mem_newestOf.1 hy
  have hsame := eq_of_not_newer (hynew x hx heq) (hxnew y hy heq.symm)
  exact h.eq_of_key_eq hx hy (Prod.ext heq hsame.2)

/-- Among rows with one of an email, one has no newer of that email. -/
theorem exists_newest {e : E} (h : ∃ m ∈ rows, m.email = e) : ∃ m ∈ newestOf rows, m.email = e := by
  have hmax : ∀ l : List (MapRow E T), (∃ m ∈ l, m.email = e) →
      ∃ m ∈ l, m.email = e ∧ ∀ keep ∈ l, keep.email = e → ¬keep.Newer m := by
    intro l
    induction l with
    | nil => exact fun ⟨_, hm, _⟩ => nomatch hm
    | cons a l ih =>
      intro _
      by_cases hl : ∃ m ∈ l, m.email = e
      · obtain ⟨m, hm, he, hnew⟩ := ih hl
        by_cases ha : a.email = e ∧ a.Newer m
        · refine ⟨a, List.mem_cons_self, ha.1, fun keep hkeep hkeep' hnewer => ?_⟩
          rcases List.mem_cons.1 hkeep with rfl | hkeep
          · exact not_newer_self keep hnewer
          · exact hnew keep hkeep hkeep' (Newer.trans hnewer ha.2)
        · refine ⟨m, List.mem_cons_of_mem _ hm, he, fun keep hkeep hkeep' hnewer => ?_⟩
          rcases List.mem_cons.1 hkeep with rfl | hkeep
          · exact ha ⟨hkeep', hnewer⟩
          · exact hnew keep hkeep hkeep' hnewer
      · obtain ⟨m, hm, he⟩ := ‹∃ m ∈ a :: l, m.email = e›
        rcases List.mem_cons.1 hm with rfl | hm
        · refine ⟨m, List.mem_cons_self, he, fun keep hkeep hkeep' hnewer => ?_⟩
          rcases List.mem_cons.1 hkeep with rfl | hkeep
          · exact not_newer_self keep hnewer
          · exact hl ⟨keep, hkeep, hkeep'⟩
        · exact absurd ⟨m, hm, he⟩ hl
  obtain ⟨m, hm, he, hnew⟩ := hmax rows h
  exact ⟨m, mem_newestOf.2 ⟨hm, fun keep hkeep hsame => hnew keep hkeep (hsame.trans he)⟩, he⟩

end Newest

/-! ## The way back -/

section Back

variable {p q : Plane E T} {now : Nat}

/-- The tables of before, with the newest row of each email. -/
def Plane.reverted (q : Plane E T) : Plane E T :=
  { q with
    primaryKey := .email
    lifecycle := false
    emailTenantIndex := false
    defaultIndex := false
    identityMergeDecisions := none
    identities := none
    userTenantMap := newestOf (q.userTenantMap.map MapRow.plain) }

omit [DecidableEq E] [LinearOrder T] in
theorem keyed_plain (h : Current q) :
    Keyed (fun m => (m.email, m.tenantId)) (q.userTenantMap.map MapRow.plain) :=
  (h.map_email h.emailTenantIndex).map fun _ => rfl

theorem narrow_eq (hpk : p.primaryKey ≠ .email)
    (h : Keyed MapRow.email (newestOf p.userTenantMap)) :
    narrow p = .ok { p with userTenantMap := newestOf p.userTenantMap, primaryKey := .email } := by
  unfold narrow
  exact (if_pos hpk).trans (if_pos h)

theorem downgrade_eq (h : Current q) : downgrade q = .ok q.reverted := by
  have hholds : PrimaryKey.emailTenant.Holds q.userTenantMap := h.map_email h.emailTenantIndex
  have hdemote : demote q = .ok { q with
      primaryKey := .emailTenant, defaultIndex := false, emailTenantIndex :=
        false, lifecycle := false
      userTenantMap := q.userTenantMap.map MapRow.plain } := by
    unfold demote
    rw [if_pos h.byIdentity, rekey_eq hholds]
    rfl
  unfold downgrade
  rw [hdemote]
  exact narrow_eq (p := forget { q with
    primaryKey := .emailTenant, defaultIndex := false, emailTenantIndex := false, lifecycle := false
    userTenantMap := q.userTenantMap.map MapRow.plain }) nofun (keyed_newestOf (keyed_plain h))

theorem legacy_reverted (h : Current q) : Legacy q.reverted where
  parent_key := h.parent_key
  parent_email := h.parent_email
  link_key := h.link_key
  link_parent := h.link_parent
  identity_key := List.nodup_nil
  identity_email := List.nodup_nil
  drawn := nofun
  map_key := keyed_newestOf (keyed_plain h)
  map_identity := by
    intro m hm k hk
    obtain ⟨m', _, rfl⟩ := List.mem_map.1 (mem_newestOf.1 hm).1
    cases hk
  map_email := nofun
  map_default := nofun
  noIdentities := rfl
  noLifecycle := rfl
  byEmail := nofun
  plain := by
    intro m hm
    obtain ⟨m', _, rfl⟩ := List.mem_map.1 (mem_newestOf.1 hm).1
    rfl

/-- Each email of the memberships keeps **its newest row**, whatever became of the memberships
since. -/
theorem downgraded (h : Current q) : ∃ r, downgrade q = .ok r ∧ Legacy r ∧ r.primaryKey = .email ∧
    (r.parents = q.parents ∧ r.superAdmins = q.superAdmins ∧
      r.parentTenantLinks = q.parentTenantLinks) ∧
    (∀ e, (∃ m ∈ r.userTenantMap, m.email = e) ↔ ∃ m ∈ q.userTenantMap, m.email = e) ∧
    ∀ m ∈ r.userTenantMap, ∃ x ∈ q.userTenantMap, x.plain = m ∧
      ∀ y ∈ q.userTenantMap, y.email = x.email → y ≠ x → x.Newer y := by
  refine ⟨q.reverted, downgrade_eq h, legacy_reverted h, rfl, ⟨rfl, rfl, rfl⟩,
    fun e => ⟨?_, ?_⟩, ?_⟩
  · rintro ⟨m, hm, he⟩
    obtain ⟨x, hx, rfl⟩ := List.mem_map.1 (mem_newestOf.1 hm).1
    exact ⟨x, hx, he⟩
  · rintro ⟨x, hx, he⟩
    exact exists_newest ⟨x.plain, List.mem_map_of_mem hx, he⟩
  · intro m hm
    obtain ⟨hmem, hnew⟩ := mem_newestOf.1 hm
    obtain ⟨x, hx, rfl⟩ := List.mem_map.1 hmem
    refine ⟨x, hx, rfl, fun y hy hemail hne => ?_⟩
    have hnot : ¬y.Newer x := hnew y.plain (List.mem_map_of_mem hy) hemail
    by_contra hnot'
    obtain ⟨-, htenant⟩ := eq_of_not_newer hnot hnot'
    exact hne ((h.map_email h.emailTenantIndex).eq_of_key_eq hy hx (Prod.ext hemail htenant))

theorem downgraded_oldPlane : ∃ r, downgrade (oldPlane.owned.withLinks 7) = .ok r ∧ Legacy r ∧
    r.primaryKey = .email ∧
    (r.parents = oldPlane.parents ∧ r.superAdmins = oldPlane.superAdmins ∧
      r.parentTenantLinks = oldPlane.parentTenantLinks) ∧
    (∀ e, (∃ m ∈ r.userTenantMap, m.email = e) ↔
      ∃ m ∈ (oldPlane.owned.withLinks 7).userTenantMap, m.email = e) ∧
    ∀ m ∈ r.userTenantMap, ∃ x ∈ (oldPlane.owned.withLinks 7).userTenantMap, x.plain = m ∧
      ∀ y ∈ (oldPlane.owned.withLinks 7).userTenantMap, y.email = x.email → y ≠ x → x.Newer y :=
  downgraded (promoted legacy_oldPlane 7).toCurrent

end Back

/-! ## There and back -/

section RoundTrip

variable {p : Plane E T} {now : Nat}

omit [LinearOrder T] in
theorem plain_own (h : Legacy p) {m : MapRow E T} (hm : m ∈ p.userTenantMap) :
    (m.own p.ids).plain = m := by
  rw [(own_eq h hm).1]
  exact h.plain m hm

omit [LinearOrder T] in
theorem plain_owned (h : Legacy p) : p.owned.userTenantMap.map MapRow.plain = p.userTenantMap := by
  show (p.userTenantMap.map (MapRow.own p.ids)).map MapRow.plain = p.userTenantMap
  rw [List.map_map]
  have hsame : ∀ m ∈ p.userTenantMap, (MapRow.plain ∘ MapRow.own p.ids) m = id m :=
    fun m hm => plain_own h hm
  rw [List.map_inj_left.2 hsame, List.map_id]

/-- The link has a row. -/
def Plane.Mirrored (p : Plane E T) (l : LinkRow T) : Prop :=
  ∀ x ∈ p.parents, x.id = l.parentId → ∃ m ∈ p.userTenantMap, m.email = x.email ∧
    m.tenantId = l.tenantId

/-- The row of an email stays **as it was**, where its email has no link to another school. -/
theorem round_trip (h : Legacy p) (hkey : p.primaryKey = .email) (hreviewed : p.undecided = [])
    (hold : ∀ m ∈ p.userTenantMap, m.updatedAt < now) :
    ∃ r : Plane E T, (upgrade p now >>= fun q => downgrade q) = .ok r ∧
    (r.parents = p.parents ∧ r.superAdmins = p.superAdmins ∧
      r.parentTenantLinks = p.parentTenantLinks) ∧
    (∀ m ∈ p.userTenantMap, m ∈ r.userTenantMap ↔
      ∀ l ∈ p.parentTenantLinks, ∀ x ∈ p.parents, x.id = l.parentId →
      x.email = m.email → l.tenantId = m.tenantId) ∧
    ((∀ l ∈ p.parentTenantLinks, p.Mirrored l) → r.userTenantMap = p.userTenantMap) := by
  have hq := promoted h now
  have hemail : Keyed MapRow.email p.userTenantMap := by
    have hholds := h.map_key
    rw [hkey] at hholds
    exact hholds
  refine ⟨(p.owned.withLinks now).reverted, ?_, ⟨rfl, rfl, rfl⟩, fun m hm => ⟨?_, ?_⟩, ?_⟩
  · rw [upgrade_eq h, if_pos hreviewed]
    show downgrade (p.owned.withLinks now) = _
    exact downgrade_eq hq.toCurrent
  · intro hmem l hl x hx hparent hsame
    by_contra hne
    -- The link to another school is folded in, and newer.
    have hnone : ∀ m' ∈ p.userTenantMap, m'.email = x.email → m'.tenantId ≠ l.tenantId := by
      intro m' hm' hemail' htenant
      have heq : m' = m := hemail.eq_of_key_eq hm' hm (hemail'.trans hsame)
      exact hne (heq ▸ htenant.symm)
    have hrow := (hq.memberships _).2 (.inr ⟨l, hl, x, hx, hparent, hnone, rfl⟩)
    exact (mem_newestOf.1 hmem).2 _ (List.mem_map_of_mem hrow) hsame (.inl (hold m hm))
  · intro hlinks
    have hmem : m ∈ (p.owned.withLinks now).userTenantMap.map MapRow.plain := by
      refine List.mem_map.2 ⟨m.own p.ids, ?_, plain_own h hm⟩
      exact List.mem_append_left _ (List.mem_map_of_mem hm)
    refine mem_newestOf.2 ⟨hmem, fun keep hkeep hsame hnewer => ?_⟩
    obtain ⟨row, hrow, rfl⟩ := List.mem_map.1 hkeep
    rcases (hq.memberships row).1 hrow with ⟨m', hm', rfl⟩ | ⟨l, hl, x, hx, hparent, hnone, rfl⟩
    · have heq : m' = m := hemail.eq_of_key_eq hm' hm hsame
      subst heq
      exact not_newer_self _ hnewer
    · exact hnone m hm hsame.symm (hlinks l hl x hx hparent hsame).symm
  · intro hmirrored
    have hnew : (p.owned.linked now).filter (fun row => ¬Present p.owned.userTenantMap row) =
        [] := by
      rw [List.filter_eq_nil_iff]
      intro row hrow hnot
      obtain ⟨l, hl, x, hx, id, hparent, hid, rfl⟩ := (mem_linked (ok_owned h)).1 hrow
      have hident : identityOf p.ids x.email = some id := hid
      refine of_decide_eq_true hnot ((present_owned h hident.symm (Option.some_ne_none id)).2 ?_)
      exact hmirrored l hl x hx hparent
    have hrows : (p.owned.withLinks now).userTenantMap.map MapRow.plain = p.userTenantMap := by
      show (p.owned.userTenantMap ++ _).map MapRow.plain = _
      rw [hnew, List.append_nil, plain_owned h]
    show newestOf ((p.owned.withLinks now).userTenantMap.map MapRow.plain) = p.userTenantMap
    rw [hrows]
    refine List.filter_eq_self.2 fun m hm => decide_eq_true fun keep hkeep hsame hnewer => ?_
    have heq : keep = m := hemail.eq_of_key_eq hkeep hm hsame
    exact not_newer_self m (heq ▸ hnewer)

theorem round_trip_oldPlane : ∃ r : Plane String String,
    (upgrade oldPlane 7 >>= fun q => downgrade q) = .ok r ∧
    (r.parents = oldPlane.parents ∧ r.superAdmins = oldPlane.superAdmins ∧
      r.parentTenantLinks = oldPlane.parentTenantLinks) ∧
    (∀ m ∈ oldPlane.userTenantMap, m ∈ r.userTenantMap ↔
      ∀ l ∈ oldPlane.parentTenantLinks, ∀ x ∈ oldPlane.parents, x.id = l.parentId →
        x.email = m.email → l.tenantId = m.tenantId) ∧
    ((∀ l ∈ oldPlane.parentTenantLinks, oldPlane.Mirrored l) →
      r.userTenantMap = oldPlane.userTenantMap) :=
  round_trip legacy_oldPlane (by decide) (by decide) (by decide)

end RoundTrip

end Sams.Identities
