import Sams.Identities.Migrations

/-!
# The two paths to the memberships

**`upgraded`**: the revisions, where the gate lets them pass, and the statements that the service
runs when it starts make the same of the tables of before; the start then adds its super admin, who
has no identity yet. Each email of the three account stores has one identity, each row of the table
is a membership of the identity of its email, with its one role, and each link of a parent that had
no row for the school is one more.
-/

namespace Sams.Identities

open Rows Resuming

variable {E T : Type} [DecidableEq E] [DecidableEq T]

/-! ## Rows that are given their identities -/

section Owned

variable {p : Plane E T}

/-- The tables before the links are folded in. -/
def Plane.owned (p : Plane E T) : Plane E T :=
  { p with
    primaryKey := .identityTenant
    lifecycle := true
    emailTenantIndex := true
    defaultIndex := true
    identityMergeDecisions := some (p.identityMergeDecisions.getD [])
    identities := some p.ids
    userTenantMap := p.userTenantMap.map (MapRow.own p.ids)
    next := p.next + p.unknown.length }

omit [DecidableEq T] in
/-- A row of before is given the identity of its email, and its one role. -/
theorem own_eq (h : Legacy p) {m : MapRow E T} (hm : m ∈ p.userTenantMap) :
    m.own p.ids = { m with identityId := identityOf p.ids m.email, roles := [m.role] } ∧
      identityOf p.ids m.email ≠ none := by
  have hsome : identityOf p.ids m.email ≠ none := by
    intro hnone
    obtain ⟨i, hi, he⟩ := email_mem_ids.2 (.inr (mem_emails.2 (.inl ⟨m, hm, rfl⟩)))
    exact identityOf_eq_none.1 hnone i hi he
  have hplain := h.plain m hm
  have hid : m.identityId = none := by rw [← hplain]; rfl
  have hroles : m.roles = [] := by rw [← hplain]; rfl
  refine ⟨?_, hsome⟩
  unfold MapRow.own
  rw [if_pos ⟨hid, hsome⟩, if_pos hroles]

omit [DecidableEq E] [DecidableEq T] in
theorem keyed_emailTenant (h : Legacy p) :
    Keyed (fun m => (m.email, m.tenantId)) p.userTenantMap := by
  have hkey := h.map_key
  have hby := h.byEmail
  cases hpk : p.primaryKey with
  | email =>
    rw [hpk] at hkey
    have hemail : Keyed MapRow.email p.userTenantMap := hkey
    exact List.Nodup.map_on (fun x hx y hy heq => hemail.eq_of_key_eq hx hy (congrArg Prod.fst heq))
      (List.Nodup.of_map _ hemail)
  | emailTenant =>
    rw [hpk] at hkey
    exact hkey
  | identityTenant => exact absurd hpk hby

omit [DecidableEq T] in
theorem mem_owned (h : Legacy p) {row : MapRow E T} : row ∈ p.owned.userTenantMap ↔
    ∃ m ∈ p.userTenantMap, row =
      { m with identityId := identityOf p.ids m.email, roles := [m.role] } := by
  show row ∈ p.userTenantMap.map (MapRow.own p.ids) ↔ _
  rw [List.mem_map]
  constructor
  · rintro ⟨m, hm, rfl⟩
    exact ⟨m, hm, (own_eq h hm).1⟩
  · rintro ⟨m, hm, rfl⟩
    exact ⟨m, hm, (own_eq h hm).1⟩

omit [DecidableEq T] in
/-- The identity of a membership is that of its email. -/
theorem identityId_owned (h : Legacy p) {row : MapRow E T} (hrow : row ∈ p.owned.userTenantMap) :
    row.identityId = identityOf p.ids row.email ∧ row.identityId ≠ none := by
  obtain ⟨m, hm, rfl⟩ := (mem_owned h).1 hrow
  exact ⟨rfl, (own_eq h hm).2⟩

omit [DecidableEq T] in
theorem keyed_owned (h : Legacy p) :
    Keyed (fun m => (m.email, m.tenantId)) p.owned.userTenantMap := by
  refine (keyed_emailTenant h).map fun m => ?_
  rw [own_email, own_tenantId]

omit [DecidableEq T] in
theorem keyed_identity_owned (h : Legacy p) : Keyed MapRow.key p.owned.userTenantMap := by
  have hkeyed := keyed_owned h
  obtain ⟨hid, hemail⟩ := keyed_ids h.toOk
  refine List.Nodup.map_on (fun x hx y hy heq => ?_) (List.Nodup.of_map _ hkeyed)
  obtain ⟨hx', hxsome⟩ := identityId_owned h hx
  obtain ⟨hy', -⟩ := identityId_owned h hy
  have hids : x.identityId = y.identityId := congrArg Prod.fst heq
  have htenant : x.tenantId = y.tenantId := congrArg Prod.snd heq
  obtain ⟨n, hn⟩ := Option.ne_none_iff_exists'.1 hxsome
  have hsame : x.email = y.email :=
    identityOf_inj hid hemail (hx'.symm.trans hn) (hy'.symm.trans (hids.symm.trans hn))
  exact hkeyed.eq_of_key_eq hx hy (Prod.ext hsame htenant)

omit [DecidableEq T] in
theorem not_isDefault_owned (h : Legacy p) :
    p.owned.userTenantMap.filter MapRow.isDefault = [] := by
  rw [List.filter_eq_nil_iff]
  intro row hrow
  obtain ⟨m, hm, rfl⟩ := (mem_owned h).1 hrow
  have hdefault : m.isDefault = false := by rw [← h.plain m hm]; rfl
  simp [hdefault]

omit [DecidableEq T] in
theorem ok_owned (h : Legacy p) : p.owned.Ok where
  parent_key := h.parent_key
  parent_email := h.parent_email
  link_key := h.link_key
  link_parent := h.link_parent
  identity_key := (keyed_ids h.toOk).1
  identity_email := (keyed_ids h.toOk).2
  drawn := by
    intro i hi
    show i.id < p.next + p.unknown.length
    rcases mem_ids.1 hi with hold | ⟨n, hn, hid⟩
    · have hlt := h.drawn i hold
      omega
    · have hlt := (List.getElem?_eq_some_iff.1 hn).1
      omega
  map_key := ⟨fun m hm => (identityId_owned h hm).2, keyed_identity_owned h⟩
  map_identity := by
    intro m hm k hk
    obtain ⟨hid, -⟩ := identityId_owned h hm
    obtain ⟨i, hi, -, hn⟩ := (identityOf_eq_some (keyed_ids h.toOk).2).1 (hid.symm.trans hk)
    exact List.mem_map.2 ⟨i, hi, hn⟩
  map_email := fun _ => keyed_owned h
  map_default := by
    intro _
    rw [not_isDefault_owned h]
    exact List.nodup_nil

omit [DecidableEq T] in
/-- A membership with the email of a parent has the identity of that parent. -/
theorem not_clash_owned (h : Legacy p) (now : Nat) : ¬p.owned.Clash now := by
  rintro ⟨row, hrow, hnot, m, hm, hemail, htenant⟩
  obtain ⟨_, _, x, _, id, _, hid, rfl⟩ := (mem_linked (ok_owned h)).1 hrow
  obtain ⟨hown, -⟩ := identityId_owned h hm
  have hsame : m.email = x.email := hemail
  refine hnot ⟨m, hm, ?_, htenant⟩
  rw [hown, hsame]
  exact hid

end Owned

/-! ## The links -/

section Linked

variable {p : Plane E T} {now : Nat}

/-- The tables with the memberships of the links that are missing. -/
def Plane.withLinks (p : Plane E T) (now : Nat) : Plane E T :=
  { p with userTenantMap := p.userTenantMap ++
    (p.linked now).filter fun row => ¬Present p.userTenantMap row }

theorem ok_withLinks (h : p.Ok) (hpk : p.primaryKey = .identityTenant) (hclash : ¬p.Clash now) :
    (p.withLinks now).Ok := by
  have hnew : ∀ row ∈ (p.linked now).filter (fun row => ¬Present p.userTenantMap row),
      row ∈ p.linked now ∧ ¬Present p.userTenantMap row := by
    intro row hrow
    obtain ⟨hlinked, hnot⟩ := List.mem_filter.1 hrow
    exact ⟨hlinked, of_decide_eq_true hnot⟩
  have hkey := h.map_key
  rw [hpk] at hkey
  obtain ⟨hsome, hkeyed⟩ := hkey
  constructor
  · exact h.parent_key
  · exact h.parent_email
  · exact h.link_key
  · exact h.link_parent
  · exact h.identity_key
  · exact h.identity_email
  · exact h.drawn
  · show PrimaryKey.Holds p.primaryKey _
    rw [hpk]
    refine ⟨fun m hm => ?_,
      keyed_append hkeyed ((keyed_linked h now).filter _) fun m hm row hrow heq => ?_⟩
    · rcases List.mem_append.1 hm with hm | hm
      · exact hsome m hm
      · obtain ⟨_, _, _, _, id, _, _, rfl⟩ := (mem_linked h).1 (hnew m hm).1
        exact nofun
    · exact (hnew row hrow).2 ⟨m, hm, congrArg Prod.fst heq, congrArg Prod.snd heq⟩
  · intro m hm k hk
    rcases List.mem_append.1 hm with hm | hm
    · exact h.map_identity m hm k hk
    · obtain ⟨_, _, x, _, id, _, hid, rfl⟩ := (mem_linked h).1 (hnew m hm).1
      obtain ⟨i, hi, -, hn⟩ := (identityOf_eq_some h.identity_email).1 hid
      cases hk
      exact List.mem_map.2 ⟨i, hi, hn⟩
  · intro hindex
    refine keyed_append (h.map_email hindex) ?_ fun m hm row hrow heq => ?_
    · refine List.Nodup.map_on (fun x hx y hy heq => ?_)
        (List.Nodup.filter _ (List.Nodup.of_map _ (keyed_linked h now)))
      have hid := linked_emails h x (hnew x hx).1 y (hnew y hy).1 (congrArg Prod.fst heq)
      have htenant : x.tenantId = y.tenantId := congrArg Prod.snd heq
      exact (keyed_linked h now).eq_of_key_eq (hnew x hx).1 (hnew y hy).1 (Prod.ext hid htenant)
    · obtain ⟨hlinked, hnot⟩ := hnew row hrow
      exact hclash ⟨row, hlinked, hnot, m, hm, congrArg Prod.fst heq, congrArg Prod.snd heq⟩
  · intro hindex
    have hnone : ((p.linked now).filter fun row => ¬Present p.userTenantMap row).filter
        MapRow.isDefault = [] := by
      rw [List.filter_eq_nil_iff]
      intro row hrow
      obtain ⟨_, _, _, _, _, _, _, rfl⟩ := (mem_linked h).1 (hnew row hrow).1
      exact Bool.false_ne_true
    show Keyed MapRow.identityId (List.filter MapRow.isDefault (_ ++ _))
    rw [List.filter_append, hnone, List.append_nil]
    exact h.map_default hindex

end Linked

/-! ## The two paths -/

section Paths

variable {p : Plane E T} {now : Nat}

omit [DecidableEq E] [DecidableEq T] in
theorem bind_ok (x : Except (Abort E) (Plane E T)) : x.bind .ok = x := by
  cases x with
  | error e => rfl
  | ok p => rfl

theorem rekey_eq {k : PrimaryKey} (h : k.Holds p.userTenantMap) :
    p.rekey k = .ok { p with primaryKey := k } := if_pos h

theorem createEmailTenantIndex_eq (h : Keyed (fun m => (m.email, m.tenantId)) p.userTenantMap) :
    p.createEmailTenantIndex = .ok { p with emailTenantIndex := true } := by
  unfold Plane.createEmailTenantIndex
  by_cases hindex : p.emailTenantIndex = true
  · rw [if_pos hindex, ← hindex]
  · rw [if_neg hindex, if_pos h]

omit [DecidableEq E] [DecidableEq T] in
theorem createDefaultIndex_eq
    (h : Keyed MapRow.identityId (p.userTenantMap.filter MapRow.isDefault)) :
    p.createDefaultIndex = .ok { p with defaultIndex := true } := by
  unfold Plane.createDefaultIndex
  by_cases hindex : p.defaultIndex = true
  · rw [if_pos hindex, ← hindex]
  · rw [if_neg hindex, if_pos h]

/-- The table that has not got the new columns yet. -/
theorem widen_eq (h : Legacy p) : widen p = .ok { p with primaryKey := .emailTenant } := by
  unfold widen
  by_cases hpk : p.primaryKey = .email
  · rw [if_pos hpk]
    exact rekey_eq (keyed_emailTenant h)
  · have hkey : p.primaryKey = .emailTenant := by
      have hby := h.byEmail
      cases hcase : p.primaryKey with
      | email => exact absurd hcase hpk
      | emailTenant => rfl
      | identityTenant => exact absurd hcase hby
    rw [if_neg hpk, ← hkey]

/-- The tables once the rows have their identities, before the key is theirs. -/
def Plane.staged (p : Plane E T) : Plane E T :=
  { p with
    primaryKey := .emailTenant
    lifecycle := true
    identityMergeDecisions := some (p.identityMergeDecisions.getD [])
    identities := some p.ids
    userTenantMap := p.userTenantMap.map (MapRow.own p.ids)
    next := p.next + p.unknown.length }

omit [DecidableEq T] in
/-- The statements up to the identities of the rows. -/
theorem staged_eq (h : Legacy p) :
    (Plane.createDecisions { p with
      primaryKey := .emailTenant }).createIdentities.backfill.addColumns.own = p.staged := by
  have hplain : p.userTenantMap.map MapRow.plain = p.userTenantMap := by
    rw [List.map_inj_left.2 h.plain, List.map_id']
  unfold Plane.addColumns
  rw [if_neg
    (by simp [Plane.backfill, Plane.createIdentities, Plane.createDecisions, h.noLifecycle])]
  show { p.staged with
      userTenantMap := (p.userTenantMap.map MapRow.plain).map (MapRow.own p.ids) } = p.staged
  rw [hplain]
  rfl

omit [DecidableEq T] in
theorem unowned_staged (h : Legacy p) : p.staged.unowned = [] := by
  unfold Plane.unowned
  rw [List.filter_eq_nil_iff]
  intro row hrow hnone
  exact (identityId_owned h hrow).2 (of_decide_eq_true hnone)

/-- The statements after them. -/
theorem finish_eq (h : Legacy p) :
    ((p.staged.rekey .identityTenant).bind fun q => q.createEmailTenantIndex.bind fun q =>
      q.createDefaultIndex.bind fun q => q.foldLinks now) = .ok (p.owned.withLinks now) := by
  have hholds : PrimaryKey.identityTenant.Holds p.staged.userTenantMap :=
    ⟨fun m hm => (identityId_owned h hm).2, keyed_identity_owned h⟩
  have hdefault : Keyed MapRow.identityId (p.owned.userTenantMap.filter MapRow.isDefault) := by
    rw [not_isDefault_owned h]
    exact List.nodup_nil
  rw [rekey_eq hholds]
  show (Plane.createEmailTenantIndex _).bind _ = _
  rw [createEmailTenantIndex_eq (p := { p.staged with
    primaryKey := .identityTenant }) (keyed_owned h)]
  show (Plane.createDefaultIndex _).bind _ = _
  rw [createDefaultIndex_eq (p := { p.staged with
    primaryKey := .identityTenant, emailTenantIndex := true }) hdefault]
  exact foldLinks_eq (ok_owned h) (not_clash_owned h now)

theorem statements_eq (h : Legacy p) : runAll statements now p = .ok (p.owned.withLinks now) := by
  have hadopt : adopt p.staged = p.staged.rekey .identityTenant := if_pos ⟨unowned_staged h, nofun⟩
  unfold statements
  rw [runAll_cons, widen_eq h]
  show ((adopt _).bind fun q => q.createEmailTenantIndex.bind fun q =>
    q.createDefaultIndex.bind fun q => (q.foldLinks now).bind .ok) = _
  simp only [bind_ok]
  rw [staged_eq h, hadopt]
  exact finish_eq h

theorem initializeTables_eq (h : Legacy p) (sa : E) :
    initializeTables p sa now = .ok ((p.owned.withLinks now).seedSuperAdmin sa) := by
  unfold initializeTables startUp
  rw [runAll_append, statements_eq h]
  rfl

omit [DecidableEq T] in
theorem undecided_rekeyed (p : Plane E T) (k : PrimaryKey) :
    Plane.undecided { p with primaryKey := k } = p.undecided := rfl

theorem upgrade_eq (h : Legacy p) : upgrade p now =
    if p.undecided = [] then .ok (p.owned.withLinks now) else .error (.unreviewed p.undecided) := by
  unfold upgrade
  rw [widen_eq h]
  show (identify _).bind _ = _
  rw [identify_eq, undecided_rekeyed]
  by_cases hnil : p.undecided = []
  · rw [if_pos hnil, if_pos hnil]
    show promote _ now = _
    unfold promote
    rw [staged_eq h]
    have hchecked : p.staged.checkOwned = .ok p.staged := by
      unfold Plane.checkOwned
      rw [unowned_staged h]
      rfl
    rw [hchecked]
    exact finish_eq h
  · rw [if_neg hnil, if_neg hnil]
    rfl

/-- What becomes of the tables of before. -/
structure Promoted (p q : Plane E T) (now : Nat) : Prop extends Current q where
  accounts : q.parents = p.parents ∧ q.superAdmins = p.superAdmins ∧
    q.parentTenantLinks = p.parentTenantLinks
  identified : ∀ e, (∃ i ∈ q.identities.getD [], i.email = e) ↔ e ∈ p.emails
  memberships : ∀ row, row ∈ q.userTenantMap ↔
    (∃ m ∈ p.userTenantMap,
      row = { m with identityId := identityOf (q.identities.getD []) m.email, roles := [m.role] }) ∨
    ∃ l ∈ p.parentTenantLinks, ∃ x ∈ p.parents, x.id = l.parentId ∧
      (∀ m ∈ p.userTenantMap, m.email = x.email → m.tenantId ≠ l.tenantId) ∧
      row = { email := x.email, tenantId := l.tenantId, role := "parent", updatedAt := now,
              identityId := identityOf (q.identities.getD []) x.email, status :=
                .active, roles := ["parent"],
              isDefault := false }

omit [DecidableEq T] in
/-- An identity has a membership where its email had a row. -/
theorem present_owned (h : Legacy p) {row : MapRow E T}
    (hid : row.identityId = identityOf p.ids row.email)
    (hsome : row.identityId ≠ none) : Present p.owned.userTenantMap row ↔
      ∃ m ∈ p.userTenantMap, m.email = row.email ∧ m.tenantId = row.tenantId := by
  obtain ⟨hkey, hemail⟩ := keyed_ids h.toOk
  constructor
  · rintro ⟨m', hm', hsame, htenant⟩
    obtain ⟨hown, -⟩ := identityId_owned h hm'
    obtain ⟨n, hn⟩ := Option.ne_none_iff_exists'.1 hsome
    have hemails : m'.email = row.email :=
      identityOf_inj hkey hemail (hown.symm.trans (hsame.trans hn)) (hid.symm.trans hn)
    obtain ⟨m, hm, rfl⟩ := (mem_owned h).1 hm'
    exact ⟨m, hm, hemails, htenant⟩
  · rintro ⟨m, hm, hemails, htenant⟩
    refine ⟨_, (mem_owned h).2 ⟨m, hm, rfl⟩, ?_, htenant⟩
    show identityOf p.ids m.email = row.identityId
    rw [hemails, hid]

theorem promoted (h : Legacy p) (now : Nat) : Promoted p (p.owned.withLinks now) now where
  toCurrent := { ok_withLinks (ok_owned h) rfl (not_clash_owned h now) with
    decisions := rfl, identities := rfl, lifecycle := rfl, byIdentity :=
      rfl, emailTenantIndex := rfl
    defaultIndex := rfl }
  accounts := ⟨rfl, rfl, rfl⟩
  identified := by
    intro e
    show (∃ i ∈ p.ids, i.email = e) ↔ e ∈ p.emails
    rw [email_mem_ids, h.noIdentities]
    simp
  memberships := by
    intro row
    show row ∈ p.owned.userTenantMap ++ _ ↔ _
    rw [List.mem_append, mem_owned h, List.mem_filter, decide_eq_true_eq, mem_linked (ok_owned h)]
    refine or_congr_right ⟨?_, ?_⟩
    · rintro ⟨⟨l, hl, x, hx, id, hparent, hid, rfl⟩, hnot⟩
      have hident : identityOf p.ids x.email = some id := hid
      rw [present_owned h hident.symm (Option.some_ne_none id)] at hnot
      refine ⟨l, hl, x, hx, hparent, fun m hm hemail htenant => hnot ⟨m, hm, hemail, htenant⟩, ?_⟩
      show _ = MapRow.mk _ _ _ _ (identityOf p.ids x.email) _ _ _
      rw [hident]
    · rintro ⟨l, hl, x, hx, hparent, hnone, rfl⟩
      obtain ⟨i, hi, he⟩ := email_mem_ids.2 (.inr (mem_emails.2 (.inr (.inl ⟨x, hx, rfl⟩))))
      have hident : identityOf p.ids x.email = some i.id :=
        (identityOf_eq_some (keyed_ids h.toOk).2).2 ⟨i, hi, he, rfl⟩
      refine ⟨⟨l, hl, x, hx, i.id, hparent, hident, ?_⟩, ?_⟩
      · show MapRow.mk _ _ _ _ (identityOf p.ids x.email) _ _ _ = _
        rw [hident]
      · have hsome : identityOf p.ids x.email ≠ none := by
          rw [hident]
          exact nofun
        refine fun hpresent => ?_
        obtain ⟨m, hm, hemail, htenant⟩ := (present_owned h rfl hsome).1 hpresent
        exact hnone m hm hemail htenant

/-- **The revisions and the start** come to the same, where the gate lets the revisions pass, but
for the super admin that the start ends with. -/
theorem upgraded (h : Legacy p) (sa : E) (now : Nat) : ∃ q, Promoted p q now ∧
    initializeTables p sa now = .ok (q.seedSuperAdmin sa) ∧
    upgrade p now = if p.undecided = [] then .ok q else .error (.unreviewed p.undecided) :=
  ⟨_, promoted h now, initializeTables_eq h sa, upgrade_eq h⟩

/-- A parent with a row in one school and a link to another, and a super admin. -/
def oldPlane : Plane String String :=
  { parents := [⟨1, "mother@mail"⟩], superAdmins := ["root@desk"],
    parentTenantLinks := [⟨1, "north"⟩, ⟨1, "south"⟩]
    userTenantMap :=
      [{ email := "mother@mail", tenantId := "north", role := "parent", updatedAt := 3 }]
    primaryKey := .email, lifecycle := false, emailTenantIndex := false, defaultIndex := false
    identityMergeDecisions := none, identities := none, next := 10 }

theorem legacy_oldPlane : Legacy oldPlane where
  parent_key := by decide
  parent_email := by decide
  link_key := by decide
  link_parent := by decide
  identity_key := by decide
  identity_email := by decide
  drawn := by decide
  map_key := by decide
  map_identity := by decide
  map_email := by decide
  map_default := by decide
  noIdentities := by decide
  noLifecycle := by decide
  byEmail := by decide
  plain := by decide

theorem upgraded_oldPlane : ∃ q, Promoted oldPlane q 7 ∧
    initializeTables oldPlane defaultSuperAdmin 7 = .ok (q.seedSuperAdmin defaultSuperAdmin) ∧
    upgrade oldPlane 7 = if oldPlane.undecided = [] then .ok q
      else .error (.unreviewed oldPlane.undecided) :=
  upgraded legacy_oldPlane defaultSuperAdmin 7

end Paths

end Sams.Identities
