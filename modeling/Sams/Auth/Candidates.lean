import Sams.Auth.Actions

/-!
# The candidates of a login

What a login does before it issues anything (`Prepares`): it opens pools, which gives the super
admins rows in the tenants' `users`, and draws numbers. None of this changes whose password counts
for a tenant (`World.candidate`).
-/

namespace Sams.Auth

open Programs Rows Interleaving

/-! ## Users of a tenant -/

namespace World

/-- The schema of a tenant, empty when there is none. -/
def schemaOf (w : World) (tenantId : String) : SchemaRow :=
  (w.schema? tenantId).getD ⟨tenantId, [], 1⟩

theorem users_eq (w : World) (tenantId : String) :
    w.users tenantId = (w.schemaOf tenantId).users := by
  unfold users schemaOf
  cases w.schema? tenantId <;> rfl

theorem schemaOf_createSchema (w : World) (tenantId t : String) :
    (w.createSchema tenantId).schemaOf t = w.schemaOf t := by
  unfold createSchema
  split_ifs with h
  · rfl
  · simp only [List.any_eq_true, decide_eq_true_eq, not_exists, not_and] at h
    unfold schemaOf schema?
    rw [List.find?_append]
    cases hfind : w.schemas.find? fun x => x.tenantId = t with
    | some x => rfl
    | none =>
      by_cases ht : tenantId = t
      · subst ht
        simp
      · simp [ht]

theorem schemaOf_updateSchema (w : World) (tenantId t : String) {f : SchemaRow → SchemaRow}
    (hname : ∀ x, (f x).tenantId = x.tenantId) (hthere : (w.schema? tenantId).isSome) :
    (w.updateSchema tenantId f).schemaOf t =
      if t = tenantId then f (w.schemaOf t) else w.schemaOf t := by
  unfold schemaOf
  have hfind : (w.updateSchema tenantId f).schema? t =
      (w.schema? t).map fun x => if x.tenantId = tenantId then f x else x := by
    have :=
      find?_updateWhere (p := fun x : SchemaRow => decide (x.tenantId = tenantId)) (l := w.schemas)
      hname t
    simpa [schema?, updateSchema] using this
  rw [hfind]
  split_ifs with ht
  · subst ht
    obtain ⟨x, hx⟩ := Option.isSome_iff_exists.1 hthere
    have hid : x.tenantId = t := by simpa using List.find?_some hx
    simp [hx, hid]
  · cases hx : w.schema? t with
    | none => rfl
    | some x =>
      have hid : x.tenantId = t := by simpa using List.find?_some hx
      simp [hid, ht]

theorem schema?_createSchema_isSome (w : World) (tenantId : String) :
    ((w.createSchema tenantId).schema? tenantId).isSome := by
  unfold createSchema schema?
  split_ifs with h
  · rw [List.find?_isSome]
    simpa using h
  · rw [List.find?_isSome]
    exact ⟨_, List.mem_append_right _ List.mem_cons_self, by simp⟩

/-- Only the schemas are rewritten. -/
theorem createSchema_eq (w : World) (tenantId : String) :
    ∃ l, w.createSchema tenantId = { w with schemas := l } := by
  unfold createSchema
  split_ifs
  · exact ⟨w.schemas, rfl⟩
  · exact ⟨_, rfl⟩

/-! ## Rows for the super admins -/

theorem mem_mirror {as : List SuperAdminRow} {n : Nat} {u : UserRow} (h : u ∈ mirror as n) :
    n ≤ u.id ∧ u.id < n + (mirror as n).length ∧ u.role = "super_admin" ∧
      ∃ a ∈ as, a.email = u.email := by
  induction as generalizing n with
  | nil => cases h
  | cons a as ih =>
    rcases List.mem_cons.1 h with rfl | h
    · exact ⟨le_rfl, by simp [mirror], rfl, a, List.mem_cons_self, rfl⟩
    · obtain ⟨hn, hlt, hrole, b, hb, hemail⟩ := ih h
      have hlen : (mirror (a :: as) n).length = (mirror as (n + 1)).length + 1 := rfl
      exact ⟨by omega, by omega, hrole, b, List.mem_cons_of_mem a hb, hemail⟩

theorem keyed_mirror_id (as : List SuperAdminRow) (n : Nat) : Keyed UserRow.id (mirror as n) := by
  induction as generalizing n with
  | nil => exact List.nodup_nil
  | cons a as ih =>
    refine List.nodup_cons.2 ⟨fun hmem => ?_, ih (n + 1)⟩
    obtain ⟨u, hu, hid⟩ := List.mem_map.1 hmem
    have hle := (mem_mirror hu).1
    dsimp only at hid
    omega

theorem map_email_mirror (as : List SuperAdminRow) (n : Nat) :
    (mirror as n).map UserRow.email = as.map SuperAdminRow.email := by
  induction as generalizing n with
  | nil => rfl
  | cons a as ih => exact congrArg (a.email :: ·) (ih (n + 1))

end World

variable [Unicode]

namespace World

/-- The schema as a process finds it once it has opened the pool. -/
def seeded (w : World) (t : SchemaRow) : SchemaRow :=
  { t with
    users := t.users ++ w.mirrors t
    nextUserId := t.nextUserId + (w.mirrors t).length }

/-- The users of a tenant once its pool is open. -/
def usersIn (w : World) (tenantId : String) : List UserRow :=
  if tenantId ∈ w.opened then (w.schemaOf tenantId).users
    else (w.seeded (w.schemaOf tenantId)).users

end World

/-- What a login does before it issues anything. -/
structure Prepares (w w' : World) : Prop where
  superAdmins : w'.superAdmins = w.superAdmins
  parents : w'.parents = w.parents
  links : w'.parentTenantLinks = w.parentTenantLinks
  identities : w'.identities = w.identities
  memberships : w'.userTenantMap = w.userTenantMap
  challenges : w'.selectionChallenges = w.selectionChallenges
  tokens : w'.refreshTokens = w.refreshTokens
  unreachable : w'.unreachable = w.unreachable
  tenants : ∀ t ∈ w.tenants, t ∈ w'.tenants
  users : ∀ t, w'.usersIn t = w.usersIn t
  seq : w.seq ≤ w'.seq
  now : w'.now = w.now

theorem prepares_refl (w : World) : Prepares w w :=
  ⟨rfl, rfl, rfl, rfl, rfl, rfl, rfl, rfl, fun _ h => h, fun _ => rfl, le_rfl, rfl⟩

instance : IsPreorder World Prepares where
  refl := prepares_refl
  trans _ _ _ h h' :=
    ⟨h'.superAdmins.trans h.superAdmins, h'.parents.trans h.parents, h'.links.trans h.links,
      h'.identities.trans h.identities, h'.memberships.trans h.memberships,
      h'.challenges.trans h.challenges, h'.tokens.trans h.tokens,
      h'.unreachable.trans h.unreachable, fun t ht => h'.tenants t (h.tenants t ht),
      fun t => (h'.users t).trans (h.users t), h.seq.trans h'.seq, h'.now.trans h.now⟩

namespace World

/-- The rows fit into the schema. -/
theorem ok_seeded {w : World} (hw : w.Ok) {t : SchemaRow} (ht : t.Ok) : (w.seeded t).Ok := by
  have hid : ∀ u ∈ t.users, ∀ v ∈ w.mirrors t, u.id ≠ v.id := fun u hu v hv => by
    have hlt := ht.user_seq u hu
    have hle := (mem_mirror hv).1
    omega
  refine ⟨?_, ?_, ?_, ?_⟩
  · show (List.map _ (t.users ++ w.mirrors t)).Nodup
    rw [List.map_append, List.nodup_append]
    refine ⟨ht.user_key, keyed_mirror_id _ _, fun a ha b hb => ?_⟩
    obtain ⟨u, hu, rfl⟩ := List.mem_map.1 ha
    obtain ⟨v, hv, rfl⟩ := List.mem_map.1 hb
    exact hid u hu v hv
  · intro u hu
    rcases List.mem_append.1 hu with hu | hu
    · exact (ht.user_seq u hu).trans_le (Nat.le_add_right _ _)
    · exact (mem_mirror hu).2.1
  · show (List.map _ (t.users ++ w.mirrors t)).Nodup
    rw [List.map_append, List.nodup_append]
    refine ⟨ht.user_email, ?_, fun a ha b hb => ?_⟩
    · -- the super admins' emails are distinct
      have hkeyed := hw.keys.super_admin_email.filter
        (fun a => ¬t.users.any fun u => CiEq u.email a.email)
      have hmap : ∀ us as, List.map UserRow.email us = List.map SuperAdminRow.email as →
          us.map (fun u => Unicode.sqlLower u.email) = as.map fun a =>
            Unicode.sqlLower a.email := by
        intro us as h
        have hlower := congrArg (List.map Unicode.sqlLower) h
        rwa [List.map_map, List.map_map] at hlower
      unfold Keyed at hkeyed
      exact (hmap _ _ (map_email_mirror _ _)).symm ▸ hkeyed
    · obtain ⟨u, hu, rfl⟩ := List.mem_map.1 ha
      obtain ⟨v, hv, rfl⟩ := List.mem_map.1 hb
      obtain ⟨-, -, -, a, hmissing, hemail⟩ := mem_mirror hv
      have hnone := (List.mem_filter.1 hmissing).2
      simp only [decide_eq_true_eq, List.any_eq_true, not_exists, not_and] at hnone
      exact fun he => hnone u hu (hemail ▸ he)
  · intro u hu
    rcases List.mem_append.1 hu with hu | hu
    · exact ht.users_role_check u hu
    · rw [(mem_mirror hu).2.2.1]
      decide

/-! ## Opening a pool -/

theorem schema?_eq_some {w : World} (hw : w.Ok) {tenantId : String} {t : SchemaRow} :
    w.schema? tenantId = some t ↔ t ∈ w.schemas ∧ t.tenantId = tenantId :=
  hw.keys.schema_name.find?_eq_some

theorem ok_register {w : World} (hw : w.Ok) (tenantId : String) : (w.register tenantId).Ok := by
  unfold register
  split_ifs with h
  · exact hw
  · have hnew : ∀ t ∈ w.tenants, t.tenantId ≠ tenantId := by
      intro t ht he
      refine h (.inr (.inl ?_))
      simp only [isRegistered, List.any_eq_true, decide_eq_true_eq]
      exact ⟨t, ht, he⟩
    have hmem : ∀ k, k ∈ w.tenants.map TenantRow.tenantId →
        k ∈ (w.tenants ++ [TenantRow.mk tenantId]).map TenantRow.tenantId := fun k hk => by
      rw [List.map_append]
      exact List.mem_append_left _ hk
    exact
      { hw with
        keys := { hw.keys with tenant := hw.keys.tenant.append hnew }
        refs :=
          { hw.refs with
            link_tenant := fun l hl k hk => hmem k (hw.refs.link_tenant l hl k hk)
            membership_tenant := fun m hm k hk => hmem k (hw.refs.membership_tenant m hm k hk)
            invitation_tenant := fun i hi k hk => hmem k (hw.refs.invitation_tenant i hi k hk)
            user_invitation_tenant := fun i hi k hk =>
              hmem k (hw.refs.user_invitation_tenant i hi k hk) }
        drawn := { hw.drawn with } }

theorem ok_createSchema {w : World} (hw : w.Ok) (tenantId : String) :
    (w.createSchema tenantId).Ok := by
  unfold createSchema
  split_ifs with h
  · exact hw
  · simp only [List.any_eq_true, decide_eq_true_eq, not_exists, not_and] at h
    refine ⟨fun t ht => ?_, { hw.keys with schema_name := hw.keys.schema_name.append h },
      { hw.refs with }, { hw.drawn with }, hw.invitations_role_check⟩
    rcases List.mem_append.1 ht with ht | ht
    · exact hw.schemas t ht
    · rw [List.mem_singleton.1 ht]
      exact ⟨List.nodup_nil, by simp, List.nodup_nil, by simp⟩

/-- A rewriting of one schema that fits its constraints. -/
theorem ok_updateSchema {w : World} (hw : w.Ok) {tenantId : String} {f : SchemaRow → SchemaRow}
    (hname : ∀ t, (f t).tenantId = t.tenantId)
    (hf : ∀ t ∈ w.schemas, t.tenantId = tenantId → (f t).Ok) : (w.updateSchema tenantId f).Ok := by
  refine ⟨fun t ht => ?_, { hw.keys with schema_name := hw.keys.schema_name.updateWhere hname },
    { hw.refs with }, { hw.drawn with }, hw.invitations_role_check⟩
  rcases cases_of_mem_updateWhere ht with ⟨ht, -⟩ | ⟨x, hx, hname, rfl⟩
  · exact hw.schemas t ht
  · exact hf x hx (by simpa using hname)

theorem seedSuperAdmins_eq (w : World) (tenantId : String) :
    w.seedSuperAdmins tenantId = w.updateSchema tenantId w.seeded := rfl

theorem ok_initializeTables {w : World} (hw : w.Ok) (tenantId : String) :
    (w.initializeTables tenantId).Ok := by
  unfold initializeTables
  split_ifs
  · exact hw
  · have hcreated := ok_createSchema hw tenantId
    have hseeded : ((w.createSchema tenantId).seedSuperAdmins tenantId).Ok := by
      rw [seedSuperAdmins_eq]
      exact ok_updateSchema hcreated (fun _ => rfl)
        fun t ht _ => ok_seeded hcreated (hcreated.schemas t ht)
    exact
      { hseeded with
        keys := { hseeded.keys with }, refs := { hseeded.refs with }, drawn :=
          { hseeded.drawn with } }

/-! ## Opening changes no user -/

theorem prepares_register (w : World) (tenantId : String) : Prepares w (w.register tenantId) := by
  unfold register
  split_ifs
  · exact prepares_refl w
  · exact { prepares_refl w with tenants := fun t ht => List.mem_append_left _ ht }

theorem prepares_of_schemas {w : World} {schemas : List SchemaRow} {opened : List String}
    (h : ∀ t, { w with schemas := schemas, opened := opened }.usersIn t = w.usersIn t) :
    Prepares w { w with schemas := schemas, opened := opened } :=
  { prepares_refl w with users := h }

theorem prepares_initializeTables (w : World) (tenantId : String) :
    Prepares w (w.initializeTables tenantId) := by
  unfold initializeTables
  split_ifs with hopen
  · exact prepares_refl w
  · obtain ⟨l, hl⟩ := createSchema_eq w tenantId
    have hthere := schema?_createSchema_isSome w tenantId
    have hschemas : ∀ t, (w.createSchema tenantId).schemaOf t = w.schemaOf t :=
      schemaOf_createSchema w tenantId
    rw [hl] at hthere hschemas ⊢
    refine prepares_of_schemas fun t => ?_
    have hschema : ({ w with schemas := l }.updateSchema tenantId w.seeded).schemaOf t =
        if t = tenantId then w.seeded (w.schemaOf t) else w.schemaOf t := by
      rw [schemaOf_updateSchema _ _ _ (f := w.seeded) (fun _ => rfl) hthere, hschemas]
    show (if t ∈ w.opened ++ [tenantId] then
        (({ w with schemas := l }.updateSchema tenantId w.seeded).schemaOf t).users
      else (w.seeded (({ w with schemas := l }.updateSchema tenantId w.seeded).schemaOf t)).users) =
        w.usersIn t
    rw [hschema]
    unfold usersIn
    by_cases ht : t = tenantId
    · subst ht
      simp [hopen]
    · simp [ht]

end World

/-! ## Opening a pool succeeds where the database answers -/

theorem mem_opened_initializeTables (w : World) (tenantId : String) :
    tenantId ∈ (w.initializeTables tenantId).opened := by
  unfold World.initializeTables
  split_ifs with h
  · exact h
  · exact List.mem_append_right _ List.mem_cons_self

theorem openPool_reaches {s : State} {tenantId : String} (h : s.val.reachable tenantId = true) :
    Reaches (fun _ s' => Prepares s.val s'.val ∧ s'.val.users tenantId = s.val.usersIn tenantId)
      (openPool tenantId) s := by
  have hregister := World.ok_register s.ok tenantId
  have hreachable : (s.val.register tenantId).reachable tenantId = true := by
    unfold World.reachable
    rw [(World.prepares_register s.val tenantId).unreachable]
    exact h
  have hinit := World.ok_initializeTables hregister tenantId
  have hprepares : Prepares s.val ((s.val.register tenantId).initializeTables tenantId) :=
    trans_of Prepares (World.prepares_register _ _) (World.prepares_initializeTables _ _)
  unfold openPool
  refine reaches_bind (M := fun _ s' => s' = ⟨_, hregister⟩) (reaches_exec hregister rfl) ?_
  rintro _ _ rfl
  refine reaches_bind (M := fun b s' => b = true ∧ s' = ⟨_, hregister⟩)
    (reaches_query ⟨hreachable, rfl⟩) ?_
  rintro _ _ ⟨rfl, rfl⟩
  refine reaches_bind (M := fun _ s' => s' = ⟨_, hregister⟩) (reaches_raiseIf (by simp) rfl) ?_
  rintro _ _ rfl
  refine reaches_exec hinit ⟨hprepares, ?_⟩
  rw [← hprepares.users, World.users_eq, World.usersIn,
    if_pos (mem_opened_initializeTables _ tenantId)]

theorem openPool_raises {s : State} {tenantId : String} (h : s.val.reachable tenantId = false) :
    Raises (openPool tenantId) s := by
  have hregister := World.ok_register s.ok tenantId
  have hunreachable : (s.val.register tenantId).reachable tenantId = false := by
    unfold World.reachable
    rw [(World.prepares_register s.val tenantId).unreachable]
    exact h
  unfold openPool
  refine raises_bind (M := fun _ s' => s' = ⟨_, hregister⟩) (reaches_exec hregister rfl) ?_
  rintro _ _ rfl
  refine raises_bind (M := fun b s' => b = false ∧ s' = ⟨_, hregister⟩)
    (reaches_query ⟨hunreachable, rfl⟩) ?_
  rintro _ _ ⟨rfl, rfl⟩
  exact (raises_raiseIf rfl).bind _

/-! ## Checking the password -/

omit [Unicode] in
/-- The comparisons that pad the check are not among its results. -/
theorem padded_eq_filter (candidates : List Candidate) (accepts : Candidate → Bool)
    (padding : List Bool) :
    (((candidates.zip ((candidates.map accepts ++ padding).take candidates.length)).filter
      fun r => r.2).map fun r => r.1) = candidates.filter accepts := by
  rw [List.take_left' (List.length_map accepts)]
  induction candidates with
  | nil => rfl
  | cons c cs ih =>
    rw [List.map_cons, List.zip_cons_cons]
    cases hc : accepts c with
    | true => rw [List.filter_cons_of_pos rfl, List.filter_cons_of_pos hc, List.map_cons, ih]
    | false =>
      rw [List.filter_cons_of_neg (by simp), List.filter_cons_of_neg (by simp [hc]), ih]

end Sams.Auth
