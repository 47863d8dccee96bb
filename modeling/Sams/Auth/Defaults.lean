import Sams.Auth.Joining
import Sams.Lib.Runs

/-!
# The default school

At most one membership of an identity is its default: a unique index says so. That the default is
active is kept by no constraint: suspending or revoking a membership leaves its mark as the default,
and choosing a school without an active membership clears the default there was and returns `False`
all the same. Where no operation does either, the default is active in every state of every run, and
the choice tells by its result what it did (**`default_run`**).
-/

namespace Sams.Auth

open Programs Rows Runs

/-- A key is unique where rows with the same key are the same. -/
theorem keyed_of_inj {α κ : Type} {key : α → κ} {l : List α} (hl : l.Nodup)
    (h : ∀ x ∈ l, ∀ y ∈ l, key x = key y → x = y) : Keyed key l :=
  List.Nodup.map_on h hl

/-! ## Marking -/

/-- The memberships that are the default once one is chosen. -/
def defaultAfter (identityId : Nat) (tenantId : String) (m : MembershipRow) : Bool :=
  (m.isOf identityId tenantId ∧ m.status = .active) ∨ (m.isDefault ∧ m.identityId ≠ identityId)

/-- The membership with its mark once one is chosen. -/
def marked (identityId : Nat) (tenantId : String) (m : MembershipRow) : MembershipRow :=
  { m with isDefault := defaultAfter identityId tenantId m }

namespace World

variable (w : World)

def clearDefaults (identityId : Nat) : World :=
  w.updateMap (fun m => m.identityId = identityId) (MembershipRow.withDefault false)

def markDefault (identityId : Nat) (tenantId : String) : World :=
  w.updateMap (fun m => m.isOf identityId tenantId ∧ m.status = .active)
    (MembershipRow.withDefault true)

theorem userTenantMap_markDefault (identityId : Nat) (tenantId : String) :
    ((w.clearDefaults identityId).markDefault identityId tenantId).userTenantMap =
      w.userTenantMap.map (marked identityId tenantId) := by
  show updateWhere _ _ (updateWhere _ _ w.userTenantMap) = _
  unfold updateWhere
  rw [List.map_map]
  refine List.map_congr_left fun m _ => ?_
  unfold marked defaultAfter MembershipRow.withDefault MembershipRow.isOf
  by_cases hid : m.identityId = identityId
  · by_cases htenant : m.tenantId = tenantId <;> by_cases hstatus : m.status = .active <;>
      simp [hid, htenant, hstatus]
  · simp [hid]

end World

/-- The identity has an active membership in the tenant. -/
def World.ActiveIn (w : World) (identityId : Nat) (tenantId : String) : Prop :=
  ∃ m ∈ w.userTenantMap, m.isOf identityId tenantId = true ∧ m.status = .active

/-- The memberships are left alone where none is the default and none becomes it. -/
theorem markDefault_same {w : World} {identityId : Nat} {tenantId : String}
    (hnone : ∀ m ∈ w.userTenantMap, m.identityId = identityId → m.isDefault = false)
    (hinactive : ¬w.ActiveIn identityId tenantId) :
    ((w.clearDefaults identityId).markDefault identityId tenantId).userTenantMap =
      w.userTenantMap := by
  rw [w.userTenantMap_markDefault]
  refine (List.map_congr_left fun m hm => ?_).trans (List.map_id' _)
  have hmark : defaultAfter identityId tenantId m = m.isDefault := by
    have hnot : ¬(m.isOf identityId tenantId = true ∧ m.status = .active) :=
      fun h => hinactive ⟨m, hm, h.1, h.2⟩
    unfold defaultAfter
    by_cases hid : m.identityId = identityId
    · simp [hnot, hid, hnone m hm hid]
    · simp [hnot, hid]
  unfold marked
  rw [hmark]

section Defaults

variable [Unicode]

/-! ## Rewriting memberships -/

/-- A rewriting that writes no key fits the constraints when the defaults do. -/
theorem ok_updateMap {w : World} (hw : w.Ok) {p : MembershipRow → Bool}
    {f : MembershipRow → MembershipRow} (hid : ∀ m, (f m).identityId = m.identityId)
    (hemail : ∀ m, (f m).email = m.email) (htenant : ∀ m, (f m).tenantId = m.tenantId)
    (hdefault : Keyed MembershipRow.identityId
      ((updateWhere p f w.userTenantMap).filter MembershipRow.isDefault)) :
    (w.updateMap p f).Ok :=
  { hw with
    keys :=
      { hw.keys with
        membership_key := hw.keys.membership_key.updateWhere fun m => by rw [hid, htenant]
        membership_email := hw.keys.membership_email.updateWhere fun m => by rw [hemail, htenant]
        membership_default := hdefault }
    refs :=
      { hw.refs with
        membership_identity := hw.refs.membership_identity.updateWhere fun m => by rw [hid]
        membership_tenant := hw.refs.membership_tenant.updateWhere fun m => by rw [htenant] }
    drawn := { hw.drawn with } }

theorem nodup_memberships {w : World} (hw : w.Ok) : w.userTenantMap.Nodup :=
  List.Nodup.of_map _ hw.keys.membership_key

/-- Clearing the defaults of an identity breaks no constraint. -/
theorem ok_clearDefaults {w : World} (hw : w.Ok) (identityId : Nat) :
    (w.clearDefaults identityId).Ok := by
  refine ok_updateMap hw (fun _ => rfl) (fun _ => rfl) (fun _ => rfl) ?_
  have hdefaults :
      (updateWhere (fun m => m.identityId = identityId) (MembershipRow.withDefault false)
      w.userTenantMap).filter MembershipRow.isDefault =
        w.userTenantMap.filter fun m => m.isDefault ∧ m.identityId ≠ identityId := by
    induction w.userTenantMap with
    | nil => rfl
    | cons m ms ih =>
      unfold updateWhere at ih ⊢
      rw [List.map_cons, List.filter_cons, List.filter_cons, ih]
      by_cases hid : m.identityId = identityId <;> cases hd : m.isDefault <;>
        simp [hid, hd, MembershipRow.withDefault]
  rw [hdefaults]
  refine keyed_of_inj ((nodup_memberships hw).filter _) fun x hx y hy hkey => ?_
  simp only [List.mem_filter, decide_eq_true_eq] at hx hy
  exact hw.keys.membership_default.eq_of_key_eq (List.mem_filter.2 ⟨hx.1, hx.2.1⟩)
    (List.mem_filter.2 ⟨hy.1, hy.2.1⟩) hkey

/-- One default is chosen where there is none. -/
theorem ok_markDefault {w : World} (hw : w.Ok) (identityId : Nat) (tenantId : String) :
    ((w.clearDefaults identityId).markDefault identityId tenantId).Ok := by
  refine ok_updateMap (ok_clearDefaults hw identityId) (fun _ => rfl) (fun _ => rfl)
    (fun _ => rfl) ?_
  have hmap : updateWhere (fun m => m.isOf identityId tenantId ∧ m.status = .active)
      (MembershipRow.withDefault true) (w.clearDefaults identityId).userTenantMap =
        w.userTenantMap.map (marked identityId tenantId) :=
    w.userTenantMap_markDefault identityId tenantId
  rw [hmap, List.filter_map]
  show (List.map MembershipRow.identityId (List.map _ _)).Nodup
  rw [List.map_map]
  refine List.Nodup.map_on (fun x hx y hy hkey => ?_) ((nodup_memberships hw).filter _)
  have hkey' : x.identityId = y.identityId := hkey
  simp only [List.mem_filter, Function.comp_apply, marked, defaultAfter, MembershipRow.isOf,
    decide_eq_true_eq] at hx hy
  obtain ⟨hx, hx'⟩ := hx
  obtain ⟨hy, hy'⟩ := hy
  rcases hx' with ⟨⟨hxi, hxt⟩, -⟩ | ⟨hxd, hxi⟩
  · rcases hy' with ⟨⟨hyi, hyt⟩, -⟩ | ⟨-, hyi⟩
    · refine hw.keys.membership_key.eq_of_key_eq hx hy ?_
      rw [hkey', hxt, hyt]
    · exact (hyi (hkey'.symm.trans hxi)).elim
  · rcases hy' with ⟨⟨hyi, -⟩, -⟩ | ⟨hyd, -⟩
    · exact (hxi (hkey'.trans hyi)).elim
    · exact hw.keys.membership_default.eq_of_key_eq (List.mem_filter.2 ⟨hx, hxd⟩)
        (List.mem_filter.2 ⟨hy, hyd⟩) hkey'

/-! ## Choosing a default -/

/-- The active membership in the tenant is the only default of the identity. -/
def World.SoleDefault (w : World) (identityId : Nat) (tenantId : String) : Prop :=
  ∃ m ∈ w.userTenantMap, m.isOf identityId tenantId = true ∧ m.status = .active ∧
    m.isDefault = true ∧
    ∀ m' ∈ w.userTenantMap, m'.identityId = identityId → m'.isDefault = true → m' = m

/-- One membership is counted where there is one. -/
theorem countP_active {w : World} (hw : w.Ok) (identityId : Nat) (tenantId : String) :
    w.userTenantMap.countP (fun m => m.isOf identityId tenantId ∧ m.status = .active) = 1 ↔
      w.ActiveIn identityId tenantId := by
  have hle : w.userTenantMap.countP (fun m => m.isOf identityId tenantId ∧
      m.status = .active) ≤ 1 := by
    have hcount := List.nodup_iff_count_le_one.1 hw.keys.membership_key (identityId, tenantId)
    rw [List.count, List.countP_map] at hcount
    refine le_trans (List.countP_mono_left fun m _ hm => ?_) hcount
    simp only [MembershipRow.isOf, decide_eq_true_eq] at hm
    simp only [Function.comp_apply, beq_iff_eq, Prod.mk.injEq]
    exact hm.1
  have hpos := List.countP_pos_iff (p := fun m : MembershipRow =>
    decide (m.isOf identityId tenantId ∧ m.status = .active)) (l := w.userTenantMap)
  simp only [decide_eq_true_eq] at hpos
  unfold World.ActiveIn
  rw [← hpos]
  omega

open ControlPlaneRepository

/-- What choosing a default does. -/
theorem setDefaultMembership_ok (identityId : Nat) (tenantId : String) (s : State) :
    ∃ b s', setDefaultMembership identityId tenantId s = .ok b s' ∧
      (b = true ↔ s.val.ActiveIn identityId tenantId) ∧
      s'.val = (s.val.clearDefaults identityId).markDefault identityId tenantId := by
  have hclear := ok_clearDefaults s.ok identityId
  have hmark := ok_markDefault s.ok identityId tenantId
  let p : MembershipRow → Bool := fun m => m.isOf identityId tenantId ∧ m.status = .active
  have hcount : (s.val.clearDefaults identityId).userTenantMap.countP p =
      s.val.userTenantMap.countP p := by
    show (updateWhere _ _ s.val.userTenantMap).countP p = _
    unfold updateWhere
    rw [List.countP_map]
    refine List.countP_congr fun m _ => ?_
    show p (if _ then m.withDefault false else m) = true ↔ _
    split_ifs <;> exact Iff.rfl
  refine ⟨decide ((s.val.clearDefaults identityId).userTenantMap.countP p = 1), ⟨_, hmark⟩,
    ?_, ?_, rfl⟩
  · refine transaction_eq_ok.2 (bind_eq_ok.2 ⟨(), ⟨_, hclear⟩, exec_of hclear, ?_⟩)
    exact bind_eq_ok.2 ⟨_, _, rfl, bind_eq_ok.2 ⟨(), ⟨_, hmark⟩, exec_of hmark, rfl⟩⟩
  · rw [decide_eq_true_eq, hcount]
    exact countP_active s.ok identityId tenantId

/-- After a choice the active membership in the tenant, if there is one, is the only default. -/
theorem soleDefault_iff (w : World) (identityId : Nat) (tenantId : String) (hw : w.Ok) :
    ((w.clearDefaults identityId).markDefault identityId tenantId).SoleDefault identityId tenantId ↔
      w.ActiveIn identityId tenantId := by
  unfold World.SoleDefault
  rw [w.userTenantMap_markDefault]
  constructor
  · rintro ⟨m, hm, hof, hactive, -⟩
    obtain ⟨x, hx, rfl⟩ := List.mem_map.1 hm
    exact ⟨x, hx, hof, hactive⟩
  · rintro ⟨x, hx, hof, hactive⟩
    refine ⟨marked identityId tenantId x, List.mem_map_of_mem hx, hof, hactive, ?_,
      fun m hm hid hd => ?_⟩
    · simp [marked, defaultAfter, hof, hactive]
    · obtain ⟨y, hy, rfl⟩ := List.mem_map.1 hm
      have hid' : y.identityId = identityId := hid
      simp only [marked, defaultAfter, decide_eq_true_eq] at hd
      rcases hd with ⟨hyof, -⟩ | ⟨-, hne⟩
      · have hsame : y = x := by
          simp only [MembershipRow.isOf, decide_eq_true_eq] at hof hyof
          refine hw.keys.membership_key.eq_of_key_eq hy hx ?_
          rw [hof.1, hof.2, hyof.1, hyof.2]
        rw [hsame]
      · exact (hne hid').elim

/-- The choice tells by its result what it did. -/
def SetsDefault (s : State) (identityId : Nat) (tenantId : String) : Prop :=
  ∃ b s', setDefaultMembership identityId tenantId s = .ok b s' ∧
    (b = true ↔ s'.val.SoleDefault identityId tenantId) ∧
    (b = false → s'.val.userTenantMap = s.val.userTenantMap)

/-- There is an active membership to choose, or no default to lose. -/
def MayChoose (s : State) (identityId : Nat) (tenantId : String) : Prop :=
  s.val.ActiveIn identityId tenantId ∨
    ∀ m ∈ s.val.userTenantMap, m.identityId = identityId → m.isDefault = false

/-- **One choice** tells what it did exactly where it has a membership to choose
or nothing to lose. -/
theorem setsDefault_iff (s : State) (identityId : Nat) (tenantId : String) :
    SetsDefault s identityId tenantId ↔ MayChoose s identityId tenantId := by
  obtain ⟨b, s', hok, hb, hval⟩ := setDefaultMembership_ok identityId tenantId s
  have hsole : s'.val.SoleDefault identityId tenantId ↔ s.val.ActiveIn identityId tenantId := by
    rw [hval]
    exact soleDefault_iff s.val identityId tenantId s.ok
  constructor
  · rintro ⟨b', t, hok', -, hsame⟩
    rw [hok] at hok'
    cases hok'
    by_cases hactive : s.val.ActiveIn identityId tenantId
    · exact .inl hactive
    · refine .inr fun m hm hid => ?_
      have hfalse : b = false := by
        by_contra hne
        exact hactive (hb.1 (by simpa using hne))
      -- the mark of the membership is gone, and the memberships are as before
      have hmap := hsame hfalse
      rw [hval, s.val.userTenantMap_markDefault] at hmap
      have hkept := List.map_eq_map_iff.1 (hmap.trans (List.map_id' s.val.userTenantMap).symm) m hm
      have hmark : defaultAfter identityId tenantId m = m.isDefault :=
        congrArg MembershipRow.isDefault hkept
      have hnot : ¬(m.isOf identityId tenantId = true ∧ m.status = .active) :=
        fun h => hactive ⟨m, hm, h.1, h.2⟩
      rw [← hmark]
      simp [defaultAfter, hnot, hid]
  · intro hmay
    refine ⟨b, s', hok, hb.trans hsole.symm, fun hfalse => ?_⟩
    have hinactive : ¬s.val.ActiveIn identityId tenantId := by
      intro hactive
      rw [hb.2 hactive] at hfalse
      cases hfalse
    rw [hval]
    exact markDefault_same (hmay.resolve_left hinactive) hinactive

/-! ## Runs -/

/-- The default is active. -/
def DefaultsActive (s : State) : Prop :=
  ∀ m ∈ s.val.userTenantMap, m.isDefault = true → m.status = .active

/-- At most one membership of an identity is its default, and that one is active. -/
def OneActiveDefault (s : State) : Prop :=
  ∀ m ∈ s.val.userTenantMap, m.isDefault = true → m.status = .active ∧
    ∀ m' ∈ s.val.userTenantMap, m'.isDefault = true → m'.identityId = m.identityId → m' = m

/-- No default is suspended or revoked, and none is lost to a school that cannot be chosen. -/
def MindsDefault (s : State) : MembershipOp → Prop
  | .suspend email tenantId =>
    ∀ m ∈ s.val.userTenantMap, m.isAt email tenantId = true → m.isDefault = false
  | .revoke email tenantId =>
    ∀ m ∈ s.val.userTenantMap, m.isAt email tenantId = true → m.isDefault = false
  | .setDefault identityId tenantId => MayChoose s identityId tenantId
  | _ => True

instance (s : State) (identityId : Nat) (tenantId : String) :
    Decidable (MayChoose s identityId tenantId) :=
  inferInstanceAs (Decidable ((∃ m ∈ s.val.userTenantMap, _) ∨ ∀ m ∈ s.val.userTenantMap, _))

instance (s : State) : DecidablePred (MindsDefault s)
  | .suspend _ _ => inferInstanceAs (Decidable (∀ m ∈ s.val.userTenantMap, _))
  | .revoke _ _ => inferInstanceAs (Decidable (∀ m ∈ s.val.userTenantMap, _))
  | .setDefault _ _ => inferInstanceAs (Decidable (MayChoose s _ _))
  | .invite _ _ _ _ | .accept _ _ | .decline _ _ | .restore _ _ | .upsert _ _ _ => .isTrue trivial

instance : DecidablePred OneActiveDefault := fun s =>
  inferInstanceAs (Decidable (∀ m ∈ s.val.userTenantMap, _))

/-- What the step says of the choice that it is. -/
def ChoosesWell (s : State) : MembershipOp → Prop
  | .setDefault identityId tenantId => SetsDefault s identityId tenantId
  | _ => True

theorem defaultsActive_updateWhere {s s' : State} {p : MembershipRow → Bool}
    {status : MembershipStatus} (hs : DefaultsActive s)
    (hp : ∀ m ∈ s.val.userTenantMap, p m = true → m.isDefault = true → status = .active)
    (h : s'.val = s.val.updateMap p (MembershipRow.withStatus status)) : DefaultsActive s' := by
  intro m' hm' hd
  rw [h] at hm'
  rcases cases_of_mem_updateWhere hm' with ⟨hm, -⟩ | ⟨m, hm, hpm, rfl⟩
  · exact hs m' hm hd
  · exact hp m hm hpm hd

theorem defaultsActive_update {s : State} {p : MembershipRow → Bool} {status : MembershipStatus}
    (hs : DefaultsActive s)
    (hp : ∀ m ∈ s.val.userTenantMap, p m = true → m.isDefault = true → status = .active) :
    DefaultsActive (after (discard (updateMemberships p (MembershipRow.withStatus status))) s) := by
  rw [after_discard]
  unfold updateMemberships ask write
  rw [after_query_bind, after_bind_idle fun _ _ => rfl]
  exact after_exec_ind hs fun s' h => defaultsActive_updateWhere hs hp h

theorem defaultsActive_of_joins {s s' : State} (hs : DefaultsActive s) (h : Joins s s') :
    DefaultsActive s' := by
  intro m' hm' hd
  rcases h.added m' hm' with ⟨m, hm, hsame⟩ | ⟨hactive, -⟩
  · exact hsame.status.trans (hs m hm (hsame.isDefault.symm.trans hd))
  · exact hactive

/-- **One step** that minds the defaults leaves them active. -/
theorem defaultsActive_step {s : State} {op : MembershipOp} (hs : DefaultsActive s)
    (h : MindsDefault s op) : DefaultsActive (op.step s) := by
  cases op with
  | invite identityId email tenantId role =>
    show DefaultsActive (after (write fun w => w.inviteMembership identityId email tenantId role) s)
    refine after_exec_ind hs fun s' hs' m' hm' hd => ?_
    rw [hs'] at hm'
    unfold World.inviteMembership at hm'
    split_ifs at hm'
    · rcases cases_of_mem_updateWhere hm' with ⟨hm, -⟩ | ⟨m, hm, hrevoked, rfl⟩
      · exact hs m' hm hd
      · -- a revoked membership is no default
        have hactive := hs m hm hd
        simp only [decide_eq_true_eq] at hrevoked
        rw [hrevoked.2.2] at hactive
        cases hactive
    · rcases List.mem_append.1 hm' with hm | hm
      · exact hs m' hm hd
      · rw [List.mem_singleton.1 hm] at hd
        cases hd
  | accept identityId tenantId => exact defaultsActive_update hs fun _ _ _ _ => rfl
  | decline identityId tenantId =>
    show DefaultsActive (after (discard (declineMembership identityId tenantId)) s)
    rw [after_discard]
    unfold declineMembership ask write
    rw [after_query_bind, after_bind_idle fun _ _ => rfl]
    refine after_exec_ind hs fun s' hs' => ?_
    intro m hm hd
    rw [hs'] at hm
    exact hs m (List.mem_filter.1 hm).1 hd
  | setDefault identityId tenantId =>
    obtain ⟨b, s', hok, -, hval⟩ := setDefaultMembership_ok identityId tenantId s
    show DefaultsActive (after (discard (setDefaultMembership identityId tenantId)) s)
    rw [after_discard, after_ok hok]
    intro m' hm' hd
    rw [hval, s.val.userTenantMap_markDefault] at hm'
    obtain ⟨m, hm, rfl⟩ := List.mem_map.1 hm'
    simp only [marked, defaultAfter, decide_eq_true_eq] at hd
    rcases hd with ⟨-, hactive⟩ | ⟨hd, -⟩
    · exact hactive
    · exact hs m hm hd
  | suspend email tenantId =>
    refine defaultsActive_update hs fun m hm hp hd => ?_
    simp only [decide_eq_true_eq] at hp
    rw [h m hm hp.1] at hd
    cases hd
  | restore email tenantId => exact defaultsActive_update hs fun _ _ _ _ => rfl
  | revoke email tenantId =>
    refine defaultsActive_update hs fun m hm hp hd => ?_
    simp only [decide_eq_true_eq] at hp
    rw [h m hm hp.1] at hd
    cases hd
  | upsert email tenantId role =>
    exact defaultsActive_of_joins hs (joins_upsertUserTenantMap email tenantId role s)

theorem DefaultsActive.one {s : State} (h : DefaultsActive s) : OneActiveDefault s := by
  intro m hm hd
  refine ⟨h m hm hd, fun m' hm' hd' hid => ?_⟩
  exact s.ok.keys.membership_default.eq_of_key_eq (List.mem_filter.2 ⟨hm', hd'⟩)
    (List.mem_filter.2 ⟨hm, hd⟩) hid

/-- **The default school** in every run whose steps mind it: in every state at most one membership
is the default and it is active, and every choice tells by its result what it did. -/
theorem default_run (s : State) (ops : List MembershipOp) (h0 : OneActiveDefault s)
    (h : EachStep MembershipOp.step MindsDefault s ops) :
    Throughout MembershipOp.step OneActiveDefault s ops ∧
      EachStep MembershipOp.step ChoosesWell s ops := by
  have hs : DefaultsActive s := fun m hm hd => (h0 m hm hd).1
  have hstep : ∀ s op, DefaultsActive s → MindsDefault s op → DefaultsActive (op.step s) :=
    fun _ _ hs h => defaultsActive_step hs h
  refine ⟨(run_throughout hstep hs h).mono fun _ h => h.one,
    run_each hstep (fun s op _ hop => ?_) hs h⟩
  cases op with
  | setDefault identityId tenantId => exact (setsDefault_iff s identityId tenantId).2 hop
  | _ => trivial

end Defaults

/-! ## A default that is lost -/

section Example

attribute [local instance] ascii

/-- A teacher of two schools; the first is the default. -/
def twoSchools : State where
  val :=
    { tenants := [⟨"north"⟩, ⟨"south"⟩], schemas := [], superAdmins := [], parents := []
      parentTenantLinks := [], identities := [⟨2, "t@x"⟩]
      userTenantMap := [⟨2, "t@x", "north", "teacher", .active, 0, none, true⟩,
        ⟨2, "t@x", "south", "teacher", .active, 0, none, false⟩]
      invitations := [], userInvitations := [], selectionChallenges := [], refreshTokens := []
      opened := [], unreachable := [], membershipCache := [], seq := 3, now := 10 }
  ok := by decide +kernel

/-- Another default is chosen before the first is suspended. -/
def handedOver : List MembershipOp :=
  [.setDefault 2 "south", .suspend "t@x" "north", .restore "t@x" "north", .setDefault 2 "north"]

theorem handedOver_default : Throughout MembershipOp.step OneActiveDefault twoSchools handedOver ∧
    EachStep MembershipOp.step ChoosesWell twoSchools handedOver :=
  default_run twoSchools handedOver (by decide +kernel) (by decide +kernel)

/-- The default is suspended and stays the default; and a school that the identity is no member of
is refused, but the default is lost. -/
theorem default_suspended : OneActiveDefault twoSchools ∧
    ¬OneActiveDefault (MembershipOp.step twoSchools (.suspend "t@x" "north")) ∧
    ¬SetsDefault twoSchools 2 "west" := by
  refine ⟨by decide +kernel, by decide +kernel, fun h => ?_⟩
  have hlost : ¬MayChoose twoSchools 2 "west" := by decide +kernel
  exact hlost ((setsDefault_iff twoSchools 2 "west").1 h)

end Example

end Sams.Auth
