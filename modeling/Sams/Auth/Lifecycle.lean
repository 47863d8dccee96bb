import Sams.Auth.Arrivals
import Sams.Auth.Defaults

/-!
# The lifecycle of a membership

A step of a run moves where a membership stands along one of a few edges (`Moved`): an invitation,
its acceptance or refusal, a suspension and its end, a revocation. The one way that no lifecycle
operation draws is that of `upsert_user_tenant_map`, which logins and requests call too: where there
is no row it inserts an active one, and a declined invitation leaves no row. In a run in which
nobody comes so to a school whose invitation it declined (`Rejoins`), every way back to an active
membership is the one that the operations name (**`membershipLife_run`**).
-/

namespace Sams.Auth

open Programs Rows Runs AuthService ControlPlaneRepository

/-- Where a membership stands: its email and its status. -/
def World.standing (w : World) (identityId : Nat) (tenantId : String) :
    Option (String × MembershipStatus) :=
  (w.userTenantMap.find? (MembershipRow.isOf identityId tenantId)).map fun m => (m.email, m.status)

theorem World.standing_eq_none {w : World} {identityId : Nat} {tenantId : String} :
    w.standing identityId tenantId = none ↔
      ∀ m ∈ w.userTenantMap, m.isOf identityId tenantId = false := by
  unfold World.standing
  rw [Option.map_eq_none_iff, List.find?_eq_none]
  simp only [Bool.not_eq_true]

theorem exists_of_standing {w : World} {identityId : Nat} {tenantId email : String}
    {status : MembershipStatus} (h : w.standing identityId tenantId = some (email, status)) :
    ∃ m ∈ w.userTenantMap, m.isOf identityId tenantId = true ∧ m.email = email ∧
      m.status = status := by
  obtain ⟨m, hfind, heq⟩ := Option.map_eq_some_iff.1 h
  cases heq
  exact ⟨m, List.mem_of_find?_eq_some hfind, List.find?_some hfind, rfl, rfl⟩

section Standing

variable [Unicode]

theorem isOf_eq {w : World} (hw : w.Ok) {identityId : Nat} {tenantId : String}
    {m m' : MembershipRow}
    (hm : m ∈ w.userTenantMap) (hm' : m' ∈ w.userTenantMap) (h : m.isOf identityId tenantId = true)
    (h' : m'.isOf identityId tenantId = true) : m = m' := by
  simp only [MembershipRow.isOf, decide_eq_true_eq] at h h'
  refine hw.keys.membership_key.eq_of_key_eq hm hm' ?_
  rw [h.1, h.2, h'.1, h'.2]

/-- A membership stands where its row says. -/
theorem standing_of_mem {w : World} (hw : w.Ok) {identityId : Nat} {tenantId : String}
    {m : MembershipRow} (hm : m ∈ w.userTenantMap) (h : m.isOf identityId tenantId = true) :
    w.standing identityId tenantId = some (m.email, m.status) := by
  obtain ⟨m', hfind⟩ := Option.isSome_iff_exists.1
    (List.find?_isSome.2 ⟨m, hm, h⟩ :
      (w.userTenantMap.find? (MembershipRow.isOf identityId tenantId)).isSome)
  have hsame : m' = m :=
    isOf_eq hw (List.mem_of_find?_eq_some hfind) hm (List.find?_some hfind) h
  unfold World.standing
  rw [hfind, hsame]
  rfl

end Standing

/-! ## Steps -/

section Steps

variable [Unicode]

/-- What happens to memberships: the operations on them, logins and requests. -/
inductive LifeOp where
  | membership (op : MembershipOp)
  | login (email password : String) (tenantId : Option String)
  | request (r : HttpRequest)
  deriving DecidableEq, Repr

/-- What one step can do to where a membership stands. -/
inductive Moved (identityId : Nat) (tenantId : String) :
    LifeOp → Option (String × MembershipStatus) → Option (String × MembershipStatus) → Prop
  | stays {op standing} : Moved identityId tenantId op standing standing
  | invited {standing} (email role at_ : String)
      (h : standing = none ∨ ∃ before, standing = some (before, .revoked)) :
      Moved identityId tenantId (.membership (.invite identityId email tenantId role)) standing
        (some (at_, .invited))
  | accepted (email : String) :
      Moved identityId tenantId (.membership (.accept identityId tenantId))
        (some (email, .invited)) (some (email, .active))
  | declined (email : String) :
      Moved identityId tenantId (.membership (.decline identityId tenantId))
        (some (email, .invited)) none
  | suspended {email named : String} (h : CiEq email (normalize named)) :
      Moved identityId tenantId (.membership (.suspend named tenantId))
        (some (email, .active)) (some (email, .suspended))
  | restored {email named : String} (h : CiEq email (normalize named)) :
      Moved identityId tenantId (.membership (.restore named tenantId))
        (some (email, .suspended)) (some (email, .active))
  | revoked {email named : String} (status : MembershipStatus) (h : CiEq email (normalize named)) :
      Moved identityId tenantId (.membership (.revoke named tenantId))
        (some (email, status)) (some (email, .revoked))

variable {identityId : Nat} {tenantId : String}

/-- An `UPDATE` of the status moves the memberships that it meets. -/
theorem moved_update {op : LifeOp} (s : State) {p : MembershipRow → Bool}
    {status : MembershipStatus}
    (h : ∀ m : MembershipRow, m.identityId = identityId → m.tenantId = tenantId → p m = true →
      Moved identityId tenantId op (some (m.email, m.status)) (some (m.email, status))) :
    Moved identityId tenantId op (s.val.standing identityId tenantId)
      ((after (discard (updateMemberships p (MembershipRow.withStatus status))) s).val.standing
        identityId tenantId) := by
  rw [after_discard]
  unfold updateMemberships ask
  rw [after_query_bind, after_bind_idle fun _ _ => rfl]
  refine after_exec_ind (motive := fun s' : State => Moved identityId tenantId op
    (s.val.standing identityId tenantId) (s'.val.standing identityId tenantId)) .stays fun s' hs' =>
      ?_
  cases hstanding : s.val.standing identityId tenantId with
  | none =>
    have hafter : s'.val.standing identityId tenantId = none := by
      rw [World.standing_eq_none] at hstanding ⊢
      intro m' hm'
      rw [hs'] at hm'
      rcases cases_of_mem_updateWhere hm' with ⟨hm, -⟩ | ⟨m, hm, -, rfl⟩
      · exact hstanding m' hm
      · exact hstanding m hm
    rw [hafter]
    exact .stays
  | some standing =>
    obtain ⟨m, hm, hof, hemail, hstatus⟩ := exists_of_standing hstanding
    have hmem : (if p m then m.withStatus status else m) ∈ s'.val.userTenantMap := by
      rw [hs']
      exact mem_updateWhere_of_mem hm
    have hstanding' : standing = (m.email, m.status) := by
      rw [hemail, hstatus]
    rw [hstanding']
    by_cases hp : p m = true
    · rw [if_pos hp] at hmem
      have hof' := hof
      simp only [MembershipRow.isOf, decide_eq_true_eq] at hof'
      rw [standing_of_mem s'.ok hmem hof]
      exact h m hof'.1 hof'.2 hp
    · rw [if_neg hp] at hmem
      rw [standing_of_mem s'.ok hmem hof]
      exact .stays

/-- The row that an invitation inserts or brings back. -/
theorem moved_invite (s : State) (email role : String) (i : Nat) (t : String) :
    Moved identityId tenantId (.membership (.invite i email t role))
      (s.val.standing identityId tenantId)
      ((after (createInvitedMembership i email t role) s).val.standing identityId tenantId) := by
  unfold createInvitedMembership write
  refine after_exec_ind (motive := fun s' : State => Moved identityId tenantId
    (.membership (.invite i email t role)) (s.val.standing identityId tenantId)
    (s'.val.standing identityId tenantId)) .stays fun s' hs' => ?_
  by_cases hthere : s.val.userTenantMap.any fun m => m.identityId = i ∧ m.tenantId = t
  · -- the row that is there is rewritten where it is revoked
    have hmap : s'.val.userTenantMap = updateWhere
        (fun m => m.identityId = i ∧ m.tenantId = t ∧ m.status = .revoked)
        (fun m => { m with status := .invited, role := role }) s.val.userTenantMap := by
      rw [hs', World.inviteMembership, if_pos hthere]
    cases hstanding : s.val.standing identityId tenantId with
    | none =>
      have hafter : s'.val.standing identityId tenantId = none := by
        rw [World.standing_eq_none] at hstanding ⊢
        intro m' hm'
        rw [hmap] at hm'
        rcases cases_of_mem_updateWhere hm' with ⟨hm, -⟩ | ⟨m, hm, -, rfl⟩
        · exact hstanding m' hm
        · exact hstanding m hm
      rw [hafter]
      exact .stays
    | some standing =>
      obtain ⟨m, hm, hof, hemail, hstatus⟩ := exists_of_standing hstanding
      have hmem := mem_updateWhere_of_mem (f := fun m : MembershipRow =>
        { m with status := .invited, role := role })
        (p := fun m => m.identityId = i ∧ m.tenantId = t ∧ m.status = .revoked) hm
      rw [← hmap] at hmem
      by_cases hp : m.identityId = i ∧ m.tenantId = t ∧ m.status = .revoked
      · rw [if_pos (decide_eq_true hp)] at hmem
        have hof' := hof
        simp only [MembershipRow.isOf, decide_eq_true_eq] at hof'
        obtain ⟨hid, htenant, hrevoked⟩ := hp
        rw [standing_of_mem s'.ok hmem hof, ← hid, ← htenant, hof'.1, hof'.2]
        refine .invited email role m.email (.inr ⟨m.email, ?_⟩)
        rw [← hrevoked, hemail, hstatus]
      · rw [if_neg (by simpa using hp)] at hmem
        rw [standing_of_mem s'.ok hmem hof, hemail, hstatus]
        exact .stays
  · have hmap : s'.val.userTenantMap = s.val.userTenantMap ++ [
        { identityId := i, email := normalize email, tenantId := t, role := role, status := .invited
          updatedAt := s.val.now, lastActiveAt := none, isDefault := false }] := by
      rw [hs', World.inviteMembership, if_neg hthere]
    cases hstanding : s.val.standing identityId tenantId with
    | some standing =>
      obtain ⟨m, hm, hof, hemail, hstatus⟩ := exists_of_standing hstanding
      rw [standing_of_mem s'.ok (hmap ▸ List.mem_append_left _ hm) hof, hemail, hstatus]
      exact .stays
    | none =>
      cases hafter : s'.val.standing identityId tenantId with
      | none => exact .stays
      | some standing =>
        obtain ⟨m, hm, hof, hemail, hstatus⟩ := exists_of_standing hafter
        rcases List.mem_append.1 (hmap ▸ hm) with hm | hm
        · rw [World.standing_eq_none.1 hstanding m hm] at hof
          cases hof
        · have hnew := List.mem_singleton.1 hm
          have hstanding' : standing = (standing.1, .invited) :=
            Prod.ext rfl (hstatus.symm.trans (hnew ▸ rfl))
          simp only [MembershipRow.isOf, hnew, decide_eq_true_eq] at hof
          rw [hstanding', hof.1, hof.2]
          exact .invited email role _ (.inl rfl)

/-- Declining deletes the row of an invitation. -/
theorem moved_decline (s : State) (i : Nat) (t : String) :
    Moved identityId tenantId (.membership (.decline i t)) (s.val.standing identityId tenantId)
      ((after (discard (declineMembership i t)) s).val.standing identityId tenantId) := by
  rw [after_discard]
  unfold declineMembership ask
  rw [after_query_bind, after_bind_idle fun _ _ => rfl]
  refine after_exec_ind .stays fun s' hs' => ?_
  have hmap : s'.val.userTenantMap = s.val.userTenantMap.filter fun m =>
      ¬(m.isOf i t ∧ m.status = .invited) := by
    rw [hs']
  cases hstanding : s.val.standing identityId tenantId with
  | none =>
    have hafter : s'.val.standing identityId tenantId = none := by
      rw [World.standing_eq_none] at hstanding ⊢
      intro m hm
      exact hstanding m (List.mem_filter.1 (hmap ▸ hm)).1
    rw [hafter]
    exact .stays
  | some standing =>
    obtain ⟨m, hm, hof, hemail, hstatus⟩ := exists_of_standing hstanding
    by_cases hp : m.isOf i t = true ∧ m.status = .invited
    · have hof' := hof
      have hpof := hp.1
      simp only [MembershipRow.isOf, decide_eq_true_eq] at hof' hpof
      have hafter : s'.val.standing identityId tenantId = none := by
        rw [World.standing_eq_none]
        intro m' hm'
        rw [Bool.eq_false_iff]
        intro hof''
        obtain ⟨hm', hkept⟩ := List.mem_filter.1 (hmap ▸ hm')
        rw [isOf_eq s.ok hm' hm hof'' hof] at hkept
        simp [hp.1, hp.2] at hkept
      have hstanding' : standing = (standing.1, .invited) := by
        rw [← hp.2, hstatus]
      rw [hafter, hstanding', ← hpof.1, ← hpof.2, hof'.1, hof'.2]
      exact .declined _
    · have hmem : m ∈ s'.val.userTenantMap := by
        rw [hmap]
        exact List.mem_filter.2 ⟨hm, decide_eq_true hp⟩
      rw [standing_of_mem s'.ok hmem hof, hemail, hstatus]
      exact .stays

/-- Deleting memberships breaks no constraint. -/
theorem ok_filterMap {w : World} (hw : w.Ok) (p : MembershipRow → Bool) :
    ({ w with userTenantMap := w.userTenantMap.filter p } : World).Ok :=
  { hw with
    keys :=
      { hw.keys with
        membership_key := hw.keys.membership_key.filter p
        membership_email := hw.keys.membership_email.filter p
        membership_default := by
          rw [List.filter_comm]
          exact hw.keys.membership_default.filter p }
    refs :=
      { hw.refs with
        membership_identity := hw.refs.membership_identity.filter_left p
        membership_tenant := hw.refs.membership_tenant.filter_left p }
    drawn := { hw.drawn with } }

/-- An invitation that is declined leaves no row. -/
theorem standing_decline {s : State}
    (hs : (s.val.standing identityId tenantId).map Prod.snd = some .invited) :
    (after (discard (declineMembership identityId tenantId)) s).val.standing identityId
      tenantId = none := by
  let p : MembershipRow → Bool := fun m => ¬(m.isOf identityId tenantId ∧ m.status = .invited)
  have hok := ok_filterMap s.ok p
  have hexec : exec PyError.databaseError
      (fun w => { w with userTenantMap := w.userTenantMap.filter p }) s = .ok () ⟨_, hok⟩ :=
        exec_of hok
  rw [after_discard]
  unfold declineMembership ask write
  rw [after_query_bind, after_bind_idle fun _ _ => rfl, after_ok hexec, World.standing_eq_none]
  intro m hm
  obtain ⟨hm, hkept⟩ := List.mem_filter.1 hm
  rw [Bool.eq_false_iff]
  intro hof
  rw [standing_of_mem s.ok hm hof, Option.map_some, Option.some_inj] at hs
  have hstatus : m.status = .invited := hs
  simp [p, hof, hstatus] at hkept

/-- Choosing a default changes no status. -/
theorem standing_setDefault (s : State) (i : Nat) (t : String) :
    (after (discard (setDefaultMembership i t)) s).val.standing identityId tenantId =
      s.val.standing identityId tenantId := by
  obtain ⟨b, s', hok, -, hval⟩ := setDefaultMembership_ok i t s
  rw [after_discard, after_ok hok, hval]
  unfold World.standing
  rw [s.val.userTenantMap_markDefault, List.find?_map, Option.map_map]
  rfl

end Steps

/-! ## Runs -/

variable {identityId : Nat} {tenantId : String}

/-- An invitation of the identity, and later its own acceptance. -/
def InvitedBack (identityId : Nat) (tenantId : String) (ops : List LifeOp) : Prop :=
  ∃ email role, List.Sublist [.membership (.invite identityId email tenantId role),
    .membership (.accept identityId tenantId)] ops

theorem InvitedBack.cons {ops : List LifeOp} (h : InvitedBack identityId tenantId ops)
    (op : LifeOp) :
    InvitedBack identityId tenantId (op :: ops) := by
  obtain ⟨email, role, hsub⟩ := h
  exact ⟨email, role, hsub.cons op⟩

theorem InvitedBack.accepts {ops : List LifeOp} (h : InvitedBack identityId tenantId ops) :
    .membership (.accept identityId tenantId) ∈ ops := by
  obtain ⟨email, role, hsub⟩ := h
  exact hsub.subset (List.mem_cons_of_mem _ List.mem_cons_self)

section Runs

variable [Unicode] [Platform]

def LifeOp.program : LifeOp → Prog Unit
  | membership op => op.program
  | login email password tenantId => discard (loginUser email password tenantId).seq
  | request r => discard (getCurrentUser r)

def LifeOp.step (s : State) (op : LifeOp) : State := after op.program s

/-- Where an operation comes to a school. -/
def LifeOp.arrivals (w : World) : LifeOp → List Arrival
  | .membership (.upsert email t _) => [⟨email, t⟩]
  | .login email password t =>
    arrivalAt (normalize email) (w.loginSchool (normalize email) password t)
  | .request r => w.requestArrivals r
  | _ => []

/-- There is no row of the membership, and its identity comes to the school by an upsert, a login or
a request, with an email that has no row there either. -/
def Rejoins (identityId : Nat) (tenantId : String) (s : State) (op : LifeOp) : Prop :=
  s.val.standing identityId tenantId = none ∧ ∃ a ∈ op.arrivals s.val, a.tenantId = tenantId ∧
    s.val.OfEmail a.email identityId ∧ ∀ m ∈ s.val.userTenantMap, m.isAt a.email tenantId = false

instance (s : State) : DecidablePred (Rejoins identityId tenantId s) := fun op =>
  inferInstanceAs (Decidable (_ ∧ ∃ a ∈ op.arrivals s.val, _ ∧ _ ∧ ∀ m ∈ s.val.userTenantMap, _))

/-- What arrives rejoins, or finds the membership where it stands. -/
theorem moved_of_arrives {s s' : State} {op : LifeOp} (h : Arrives (op.arrivals s.val) s s') :
    Moved identityId tenantId op (s.val.standing identityId tenantId)
      (s'.val.standing identityId tenantId) ∨ Rejoins identityId tenantId s op := by
  cases hstanding : s.val.standing identityId tenantId with
  | some standing =>
    obtain ⟨m, hm, hof, hemail, hstatus⟩ := exists_of_standing hstanding
    obtain ⟨m', hm', hsame⟩ := h.kept m hm
    have hof' : m'.isOf identityId tenantId = true := by
      unfold MembershipRow.isOf at hof ⊢
      rw [hsame.identityId, hsame.tenantId]
      exact hof
    rw [standing_of_mem s'.ok hm' hof', hsame.email, hsame.status, hemail, hstatus]
    exact .inl .stays
  | none =>
    have hnone := World.standing_eq_none.1 hstanding
    cases hafter : s'.val.standing identityId tenantId with
    | none => exact .inl .stays
    | some standing =>
      obtain ⟨m', hm', hof', hemail, hstatus⟩ := exists_of_standing hafter
      have hold : ∀ m ∈ s.val.userTenantMap, ¬m.SameEdge m' := fun m hm hsame => by
        have hof := hnone m hm
        unfold MembershipRow.isOf at hof hof'
        rw [hsame.identityId, hsame.tenantId, hof] at hof'
        cases hof'
      rcases h.arrived m' hm' with ⟨m, hm, hsame⟩ | ⟨a, ha, hnamed, htenant, hidentity⟩
      · exact (hold m hm hsame).elim
      · simp only [MembershipRow.isOf, decide_eq_true_eq] at hof'
        refine .inr ⟨hstanding, a, ha, htenant.symm.trans hof'.2, hof'.1 ▸ hidentity,
          fun m hm => ?_⟩
        rw [Bool.eq_false_iff]
        intro hat
        simp only [MembershipRow.isAt, decide_eq_true_eq] at hat
        -- the row of the email would be the one that was added
        obtain ⟨m'', hm'', hsame⟩ := h.kept m hm
        have hkey : m'' = m' := by
          refine s'.ok.keys.membership_email.eq_of_key_eq hm'' hm' (Prod.ext ?_ ?_)
          · rw [hsame.email]
            exact hat.1.trans hnamed.symm
          · exact (hsame.tenantId.trans hat.2).trans hof'.2.symm
        exact hold m hm (hkey ▸ hsame)

/-- **One step** moves a membership along an edge, or its identity rejoins. -/
theorem moved_step (s : State) (op : LifeOp) :
    Moved identityId tenantId op (s.val.standing identityId tenantId)
      ((op.step s).val.standing identityId tenantId) ∨ Rejoins identityId tenantId s op := by
  unfold LifeOp.step
  match op with
  | .login email password t =>
    refine moved_of_arrives ?_
    show Arrives _ s (after (discard (loginUser email password t).seq) s)
    rw [after_discard]
    exact arrives_loginUser email password t s
  | .request r =>
    refine moved_of_arrives ?_
    show Arrives _ s (after (discard (getCurrentUser r)) s)
    rw [after_discard]
    exact arrives_getCurrentUser r s
  | .membership (.upsert email t role) =>
    exact moved_of_arrives (arrives_upsertUserTenantMap email t role s)
  | .membership (.invite i email t role) => exact .inl (moved_invite s email role i t)
  | .membership (.decline i t) => exact .inl (moved_decline s i t)
  | .membership (.setDefault i t) =>
    left
    show Moved _ _ _ _ ((after (discard (setDefaultMembership i t)) s).val.standing _ _)
    rw [standing_setDefault]
    exact .stays
  | .membership (.accept i t) =>
    left
    refine moved_update s fun m hid htenant hp => ?_
    simp only [MembershipRow.isOf, decide_eq_true_eq] at hp
    rw [hp.2, ← hid, ← htenant, ← hp.1.1, ← hp.1.2]
    exact .accepted m.email
  | .membership (.suspend email t) =>
    left
    refine moved_update s fun m _ htenant hp => ?_
    simp only [MembershipRow.isAt, decide_eq_true_eq] at hp
    rw [hp.2, ← htenant, ← hp.1.2]
    exact .suspended hp.1.1
  | .membership (.restore email t) =>
    left
    refine moved_update s fun m _ htenant hp => ?_
    simp only [MembershipRow.isAt, decide_eq_true_eq] at hp
    rw [hp.2, ← htenant, ← hp.1.2]
    exact .restored hp.1.1
  | .membership (.revoke email t) =>
    left
    refine moved_update s fun m _ htenant hp => ?_
    simp only [MembershipRow.isAt, decide_eq_true_eq] at hp
    rw [← htenant, ← hp.1.2]
    exact .revoked m.status hp.1.1

/-- The membership has a status. -/
def Stands (identityId : Nat) (tenantId : String) (status : MembershipStatus) (s : State) : Prop :=
  (s.val.standing identityId tenantId).map Prod.snd = some status

instance (status : MembershipStatus) : DecidablePred (Stands identityId tenantId status) := fun s =>
  inferInstanceAs (Decidable ((s.val.standing identityId tenantId).map Prod.snd = some status))

/-- From no membership, or a revoked one, to an active one leads an invitation that is accepted;
from an invitation, an acceptance. -/
theorem way_back {s : State} {ops : List LifeOp}
    (h : EachStep LifeOp.step (fun s op => ¬Rejoins identityId tenantId s op) s ops)
    (hend : Stands identityId tenantId .active (run LifeOp.step s ops)) :
    (s.val.standing identityId tenantId = none ∨ Stands identityId tenantId .revoked s →
      InvitedBack identityId tenantId ops) ∧
    (Stands identityId tenantId .invited s → .membership (.accept identityId tenantId) ∈ ops) := by
  induction ops generalizing s with
  | nil =>
    unfold Stands at *
    rw [run_nil] at hend
    refine ⟨fun hs => ?_, fun hs => ?_⟩
    · rcases hs with hs | hs
      · rw [hs] at hend
        cases hend
      · rw [hs] at hend
        cases hend
    · rw [hs] at hend
      cases hend
  | cons op ops ih =>
    obtain ⟨hback, haccept⟩ := ih h.2 hend
    have hmoved := (moved_step s op).resolve_right h.1
    unfold Stands at *
    -- the edges from where the membership stands
    generalize hb : s.val.standing identityId tenantId = before at *
    generalize ha : (op.step s).val.standing identityId tenantId = later at *
    cases hmoved with
    | stays => exact ⟨fun hs => (hback hs).cons op, fun hs => List.mem_cons_of_mem op (haccept hs)⟩
    | invited email role now hfrom =>
      refine ⟨fun _ => ⟨email, role, ?_⟩, fun hs => ?_⟩
      · exact (List.singleton_sublist.2 (haccept rfl)).cons_cons _
      · exact List.mem_cons_of_mem _ (haccept rfl)
    | accepted email => exact ⟨fun hs => by simp at hs, fun _ => List.mem_cons_self⟩
    | declined email =>
      exact ⟨fun hs => by simp at hs, fun _ => List.mem_cons_of_mem _ (hback (.inl rfl)).accepts⟩
    | suspended _ => exact ⟨fun hs => by simp at hs, fun hs => by simp at hs⟩
    | restored _ => exact ⟨fun hs => by simp at hs, fun hs => by simp at hs⟩
    | revoked status _ =>
      have hpath := hback (.inr rfl)
      exact ⟨fun _ => hpath.cons _, fun _ => List.mem_cons_of_mem _ hpath.accepts⟩

/-- From a suspended membership to an active one leads its restoration, or a revocation before an
invitation that is accepted. -/
theorem way_back_of_suspended {s : State} {ops : List LifeOp} {email : String}
    (h : EachStep LifeOp.step (fun s op => ¬Rejoins identityId tenantId s op) s ops)
    (hend : Stands identityId tenantId .active (run LifeOp.step s ops))
    (hs : s.val.standing identityId tenantId = some (email, .suspended)) :
    (∃ named, CiEq email (normalize named) ∧ .membership (.restore named tenantId) ∈ ops) ∨
      ∃ named before after, CiEq email (normalize named) ∧
        ops = before ++ .membership (.revoke named tenantId) :: after ∧
        InvitedBack identityId tenantId after := by
  induction ops generalizing s with
  | nil =>
    unfold Stands at hend
    rw [run_nil, hs] at hend
    cases hend
  | cons op ops ih =>
    have ih := ih h.2 hend
    have hback := way_back h.2 hend
    have hmoved := (moved_step s op).resolve_right h.1
    unfold Stands at hback
    rw [hs] at hmoved
    generalize ha : (op.step s).val.standing identityId tenantId = later at *
    cases hmoved with
    | stays =>
      rcases ih rfl with ⟨named, hnamed, hmem⟩ | ⟨named, before, after, hnamed, rfl, hpath⟩
      · exact .inl ⟨named, hnamed, List.mem_cons_of_mem _ hmem⟩
      · exact .inr ⟨named, op :: before, after, hnamed, rfl, hpath⟩
    | invited _ role now hfrom => simp at hfrom
    | restored hnamed => exact .inl ⟨_, hnamed, List.mem_cons_self⟩
    | revoked status hnamed => exact .inr ⟨_, [], ops, hnamed, rfl, hback.1 (.inr rfl)⟩

/-- **The lifecycle of a membership**, from any state, in every run in which its identity comes to
the school by no upsert, login or request while the membership has no row. -/
theorem membershipLife_run (s : State) (ops : List LifeOp) (identityId : Nat) (tenantId : String)
    (h : EachStep LifeOp.step (fun s op => ¬Rejoins identityId tenantId s op) s ops)
    (hend : Stands identityId tenantId .active (run LifeOp.step s ops)) :
    (Stands identityId tenantId .revoked s → InvitedBack identityId tenantId ops) ∧
    (∀ rest, Stands identityId tenantId .invited s →
      ops = .membership (.decline identityId tenantId) :: rest →
        InvitedBack identityId tenantId rest) ∧
    (∀ email, s.val.standing identityId tenantId = some (email, .suspended) →
      (∃ named, CiEq email (normalize named) ∧ .membership (.restore named tenantId) ∈ ops) ∨
        ∃ named before after, CiEq email (normalize named) ∧
          ops = before ++ .membership (.revoke named tenantId) :: after ∧
          InvitedBack identityId tenantId after) ∧
    (Stands identityId tenantId .invited s → .membership (.accept identityId tenantId) ∈ ops) := by
  have hback := way_back h hend
  refine ⟨fun hs => hback.1 (.inr hs), fun rest hs hops => ?_,
    fun email hs => way_back_of_suspended h hend hs, hback.2⟩
  subst hops
  exact (way_back h.2 hend).1 (.inl (standing_decline hs))

end Runs

/-! ## An invitation that was declined -/

section Example

attribute [local instance] ascii plain

/-- A teacher whose membership of the first school was revoked. -/
def revokedTeacher : State := MembershipOp.step twoSchools (.revoke "t@x" "north")

/-- The school invites the teacher again, who goes on with the other school before accepting. -/
def invitedAgain : List LifeOp :=
  [.membership (.invite 2 "t@x" "north" "teacher"), .membership (.upsert "t@x" "south" "teacher"),
    .membership (.accept 2 "north")]

theorem invitedAgain_lifecycle : InvitedBack 2 "north" invitedAgain :=
  (membershipLife_run revokedTeacher invitedAgain 2 "north" (by decide +kernel)
    (by decide +kernel)).1
    (by decide +kernel)

/-- A parent who is linked to a school, and invited to it. -/
def invitedParent : State where
  val :=
    { tenants := [⟨"north"⟩], schemas := [⟨"north", [], 1⟩], superAdmins := []
      parents := [⟨1, "p@x", "$p"⟩], parentTenantLinks := [⟨1, "north", 0⟩], identities :=
        [⟨2, "p@x"⟩]
      userTenantMap := [⟨2, "p@x", "north", "parent", .invited, 0, none, false⟩]
      invitations := [], userInvitations := [], selectionChallenges := [], refreshTokens := []
      opened := ["north"], unreachable := [], membershipCache := [], seq := 3, now := 10 }
  ok := by decide +kernel

/-- The parent declines, and logs in. -/
def declinedAndIn : List LifeOp :=
  [.membership (.decline 2 "north"), .login "p@x" "p" (some "north")]

/-- What was declined is active, and nobody accepted it. -/
theorem declined_login : Stands 2 "north" .invited invitedParent ∧
    Stands 2 "north" .active (run LifeOp.step invitedParent declinedAndIn) ∧
    .membership (.accept 2 "north") ∉ declinedAndIn := by
  decide +kernel

end Example

end Sams.Auth
