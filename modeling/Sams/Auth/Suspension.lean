import Sams.Auth.Emails
import Sams.Auth.Families
import Sams.Auth.Selection

/-!
# Suspended accounts

A request is refused in a school where the membership of the token's email is suspended or
revoked, unless the caller is a super admin. A token that a login or a redemption issued carries
the email of its account, and the account keeps its email (`Carried`), so suspensions are
enforced on it from then on (**`suspension_run`**). A token that a rotation issued carries no
email, and nothing is checked.
-/

namespace Sams.Auth

open Programs Rows Interleaving Runs AuthService ControlPlaneRepository UserRepository

section Suspension

variable [Unicode]

/-! ## Identities -/

/-- The emails of identities were normalized. -/
def NormalIdentities (s : State) : Prop := ∀ a ∈ s.val.identities, ∃ e, a.email = normalize e

/-- Identities stay what they are. -/
structure Remembered (s s' : State) : Prop where
  normal : NormalIdentities s'
  kept : ∀ a ∈ s.val.identities, a ∈ s'.val.identities

def Remembers (s s' : State) : Prop := NormalIdentities s → Remembered s s'

instance : IsPreorder State Remembers where
  refl _ hs := ⟨hs, fun _ ha => ha⟩
  trans _ _ _ h h' hs :=
    have hk := h hs
    have hk' := h' hk.normal
    ⟨hk'.normal, fun a ha => hk'.kept a (hk.kept a ha)⟩

theorem remembers_of_same {s s' : State} (h : s'.val.identities = s.val.identities) :
    Remembers s s' := by
  intro hs
  unfold NormalIdentities at hs
  rw [← h] at hs
  exact ⟨hs, fun a ha => h ▸ ha⟩

/-- The email that an upsert writes is the one that is there. -/
theorem identities_upsertIdentity (laws : LawfulTables) {s : State} (hs : NormalIdentities s)
    (email : String) : (s.val.upsertIdentity (normalize email)).identities = s.val.identities ∨
      (s.val.upsertIdentity (normalize email)).identities =
        s.val.identities ++ [⟨s.val.seq, normalize email⟩] := by
  unfold World.upsertIdentity
  cases s.val.identityByEmail (normalize email) with
  | none => exact .inr rfl
  | some a =>
    refine .inl (updateWhere_eq_self fun i hi hp => ?_)
    obtain ⟨e, he⟩ := hs i hi
    have hci : CiEq i.email (normalize email) := of_decide_eq_true hp
    rw [he] at hci
    rw [← laws.eq_of_ciEq hci, ← he]

theorem remembers_upsertIdentity (laws : LawfulTables) (email : String) :
    Moves Remembers (exec .databaseError fun w => w.upsertIdentity (normalize email) :
      EStateM PyError State Unit) := by
  refine moves_exec fun s hok => ?_
  have hwritten : ∀ s' : State, s'.val = s.val.upsertIdentity (normalize email) →
      Remembers s s' := by
    intro s' hs' hs
    have hidentities := identities_upsertIdentity laws hs email
    rw [← hs'] at hidentities
    rcases hidentities with h | h
    · exact remembers_of_same h hs
    · constructor
      · intro a ha
        rw [h] at ha
        rcases List.mem_append.1 ha with ha | ha
        · exact hs a ha
        · rw [List.mem_singleton.1 ha]
          dsimp only
          exact ⟨email, rfl⟩
      · intro a ha
        rw [h]
        exact List.mem_append_left _ ha
  exact hwritten _ rfl

theorem about_remembers (laws : LawfulTables) : AboutAccounts Remembers where
  same _ _ h _ := remembers_of_same h
  upsertIdentity := remembers_upsertIdentity laws
  upsertMembership identityId email tenantId role := by
    refine moves_exec fun s _ => remembers_of_same ?_
    unfold World.upsertMembership
    split_ifs <;> rfl
  touch identityId tenantId := by
    rw [touchMembershipLastActive, stmt, Proc.seq_once]
    exact moves_exec fun _ _ => remembers_of_same rfl

theorem NormalIdentities.after {s : State} (hs : NormalIdentities s) {α : Type} {m : Prog α}
    (hm : Moves Remembers m) {a : α} {s' : State} (hok : m s = .ok a s') : Remembered s s' :=
  after_ok hok ▸ hm s hs

/-! ## Tokens that carry the email of their account -/

/-- The token is for an identity, and carries its email. -/
def Carried (s : State) (token : AccessToken) : Prop :=
  ∃ a ∈ s.val.identities, token.identityId = some a.id ∧ token.email = a.email

theorem Remembered.carried {s s' : State} (h : Remembered s s') {token : AccessToken}
    (hs : Carried s token) : Carried s' token := by
  obtain ⟨a, ha, hid, hemail⟩ := hs
  exact ⟨a, h.kept a ha, hid, hemail⟩

section Bears

variable {α β : Type}

/-- Where the program returns a token, the token carries the email of its account. -/
def Bears (tokenOf : α → Option AccessToken) (p : Task α) : Prop :=
  ∀ s a s', NormalIdentities s → p.seq s = .ok a s' → ∀ token, tokenOf a = some token →
    Carried s' token

theorem bears_bind {tokenOf : α → Option AccessToken} {p : Task β} {f : β → Task α}
    (hp : Moves Remembers p.seq) (hf : ∀ b, Bears tokenOf (f b)) : Bears tokenOf (p >>= f) := by
  intro s a s' hs hok
  rw [Proc.seq_bind] at hok
  obtain ⟨b, t, hb, ha⟩ := bind_eq_ok.1 hok
  exact hf b t a s' (hs.after hp hb).normal ha

theorem bears_map {tokenOf : α → Option AccessToken} {tokenOf' : β → Option AccessToken}
    {p : Task β} {f : β → α} (hp : Bears tokenOf' p) (hf : ∀ b, tokenOf (f b) = tokenOf' b) :
    Bears tokenOf (f <$> p) := by
  intro s a s' hs hok token htoken
  rw [map_eq_pure_bind, Proc.seq_bind] at hok
  obtain ⟨b, t, hb, ha⟩ := bind_eq_ok.1 hok
  obtain ⟨rfl, rfl⟩ := pure_eq_ok.1 ha
  exact hp s b t hs hb token ((hf b).symm.trans htoken)

theorem bears_fail {tokenOf : α → Option AccessToken} (e : PyError) : Bears tokenOf (.fail e) := by
  intro s a s' _ hok
  exact (throw_eq_ok.1 hok).elim

/-- The session of an account, with what comes before it. -/
theorem session_carried {a : IdentityRow} {α : Type} {p : Task α}
    {f : α → Task Session} (hp : Moves Remembers p.seq)
    (hf : ∀ x s session s', NormalIdentities s → a ∈ s.val.identities →
      (f x).seq s = .ok session s' →
      Carried s' session.accessToken) {s s' : State} {session : Session} (hs : NormalIdentities s)
    (ha : a ∈ s.val.identities) (hok : (p >>= f).seq s = .ok session s') :
    Carried s' session.accessToken := by
  rw [Proc.seq_bind] at hok
  obtain ⟨x, t, hx, hok⟩ := bind_eq_ok.1 hok
  have hkept := hs.after hp hx
  exact hf x t session s' hkept.normal (hkept.kept a ha) hok

theorem getOrCreateIdentity_ok (laws : LawfulTables) {s s' : State} {email : String}
    {a : IdentityRow}
    (hs : NormalIdentities s) (hok : (getOrCreateIdentity email).seq s = .ok a s') :
    NormalIdentities s' ∧ a ∈ s'.val.identities ∧ a.email = normalize email := by
  have hnormal :=
    (hs.after ((about_remembers laws).handlesQuiet.getOrCreateIdentity email) hok).normal
  unfold getOrCreateIdentity at hok
  rw [Proc.seq_once] at hok
  obtain ⟨_, t, -, hok⟩ := bind_eq_ok.1 hok
  rw [query_bind] at hok
  cases hrow : t.val.identityByEmail (normalize email) with
  | none =>
    rw [hrow] at hok
    exact (throw_eq_ok.1 hok).elim
  | some row =>
    rw [hrow] at hok
    obtain ⟨rfl, rfl⟩ := pure_eq_ok.1 hok
    have hmem := List.mem_of_find?_eq_some hrow
    obtain ⟨e, he⟩ := hnormal _ hmem
    have hci :=
      List.find?_some (p := fun i : IdentityRow => decide (CiEq i.email (normalize email))) hrow
    rw [decide_eq_true_eq] at hci
    refine ⟨hnormal, hmem, ?_⟩
    rw [he] at hci ⊢
    exact laws.eq_of_ciEq hci

theorem handled_admits {w : World} {c : Caller} {selection : Option String} {r : Resolution}
    {x : Caller × Resolution} (h : w.handled c selection r = some x) :
    x.1 = c ∧ w.shutOut c x.2.tenantId = false := by
  unfold World.handled at h
  obtain ⟨y, -, h⟩ := Option.bind_eq_some_iff.1 h
  obtain ⟨r', -, h⟩ := Option.bind_eq_some_iff.1 h
  by_cases hshut : w.shutOut c r'.tenantId = true
  · rw [if_pos hshut] at h
    cases h
  · rw [if_neg hshut] at h
    cases h
    exact ⟨rfl, by simpa using hshut⟩

end Bears

section Tokens

variable [Platform]

theorem createAccessToken_ok {s s' : State} {userId : Nat} {tenantId role email : String}
    {roles : List String} {identityId : Option Nat} {token : AccessToken}
    (hok : (createAccessToken userId tenantId role email roles identityId).seq s = .ok token s') :
    token.email = email ∧ token.identityId = identityId ∧ s' = s := by
  unfold createAccessToken clock read at hok
  rw [Proc.seq_bind, Proc.seq_look, query_bind] at hok
  obtain ⟨rfl, rfl⟩ := pure_eq_ok.1 hok
  exact ⟨rfl, rfl, rfl⟩

/-- A session is for the account whose email it is given. -/
theorem issueSession_carried (laws : LawfulTables) {s s' : State} {a : IdentityRow}
    {session : Session}
    {userId : Nat} {tenantId role : String} {roles : List String} (hs : NormalIdentities s)
    (ha : a ∈ s.val.identities)
    (hok : (issueSession userId tenantId role a.email roles a.id).seq s = .ok session s') :
    Carried s' session.accessToken := by
  unfold issueSession at hok
  rw [Proc.seq_bind] at hok
  obtain ⟨token, t, htoken, hrest⟩ := bind_eq_ok.1 hok
  obtain ⟨hemail, hid, rfl⟩ := createAccessToken_ok htoken
  rw [Proc.seq_bind] at hrest
  obtain ⟨raw, t', hraw, hret⟩ := bind_eq_ok.1 hrest
  obtain ⟨rfl, rfl⟩ := pure_eq_ok.1 hret
  have hkept := hs.after ((about_remembers laws).handlesTokens.issueRefreshToken _ _ _) hraw
  exact hkept.carried ⟨a, ha, hid, hemail⟩

theorem completeLogin_carried (laws : LawfulTables) (chosen : Candidate) (email : String) :
    Bears (fun session : Session => some session.accessToken)
      (completeLogin chosen (normalize email)) := by
  have hquiet := (about_remembers laws).handlesQuiet
  intro s session s' hs hok token htoken
  cases htoken
  unfold completeLogin at hok
  rw [Proc.seq_bind] at hok
  obtain ⟨a, t, ha, hok⟩ := bind_eq_ok.1 hok
  obtain ⟨ht, hmem, hemail⟩ := getOrCreateIdentity_ok laws hs ha
  rw [laws.normalize_normalize] at hemail
  rw [← hemail] at hok
  cases hrecord : chosen.record with
  | superAdmin admin =>
    rw [hrecord] at hok
    exact issueSession_carried laws ht hmem hok
  | parent parent =>
    rw [hrecord] at hok
    refine session_carried (hquiet.look _) (fun isLinked => ?_) ht hmem hok
    intro s session s' hs ha hok
    refine session_carried (hquiet.failIf _ _) (fun _ => ?_) hs ha hok
    intro s session s' hs ha hok
    refine session_carried (hquiet.getDbPool _) (fun _ => ?_) hs ha hok
    intro s session s' hs ha hok
    refine session_carried (hquiet.look _) (fun user => ?_) hs ha hok
    intro s session s' hs ha hok
    refine session_carried (p := ensureLocalParent _ _ _ user) ?_ (fun _ => ?_) hs ha hok
    · cases user with
      | some user => exact hquiet.ret _
      | none => exact hquiet.createUser _ _ _ _
    intro s session s' hs ha hok
    refine session_carried (hquiet.upsertUserTenantMap _ _ _) (fun _ => ?_) hs ha hok
    intro s session s' hs ha hok
    exact issueSession_carried laws hs ha hok
  | tenantUser user =>
    rw [hrecord] at hok
    refine session_carried (hquiet.upsertUserTenantMap _ _ _) (fun _ => ?_) ht hmem hok
    intro s session s' hs ha hok
    exact issueSession_carried laws hs ha hok

/-! ## Logins and redemptions -/

/-- The access token that a login answers, if it answers a session. -/
def LoginResult.token : LoginResult → Option AccessToken
  | .session given => some given.accessToken
  | .selectTenant _ _ _ => none

def Session.token (session : Session) : Option AccessToken := some session.accessToken

theorem issueLoginSelectionChallenge_none (email : String) (matched : List Candidate) :
    Bears LoginResult.token (issueLoginSelectionChallenge email matched) := by
  intro s result s' _ hok token htoken
  unfold issueLoginSelectionChallenge at hok
  rw [Proc.seq_bind] at hok
  obtain ⟨_, _, -, hok⟩ := bind_eq_ok.1 hok
  rw [Proc.seq_bind] at hok
  obtain ⟨_, _, -, hok⟩ := bind_eq_ok.1 hok
  rw [Proc.seq_bind] at hok
  obtain ⟨_, _, -, hok⟩ := bind_eq_ok.1 hok
  rw [Proc.seq_bind] at hok
  obtain ⟨_, _, -, hok⟩ := bind_eq_ok.1 hok
  obtain ⟨rfl, rfl⟩ := pure_eq_ok.1 hok
  cases htoken

theorem bears_session (laws : LawfulTables) (chosen : Candidate) (email : String) :
    Bears LoginResult.token (LoginResult.session <$> completeLogin chosen (normalize email)) :=
  bears_map (completeLogin_carried laws chosen email) fun _ => rfl

theorem loginCandidate_carried (laws : LawfulTables) (email password : String)
    (candidate : Option Candidate) :
    Bears LoginResult.token (loginCandidate (normalize email) password candidate) := by
  have hquiet := (about_remembers laws).handlesQuiet
  cases candidate with
  | none => exact bears_fail _
  | some chosen =>
    refine bears_bind (hquiet.failIf _ _) fun _ => ?_
    rw [← map_eq_pure_bind]
    exact bears_session laws chosen email

theorem loginUser_carried (laws : LawfulTables) (email password : String)
    (tenantId : Option String) :
    Bears LoginResult.token (loginUser email password tenantId) := by
  have hhandles := (about_remembers laws).handlesTokens.handles
  refine bears_bind (hhandles.enumerateLoginTenants _) fun found => ?_
  cases Text.nonEmpty tenantId with
  | some t =>
    refine bears_bind (hhandles.failIf _ _) fun _ =>
      bears_bind (hhandles.fetchLoginCandidate _ _ _ _) ?_
    exact fun candidate => loginCandidate_carried laws email password candidate
  | none =>
    show Bears LoginResult.token (loginUnnamed (normalize email) password found)
    unfold loginUnnamed
    split_ifs
    · refine bears_bind (hhandles.bind (hhandles.look _) fun _ => hhandles.scanTenants _ _)
        fun fallback => ?_
      cases fallback with
      | none => exact bears_fail _
      | some candidate => exact loginCandidate_carried laws email password (some candidate)
    · refine bears_bind (hhandles.mapM fun _ => hhandles.fetchLoginCandidate _ _ _ _) fun _ =>
        bears_bind (hhandles.bind (hhandles.map _ hhandles.draw) fun _ => hhandles.ret _)
          fun matched => ?_
      match matched with
      | [] => exact bears_fail _
      | [chosen] =>
        show Bears LoginResult.token (completeLogin chosen (normalize email) >>= fun session =>
          pure (LoginResult.session session))
        rw [← map_eq_pure_bind]
        exact bears_session laws chosen email
      | c :: c' :: rest => exact issueLoginSelectionChallenge_none _ _

theorem loginRedeem_carried (laws : LawfulTables) (selectionToken tenantId : String) :
    Bears Session.token (loginRedeem selectionToken tenantId) := by
  have hhandles := (about_remembers laws).handlesTokens.handles
  refine bears_bind (hhandles.consume _) fun row => ?_
  cases row with
  | none => exact bears_fail _
  | some row =>
    refine bears_bind (hhandles.failIf _ _) fun _ =>
      bears_bind (hhandles.wrap _ (hhandles.selectedAccount _ _)) fun account => ?_
    intro s session s' hs hok token htoken
    cases htoken
    rw [Proc.seq_bind] at hok
    unfold getIdentityById read at hok
    rw [Proc.seq_look, query_bind] at hok
    dsimp only at hok
    cases hfind : s.val.identities.find? fun i => i.id = row.identityId with
    | none =>
      rw [hfind] at hok
      exact (throw_eq_ok.1 hok).elim
    | some a =>
      rw [hfind] at hok
      have hmem := List.mem_of_find?_eq_some hfind
      have hid := List.find?_some hfind
      rw [decide_eq_true_eq] at hid
      unfold redeemSession at hok
      dsimp only at hok
      rw [← hid, Proc.seq_bind] at hok
      obtain ⟨token, t, htoken, hrest⟩ := bind_eq_ok.1 hok
      obtain ⟨hemail, hidentity, rfl⟩ := createAccessToken_ok htoken
      rw [Proc.seq_bind] at hrest
      obtain ⟨_, t', htouch, hrest⟩ := bind_eq_ok.1 hrest
      rw [Proc.seq_bind] at hrest
      obtain ⟨raw, t'', hraw, hret⟩ := bind_eq_ok.1 hrest
      obtain ⟨rfl, rfl⟩ := pure_eq_ok.1 hret
      have htouched := hs.after (hhandles.touchMembership _ _) htouch
      have hissued := htouched.normal.after (hhandles.issue _ _ _) hraw
      exact hissued.carried (htouched.carried ⟨a, hmem, hidentity, hemail⟩)

/-! ## Requests with such a token -/

/-- The membership of the token's account in the tenant is suspended or revoked. -/
def AccountBarred (s : State) (token : AccessToken) (tenantId : String) : Prop :=
  ∃ a ∈ s.val.identities, token.identityId = some a.id ∧ s.val.barred a.email tenantId = true

/-- No request with the token is handled in a tenant that bars its account. -/
def Enforced (s : State) (token : AccessToken) : Prop :=
  ∀ request : HttpRequest, request.credentials = some (.internal token) →
    ∀ u s', getCurrentUser request s = .ok u s' →
      ∀ t, u.tenantId = some t → ¬AccountBarred s token t

/-- A token that carries the email of its account, and is no super admin's, is refused where
its account is barred. -/
theorem enforced_of_carried {s : State} {token : AccessToken} (hcarried : Carried s token)
    (hemail : token.email ≠ "") (hordinary : (s.val.holder token).isSuperAdmin = false) :
    Enforced s token := by
  rintro request hcredentials u s' hok t ht ⟨a, ha, hid, hbarred⟩
  obtain ⟨b, hb, hid', hsame⟩ := hcarried
  have hab : a = b := by
    rw [hid, Option.some_inj] at hid'
    exact s.ok.keys.identity_key.eq_of_key_eq ha hb hid'
  rw [hab, ← hsame] at hbarred
  by_cases hexp : token.exp ≤ s.val.now
  · obtain ⟨x, hx, -⟩ := (getCurrentUser_answers request s).of_ok hok
    rw [userOf_expired hcredentials hexp] at hx
    cases hx
  · obtain ⟨x, hx, huser⟩ := (getCurrentUser_answers request s).of_ok hok
    rw [userOf_internal hcredentials (Nat.lt_of_not_le hexp)] at hx
    obtain ⟨hcaller, hopen⟩ := handled_admits hx
    have htenant : u.tenantId = Text.nonEmpty (some x.2.tenantId) :=
      congrArg Authz.CurrentUser.tenantId huser
    have hne : x.2.tenantId ≠ "" := by
      intro hempty
      rw [hempty, Text.nonEmpty_empty, ht] at htenant
      cases htenant
    rw [Text.nonEmpty_some hne, ht, Option.some_inj] at htenant
    have hholder : (s.val.holder token).email = token.email := emailOr_claims token
    rw [htenant] at hbarred
    simp [World.shutOut, hordinary, hne, hholder, hemail, hbarred] at hopen

/-! ## Runs -/

/-- What can happen: logins, redemptions, rotations and the other requests of the service, changes
of memberships, and requests with a token. -/
inductive SessionOp where
  | auth (r : Request)
  | membership (op : MembershipOp)
  | http (r : HttpRequest)
  deriving DecidableEq, Repr

def SessionOp.program : SessionOp → Prog Unit
  | auth r => discard r.task.seq
  | membership op => op.program
  | http r => discard (getCurrentUser r)

def SessionOp.step (s : State) (op : SessionOp) : State := after op.program s

theorem remembers_step (laws : LawfulTables) (s : State) (op : SessionOp) :
    Remembers s (op.step s) := by
  have habout := about_remembers laws
  have hwrite : ∀ f : World → World, (∀ w, (f w).identities = w.identities) →
      Moves Remembers (write f) := fun f hf => moves_exec fun _ _ => remembers_of_same (hf _)
  have hupdate : ∀ p f, Moves Remembers (updateMemberships p f) := fun p f =>
    moves_bind (moves_ask _) fun _ => moves_bind (hwrite _ fun _ => rfl) fun _ => moves_pure _
  unfold SessionOp.step
  match op with
  | .auth r => exact moves_map (habout.handlesTokens.task r) s
  | .http r => exact moves_map (habout.resolving.getCurrentUser r) s
  | .membership (.upsert email tenantId role) =>
    exact habout.handlesQuiet.upsertUserTenantMap email tenantId role s
  | .membership (.invite identityId email tenantId role) =>
    have h : Moves Remembers (createInvitedMembership identityId email tenantId role) := by
      refine hwrite _ fun w => ?_
      unfold World.inviteMembership
      split_ifs <;> rfl
    exact h s
  | .membership (.accept _ _) => exact moves_map (hupdate _ _) s
  | .membership (.suspend _ _) => exact moves_map (hupdate _ _) s
  | .membership (.restore _ _) => exact moves_map (hupdate _ _) s
  | .membership (.revoke _ _) => exact moves_map (hupdate _ _) s
  | .membership (.decline identityId tenantId) =>
    have h : Moves Remembers (discard (declineMembership identityId tenantId)) := by
      refine moves_map (moves_bind (moves_ask _) fun _ => moves_bind ?_ fun _ => moves_pure _)
      exact hwrite _ fun _ => rfl
    exact h s
  | .membership (.setDefault identityId tenantId) =>
    have h : Moves Remembers (discard (setDefaultMembership identityId tenantId)) := by
      refine moves_map (moves_transaction (moves_bind ?_ fun _ => hupdate _ _))
      exact hwrite _ fun _ => rfl
    exact h s

theorem remembers_run (laws : LawfulTables) (s : State) (ops : List SessionOp) :
    Remembers s (run SessionOp.step s ops) := by
  induction ops generalizing s with
  | nil => exact refl_of Remembers s
  | cons op ops ih => exact trans_of Remembers (remembers_step laws s op) (ih _)

/-- A login or a redemption that answers a token. -/
def Issues (s : State) (r : Request) (token : AccessToken) : Prop :=
  (∃ email password tenantId result s', r = .login email password tenantId ∧
    (loginUser email password tenantId).seq s = .ok result s' ∧ result.token = some token) ∨
  ∃ selectionToken tenantId session s', r = .redeem selectionToken tenantId ∧
    (loginRedeem selectionToken tenantId).seq s = .ok session s' ∧ session.token = some token

theorem Issues.carried (laws : LawfulTables) {s : State} {r : Request} {token : AccessToken}
    (hs : NormalIdentities s) (h : Issues s r token) :
    Carried (SessionOp.step s (.auth r)) token := by
  have hafter : ∀ {α : Type} {p : Task α} {a : α} {s' : State} {f : α → Response},
      r.task = f <$> p → p.seq s = .ok a s' → SessionOp.step s (.auth r) = s' := by
    intro α p a s' f htask hok
    show after (discard r.task.seq) s = s'
    rw [after_discard, htask, map_eq_pure_bind, Proc.seq_bind, after_bind_idle fun _ _ => rfl]
    exact after_ok hok
  rcases h with ⟨email, password, tenantId, result, s', rfl, hok, htoken⟩ |
    ⟨selectionToken, tenantId, session, s', rfl, hok, htoken⟩
  · rw [hafter rfl hok]
    exact loginUser_carried laws email password tenantId s result s' hs hok token htoken
  · rw [hafter rfl hok]
    exact loginRedeem_carried laws selectionToken tenantId s session s' hs hok token htoken

/-- **Suspensions are enforced**, in every state of every run, on the tokens that logins and
redemptions issued before, where the token carries an email and is no super admin's. -/
theorem suspension_run (laws : LawfulTables) (s : State) (hs : NormalIdentities s)
    (before later : List SessionOp) (r : Request) (token : AccessToken)
    (hissued : Issues (run SessionOp.step s before) r token) (hemail : token.email ≠ "")
    (hordinary : ((run SessionOp.step s (before ++ .auth r :: later)).val.holder
      token).isSuperAdmin = false) :
    Enforced (run SessionOp.step s (before ++ .auth r :: later)) token := by
  have hbefore := (remembers_run laws s before hs).normal
  have hcarried := hissued.carried laws hbefore
  have hnormal := (remembers_step laws _ (.auth r) hbefore).normal
  refine enforced_of_carried ?_ hemail hordinary
  rw [run_append, run_cons]
  exact (remembers_run laws _ later hnormal).carried hcarried

end Tokens

end Suspension

/-! ## A teacher who is suspended -/

section Example

attribute [local instance] ascii plain

def teacherLogin : Request := .login "t@x" "p" (some "north")

/-- What the teacher gets by logging in. -/
def loginToken : AccessToken := ⟨"1", "north", "teacher", ["teacher"], "t@x", 910, some 2⟩

/-- What the teacher gets for the refresh token of that login. -/
def rotatedToken : AccessToken := { loginToken with email := "" }

theorem loginToken_enforced :
    Enforced (run SessionOp.step oneTeacher
      [.auth teacherLogin, .membership (.suspend "t@x" "north")]) loginToken := by
  have hnormal : NormalIdentities oneTeacher := by
    intro a ha
    rw [List.mem_singleton.1 ha]
    exact ⟨"t@x", by decide⟩
  have hissued : Issues oneTeacher teacherLogin loginToken := by
    have hreturned : returned (loginUser "t@x" "p" (some "north")).seq oneTeacher =
        some (.session ⟨loginToken, "ttt"⟩) := by decide +kernel
    obtain ⟨s', hok⟩ := returned_eq_some.1 hreturned
    exact .inl ⟨_, _, _, _, s', rfl, hok, rfl⟩
  exact suspension_run lawful_ascii oneTeacher hnormal [] [.membership (.suspend "t@x" "north")] _ _
    hissued (by decide) (by decide +kernel)

/-- The token of a rotation is honoured after the suspension. -/
theorem rotatedToken_honoured :
    (∃ refreshToken, returned (rotateRefreshToken "ttt").seq
      (run SessionOp.step oneTeacher [.auth teacherLogin]) =
        some ⟨rotatedToken, refreshToken⟩) ∧
    ¬Enforced (run SessionOp.step oneTeacher [.auth teacherLogin, .auth (.rotate "ttt"),
      .membership (.suspend "t@x" "north")]) rotatedToken := by
  refine ⟨⟨"tttttt", by decide +kernel⟩, fun henforced => ?_⟩
  have hbarred : AccountBarred (run SessionOp.step oneTeacher [.auth teacherLogin,
      .auth (.rotate "ttt"), .membership (.suspend "t@x" "north")]) rotatedToken "north" :=
    ⟨⟨2, "t@x"⟩, by decide +kernel, rfl, by decide +kernel⟩
  have hhandled : (returned (getCurrentUser { credentials := some (.internal rotatedToken) })
      (run SessionOp.step oneTeacher [.auth teacherLogin, .auth (.rotate "ttt"),
        .membership (.suspend "t@x" "north")])).bind Authz.CurrentUser.tenantId = some "north" := by
    decide +kernel
  obtain ⟨u, hu, htenant⟩ := Option.bind_eq_some_iff.1 hhandled
  obtain ⟨s', hok⟩ := returned_eq_some.1 hu
  exact henforced _ rfl u s' hok "north" htenant hbarred

end Example

end Sams.Auth
