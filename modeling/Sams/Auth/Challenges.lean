import Sams.Auth.Candidates
import Sams.Auth.Rotation

/-!
# Redeeming a selection once

A login that finds several schools answers with a challenge. The `UPDATE` that consumes it asks for
its hash, that it is not consumed and that its time has not come, and a redemption goes on only with
the row that its own `UPDATE` has consumed: it takes the challenge from every other one. What it
goes on with names the tenants that the password matched. So in every run of the requests a
challenge is redeemed at most once, for one of these tenants and in its time (**`challenge_run`**).
-/

namespace Sams.Auth

open Programs Runs Rows Interleaving AuthService ControlPlaneRepository

/-! ## Challenges -/

section Challenges

variable [Unicode]

/-- The challenge with this hash is consumed. -/
def Consumed (tokenHash : String) (s : State) : Prop :=
  ∃ c ∈ s.val.selectionChallenges, c.tokenHash = tokenHash ∧ c.consumedAt.isSome

/-- The challenge with this hash is for these tenants, until then. -/
def Challenged (tokenHash : String) (matched : List String) (expiresAt : Nat) (s : State) : Prop :=
  ∃ c ∈ s.val.selectionChallenges,
    c.tokenHash = tokenHash ∧ c.matchedTenants = matched ∧ c.expiresAt = expiresAt

theorem stable_consumed (tokenHash : String) : Proc.Stable Grows (Consumed tokenHash) := by
  rintro s s' ⟨c, hc, hhash, hconsumed⟩ hgrows
  obtain ⟨c', hc', hlater⟩ := hgrows.challenges c hc
  exact ⟨c', hc', hlater.tokenHash.trans hhash, hlater.consumed hconsumed⟩

theorem stable_challenged (tokenHash : String) (matched : List String) (expiresAt : Nat) :
    Proc.Stable Grows (Challenged tokenHash matched expiresAt) := by
  rintro s s' ⟨c, hc, hhash, hmatched, hexpires⟩ hgrows
  obtain ⟨c', hc', hlater⟩ := hgrows.challenges c hc
  exact ⟨c', hc', hlater.tokenHash.trans hhash, hlater.matched.trans hmatched,
    hlater.expires.trans hexpires⟩

theorem stable_now (n : Nat) : Proc.Stable Grows fun s : State => n ≤ s.val.now :=
  fun _ _ h hgrows => h.trans hgrows.now

/-- A hash is of one challenge. -/
theorem Challenged.eq {tokenHash : String} {m m' : List String} {e e' : Nat} {s : State}
    (h : Challenged tokenHash m e s) (h' : Challenged tokenHash m' e' s) : m = m' ∧ e = e' := by
  obtain ⟨c, hc, hhash, rfl, rfl⟩ := h
  obtain ⟨c', hc', hhash', rfl, rfl⟩ := h'
  have hsame : c = c' := s.ok.keys.challenge_hash.eq_of_key_eq hc hc' (hhash.trans hhash'.symm)
  exact ⟨congrArg _ hsame, congrArg _ hsame⟩

/-- What the consuming `UPDATE` finds and leaves. -/
theorem consume_ok {tokenHash : String} {s s' : State} {row : Option ChallengeRow}
    (h : (do
      let row ← query fun s : State => s.val.selectionChallenges.find? (redeemable s.val tokenHash)
      exec .databaseError fun w =>
        { w with
          selectionChallenges := updateWhere (redeemable w tokenHash)
            (fun c => { c with consumedAt := some w.now }) w.selectionChallenges }
      pure row : EStateM PyError State (Option ChallengeRow)) s = .ok row s') :
    row = s.val.selectionChallenges.find? (redeemable s.val tokenHash) ∧ s'.val.now = s.val.now ∧
      s'.val.selectionChallenges = updateWhere (redeemable s.val tokenHash)
        (fun c => { c with consumedAt := some s.val.now }) s.val.selectionChallenges := by
  rw [query_bind] at h
  obtain ⟨u, t, hexec, hpure⟩ := bind_eq_ok.1 h
  obtain ⟨rfl, rfl⟩ := pure_eq_ok.1 hpure
  have hval := exec_eq_ok.1 hexec
  rw [hval]
  exact ⟨rfl, rfl, rfl⟩

omit [Unicode] in
theorem redeemable_iff {w : World} {tokenHash : String} {c : ChallengeRow} :
    redeemable w tokenHash c = true ↔
      c.tokenHash = tokenHash ∧ c.consumedAt = none ∧ w.now < c.expiresAt := by
  simp [redeemable]

variable [Platform]

/-! ## One redemption -/

/-- **A redemption takes its challenge.** -/
theorem takes_loginRedeem (H : Mark → State → Prop) (selectionToken tenantId : String) :
    (loginRedeem selectionToken tenantId).Takes H Grows
      (Consumed (Platform.hashToken selectionToken)) fun _ => True := by
  intro s _ _
  dsimp only
  split
  · rename_i row s' h
    obtain ⟨hrow, -, hchallenges⟩ := consume_ok h
    cases row with
    | none => exact .inr ⟨_, Proc.stable_true _, trivial, Proc.takes_fail _⟩
    | some c =>
      have hc := List.mem_of_find?_eq_some hrow.symm
      have hfound := List.find?_some hrow.symm
      obtain ⟨hhash, hconsumed, -⟩ := redeemable_iff.1 hfound
      refine .inl ⟨?_, { c with consumedAt := some s.val.now }, ?_, hhash, rfl⟩
      · rintro ⟨c', hc', hhash', hconsumed'⟩
        have hsame : c' = c :=
          s.ok.keys.challenge_hash.eq_of_key_eq hc' hc (hhash'.trans hhash.symm)
        rw [hsame, hconsumed] at hconsumed'
        cases hconsumed'
      · rw [hchallenges]
        exact mem_updateWhere_of_pos hc hfound
  · trivial

/-- What a redemption is for. -/
def Redeems (selectionToken tenantId : String) (session : Session) (s : State) : Prop :=
  session.accessToken.tenantId = tenantId ∧
    ∃ matched expiresAt, tenantId ∈ matched ∧
      Challenged (Platform.hashToken selectionToken) matched expiresAt s

variable {H : Mark → State → Prop}

omit [Platform] in
/-- A redemption starts with the row that the `UPDATE` finds. -/
theorem valid_consume {tokenHash : String} {A : State → Prop}
    {post : Option ChallengeRow → State → Prop}
    (hfound : ∀ s s', A s → s'.val.selectionChallenges = updateWhere (redeemable s.val tokenHash)
        (fun c => { c with consumedAt := some s.val.now }) s.val.selectionChallenges →
      post (s.val.selectionChallenges.find? (redeemable s.val tokenHash)) s')
    (hstable : ∀ row, Proc.Stable Grows (post row)) :
    (redeemSelectionChallenge tokenHash).Valid H Grows (fun _ => Grows) post A := by
  refine Proc.valid_once ?_ (fun s hs row s' h => ?_) hstable
  · exact moves_bind (moves_query _) fun _ => moves_bind (moves_redeem tokenHash) fun _ =>
      moves_pure _
  · obtain ⟨rfl, -, hchallenges⟩ := consume_ok h
    exact hfound s s' hs hchallenges

/-- What follows the `UPDATE` goes on for a tenant of the row. -/
theorem gives_redeemRow (tenantId : String) (row : Option ChallengeRow) :
    (redeemRow tenantId row).Gives H (fun _ => Grows) fun session =>
      session.accessToken.tenantId = tenantId ∧ ∃ c ∈ row, tenantId ∈ c.matchedTenants := by
  have h := handles_grows H
  cases row with
  | none => exact Proc.gives_fail _
  | some c =>
    refine Proc.gives_bind (M := fun _ => tenantId ∈ c.matchedTenants) ?_ fun _ hin => ?_
    · exact Proc.valid_failIf fun hin _ _ => not_not.1 hin
    · refine Proc.gives_bind (h.wrap _ (h.selectedAccount _ _)) fun account _ => ?_
      refine Proc.gives_bind (h.look _) fun identity _ => ?_
      cases identity with
      | none => exact Proc.gives_fail _
      | some identity =>
        refine Proc.gives_bind (M := fun token => token.tenantId = tenantId) ?_ fun token htoken =>
          ?_
        · exact Proc.gives_bind (h.look _) fun _ _ => Proc.gives_ret rfl
        · refine Proc.gives_bind (h.touchMembership _ _) fun _ _ => ?_
          exact Proc.gives_bind (h.issue _ _ _) fun _ _ => Proc.gives_ret ⟨htoken, c, rfl, hin⟩

/-- **A redemption is for a tenant of its challenge.** -/
theorem valid_loginRedeem (selectionToken tenantId : String) :
    (loginRedeem selectionToken tenantId).Valid H Grows (fun _ => Grows)
      (Redeems selectionToken tenantId) fun _ => True := by
  let found : Option ChallengeRow → State → Prop := fun row s =>
    ∀ c ∈ row, Challenged (Platform.hashToken selectionToken) c.matchedTenants c.expiresAt s
  have hfound : ∀ row, Proc.Stable Grows (found row) :=
    fun row s s' hs hgrows c hc => stable_challenged _ _ _ s s' (hs c hc) hgrows
  refine Proc.valid_bind (M := found) (valid_consume ?_ hfound) fun row => ?_
  · intro s s' _ hchallenges c hc
    have hredeemable := List.find?_some hc
    refine ⟨{ c with consumedAt := some s.val.now }, ?_, (redeemable_iff.1 hredeemable).1, rfl, rfl⟩
    rw [hchallenges]
    exact mem_updateWhere_of_pos (List.mem_of_find?_eq_some hc) hredeemable
  · have hgives := Proc.Gives.valid (gives_redeemRow (H := H) tenantId row) Grows fun _ => True
    have hframe := hgives.frame (fun _ _ _ h => h) (hfound row)
    refine (hframe.consequence ?_).mono fun s hs => ⟨trivial, hs⟩
    rintro session s ⟨⟨htenant, c, hc, hin⟩, hchallenged⟩
    exact ⟨htenant, _, _, hin, hchallenged c hc⟩

/-- The time of the challenge with this hash has come. -/
def Expired (tokenHash : String) (s : State) : Prop :=
  ∃ matched expiresAt, Challenged tokenHash matched expiresAt s ∧ expiresAt ≤ s.val.now

omit [Platform] in
theorem stable_expired (tokenHash : String) : Proc.Stable Grows (Expired tokenHash) := by
  rintro s s' ⟨matched, expiresAt, hchallenged, hcome⟩ hgrows
  exact ⟨matched, expiresAt, stable_challenged _ _ _ s s' hchallenged hgrows,
    hcome.trans hgrows.now⟩

/-- From then on the `UPDATE` finds nothing, and no redemption returns. -/
theorem late_loginRedeem (selectionToken tenantId : String) :
    (loginRedeem selectionToken tenantId).Valid H Grows (fun _ => Grows) (fun _ _ => False)
      (Expired (Platform.hashToken selectionToken)) := by
  refine Proc.valid_bind (M := fun row _ => row = none) (valid_consume ?_ ?_) fun row => ?_
  · rintro s s' ⟨matched, expiresAt, ⟨c, hc, hhash, -, rfl⟩, hcome⟩ -
    refine List.find?_eq_none.2 fun c' hc' hredeemable => ?_
    obtain ⟨hhash', -, hlater⟩ := redeemable_iff.1 hredeemable
    have hsame : c' = c := s.ok.keys.challenge_hash.eq_of_key_eq hc' hc (hhash'.trans hhash.symm)
    rw [hsame] at hlater
    omega
  · exact fun row s s' hs _ => hs
  · refine Proc.valid_of_start fun s hnone => ?_
    subst hnone
    exact Proc.valid_fail _

/-! ## One login -/

def Candidate.choice (c : Candidate) : Choice := ⟨c.tenantId, c.role⟩

/-- The candidates whose hash the password is of, each for its tenant. -/
def Matched (password : String) (choices : List Choice) (matched : List Candidate) : Prop :=
  (∀ c ∈ matched, c.accepts password = true) ∧ choices = matched.map Candidate.choice

/-- A choice that a login answers with is a challenge for the tenants that matched, and it says how
long. -/
def Offers (password : String) (result : LoginResult) (s : State) : Prop :=
  ∀ token n choices, result = .selectTenant token n choices →
    ∃ matched expiresAt, Matched password choices matched ∧ expiresAt ≤ s.val.now + n ∧
      Challenged (Platform.hashToken token) (choices.map Choice.tenantId) expiresAt s

/-- Nothing is offered with a session. -/
theorem offers_session (password : String) (session : Session) (s : State) :
    Offers password (.session session) s := by
  intro token n choices h
  cases h

theorem gives_verifyCandidatesPadded (candidates : List Candidate) (password : String) :
    (verifyCandidatesPadded candidates password).Gives H (fun _ => Grows) fun matched =>
      ∀ c ∈ matched, c.accepts password = true := by
  have h := handles_grows H
  refine Proc.gives_bind (h.hashPassword _) fun dummyHash _ => Proc.gives_ret fun c hc => ?_
  rw [padded_eq_filter] at hc
  exact (List.mem_filter.1 hc).2

omit [Platform] in
theorem valid_createSelectionChallenge (tokenHash : String) (identityId : Nat)
    (matched : List String) (expiresAt : Nat) :
    (createSelectionChallenge tokenHash identityId matched expiresAt).Valid H Grows (fun _ => Grows)
      (fun _ => Challenged tokenHash matched expiresAt) fun _ => True := by
  refine Proc.valid_once (moves_exec fun s _ => ?_) (fun s _ u s' h => ?_) fun _ =>
    stable_challenged _ _ _
  · refine grows_of_challenges rfl rfl fun c hc => ?_
    exact ⟨c, List.mem_append_left _ hc, c.later_refl⟩
  · unfold Challenged
    rw [exec_eq_ok.1 h]
    exact ⟨_, List.mem_append_right _ List.mem_cons_self, rfl, rfl, rfl⟩

theorem valid_issueLoginSelectionChallenge (email password : String) {matched : List Candidate}
    (hmatched : ∀ c ∈ matched, c.accepts password = true) :
    (issueLoginSelectionChallenge email matched).Valid H Grows (fun _ => Grows) (Offers password)
      fun _ => True := by
  have h := handles_grows H
  refine Proc.Keeps.bind (h.getOrCreateIdentity email) fun identity => ?_
  refine Proc.Keeps.bind (h.map _ h.draw) fun raw => ?_
  refine Proc.valid_bind (M := fun now s => now ≤ s.val.now) (Proc.valid_once (moves_query _) ?_ ?_)
    fun now => ?_
  · rintro s - now s' hnow
    obtain ⟨rfl, rfl⟩ := query_eq_ok.1 hnow
    exact le_rfl
  · exact fun now => stable_now now
  · let challenged : State → Prop := fun s =>
      Challenged (Platform.hashToken raw) (matched.map Candidate.tenantId) (now + 120) s
    refine Proc.valid_bind (M := fun _ s => challenged s ∧ now ≤ s.val.now) ?_ fun _ => ?_
    · refine ((valid_createSelectionChallenge _ _ _ _).frame (fun _ _ _ h => h)
        (stable_now now)).mono
        fun s hs => ⟨trivial, hs⟩
    · refine Proc.valid_ret ?_
      rintro s ⟨hchallenged, hnow⟩ token n choices hoffer
      cases hoffer
      refine ⟨matched, now + 120, ⟨hmatched, rfl⟩, by omega, ?_⟩
      rw [List.map_map]
      exact hchallenged

theorem valid_loginMatched (email password : String) {matched : List Candidate}
    (hmatched : ∀ c ∈ matched, c.accepts password = true) :
    (loginMatched email matched).Valid H Grows (fun _ => Grows) (Offers password) fun _ =>
      True := by
  match matched with
  | [] => exact Proc.valid_fail _
  | [chosen] =>
    refine Proc.Keeps.bind ((handles_grows H).completeLogin chosen email) fun session => ?_
    exact Proc.valid_ret fun s _ => offers_session password session s
  | c :: c' :: rest => exact valid_issueLoginSelectionChallenge email password hmatched

theorem valid_loginCandidate (email password : String) (chosen : Option Candidate) :
    (loginCandidate email password chosen).Valid H Grows (fun _ => Grows) (Offers password)
      fun _ => True := by
  cases chosen with
  | none => exact Proc.valid_fail _
  | some chosen =>
    refine Proc.Keeps.bind Proc.keeps_failIf fun _ => ?_
    refine Proc.Keeps.bind ((handles_grows H).completeLogin chosen email) fun session => ?_
    exact Proc.valid_ret fun s _ => offers_session password session s

/-- **A login offers** only what its password matched. -/
theorem valid_loginUser (email password : String) (tenantId : Option String) :
    (loginUser email password tenantId).Valid H Grows (fun _ => Grows) (Offers password)
      fun _ => True := by
  have h := handles_grows H
  refine Proc.Keeps.bind (h.enumerateLoginTenants _) fun found => ?_
  cases Text.nonEmpty tenantId with
  | some t =>
    refine Proc.Keeps.bind Proc.keeps_failIf fun _ => ?_
    refine Proc.Keeps.bind (h.fetchLoginCandidate _ _ _ _) fun chosen => ?_
    exact valid_loginCandidate _ password chosen
  | none =>
    dsimp only
    unfold loginUnnamed
    refine Proc.valid_ite (fun _ => ?_) fun _ => ?_
    · refine Proc.Keeps.bind (h.bind (h.look _) fun _ => h.scanTenants _ _) fun fallback => ?_
      cases fallback with
      | none => exact Proc.valid_fail _
      | some candidate => exact valid_loginCandidate _ password (some candidate)
    · refine Proc.Keeps.bind (h.mapM fun _ => h.fetchLoginCandidate _ _ _ _) fun fetched => ?_
      refine Proc.Gives.frame_bind (gives_verifyCandidatesPadded _ password) (fun _ _ _ h => h)
        (Proc.stable_true Grows) fun matched hmatched => ?_
      exact valid_loginMatched _ password hmatched

/-! ## Runs -/

/-- What a request has answered, where it is about a challenge. -/
def Request.Kept : Request → Response → State → Prop
  | .login _ password _, .login result, s => Offers password result s
  | .redeem selectionToken tenantId, .session session, s =>
    Redeems selectionToken tenantId session s
  | .redeem _ _, _, _ => False
  | _, _, _ => True

theorem valid_task (r : Request) :
    r.task.Valid H Grows (fun _ => Grows) r.Kept fun _ => True := by
  cases r with
  | login email password tenantId =>
    exact Proc.Valid.map (f := Response.login) (valid_loginUser email password tenantId)
  | redeem selectionToken tenantId =>
    exact Proc.Valid.map (f := Response.session) (valid_loginRedeem selectionToken tenantId)
  | rotate raw => exact Proc.Gives.valid (grows_task H (.rotate raw)) Grows _
  | issue identityId tenantId role =>
    exact Proc.Gives.valid (grows_task H (.issue identityId tenantId role)) Grows _
  | changePassword email role tenantId currentPassword newPassword =>
    exact Proc.Gives.valid (grows_task H _) Grows _
  | tick seconds => exact Proc.Gives.valid (grows_task H (.tick seconds)) Grows _

section Runs

variable {ι : Type} [DecidableEq ι]

/-- The redemptions of one challenge: `P` is where its time is looked at, and `Q` is later. -/
structure SingleUse (requests : ι → Request) (password token : String) (n : Nat)
    (choices : List Choice) (P Q : Pool ι Mark PyError State Response) : Prop where
  once : ∀ i j t u a b, requests i = .redeem token t → requests j = .redeem token u →
    Q.threads i = .ret a → Q.threads j = .ret b → i = j
  inScope : ∃ matched, Matched password choices matched ∧
    ∀ i t a, requests i = .redeem token t → Q.threads i = .ret a →
      ∃ session, a = .session session ∧ session.accessToken.tenantId = t ∧
        t ∈ choices.map Choice.tenantId
  timely : ∃ expiresAt, expiresAt ≤ P.state.val.now + n ∧
    Challenged (Platform.hashToken token) (choices.map Choice.tenantId) expiresAt P.state ∧
    ∀ i t, requests i = .redeem token t → P.threads i = (requests i).task →
      expiresAt ≤ P.state.val.now → ∀ a, Q.threads i ≠ .ret a

/-- **A challenge is redeemed at most once, in scope and in time**, in every run of the requests. -/
theorem challenge_run (s : State) (requests : ι → Request) (is js : List ι) {l : ι}
    {email password token : String} {tenantId : Option String} {n : Nat} {choices : List Choice}
    (hl : requests l = .login email password tenantId)
    (hanswer : (run Pool.step (requestPool s requests) is).threads l =
      .ret (.login (.selectTenant token n choices))) :
    SingleUse requests password token n choices (run Pool.step (requestPool s requests) is)
      (run Pool.step (run Pool.step (requestPool s requests) is) js) := by
  let H : ι → Mark → State → Prop := fun _ _ _ => True
  have hruns : ∀ (P : Pool ι Mark PyError State Response) (ks : List ι),
      EachStep Pool.step (fun P i => P.Undisturbed H i) P ks :=
    fun P ks => (eachStep_true P ks).mono fun _ _ _ _ _ => trivial
  have hrefl : ∀ (_ : ι) (s : State), Grows s s := fun _ => refl_of Grows
  have hrely : ∀ (_ : ι) (_ : Option Mark) s s', Grows s s' → Grows s s' := fun _ _ _ _ h => h
  have hstart : (requestPool s requests).Sound H Grows (fun _ _ => Grows)
      fun i => (requests i).Kept := Pool.sound_start fun i => valid_task (requests i)
  have hracing : (requestPool s requests).Racing H Grows (Consumed (Platform.hashToken token))
      fun i => ∃ t, requests i = .redeem token t := by
    refine Pool.racing_start ?_
    rintro i ⟨t, hi⟩
    show (requests i).task.Takes _ _ _ _
    rw [hi]
    exact (takes_loginRedeem _ token t).map _
  have hthen := hracing.run hrefl hrely (stable_consumed _) hstart (hruns _ is)
  generalize hP : run Pool.step (requestPool s requests) is = P at hanswer hthen ⊢
  have hsound : P.Sound H Grows (fun _ _ => Grows) fun i => (requests i).Kept :=
    hP ▸ hstart.run hrefl hrely (hruns _ is)
  have hlast := hthen.run hrefl hrely (stable_consumed _) hsound (hruns P js)
  have hreturned := hsound.run hrefl hrely (hruns P js)
  have hoffers : ∀ {Q : Pool ι Mark PyError State Response}, Q.Sound H Grows (fun _ _ => Grows)
      (fun i => (requests i).Kept) → Q.threads l = .ret (.login (.selectTenant token n choices)) →
      Offers password (.selectTenant token n choices) Q.state := by
    intro Q hQ hthread
    have hkept := hQ.returned hthread
    rwa [hl] at hkept
  refine ⟨fun i j t u a b hi hj hai hbj => hlast.unique ⟨t, hi⟩ ⟨u, hj⟩ hai hbj, ?_, ?_⟩
  · obtain ⟨matched, expiresAt, hmatched, -, hchallenged⟩ :=
      hoffers hreturned (Pool.returned_run hanswer js) token n choices rfl
    refine ⟨matched, hmatched, fun i t a hi hai => ?_⟩
    have hkept := hreturned.returned hai
    rw [hi] at hkept
    cases a with
    | session session =>
      obtain ⟨htenant, tenants, until_, hin, hchallenged'⟩ := hkept
      exact ⟨session, rfl, htenant, (hchallenged'.eq hchallenged).1 ▸ hin⟩
    | login result => exact hkept.elim
    | issued refreshToken => exact hkept.elim
    | done => exact hkept.elim
  · obtain ⟨matched, expiresAt, -, hle, hchallenged⟩ := hoffers hsound hanswer token n choices rfl
    refine ⟨expiresAt, hle, hchallenged, fun i t hi hunstarted hcome a hai => ?_⟩
    -- from here on this redemption cannot return
    have hlate : P.Sound H Grows (fun _ _ => Grows) fun j _ _ => j ≠ i := by
      intro j
      by_cases hj : j = i
      · subst hj
        refine ⟨_, stable_expired _, ⟨_, expiresAt, hchallenged, hcome⟩, ?_⟩
        rw [hunstarted, hi]
        exact ((late_loginRedeem token t).consequence fun _ _ h => h.elim).map
      · obtain ⟨A, hA, hAs, hvalid⟩ := hsound j
        exact ⟨A, hA, hAs, hvalid.consequence fun _ _ _ => hj⟩
    exact (hlate.run hrefl hrely (hruns P js)).returned hai rfl

end Runs

end Challenges

/-! ## Two redemptions of one challenge -/

section Example

attribute [local instance] ascii plain

/-- One person with one password in two schools. -/
def sharedPassword : State where
  val :=
    { tenants := [⟨"north"⟩, ⟨"south"⟩]
      schemas := [⟨"north", [⟨1, "t@x", "teacher", [], [], "$p"⟩], 2⟩,
        ⟨"south", [⟨1, "t@x", "manager", [], [], "$p"⟩], 2⟩]
      superAdmins := [], parents := [], parentTenantLinks := []
      identities := [⟨2, "t@x"⟩]
      userTenantMap := [⟨2, "t@x", "north", "teacher", .active, 0, none, false⟩,
        ⟨2, "t@x", "south", "manager", .active, 0, none, false⟩]
      invitations := [], userInvitations := [], selectionChallenges := [], refreshTokens := []
      opened := ["north", "south"], unreachable := [], membershipCache := [], seq := 3, now := 10 }
  ok := by decide +kernel

/-- A login, and a redemption of its challenge for each tenant there may be. -/
def redeemAnywhere : Option String → Request
  | none => .login "t@x" "p" none
  | some tenantId => .redeem "tttt" tenantId

/-- The schools are chosen at the same time. -/
def chooseBoth : List (Option String) :=
  (List.replicate 12 [some "north", some "south"]).flatten

theorem login_challenged :
    ((run Pool.step (requestPool sharedPassword redeemAnywhere) (List.replicate 12 none)).threads
      none).value =
      some (.login (.selectTenant "tttt" 120 [⟨"north", "teacher"⟩, ⟨"south", "manager"⟩])) := by
  decide +kernel

theorem chooseBoth_once :
    SingleUse redeemAnywhere "p" "tttt" 120 [⟨"north", "teacher"⟩, ⟨"south", "manager"⟩]
      (run Pool.step (requestPool sharedPassword redeemAnywhere) (List.replicate 12 none))
      (run Pool.step (run Pool.step (requestPool sharedPassword redeemAnywhere)
        (List.replicate 12 none)) chooseBoth) :=
  challenge_run sharedPassword redeemAnywhere (List.replicate 12 none) chooseBoth (l := none) rfl
    (Proc.value_eq_some.1 login_challenged)

end Example

end Sams.Auth
