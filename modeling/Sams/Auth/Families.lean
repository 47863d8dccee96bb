import Sams.Auth.Growth

/-!
# Token families

Requests that run one after the other. At most one token of a family is unrevoked (`Families`): a
login starts a family of its own, a rotation adds a token and revokes the one it replaces. A
rotation of a revoked token revokes its family for good: nothing adds to a family that has no
unrevoked token (`Dead`). Both hold over every run (**`families_run`**).
-/

namespace Sams.Auth

open Programs Runs Rows Interleaving AuthService ControlPlaneRepository

section Sequential

variable [Unicode]

/-- A family has at most one unrevoked token, and its identifier was drawn. -/
structure Families (s : State) : Prop where
  one : ∀ r ∈ s.val.refreshTokens, ∀ r' ∈ s.val.refreshTokens, r.familyId = r'.familyId →
    r.revokedAt = none → r'.revokedAt = none → r = r'
  drawn : ∀ r ∈ s.val.refreshTokens, r.familyId < s.val.seq

/-- The family has tokens, all of them revoked. -/
structure Dead (familyId : Nat) (s : State) : Prop where
  drawn : familyId < s.val.seq
  revoked : ∀ r ∈ s.val.refreshTokens, r.familyId = familyId → r.revokedAt ≠ none

/-- What a request does to the families. -/
structure Keeping (s s' : State) : Prop where
  families : Families s'
  seq : s.val.seq ≤ s'.val.seq
  dead : ∀ f, Dead f s → Dead f s'

/-- Families are kept. -/
def KeepsFamilies (s s' : State) : Prop := Families s → Keeping s s'

instance : IsPreorder State KeepsFamilies where
  refl s h := ⟨h, le_rfl, fun _ hf => hf⟩
  trans s s' s'' h h' hs := by
    have hs' := h hs
    have hs'' := h' hs'.families
    exact ⟨hs''.families, hs'.seq.trans hs''.seq, fun f hf => hs''.dead f (hs'.dead f hf)⟩

/-- A step that leaves the tokens alone. -/
theorem keeping_of_tokens {s s' : State} (htokens : s'.val.refreshTokens = s.val.refreshTokens)
    (hseq : s.val.seq ≤ s'.val.seq) : KeepsFamilies s s' := by
  intro hs
  refine ⟨⟨?_, ?_⟩, hseq, fun f hf => ⟨hf.drawn.trans_le hseq, ?_⟩⟩
  · rw [htokens]
    exact hs.one
  · rw [htokens]
    exact fun r hr => (hs.drawn r hr).trans_le hseq
  · rw [htokens]
    exact hf.revoked

theorem Quiet.keepsFamilies {s s' : State} (h : Quiet s s') : KeepsFamilies s s' :=
  keeping_of_tokens h.tokens h.seq

/-- A new token of a family that was drawn and has no token yet. -/
theorem keeping_of_append {s s' : State} {r : RefreshTokenRow}
    (htokens : s'.val.refreshTokens = s.val.refreshTokens ++ [r]) (hseq : s.val.seq ≤ s'.val.seq)
    (hnew : s.val.seq ≤ r.familyId) (hdrawn : r.familyId < s'.val.seq) : KeepsFamilies s s' := by
  intro hs
  have hother : ∀ x ∈ s.val.refreshTokens, x.familyId ≠ r.familyId := fun x hx he => by
    have := hs.drawn x hx
    omega
  refine ⟨⟨fun x hx y hy hfamily hxr hyr => ?_, fun x hx => ?_⟩, hseq, fun f hf => ⟨?_, ?_⟩⟩
  · rw [htokens, List.mem_append, List.mem_singleton] at hx hy
    rcases hx with hx | rfl <;> rcases hy with hy | rfl
    · exact hs.one x hx y hy hfamily hxr hyr
    · exact (hother x hx hfamily).elim
    · exact (hother y hy hfamily.symm).elim
    · rfl
  · rw [htokens, List.mem_append, List.mem_singleton] at hx
    rcases hx with hx | rfl
    · exact (hs.drawn x hx).trans_le hseq
    · exact hdrawn
  · exact hf.drawn.trans_le hseq
  · intro x hx hfamily
    rw [htokens, List.mem_append, List.mem_singleton] at hx
    rcases hx with hx | rfl
    · exact hf.revoked x hx hfamily
    · have := hf.drawn
      omega

/-! ## A step of a rotation -/

/-- Tokens that were there, or that are revoked in a family that was. -/
theorem keeping_of_revoked {s s' : State} (hseq : s.val.seq ≤ s'.val.seq)
    (htokens : ∀ r' ∈ s'.val.refreshTokens, r' ∈ s.val.refreshTokens ∨
      r'.revokedAt ≠ none ∧ ∃ r ∈ s.val.refreshTokens, r.familyId = r'.familyId) :
    KeepsFamilies s s' := by
  intro hs
  refine ⟨⟨fun x hx y hy hfamily hxr hyr => ?_, fun x hx => ?_⟩, hseq, fun f hf => ⟨?_, ?_⟩⟩
  · rcases htokens x hx with hx | ⟨hrevoked, -⟩
    · rcases htokens y hy with hy | ⟨hrevoked, -⟩
      · exact hs.one x hx y hy hfamily hxr hyr
      · exact (hrevoked hyr).elim
    · exact (hrevoked hxr).elim
  · rcases htokens x hx with hx | ⟨-, r, hr, hfamily⟩
    · exact (hs.drawn x hx).trans_le hseq
    · exact hfamily ▸ (hs.drawn r hr).trans_le hseq
  · exact hf.drawn.trans_le hseq
  · intro x hx hfamily
    rcases htokens x hx with hx | ⟨hrevoked, -⟩
    · exact hf.revoked x hx hfamily
    · exact hrevoked

/-- What a rotation that succeeds leaves. -/
structure Rotated (row : RefreshTokenRow) (s s' : State) : Prop where
  seq : s.val.seq ≤ s'.val.seq
  tokens : ∃ r newId now, r.familyId = row.familyId ∧ s'.val.refreshTokens =
    updateWhere (fun x => x.id = row.id)
      (fun x => { x with revokedAt := some now, replacedBy := some newId })
      (s.val.refreshTokens ++ [r])

/-- The successor takes the place of the only unrevoked token of the family. -/
theorem keeping_of_rotated {s s' : State} {row : RefreshTokenRow} (hrow : row ∈ s.val.refreshTokens)
    (hunrevoked : row.revokedAt = none) (h : Rotated row s s') : KeepsFamilies s s' := by
  intro hs
  obtain ⟨new, newId, now, hnew, htokens⟩ := h.tokens
  have hcases : ∀ x ∈ s'.val.refreshTokens, x.revokedAt = none →
      x ∈ s.val.refreshTokens ∧ x.id ≠ row.id ∨ x = new := by
    intro x hx hxr
    rw [htokens] at hx
    rcases cases_of_mem_updateWhere hx with ⟨hx, hne⟩ | ⟨y, -, -, rfl⟩
    · rcases List.mem_append.1 hx with hx | hx
      · exact .inl ⟨hx, by simpa using hne⟩
      · exact .inr (List.mem_singleton.1 hx)
    · cases hxr
  -- no other token of the family was unrevoked
  have hother : ∀ x ∈ s.val.refreshTokens, x.id ≠ row.id → x.revokedAt = none →
      x.familyId ≠ row.familyId :=
    fun x hx hne hxr hfamily => hne (congrArg RefreshTokenRow.id
      (hs.one x hx row hrow hfamily hxr hunrevoked))
  have hfamilies : ∀ x ∈ s'.val.refreshTokens, ∃ r ∈ s.val.refreshTokens,
      r.familyId = x.familyId := by
    intro x hx
    rw [htokens] at hx
    obtain ⟨y, hy, rfl⟩ := mem_updateWhere.1 hx
    have hy' : ∃ r ∈ s.val.refreshTokens, r.familyId = y.familyId := by
      rcases List.mem_append.1 hy with hy | hy
      · exact ⟨y, hy, rfl⟩
      · exact ⟨row, hrow, (List.mem_singleton.1 hy) ▸ hnew.symm⟩
    split_ifs
    · exact hy'
    · exact hy'
  refine ⟨⟨fun x hx y hy hfamily hxr hyr => ?_, fun x hx => ?_⟩, h.seq, fun f hf => ⟨?_, ?_⟩⟩
  · rcases hcases x hx hxr with ⟨hx, hxid⟩ | rfl <;> rcases hcases y hy hyr with ⟨hy, hyid⟩ | rfl
    · exact hs.one x hx y hy hfamily hxr hyr
    · exact (hother x hx hxid hxr (hfamily.trans hnew)).elim
    · exact (hother y hy hyid hyr (hfamily.symm.trans hnew)).elim
    · rfl
  · obtain ⟨r, hr, hfamily⟩ := hfamilies x hx
    exact hfamily ▸ (hs.drawn r hr).trans_le h.seq
  · exact hf.drawn.trans_le h.seq
  · intro x hx hfamily hxr
    rcases hcases x hx hxr with ⟨hx, -⟩ | rfl
    · exact hf.revoked x hx hfamily hxr
    · exact hf.revoked row hrow (hnew.symm.trans hfamily) hunrevoked

/-- The revoking `UPDATE` breaks no constraint when its successor is there. -/
theorem ok_replaceToken {w : World} (hw : w.Ok) (oldId : Nat) {newId : Nat}
    (hnew : newId ∈ w.refreshTokens.map RefreshTokenRow.id) : (w.replaceToken oldId newId).Ok := by
  refine ⟨hw.schemas, { hw.keys with refresh_key := ?_, refresh_hash := ?_ },
    { hw.refs with refresh_identity := ?_, refresh_replaced_by := ?_ },
    ⟨hw.drawn.identity, fun x hx => ?_⟩, hw.invitations_role_check⟩
  · exact hw.keys.refresh_key.updateWhere fun _ => rfl
  · exact hw.keys.refresh_hash.updateWhere fun _ => rfl
  · exact hw.refs.refresh_identity.updateWhere fun _ => rfl
  · intro x hx k hk
    show k ∈ (updateWhere _ _ w.refreshTokens).map RefreshTokenRow.id
    rw [map_updateWhere (by intros; rfl)]
    rcases cases_of_mem_updateWhere hx with ⟨hx, -⟩ | ⟨y, -, -, rfl⟩
    · exact hw.refs.refresh_replaced_by x hx k hk
    · obtain rfl : newId = k := Option.some.inj hk
      exact hnew
  · rcases cases_of_mem_updateWhere hx with ⟨hx, -⟩ | ⟨y, hy, -, rfl⟩
    · exact hw.drawn.refresh x hx
    · exact hw.drawn.refresh y hy

/-- Revoking tokens breaks no constraint. -/
theorem ok_revokeFamily {w : World} (hw : w.Ok) (familyId : Nat) :
    (w.revokeFamily familyId).Ok := by
  refine ⟨hw.schemas, { hw.keys with refresh_key := ?_, refresh_hash := ?_ },
    { hw.refs with refresh_identity := ?_, refresh_replaced_by := ?_ },
    ⟨hw.drawn.identity, fun x hx => ?_⟩, hw.invitations_role_check⟩
  · exact hw.keys.refresh_key.updateWhere fun _ => rfl
  · exact hw.keys.refresh_hash.updateWhere fun _ => rfl
  · exact hw.refs.refresh_identity.updateWhere fun _ => rfl
  · refine Refers.updateWhere_right ?_ fun _ => rfl
    exact hw.refs.refresh_replaced_by.updateWhere fun _ => rfl
  · rcases cases_of_mem_updateWhere hx with ⟨hx, -⟩ | ⟨y, hy, -, rfl⟩
    · exact hw.drawn.refresh x hx
    · exact hw.drawn.refresh y hy

/-! ## Requests -/

theorem drawNext_ok {s s' : State} {n : Nat} (h : drawNext s = .ok n s') :
    n = s.val.seq ∧ s'.val = { s.val with seq := s.val.seq + 1 } := by
  obtain ⟨n', t, hn, h⟩ := bind_eq_ok.1 h
  obtain ⟨rfl, rfl⟩ := query_eq_ok.1 hn
  obtain ⟨u, t', ht, h⟩ := bind_eq_ok.1 h
  obtain ⟨rfl, rfl⟩ := pure_eq_ok.1 h
  exact ⟨rfl, exec_eq_ok.1 ht⟩

theorem keeps_seq_quiet {α : Type} {m : EStateM PyError State α} (h : Moves Quiet m) :
    Moves KeepsFamilies (Proc.once m : Task α).seq := by
  rw [Proc.seq_once]
  exact fun s => (h s).keepsFamilies

theorem handlesQuiet_quiet : HandlesQuiet fun _ (p : Task _) => Moves Quiet p.seq := by
  refine handlesQuiet_of_quiet Proc.compositional_moves fun h => ?_
  rw [Proc.seq_once]
  exact h

variable [Platform]

/-- A token that is issued starts a family. -/
theorem families_issueRefreshToken (identityId : Nat) (tenantId role : String) :
    Moves KeepsFamilies (issueRefreshToken identityId tenantId role).seq := by
  intro s
  unfold issueRefreshToken newOpaqueToken refreshExpiry draw clock read createRefreshToken stmt
  simp only [Proc.seq_bind, Proc.seq_once, Proc.seq_look, bind_assoc, Proc.seq_pure, pure_bind]
  have hdraw : ∀ t, KeepsFamilies t (after drawNext t) := fun t => (quiet_drawNext t).keepsFamilies
  refine moves_bind_of_ok (hdraw s) fun n t ht => ?_
  have hst : KeepsFamilies s t := after_ok ht ▸ hdraw s
  refine trans_of KeepsFamilies hst (moves_bind_of_ok (hdraw t) fun f t' ht' => ?_)
  obtain ⟨rfl, hval⟩ := drawNext_ok ht'
  rw [after_query_bind, after_bind_idle fun _ _ => rfl]
  refine after_exec_ind (after_ok ht' ▸ hdraw t) fun s' hs' => ?_
  have hnew : ∃ r, s'.val.refreshTokens = t.val.refreshTokens ++ [r] ∧ r.familyId = t.val.seq := by
    rw [hs', hval]
    exact ⟨_, rfl, rfl⟩
  have hseq : s'.val.seq = t.val.seq + 2 := by rw [hs', hval]
  obtain ⟨r, htokens, hfamily⟩ := hnew
  exact keeping_of_append htokens (by omega) hfamily.ge (by omega)

theorem handles_families : Handles fun _ (p : Task _) => Moves KeepsFamilies p.seq where
  toHandlesQuiet := handlesQuiet_of_quiet Proc.compositional_moves keeps_seq_quiet
  issue := families_issueRefreshToken
  challenge tokenHash identityId matchedTenants expiresAt := by
    rw [createSelectionChallenge, stmt, Proc.seq_once]
    exact moves_exec fun s _ => keeping_of_tokens rfl le_rfl
  consume tokenHash := by
    rw [redeemSelectionChallenge, Proc.seq_once]
    refine moves_bind (moves_query _) fun _ => moves_bind (moves_exec fun s _ => ?_) fun _ =>
      moves_pure _
    exact keeping_of_tokens rfl le_rfl

/-- The row that was just inserted is read back, and the old one revoked. -/
theorem supersede_ok {s : State} (row : RefreshTokenRow) {new : RefreshTokenRow} {newRaw : String}
    (hnew : new ∈ s.val.refreshTokens) (hhash : new.tokenHash = Platform.hashToken newRaw) :
    ∃ s', (supersede row newRaw).seq s = .ok () s' ∧ s'.val = s.val.replaceToken row.id new.id := by
  have hfind : s.val.refreshTokens.find? (fun r => r.tokenHash = Platform.hashToken newRaw) =
      some new :=
    s.ok.keys.refresh_hash.find?_eq_some.2 ⟨hnew, hhash⟩
  have hok := ok_replaceToken s.ok row.id (List.mem_map_of_mem (f := RefreshTokenRow.id) hnew)
  refine ⟨⟨_, hok⟩, ?_, rfl⟩
  unfold supersede getRefreshToken read
  rw [Proc.seq_bind, Proc.seq_look, query_bind]
  dsimp only
  rw [hfind]
  exact (congrFun (Proc.seq_marked _ _) s).trans (exec_of hok)

/-- A rotation replaces its row, or leaves the tokens alone. -/
theorem after_rotateRow (row : RefreshTokenRow) (s : State) :
    Quiet s (after (rotateRow row).seq s) ∨ Rotated row s (after (rotateRow row).seq s) := by
  let R : State → State → Prop := fun s s' => Quiet s s' ∨ Rotated row s s'
  have hq := handlesQuiet_quiet
  show R s (after (rotateRow row).seq s)
  -- what precedes the insertion is quiet
  have hquiet : ∀ {α : Type} {p : Task α}, Moves Quiet p.seq → ∀ {t : State}, Quiet s t → ∀ {a t'},
      p.seq t = .ok a t' → Quiet s t' :=
    fun hp t hst a t' h => trans_of Quiet hst (after_ok h ▸ hp t)
  have hbefore : ∀ {α β : Type} {p : Task α} {k : α → Task β} {t : State}, Moves Quiet p.seq →
      Quiet s t → (∀ a t', Quiet s t' → R s (after (k a).seq t')) →
        R s (after (p >>= k).seq t) := by
    intro α β p k t hp hst hk
    rw [Proc.seq_bind]
    rcases ok_or_error p.seq t with ⟨a, h⟩ | ⟨e, h⟩
    · rw [after_bind_ok h]
      exact hk a _ (hquiet hp hst h)
    · rw [after_bind_error h]
      exact .inl (trans_of Quiet hst (hp t))
  unfold rotateRow
  refine hbefore (hq.look _) (quiet_refl s) fun _ t ht => ?_
  refine hbefore (hq.failIf _ _) ht fun _ t ht => ?_
  refine hbefore (hq.resolveLocalAccount _ _ _) ht fun account t ht => ?_
  refine hbefore (hq.map _ hq.draw) ht fun newRaw t ht => ?_
  refine hbefore (hq.bind (hq.look _) fun _ => hq.ret _) ht fun expiresAt t ht => ?_
  rw [Proc.seq_bind]
  rcases ok_or_error (createRefreshToken (Platform.hashToken newRaw) row.identityId row.tenantId
      account.role row.familyId expiresAt).seq t with ⟨u, h⟩ | ⟨e, h⟩
  · rw [after_bind_ok h]
    have hval := exec_eq_ok.1 ((congrFun (Proc.seq_once _) t).symm.trans h)
    have hcreated : ∃ r, (after (createRefreshToken (Platform.hashToken newRaw) row.identityId
          row.tenantId account.role row.familyId expiresAt).seq t).val.refreshTokens =
        t.val.refreshTokens ++ [r] ∧ r.familyId = row.familyId ∧
        r.tokenHash = Platform.hashToken newRaw := by
      rw [hval]
      exact ⟨_, rfl, rfl, rfl⟩
    obtain ⟨r, htokens, hfamily, hhash⟩ := hcreated
    have hr := List.mem_append_right t.val.refreshTokens (List.mem_singleton_self r)
    obtain ⟨s', hsup, hval'⟩ := supersede_ok row (htokens ▸ hr) hhash
    rw [Proc.seq_bind, after_bind_ok hsup, Proc.seq_bind, after_bind_idle fun _ _ => rfl]
    have hidle : Quiet s' (after (createAccessToken account.sub row.tenantId account.role ""
      account.roles (some row.identityId)).seq s') := hq.createAccessToken _ _ _ _ _ _ s'
    have hfinal := hidle.tokens
    rw [hval'] at hfinal
    unfold World.replaceToken at hfinal
    dsimp only at hfinal
    rw [htokens, ht.tokens] at hfinal
    refine .inr ⟨?_, r, _, _, hfamily, hfinal⟩
    have hseq : s'.val.seq = t.val.seq + 1 := by
      rw [hval']
      exact congrArg World.seq hval
    have hst := ht.seq
    have hlast := hidle.seq
    omega
  · rw [after_bind_error h]
    have hsame : after _ t = t := exec_eq_error ((congrFun (Proc.seq_once _) t).symm.trans h)
    rw [hsame]
    exact .inl ht

/-- **A rotation keeps the families**, and one of a revoked token ends its family. -/
theorem families_rotateRefreshToken (raw : String) :
    Moves KeepsFamilies (AuthService.rotateRefreshToken raw).seq := by
  intro s
  unfold AuthService.rotateRefreshToken getRefreshToken read
  rw [Proc.seq_bind, Proc.seq_look, after_query_bind]
  dsimp only
  cases hfind : s.val.refreshTokens.find? fun r => r.tokenHash = Platform.hashToken raw with
  | none => exact refl_of KeepsFamilies s
  | some row =>
    have hrow : row ∈ s.val.refreshTokens := List.mem_of_find?_eq_some hfind
    dsimp only
    split_ifs with hrevoked
    · unfold rejectReuse revokeRefreshTokenFamily stmt
      rw [Proc.seq_bind, Proc.seq_once, after_bind_idle fun _ _ => rfl]
      refine after_exec_ind (refl_of KeepsFamilies s) fun s' hs' => keeping_of_revoked ?_ ?_
      · rw [hs']
        exact le_rfl
      · rw [hs']
        intro r' hr'
        rcases cases_of_mem_updateWhere hr' with ⟨hr', -⟩ | ⟨r, hr, -, rfl⟩
        · exact .inl hr'
        · exact .inr ⟨Option.some_ne_none _, r, hr, rfl⟩
    · rcases after_rotateRow row s with hquiet | hrotated
      · exact hquiet.keepsFamilies
      · exact keeping_of_rotated hrow (Option.not_isSome_iff_eq_none.1 hrevoked) hrotated

/-! ## Runs -/

/-- A request run alone. -/
def perform (s : State) (r : Request) : State := after r.task.seq s

/-- Neither revoked nor expired. -/
structure Live (s : State) (r : RefreshTokenRow) : Prop where
  unrevoked : r.revokedAt = none
  unexpired : s.val.now < r.expiresAt

/-- Each family has at most one live token. -/
def OneLive (s : State) : Prop :=
  ∀ r ∈ s.val.refreshTokens, ∀ r' ∈ s.val.refreshTokens, r.familyId = r'.familyId →
    Live s r → Live s r' → r = r'

/-- No rotation of a token of the family returns. -/
def Ended (familyId : Nat) (s : State) : Prop :=
  ∀ raw, ∀ row ∈ s.val.refreshTokens, row.tokenHash = Platform.hashToken raw →
    row.familyId = familyId → returns (AuthService.rotateRefreshToken raw).seq s = false

theorem families_perform (s : State) (r : Request) : KeepsFamilies s (perform s r) :=
  handles_families.task families_rotateRefreshToken r s

/-- A rotation of a token that is found to be revoked. -/
theorem seq_rotate_of_revoked {s : State} {raw : String} {row : RefreshTokenRow}
    (hrow : row ∈ s.val.refreshTokens) (hhash : row.tokenHash = Platform.hashToken raw)
    (hrevoked : row.revokedAt ≠ none) :
    (AuthService.rotateRefreshToken raw).seq s = (rejectReuse row).seq s := by
  have hfind : s.val.refreshTokens.find? (fun r => r.tokenHash = Platform.hashToken raw) =
      some row :=
    s.ok.keys.refresh_hash.find?_eq_some.2 ⟨hrow, hhash⟩
  unfold AuthService.rotateRefreshToken getRefreshToken read
  rw [Proc.seq_bind, Proc.seq_look, query_bind]
  dsimp only
  rw [hfind]
  dsimp only
  rw [if_pos (Option.isSome_iff_ne_none.2 hrevoked)]

/-- A dead family has ended. -/
theorem Dead.ended {familyId : Nat} {s : State} (h : Dead familyId s) : Ended familyId s := by
  intro raw row hrow hhash hfamily
  rw [Bool.eq_false_iff, ne_eq, returns_iff]
  rintro ⟨session, s', hok⟩
  rw [seq_rotate_of_revoked hrow hhash (h.revoked row hrow hfamily)] at hok
  unfold rejectReuse at hok
  rw [Proc.seq_bind] at hok
  obtain ⟨_, _, -, hthrow⟩ := bind_eq_ok.1 hok
  exact throw_eq_ok.1 hthrow

/-- **The reuse of a revoked token** ends its family. -/
theorem dead_of_reuse {s : State} (hs : Families s) {raw : String} {row : RefreshTokenRow}
    (hrow : row ∈ s.val.refreshTokens) (hhash : row.tokenHash = Platform.hashToken raw)
    (hrevoked : row.revokedAt ≠ none) : Dead row.familyId (perform s (.rotate raw)) := by
  have hafter : (perform s (.rotate raw)).val = s.val.revokeFamily row.familyId := by
    have hexec : exec PyError.databaseError (fun w => w.revokeFamily row.familyId) s = .ok () _ :=
      exec_of (ok_revokeFamily s.ok row.familyId)
    show (after (Response.session <$> AuthService.rotateRefreshToken raw).seq s).val = _
    rw [map_eq_pure_bind, Proc.seq_bind, after_bind_idle fun _ _ => rfl]
    unfold after
    rw [seq_rotate_of_revoked hrow hhash hrevoked]
    show (after (rejectReuse row).seq s).val = _
    unfold rejectReuse revokeRefreshTokenFamily stmt
    rw [Proc.seq_bind, Proc.seq_once, after_bind_idle fun _ _ => rfl, after_ok hexec]
  constructor
  · rw [hafter]
    exact hs.drawn row hrow
  · rw [hafter]
    intro r hr hfamily
    rcases cases_of_mem_updateWhere hr with ⟨-, hkept⟩ | ⟨r', -, -, rfl⟩
    · intro hnone
      simp [hfamily, hnone] at hkept
    · exact Option.some_ne_none _

/-- **Token families.** From a state without tokens, each family has at most one live token
throughout, and none is accepted from a family of which a revoked token was presented. -/
theorem families_run (s : State) (hs : s.val.refreshTokens = []) (rs : List Request) :
    Throughout perform OneLive s rs ∧
      ∀ before raw later, rs = before ++ .rotate raw :: later →
        ∀ row ∈ (run perform s before).val.refreshTokens, row.tokenHash = Platform.hashToken raw →
          row.revokedAt ≠ none → Ended row.familyId (run perform s rs) := by
  have hstart : Families s := by
    constructor <;> simp [hs]
  have hstep : ∀ t r, Families t → Families (perform t r) := fun t r ht =>
    (families_perform t r ht).families
  constructor
  · refine (run_throughout (fun t r ht _ => hstep t r ht) hstart (eachStep_true s rs)).mono ?_
    exact fun t ht r hr r' hr' hfamily hlive hlive' =>
      ht.one r hr r' hr' hfamily hlive.unrevoked hlive'.unrevoked
  · rintro before raw later rfl row hrow hhash hrevoked
    have hbefore : Families (run perform s before) := run_inv_of_step hstep hstart before
    have hdead := dead_of_reuse hbefore hrow hhash hrevoked
    let I : State → Prop := fun t => Families t ∧ Dead row.familyId t
    have hlater : I (run perform (perform (run perform s before) (.rotate raw)) later) := by
      refine run_inv_of_step (I := I) (fun t r ht => ?_) ⟨hstep _ _ hbefore, hdead⟩ later
      have hkeeps := families_perform t r ht.1
      exact ⟨hkeeps.families, hkeeps.dead _ ht.2⟩
    rw [run_append, run_cons]
    exact hlater.2.ended

end Sequential

/-! ## A token that is replayed -/

section Example

attribute [local instance] ascii plain

/-- A teacher of a school, without a session. -/
def oneTeacher : State where
  val :=
    { tenants := [⟨"north"⟩]
      schemas := [⟨"north", [⟨1, "t@x", "teacher", [], [], "$p"⟩], 2⟩]
      superAdmins := [], parents := [], parentTenantLinks := []
      identities := [⟨2, "t@x"⟩]
      userTenantMap := [⟨2, "t@x", "north", "teacher", .active, 0, none, false⟩]
      invitations := [], userInvitations := [], selectionChallenges := [], refreshTokens := []
      opened := ["north"], unreachable := [], membershipCache := [], seq := 3, now := 10 }
  ok := by decide +kernel

/-- A token is issued, rotated, and presented again. -/
def replayed : List Request := [.issue 2 "north" "teacher", .rotate "ttt", .rotate "ttt"]

theorem replayed_families : Throughout perform OneLive oneTeacher replayed ∧
    ∀ before raw later, replayed = before ++ .rotate raw :: later →
      ∀ row ∈ (run perform oneTeacher before).val.refreshTokens,
        row.tokenHash = Platform.hashToken raw →
          row.revokedAt ≠ none → Ended row.familyId (run perform oneTeacher replayed) :=
  families_run oneTeacher rfl replayed

/-- The replay has revoked the successor. -/
example : (run perform oneTeacher replayed).val.refreshTokens.map
    (fun r => (r.tokenHash, r.revokedAt.isSome)) = [("ttt", true), ("tttttt", true)] := by
  decide +kernel

end Example

end Sams.Auth
