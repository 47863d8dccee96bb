import Sams.Lib.Programs

/-!
# A client and a service that may answer anything

A service is a function of everything that it was asked before and of what it is asked now, so that
nothing is assumed of it: it may fail, forget, contradict itself, or be changed by others in
between. A client is a program on the log of its exchanges with the service.

What holds of the requests of a client is said by `Careful P`: each of them was made where `P` holds
of the exchanges before it. It is a preorder, so the rules for `Moves` of `Programs` apply to it.
-/

namespace Clients

open Programs

variable {Q A ε α : Type}

/-- The exchanges so far, the newest last. -/
abbrev Log (Q A : Type) := List (Q × A)

abbrev Service (Q A : Type) := Log Q A → Q → A

/-- Ask the service, whatever comes of it. -/
def ask (srv : Service Q A) (q : Q) : EStateM ε (Log Q A) A :=
  fun log => .ok (srv log q) (log ++ [(q, srv log q)])

@[simp]
theorem ask_eq_ok {srv : Service Q A} {q : Q} {a : A} {log log' : Log Q A} :
    (ask srv q : EStateM ε (Log Q A) A) log = .ok a log' ↔
      srv log q = a ∧ log ++ [(q, a)] = log' := by
  unfold ask
  rw [EStateM.Result.ok.injEq]
  refine and_congr_right fun h => ?_
  rw [h]

theorem after_ask (srv : Service Q A) (q : Q) (log : Log Q A) :
    after (ask srv q : EStateM ε (Log Q A) A) log = log ++ [(q, srv log q)] := rfl

/-- What the program returns or raises. -/
def caught {σ : Type} (m : EStateM ε σ α) : EStateM ε σ (Except ε α) :=
  rescue (.ok <$> m) fun e => pure (.error e)

theorem caught_of_ok {σ : Type} {m : EStateM ε σ α} {a : α} {s s' : σ} (h : m s = .ok a s') :
    caught m s = .ok (.ok a) s' := rescue_of_ok (map_eq_ok.2 ⟨a, h, rfl⟩)

theorem caught_of_error {σ : Type} {m : EStateM ε σ α} {e : ε} {s s' : σ} (h : m s = .error e s') :
    caught m s = .ok (.error e) s' := rescue_of_error (map_eq_error.2 h)

theorem after_caught {σ : Type} (m : EStateM ε σ α) (s : σ) : after (caught m) s = after m s := by
  rcases ok_or_error m s with ⟨a, h⟩ | ⟨e, h⟩
  · exact after_ok (caught_of_ok h)
  · exact after_ok (caught_of_error h)

/-- What was caught is what became of the program. -/
theorem caught_eq_ok {σ : Type} {m : EStateM ε σ α} {r : Except ε α} {s s' : σ} :
    caught m s = .ok r s' ↔ (∃ a, m s = .ok a s' ∧ r = .ok a) ∨ ∃ e, m s = .error e s' ∧
      r = .error e := by
  rcases ok_or_error m s with ⟨a, h⟩ | ⟨e, h⟩
  · rw [caught_of_ok h, h]
    simp [eq_comm, and_comm]
  · rw [caught_of_error h, h]
    simp [eq_comm, and_comm]

/-- Where a loop raises, one of its rounds does, from a state that the rounds before moved to. -/
theorem foldlM_eq_error {σ β : Type} {R : σ → σ → Prop} [IsPreorder σ R] {f : β → α → EStateM ε σ β}
    {xs : List α} (hf : ∀ b, ∀ x ∈ xs, Moves R (f b x)) {b : β} {e : ε} {s s' : σ}
    (h : xs.foldlM f b s = .error e s') : ∃ x ∈ xs, ∃ c t, R s t ∧ f c x t = .error e s' := by
  induction xs generalizing b s with
  | nil => cases h
  | cons x xs ih =>
    rw [List.foldlM_cons] at h
    rcases bind_eq_error.1 h with hx | ⟨c, t, hok, hxs⟩
    · exact ⟨x, List.mem_cons_self, b, s, refl_of R s, hx⟩
    · have hmoved : R s t := after_ok hok ▸ hf b x List.mem_cons_self s
      obtain ⟨y, hy, c', t', ht', hround⟩ :=
        ih (fun b y hy => hf b y (List.mem_cons_of_mem x hy)) hxs
      exact ⟨y, List.mem_cons_of_mem x hy, c', t', trans_of R hmoved ht', hround⟩

/-- Each request between the two logs was made where `P` holds of the exchanges before it. -/
def Careful (P : Log Q A → Q → Prop) (log log' : Log Q A) : Prop :=
  ∃ new, log' = log ++ new ∧ ∀ (i : Nat) (x : Q × A), new[i]? = some x → P (log ++ new.take i) x.1

variable {P P' : Log Q A → Q → Prop} {log log' log'' : Log Q A}

theorem Careful.refl (P : Log Q A → Q → Prop) (log : Log Q A) : Careful P log log :=
  ⟨[], (List.append_nil log).symm, fun _ _ h => nomatch h⟩

theorem Careful.trans (h : Careful P log log') (h' : Careful P log' log'') :
    Careful P log log'' := by
  obtain ⟨new, rfl, hnew⟩ := h
  obtain ⟨new', rfl, hnew'⟩ := h'
  refine ⟨new ++ new', List.append_assoc log new new', fun i x hx => ?_⟩
  by_cases hi : i < new.length
  · rw [List.getElem?_append_left hi] at hx
    rw [List.take_append_of_le_length (by omega)]
    exact hnew i x hx
  · have hle : new.length ≤ i := by omega
    rw [List.getElem?_append_right hle] at hx
    have htake : (new ++ new').take i = new ++ new'.take (i - new.length) := by
      rw [List.take_append, List.take_of_length_le hle]
    rw [htake, ← List.append_assoc]
    exact hnew' _ x hx

instance : IsPreorder (Log Q A) (Careful P) where
  refl := Careful.refl P
  trans _ _ _ := Careful.trans

theorem Careful.mono (h : Careful P log log') (hP : ∀ before q, P before q → P' before q) :
    Careful P' log log' := by
  obtain ⟨new, hlog, hnew⟩ := h
  exact ⟨new, hlog, fun i x hx => hP _ _ (hnew i x hx)⟩

theorem Careful.grows (h : Careful P log log') : log <+: log' := by
  obtain ⟨new, rfl, -⟩ := h
  exact List.prefix_append log new

/-- What was exchanged before is still in the log. -/
theorem Careful.mem (h : Careful P log log') {x : Q × A} (hx : x ∈ log) : x ∈ log' :=
  h.grows.subset hx

theorem Careful.of_all {P : Q → Prop} (h : Careful (fun _ => P) log log')
    (hlog : ∀ x ∈ log, P x.1) :
    ∀ x ∈ log', P x.1 := by
  obtain ⟨new, rfl, hnew⟩ := h
  intro x hx
  rcases List.mem_append.1 hx with hx | hx
  · exact hlog x hx
  · obtain ⟨i, hi⟩ := List.getElem?_of_mem hx
    exact hnew i x hi

theorem careful_ask {srv : Service Q A} {q : Q} (h : P log q) :
    Careful P log (after (ask srv q : EStateM ε (Log Q A) A) log) := by
  rw [after_ask]
  refine ⟨[(q, srv log q)], rfl, fun i x hx => ?_⟩
  cases i with
  | zero =>
    cases hx
    rwa [List.take_zero, List.append_nil]
  | succ i => cases hx

/-- A request that may always be made. -/
theorem moves_ask {srv : Service Q A} {q : Q} (h : ∀ log, P log q) :
    Moves (Careful P) (ask srv q : EStateM ε (Log Q A) A) := fun log => careful_ask (h log)

/-- Two conditions on the same requests. -/
theorem Careful.and (h : Careful P log log') (h' : Careful P' log log') :
    Careful (fun before q => P before q ∧ P' before q) log log' := by
  obtain ⟨new, rfl, hnew⟩ := h
  obtain ⟨new', heq, hnew'⟩ := h'
  have hsame : new' = new := (List.append_cancel_left heq).symm
  subst hsame
  exact ⟨new', rfl, fun i x hx => ⟨hnew i x hx, hnew' i x hx⟩⟩

/-! ## A client with a state of its own -/

section Both

variable {σ τ ε' : Type}

/-- A program on the first of two states, whose exceptions are those of another kind. -/
def onFst (f : ε → ε') (m : EStateM ε σ α) : EStateM ε' (σ × τ) α := fun s =>
  match m s.1 with
  | .ok a t => .ok a (t, s.2)
  | .error e t => .error (f e) (t, s.2)

/-- A program on the second of two states. -/
def onSnd (m : EStateM ε τ α) : EStateM ε (σ × τ) α := fun s =>
  match m s.2 with
  | .ok a t => .ok a (s.1, t)
  | .error e t => .error e (s.1, t)

theorem onFst_of_ok {f : ε → ε'} {m : EStateM ε σ α} {a : α} {s t : σ} (h : m s = .ok a t) (u : τ) :
    onFst f m (s, u) = .ok a (t, u) := by
  unfold onFst
  rw [h]

theorem onFst_of_error {f : ε → ε'} {m : EStateM ε σ α} {e : ε} {s t : σ}
    (h : m s = .error e t) (u : τ) :
    onFst f m (s, u) = .error (f e) (t, u) := by
  unfold onFst
  rw [h]

theorem onSnd_of_ok {m : EStateM ε τ α} {a : α} {s t : τ} (h : m s = .ok a t) (u : σ) :
    onSnd m (u, s) = .ok a (u, t) := by
  unfold onSnd
  rw [h]

theorem onSnd_of_error {m : EStateM ε τ α} {e : ε} {s t : τ} (h : m s = .error e t) (u : σ) :
    onSnd m (u, s) = .error e (u, t) := by
  unfold onSnd
  rw [h]

end Both

end Clients
