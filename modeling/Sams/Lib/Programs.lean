import Mathlib.Order.Defs.Unbundled
import Mathlib.Tactic.Common

/-!
# Programs that change a state and may raise

A program is a term of core's `EStateM ε σ α`: it returns or raises, and either way leaves a
state behind, so that what was written before an exception stays written. `transaction` is the
one construct that gives it back, and `exec` is a write that a decidable check may refuse.

There are four ways to reason about a program here.

* **Inversion.** The `_eq_ok` lemmas turn `m s = .ok a s'` into what each part of `m` did. A
  loop is inverted by `forM_ok_rec`, whose invariant may mention the elements still to come.
* **Moves.** `Moves R m` says that `R` relates the state before `m` to the state it leaves,
  whether it returned or raised. For a preorder `R` this is compositional; frame conditions are
  stated this way. `Yields R m` says it only of the states `m` returns in.
* **Reaches.** `Reaches Q m s` says that `m` returns from `s`, in a result and a state of `Q`.
* **Meets.** `Meets I E Q m` is a triple: `m` keeps the invariant `I`, what it returns satisfies
  `Q` and what it raises satisfies `E`.
-/

namespace Programs

variable {ε σ ρ α β : Type}

/-- The state a program leaves, whether it returned or raised. -/
def after (m : EStateM ε σ α) (s : σ) : σ :=
  match m s with
  | .ok _ s' => s'
  | .error _ s' => s'

/-- The program returns. -/
def returns (m : EStateM ε σ α) (s : σ) : Bool :=
  match m s with
  | .ok _ _ => true
  | .error _ _ => false

/-- What the program returns, if it does. -/
def returned (m : EStateM ε σ α) (s : σ) : Option α :=
  match m s with
  | .ok a _ => some a
  | .error _ _ => none

/-- Read the state through `f`. -/
def query (f : σ → α) : EStateM ε σ α :=
  fun s => .ok (f s) s

/-- Run `m`; an exception gives the state before it back. -/
def transaction (m : EStateM ε σ α) : EStateM ε σ α :=
  fun s => match m s with
    | .ok a s' => .ok a s'
    | .error e _ => .error e s

/-- A value that satisfies a check. A state of this type cannot violate it. -/
@[ext]
structure Checked (Ok : ρ → Prop) where
  /-- The value. -/
  val : ρ
  /-- It passes the check. -/
  ok : Ok val

/-- Write `f t`, or raise `e` and write nothing when the result fails the check. -/
def exec {Ok : ρ → Prop} [DecidablePred Ok] (e : ε) (f : ρ → ρ) : EStateM ε (Checked Ok) Unit :=
  fun s => if h : Ok (f s.val) then .ok () ⟨f s.val, h⟩ else .error e s

/-- Run `h` on an exception, in the state the exception left. -/
def rescue (m : EStateM ε σ α) (h : ε → EStateM ε σ α) : EStateM ε σ α :=
  fun s => match m s with
    | .ok a s' => .ok a s'
    | .error e s' => h e s'

/-- What `m` returns, or nothing when it raised. -/
def attempt (m : EStateM ε σ α) : EStateM ε σ (Option α) :=
  rescue (some <$> m) fun _ => pure none

/-- Run `m` when the condition holds. -/
def onlyIf (c : Prop) [Decidable c] (m : EStateM ε σ Unit) : EStateM ε σ Unit :=
  if c then m else pure ()

/-- Raise `e` when the condition holds. -/
def raiseIf (c : Prop) [Decidable c] (e : ε) : EStateM ε σ Unit := onlyIf c (throw e)

/-! ## Inversion -/

theorem after_ok {m : EStateM ε σ α} {s s' : σ} {a : α} (h : m s = .ok a s') :
    after m s = s' := by
  simp only [after, h]

theorem after_error {m : EStateM ε σ α} {s s' : σ} {e : ε} (h : m s = .error e s') :
    after m s = s' := by
  simp only [after, h]

theorem after_congr {m m' : EStateM ε σ α} {s : σ} (h : m s = m' s) :
    after m s = after m' s := by
  simp only [after, h]

/-- A program returned or raised. -/
theorem ok_or_error (m : EStateM ε σ α) (s : σ) :
    (∃ a, m s = .ok a (after m s)) ∨ ∃ e, m s = .error e (after m s) := by
  unfold after
  cases m s with
  | ok a s' => exact .inl ⟨a, rfl⟩
  | error e s' => exact .inr ⟨e, rfl⟩

theorem returns_iff {m : EStateM ε σ α} {s : σ} :
    returns m s = true ↔ ∃ a s', m s = .ok a s' := by
  unfold returns
  cases m s <;> simp

theorem returned_eq_some {m : EStateM ε σ α} {s : σ} {a : α} :
    returned m s = some a ↔ ∃ s', m s = .ok a s' := by
  unfold returned
  cases m s <;> simp [eq_comm]

@[simp]
theorem pure_eq_ok {a b : α} {s s' : σ} :
    (pure a : EStateM ε σ α) s = .ok b s' ↔ a = b ∧ s = s' := by
  simp [pure, EStateM.pure]

@[simp]
theorem throw_eq_ok {e : ε} {a : α} {s s' : σ} :
    (throw e : EStateM ε σ α) s = .ok a s' ↔ False := iff_of_false (fun h => nomatch h) id

@[simp]
theorem query_eq_ok {f : σ → α} {a : α} {s s' : σ} :
    (query f : EStateM ε σ α) s = .ok a s' ↔ f s = a ∧ s = s' := by
  simp [query]

theorem onlyIf_of {c : Prop} [Decidable c] {m : EStateM ε σ Unit} (h : c) : onlyIf c m = m :=
  if_pos h

theorem onlyIf_eq_ok {c : Prop} [Decidable c] {m : EStateM ε σ Unit} {u : Unit} {s s' : σ} :
    onlyIf c m s = .ok u s' ↔ c ∧ m s = .ok u s' ∨ ¬c ∧ s = s' := by
  unfold onlyIf
  split_ifs with h <;> simp [h]

@[simp]
theorem raiseIf_eq_ok {c : Prop} [Decidable c] {e : ε} {u : Unit} {s s' : σ} :
    (raiseIf c e : EStateM ε σ Unit) s = .ok u s' ↔ ¬c ∧ s = s' := by
  simp [raiseIf, onlyIf_eq_ok]

theorem bind_eq_ok {m : EStateM ε σ α} {k : α → EStateM ε σ β} {b : β} {s s' : σ} :
    (m >>= k) s = .ok b s' ↔ ∃ a t, m s = .ok a t ∧ k a t = .ok b s' := by
  simp only [bind, EStateM.bind]
  cases m s with
  | ok a t => simp
  | error e t => simp

theorem bind_eq_error {m : EStateM ε σ α} {k : α → EStateM ε σ β} {e : ε} {s s' : σ} :
    (m >>= k) s = .error e s' ↔
      m s = .error e s' ∨ ∃ a t, m s = .ok a t ∧ k a t = .error e s' := by
  simp only [bind, EStateM.bind]
  cases m s with
  | ok a t => simp
  | error e' t => simp

theorem bind_of_ok {m : EStateM ε σ α} {k : α → EStateM ε σ β} {s t : σ} {a : α}
    (h : m s = .ok a t) : (m >>= k) s = k a t := by
  simp only [bind, EStateM.bind, h]

theorem bind_of_error {m : EStateM ε σ α} {k : α → EStateM ε σ β} {s t : σ} {e : ε}
    (h : m s = .error e t) : (m >>= k) s = .error e t := by
  simp only [bind, EStateM.bind, h]

theorem map_eq_ok {f : α → β} {m : EStateM ε σ α} {b : β} {s s' : σ} :
    (f <$> m) s = .ok b s' ↔ ∃ a, m s = .ok a s' ∧ f a = b := by
  simp only [Functor.map, EStateM.map]
  cases m s with
  | ok a t => simp [and_comm]
  | error e t => simp

theorem map_eq_error {f : α → β} {m : EStateM ε σ α} {e : ε} {s s' : σ} :
    (f <$> m) s = .error e s' ↔ m s = .error e s' := by
  simp only [Functor.map, EStateM.map]
  cases m s <;> simp

@[simp]
theorem pure_eq_error {a : α} {e : ε} {s s' : σ} :
    (pure a : EStateM ε σ α) s = .error e s' ↔ False := by
  simp [pure, EStateM.pure]

@[simp]
theorem throw_eq_error {e e' : ε} {s s' : σ} :
    (throw e : EStateM ε σ α) s = .error e' s' ↔ e = e' ∧ s = s' := by
  change EStateM.Result.error e s = .error e' s' ↔ e = e' ∧ s = s'
  rw [EStateM.Result.error.injEq]

@[simp]
theorem raiseIf_eq_error {c : Prop} [Decidable c] {e e' : ε} {s s' : σ} :
    (raiseIf c e : EStateM ε σ Unit) s = .error e' s' ↔ c ∧ e = e' ∧ s = s' := by
  unfold raiseIf onlyIf
  split_ifs with h <;> simp [h]

@[simp]
theorem query_bind {f : σ → α} {k : α → EStateM ε σ β} {s : σ} :
    (query f >>= k) s = k (f s) s := rfl

/-- A check that passes does nothing, and one that fails ends the program. -/
theorem raiseIf_bind {c : Prop} [Decidable c] {e : ε} {k : Unit → EStateM ε σ β} {s : σ} :
    (raiseIf c e >>= k) s = if c then .error e s else k () s := by
  unfold raiseIf onlyIf
  split_ifs <;> rfl

theorem transaction_eq_ok {m : EStateM ε σ α} {a : α} {s s' : σ} :
    transaction m s = .ok a s' ↔ m s = .ok a s' := by
  unfold transaction
  cases m s <;> simp

/-- What returns is not rescued. -/
theorem rescue_of_ok {m : EStateM ε σ α} {h : ε → EStateM ε σ α} {a : α} {s s' : σ}
    (hm : m s = .ok a s') : rescue m h s = .ok a s' := by
  unfold rescue
  rw [hm]

theorem rescue_of_error {m : EStateM ε σ α} {h : ε → EStateM ε σ α} {e : ε} {s s' : σ}
    (hm : m s = .error e s') : rescue m h s = h e s' := by
  unfold rescue
  rw [hm]

/-- A transaction that raised changed nothing. -/
theorem transaction_eq_error {m : EStateM ε σ α} {e : ε} {s s' : σ}
    (h : transaction m s = .error e s') : s' = s := by
  unfold transaction at h
  cases hm : m s with
  | ok a t => rw [hm] at h; cases h
  | error e' t => rw [hm] at h; cases h; rfl

/-- After a transaction the state is what its body returned with, or the state before. -/
theorem after_transaction (m : EStateM ε σ α) (s : σ) :
    (∃ a, m s = .ok a (after (transaction m) s)) ∨ after (transaction m) s = s := by
  rcases ok_or_error (transaction m) s with ⟨a, h⟩ | ⟨e, h⟩
  · exact .inl ⟨a, transaction_eq_ok.1 h⟩
  · exact .inr (transaction_eq_error h)

theorem exec_eq_ok {Ok : ρ → Prop} [DecidablePred Ok] {e : ε} {f : ρ → ρ} {u : Unit}
    {s s' : Checked Ok} : exec e f s = .ok u s' ↔ s'.val = f s.val := by
  unfold exec
  split_ifs with h
  · simp only [EStateM.Result.ok.injEq, true_and]
    exact ⟨fun h' => h' ▸ rfl, fun h' => Checked.ext h'.symm⟩
  · simp only [false_iff]
    exact fun h' => h (h' ▸ s'.ok)

/-- A write whose result passes the check is not refused. -/
theorem exec_of {Ok : ρ → Prop} [DecidablePred Ok] {e : ε} {f : ρ → ρ} {s : Checked Ok}
    (h : Ok (f s.val)) : exec e f s = .ok () ⟨f s.val, h⟩ := exec_eq_ok.2 rfl

/-- A write whose result fails the check is refused. -/
theorem exec_of_not {Ok : ρ → Prop} [DecidablePred Ok] {e : ε} {f : ρ → ρ} {s : Checked Ok}
    (h : ¬Ok (f s.val)) : exec e f s = .error e s := dif_neg h

/-- A write that was refused changed nothing. -/
theorem exec_eq_error {Ok : ρ → Prop} [DecidablePred Ok] {e e' : ε} {f : ρ → ρ}
    {s s' : Checked Ok} (h : exec e f s = .error e' s') : s' = s := by
  unfold exec at h
  split_ifs at h
  cases h
  rfl

/-- After a transaction the state is the one before, or the one its body returned with. -/
@[elab_as_elim]
theorem after_transaction_ind {m : EStateM ε σ α} {s : σ} {motive : σ → Prop} (same : motive s)
    (returned : ∀ a s', m s = .ok a s' → motive s') : motive (after (transaction m) s) := by
  rcases after_transaction m s with ⟨a, h⟩ | h
  · exact returned a _ h
  · rw [h]
    exact same

/-- After a checked write the state is the one before or has the new value. -/
@[elab_as_elim]
theorem after_exec_ind {Ok : ρ → Prop} [DecidablePred Ok] {e : ε} {f : ρ → ρ} {s : Checked Ok}
    {motive : Checked Ok → Prop} (same : motive s)
    (written : ∀ s', s'.val = f s.val → motive s') : motive (after (exec e f) s) := by
  rcases ok_or_error (exec e f) s with ⟨u, h⟩ | ⟨e', h⟩
  · exact written _ (exec_eq_ok.1 h)
  · rw [exec_eq_error h]
    exact same

/-- A loop that returned, by its elements still to come: `I xs s` at the start and one step from
`I (x :: xs)` to `I xs` give `I []` at the end. -/
theorem forM_ok_rec {f : α → EStateM ε σ PUnit} (I : List α → σ → Prop)
    (hstep : ∀ x xs s s', I (x :: xs) s → f x s = .ok ⟨⟩ s' → I xs s') :
    ∀ {xs : List α} {s s' : σ} {u : PUnit}, xs.forM f s = .ok u s' → I xs s → I [] s' := by
  intro xs
  induction xs with
  | nil =>
    intro s s' u h hI
    obtain ⟨-, rfl⟩ := pure_eq_ok.1 h
    exact hI
  | cons x xs ih =>
    intro s s' u h hI
    obtain ⟨⟨⟩, t, hx, hxs⟩ := bind_eq_ok.1 h
    exact ih hxs (hstep x xs s t hI hx)

/-- A loop that returned, by what each round did: `Q x` says what the round of `x` achieves, which
the rounds before and after it, all of them in `R`, leave standing. -/
theorem forM_ok_each {R : σ → σ → Prop} [IsPreorder σ R] {Q : α → σ → σ → Prop}
    {f : α → EStateM ε σ PUnit} (hround : ∀ x s s', f x s = .ok ⟨⟩ s' → R s s' ∧ Q x s s')
    (hbefore : ∀ x s s' s'', R s s' → Q x s' s'' → Q x s s'')
    (hafter : ∀ x s s' s'', Q x s s' → R s' s'' → Q x s s'') {xs : List α} {s s' : σ} {u : PUnit}
    (h : xs.forM f s = .ok u s') : R s s' ∧ ∀ x ∈ xs, Q x s s' := by
  induction xs generalizing s with
  | nil =>
    obtain ⟨-, rfl⟩ := pure_eq_ok.1 h
    exact ⟨refl_of R s, by simp⟩
  | cons x xs ih =>
    obtain ⟨⟨⟩, t, hx, hxs⟩ := bind_eq_ok.1 h
    obtain ⟨hR, hQ⟩ := hround x s t hx
    obtain ⟨hR', hQ'⟩ := ih hxs
    refine ⟨trans_of R hR hR', fun y hy => ?_⟩
    rcases List.mem_cons.1 hy with rfl | hy
    · exact hafter y s t s' hQ hR'
    · exact hbefore y s t s' hR (hQ' y hy)

/-- A loop that returned moves along `R` when each round does at its turn. -/
theorem forM_ok_turns {R : σ → σ → Prop} [IsPreorder σ R] {f : α → EStateM ε σ PUnit} {xs : List α}
    {s s' : σ} {u : PUnit} (h : xs.forM f s = .ok u s')
    (hround : ∀ before x rest t t', xs = before ++ x :: rest → before.forM f s = .ok ⟨⟩ t →
      f x t = .ok ⟨⟩ t' → R t t') : R s s' := by
  induction xs generalizing s with
  | nil =>
    obtain ⟨-, rfl⟩ := pure_eq_ok.1 h
    exact refl_of R s
  | cons x xs ih =>
    obtain ⟨⟨⟩, t, hx, hxs⟩ := bind_eq_ok.1 h
    refine trans_of R (hround [] x xs s t rfl rfl hx) (ih hxs ?_)
    intro before y rest t₁ t₂ hsplit hbefore hy
    refine hround (x :: before) y rest t₁ t₂ (by rw [hsplit]; rfl) ?_ hy
    exact bind_eq_ok.2 ⟨⟨⟩, t, hx, hbefore⟩

/-- A loop whose rounds all return, with an invariant, returns. -/
theorem forM_returns {f : α → EStateM ε σ PUnit} {I : σ → Prop} {xs : List α}
    (h : ∀ x ∈ xs, ∀ s, I s → ∃ s', f x s = .ok ⟨⟩ s' ∧ I s') {s : σ} (hs : I s) :
    ∃ s', xs.forM f s = .ok ⟨⟩ s' ∧ I s' := by
  induction xs generalizing s with
  | nil => exact ⟨s, rfl, hs⟩
  | cons x xs ih =>
    obtain ⟨t, hx, ht⟩ := h x List.mem_cons_self s hs
    obtain ⟨s', hxs, hs'⟩ := ih (fun y hy => h y (List.mem_cons_of_mem _ hy)) ht
    exact ⟨s', bind_eq_ok.2 ⟨⟨⟩, t, hx, hxs⟩, hs'⟩

/-- A loop of writes that returned wrote them one after the other. -/
theorem forM_exec_ok {Ok : ρ → Prop} [DecidablePred Ok] {e : ε} {f : α → ρ → ρ} {xs : List α}
    {s s' : Checked Ok} {u : PUnit} (h : xs.forM (fun x => exec e (f x)) s = .ok u s') :
    s'.val = xs.foldl (fun t x => f x t) s.val := by
  refine (forM_ok_rec (fun rest t => rest.foldl (fun t x => f x t) t.val =
    xs.foldl (fun t x => f x t) s.val) (fun x rest t t' hI hx => ?_) h rfl : _)
  rw [exec_eq_ok.1 hx]
  exact hI

/-- A loop of writes returns when none of them is refused. -/
theorem forM_exec_of {Ok : ρ → Prop} [DecidablePred Ok] {e : ε} {f : α → ρ → ρ} (xs : List α)
    {s : Checked Ok} (h : ∀ ys, ys <+: xs → Ok (ys.foldl (fun t x => f x t) s.val)) :
    ∃ s', xs.forM (fun x => exec e (f x)) s = .ok ⟨⟩ s' ∧
      s'.val = xs.foldl (fun t x => f x t) s.val := by
  induction xs generalizing s with
  | nil => exact ⟨s, rfl, rfl⟩
  | cons x xs ih =>
    have hx : Ok (f x s.val) := h [x] (List.prefix_append [x] xs)
    obtain ⟨s', hs', hval⟩ := ih (s := ⟨f x s.val, hx⟩) fun ys hys => by
      simpa using h (x :: ys) (List.cons_prefix_cons.2 ⟨rfl, hys⟩)
    exact ⟨s', bind_eq_ok.2 ⟨⟨⟩, _, exec_eq_ok.2 rfl, hs'⟩, hval⟩

/-- The same rule for a loop that carries a value. -/
theorem foldlM_ok_rec {f : β → α → EStateM ε σ β} (I : List α → β → σ → Prop)
    (hstep : ∀ x xs b b' s s', I (x :: xs) b s → f b x s = .ok b' s' → I xs b' s') :
    ∀ {xs : List α} {b b' : β} {s s' : σ}, xs.foldlM f b s = .ok b' s' → I xs b s → I [] b' s' := by
  intro xs
  induction xs with
  | nil =>
    intro b b' s s' h hI
    obtain ⟨rfl, rfl⟩ := pure_eq_ok.1 h
    exact hI
  | cons x xs ih =>
    intro b b' s s' h hI
    rw [List.foldlM_cons] at h
    obtain ⟨c, t, hx, hxs⟩ := bind_eq_ok.1 h
    exact ih hxs (hstep x xs b c s t hI hx)

/-- A loop whose rounds only read is the loop of what they read. -/
theorem foldlM_of_ok {f : β → α → EStateM ε σ β} {g : β → α → β} {xs : List α} {s : σ}
    (h : ∀ b, ∀ x ∈ xs, f b x s = .ok (g b x) s) (b : β) :
    xs.foldlM f b s = .ok (xs.foldl g b) s := by
  induction xs generalizing b with
  | nil => rfl
  | cons x xs ih =>
    rw [List.foldlM_cons, bind_of_ok (h b x (by simp))]
    exact ih (fun b y hy => h b y (by simp [hy])) (g b x)

theorem mapM_of_ok {f : α → EStateM ε σ β} {g : α → β} {xs : List α} {s : σ}
    (h : ∀ x ∈ xs, f x s = .ok (g x) s) : xs.mapM f s = .ok (xs.map g) s := by
  induction xs with
  | nil => rfl
  | cons x xs ih =>
    rw [List.mapM_cons, bind_of_ok (h x (by simp)), bind_of_ok (ih fun y hy => h y (by simp [hy]))]
    rfl

/-- One result for each element. -/
theorem length_of_mapM {f : α → EStateM ε σ β} {xs : List α} {s s' : σ} {ys : List β}
    (h : xs.mapM f s = .ok ys s') : ys.length = xs.length := by
  induction xs generalizing s s' ys with
  | nil =>
    obtain ⟨rfl, -⟩ := pure_eq_ok.1 h
    rfl
  | cons x xs ih =>
    rw [List.mapM_cons] at h
    obtain ⟨y, s₁, -, h⟩ := bind_eq_ok.1 h
    obtain ⟨zs, s₂, hzs, h⟩ := bind_eq_ok.1 h
    obtain ⟨rfl, rfl⟩ := pure_eq_ok.1 h
    rw [List.length_cons, List.length_cons, ih hzs]

/-- A loop that carries a value and returned moves along `R` when each round does at its turn. -/
theorem foldlM_ok_turns {R : σ → σ → Prop} [IsPreorder σ R] {f : β → α → EStateM ε σ β}
    {xs : List α} {b b' : β} {s s' : σ} (h : xs.foldlM f b s = .ok b' s')
    (hround : ∀ before x rest c c' t t', xs = before ++ x :: rest → before.foldlM f b s = .ok c t →
      f c x t = .ok c' t' → R t t') : R s s' := by
  induction xs generalizing b s with
  | nil =>
    obtain ⟨-, rfl⟩ := pure_eq_ok.1 h
    exact refl_of R s
  | cons x xs ih =>
    rw [List.foldlM_cons] at h
    obtain ⟨c, t, hx, hxs⟩ := bind_eq_ok.1 h
    refine trans_of R (hround [] x xs b c s t rfl rfl hx) (ih hxs ?_)
    intro before y rest c₁ c₂ t₁ t₂ hsplit hbefore hy
    refine hround (x :: before) y rest c₁ c₂ t₁ t₂ (by rw [hsplit]; rfl) ?_ hy
    rw [List.foldlM_cons]
    exact bind_eq_ok.2 ⟨c, t, hx, hbefore⟩

/-! ## Moves -/

/-- `R` relates the state before `m` to the state it leaves. -/
def Moves (R : σ → σ → Prop) (m : EStateM ε σ α) : Prop :=
  ∀ s, R s (after m s)

/-- What follows a read may use that its value was read from some state. -/
theorem moves_query_bind {R : σ → σ → Prop} {f : σ → α} {k : α → EStateM ε σ β}
    (h : ∀ s, Moves R (k (f s))) : Moves R (query f >>= k) :=
  fun s => h s s

theorem after_map (f : α → β) (m : EStateM ε σ α) (s : σ) : after (f <$> m) s = after m s := by
  simp only [after, Functor.map, EStateM.map]
  cases m s <;> rfl

@[simp]
theorem after_discard (m : EStateM ε σ α) (s : σ) : after (discard m) s = after m s :=
  after_map (fun _ => PUnit.unit) m s

/-- The rule for a result that is mapped, at one state. -/
theorem moves_map_at {R : σ → σ → Prop} {f : α → β} {m : EStateM ε σ α} {s : σ}
    (hm : R s (after m s)) : R s (after (f <$> m) s) :=
  after_map f m s ▸ hm

theorem moves_map {R : σ → σ → Prop} {f : α → β} {m : EStateM ε σ α} (hm : Moves R m) :
    Moves R (f <$> m) :=
  fun s => moves_map_at (hm s)

theorem after_bind_ok {m : EStateM ε σ α} {k : α → EStateM ε σ β} {s t : σ} {a : α}
    (h : m s = .ok a t) : after (m >>= k) s = after (k a) t := by
  simp only [after, bind, EStateM.bind, h]

theorem after_bind_error {m : EStateM ε σ α} {k : α → EStateM ε σ β} {s t : σ} {e : ε}
    (h : m s = .error e t) : after (m >>= k) s = t := by
  simp only [after, bind, EStateM.bind, h]

/-- What follows leaves no trace when it only reads. -/
theorem after_bind_idle {m : EStateM ε σ α} {k : α → EStateM ε σ β}
    (hk : ∀ a s, after (k a) s = s) (s : σ) : after (m >>= k) s = after m s := by
  rcases ok_or_error m s with ⟨a, h⟩ | ⟨e, h⟩
  · rw [after_bind_ok h, hk]
  · rw [after_bind_error h]

@[simp]
theorem after_pure (a : α) (s : σ) : after (pure a : EStateM ε σ α) s = s := rfl

@[simp]
theorem after_throw (e : ε) (s : σ) : after (throw e : EStateM ε σ α) s = s := rfl

@[simp]
theorem after_query_bind (f : σ → α) (k : α → EStateM ε σ β) (s : σ) :
    after (query f >>= k) s = after (k (f s)) s := rfl

@[simp]
theorem after_raiseIf_bind (c : Prop) [Decidable c] (e : ε) (k : Unit → EStateM ε σ β) (s : σ) :
    after (raiseIf c e >>= k) s = if c then s else after (k ()) s := by
  unfold raiseIf onlyIf
  split_ifs <;> rfl

/-- The sequencing rule at one state: what follows may use what `m` returned, and where. -/
theorem moves_bind_of_ok {R : σ → σ → Prop} {m : EStateM ε σ α} {k : α → EStateM ε σ β} {s : σ}
    (hm : R s (after m s)) (hk : ∀ a t, m s = .ok a t → R s (after (k a) t)) :
    R s (after (m >>= k) s) := by
  rcases ok_or_error m s with ⟨a, h⟩ | ⟨e, h⟩
  · rw [after_bind_ok h]
    exact hk a _ h
  · rw [after_bind_error h]
    exact hm

theorem moves_ite {R : σ → σ → Prop} {c : Prop} [Decidable c] {m m' : EStateM ε σ α}
    (hm : Moves R m) (hm' : Moves R m') : Moves R (if c then m else m') := by
  split_ifs
  · exact hm
  · exact hm'

section Preorder

variable {R : σ → σ → Prop} [IsPreorder σ R]

theorem moves_pure (a : α) : Moves R (pure a : EStateM ε σ α) :=
  fun s => refl_of R s

theorem moves_throw (e : ε) : Moves R (throw e : EStateM ε σ α) :=
  fun s => refl_of R s

theorem moves_query (f : σ → α) : Moves R (query f : EStateM ε σ α) :=
  fun s => refl_of R s

theorem moves_onlyIf {c : Prop} [Decidable c] {m : EStateM ε σ Unit} (hm : c → Moves R m) :
    Moves R (onlyIf c m) := by
  unfold onlyIf
  split_ifs with h
  · exact hm h
  · exact moves_pure ()

theorem moves_raiseIf (c : Prop) [Decidable c] (e : ε) :
    Moves R (raiseIf c e : EStateM ε σ Unit) :=
  moves_onlyIf fun _ => moves_throw e

theorem moves_bind {m : EStateM ε σ α} {k : α → EStateM ε σ β} (hm : Moves R m)
    (hk : ∀ a, Moves R (k a)) : Moves R (m >>= k) :=
  fun s => moves_bind_of_ok (hm s) fun a t h => trans_of R (after_ok h ▸ hm s) (hk a t)

/-- What follows a check may use that it passed. -/
theorem moves_raiseIf_bind {c : Prop} [Decidable c] {e : ε} {k : Unit → EStateM ε σ β}
    (hk : ¬c → Moves R (k ())) : Moves R (raiseIf c e >>= k) := by
  intro s
  rw [after_raiseIf_bind]
  by_cases hc : c
  · rw [if_pos hc]
    exact refl_of R s
  · rw [if_neg hc]
    exact hk hc s

/-- The transaction rule at one state. -/
theorem moves_transaction_at {m : EStateM ε σ α} {s : σ} (hm : R s (after m s)) :
    R s (after (transaction m) s) := by
  rcases after_transaction m s with ⟨a, h⟩ | h
  · exact after_ok h ▸ hm
  · exact h.symm ▸ refl_of R s

theorem moves_transaction {m : EStateM ε σ α} (hm : Moves R m) : Moves R (transaction m) :=
  fun s => moves_transaction_at (hm s)

theorem moves_rescue {m : EStateM ε σ α} {h : ε → EStateM ε σ α} (hm : Moves R m)
    (hh : ∀ e, Moves R (h e)) : Moves R (rescue m h) := by
  intro s
  have hs := hm s
  unfold after rescue at *
  cases hms : m s with
  | ok a t => rw [hms] at hs; exact hs
  | error e t => rw [hms] at hs; exact trans_of R hs (hh e t)

theorem moves_forM {f : α → EStateM ε σ PUnit} {xs : List α} (h : ∀ x ∈ xs, Moves R (f x)) :
    Moves R (xs.forM f) := by
  induction xs with
  | nil => exact moves_pure _
  | cons x xs ih =>
    exact moves_bind (h x (by simp)) fun _ => ih fun y hy => h y (by simp [hy])

theorem moves_foldlM {f : β → α → EStateM ε σ β} {xs : List α} {b : β}
    (h : ∀ b, ∀ x ∈ xs, Moves R (f b x)) : Moves R (xs.foldlM f b) := by
  induction xs generalizing b with
  | nil => exact moves_pure _
  | cons x xs ih =>
    rw [List.foldlM_cons]
    exact moves_bind (h b x (by simp)) fun c => ih fun b y hy => h b y (by simp [hy])

theorem moves_mapM {f : α → EStateM ε σ β} {xs : List α} (h : ∀ x ∈ xs, Moves R (f x)) :
    Moves R (xs.mapM f) := by
  induction xs with
  | nil => exact moves_pure _
  | cons x xs ih =>
    rw [List.mapM_cons]
    refine moves_bind (h x (by simp)) fun _ => moves_bind (ih fun y hy => h y (by simp [hy])) ?_
    exact fun _ => moves_pure _

/-- A loop moves along `R` when each round does at its turn. -/
theorem moves_mapM_turns {f : α → EStateM ε σ β} {xs : List α} {s : σ}
    (hround : ∀ before x rest bs t, xs = before ++ x :: rest → before.mapM f s = .ok bs t →
      R t (after (f x) t)) : R s (after (xs.mapM f) s) := by
  induction xs generalizing s with
  | nil => exact refl_of R s
  | cons x xs ih =>
    rw [List.mapM_cons]
    have hfirst : R s (after (f x) s) := hround [] x xs [] s rfl rfl
    refine moves_bind_of_ok hfirst fun b t hx => ?_
    rw [after_bind_idle fun _ _ => rfl]
    refine trans_of R (after_ok hx ▸ hfirst) (ih ?_)
    intro before y rest bs t₁ hsplit hbefore
    refine hround (x :: before) y rest (b :: bs) t₁ (by rw [hsplit]; rfl) ?_
    rw [List.mapM_cons]
    exact bind_eq_ok.2 ⟨b, t, hx, bind_eq_ok.2 ⟨bs, t₁, hbefore, rfl⟩⟩

end Preorder

theorem moves_exec {Ok : ρ → Prop} [DecidablePred Ok] {e : ε} {f : ρ → ρ}
    {R : Checked Ok → Checked Ok → Prop} [IsPreorder _ R]
    (h : ∀ (s : Checked Ok) (hf : Ok (f s.val)), R s ⟨f s.val, hf⟩) : Moves R (exec e f) := by
  intro s
  unfold after exec
  split_ifs with hf
  · exact h s hf
  · exact refl_of R s

/-- `R` grows: what moves along `R` moves along every relation above it. -/
theorem Moves.mono {R R' : σ → σ → Prop} {m : EStateM ε σ α} (h : Moves R m)
    (hR : ∀ s s', R s s' → R' s s') : Moves R' m :=
  fun s => hR _ _ (h s)

/-- Both states look alike through `f`. -/
def Same (f : σ → β) (s s' : σ) : Prop := f s' = f s

instance (f : σ → β) : IsPreorder σ (Same f) where
  refl _ := rfl
  trans _ _ _ h h' := h'.trans h

/-- What a program does not touch is the same where it returns. -/
theorem Moves.same_ok {f : σ → β} {m : EStateM ε σ α} (h : Moves (Same f) m) {s s' : σ} {a : α}
    (hm : m s = .ok a s') : f s' = f s := after_ok hm ▸ h s

/-- `I` is not lost. -/
def Keeps (I : σ → Prop) (s s' : σ) : Prop := I s → I s'

instance (I : σ → Prop) : IsPreorder σ (Keeps I) where
  refl _ h := h
  trans _ _ _ h h' hs := h' (h hs)

/-! ## Yields

The part of `Moves` that speaks of the states a program returns in. It is what a body owes the
transaction around it: where the body raises, the state before is given back. -/

/-- `R` relates the state before `m` to the state it returns in. -/
def Yields (R : σ → σ → Prop) (m : EStateM ε σ α) : Prop :=
  ∀ s a s', m s = .ok a s' → R s s'

theorem Moves.yields {R : σ → σ → Prop} {m : EStateM ε σ α} (h : Moves R m) : Yields R m :=
  fun s _ _ hm => after_ok hm ▸ h s

section Yields

variable {R : σ → σ → Prop} [IsPreorder σ R]

theorem yields_onlyIf {c : Prop} [Decidable c] {m : EStateM ε σ Unit} (hm : Yields R m) :
    Yields R (onlyIf c m) := by
  unfold onlyIf
  split_ifs
  · exact hm
  · exact (moves_pure ()).yields

theorem yields_bind {m : EStateM ε σ α} {k : α → EStateM ε σ β} (hm : Yields R m)
    (hk : ∀ a, Yields R (k a)) : Yields R (m >>= k) := by
  intro s b s' h
  obtain ⟨a, t, hma, hka⟩ := bind_eq_ok.1 h
  exact trans_of R (hm s a t hma) (hk a t b s' hka)

theorem yields_forM {f : α → EStateM ε σ PUnit} {xs : List α} (h : ∀ x ∈ xs, Yields R (f x)) :
    Yields R (xs.forM f) := by
  induction xs with
  | nil => exact (moves_pure _).yields
  | cons x xs ih =>
    exact yields_bind (h x (by simp)) fun _ => ih fun y hy => h y (by simp [hy])

/-- **A transaction moves as far as its body yields.** -/
theorem Yields.transaction {m : EStateM ε σ α} (hm : Yields R m) : Moves R (transaction m) := by
  intro s
  rcases after_transaction m s with ⟨a, h⟩ | h
  · exact hm s a _ h
  · exact h.symm ▸ refl_of R s

end Yields

/-! ## Reverts

A program that leaves no trace when it raises: a transaction, with reads before it and nothing that
raises after it. -/

/-- What raises gives the state before it back. -/
def Reverts (m : EStateM ε σ α) : Prop :=
  ∀ s e s', m s = .error e s' → s' = s

theorem reverts_transaction (m : EStateM ε σ α) : Reverts (transaction m) :=
  fun _ _ _ h => transaction_eq_error h

theorem reverts_map {f : α → β} {m : EStateM ε σ α} (hm : Reverts m) : Reverts (f <$> m) := by
  intro s e s' h
  exact hm s e s' (map_eq_error.1 h)

theorem reverts_query_bind {f : σ → α} {k : α → EStateM ε σ β} (hk : ∀ a, Reverts (k a)) :
    Reverts (query f >>= k) :=
  fun s e s' h => hk (f s) s e s' h

theorem reverts_raiseIf_bind {c : Prop} [Decidable c] {e : ε} {k : Unit → EStateM ε σ β}
    (hk : Reverts (k ())) : Reverts (raiseIf c e >>= k) := by
  intro s e' s' h
  rw [raiseIf_bind] at h
  by_cases hc : c
  · rw [if_pos hc] at h
    cases h
    rfl
  · rw [if_neg hc] at h
    exact hk s e' s' h

theorem reverts_bind_pure {m : EStateM ε σ α} {f : α → β} (hm : Reverts m) :
    Reverts (m >>= fun a => pure (f a)) := by
  intro s e s' h
  rcases bind_eq_error.1 h with h | ⟨a, t, -, hpure⟩
  · exact hm s e s' h
  · cases hpure

/-- A program that reverts and does not return answers with an error and changes nothing. -/
theorem Reverts.refused {m : EStateM ε σ α} (hm : Reverts m) {s : σ}
    (h : ∀ a s', m s ≠ .ok a s') : ∃ e, m s = .error e s := by
  rcases ok_or_error m s with ⟨a, hok⟩ | ⟨e, herr⟩
  · exact absurd hok (h a _)
  · rw [hm s e _ herr] at herr
    exact ⟨e, herr⟩

/-! ## Programs that return -/

/-- `m` returns from `s`, in a result and a state of `Q`. -/
def Reaches (Q : α → σ → Prop) (m : EStateM ε σ α) (s : σ) : Prop := ∃ a s', m s = .ok a s' ∧ Q a s'

theorem reaches_pure {Q : α → σ → Prop} {a : α} {s : σ} (h : Q a s) :
    Reaches Q (pure a : EStateM ε σ α) s := ⟨a, s, rfl, h⟩

theorem reaches_query {Q : α → σ → Prop} {f : σ → α} {s : σ} (h : Q (f s) s) :
    Reaches Q (query f : EStateM ε σ α) s := ⟨f s, s, rfl, h⟩

theorem reaches_bind {M : β → σ → Prop} {Q : α → σ → Prop} {m : EStateM ε σ β}
    {k : β → EStateM ε σ α} {s : σ} (hm : Reaches M m s) (hk : ∀ b t, M b t → Reaches Q (k b) t) :
    Reaches Q (m >>= k) s := by
  obtain ⟨b, t, hok, hM⟩ := hm
  obtain ⟨a, s', hok', hQ⟩ := hk b t hM
  exact ⟨a, s', bind_eq_ok.2 ⟨b, t, hok, hok'⟩, hQ⟩

theorem reaches_raiseIf {Q : Unit → σ → Prop} {c : Prop} [Decidable c] {e : ε} {s : σ} (hc : ¬c)
    (h : Q () s) : Reaches Q (raiseIf c e) s := ⟨(), s, raiseIf_eq_ok.2 ⟨hc, rfl⟩, h⟩

theorem reaches_exec {Ok : ρ → Prop} [DecidablePred Ok] {e : ε} {f : ρ → ρ}
    {Q : Unit → Checked Ok → Prop} {s : Checked Ok} (hf : Ok (f s.val)) (h : Q () ⟨f s.val, hf⟩) :
    Reaches Q (exec e f) s := ⟨(), _, exec_of hf, h⟩

/-- Each round returns the value of `g`, and keeps the invariant. -/
theorem reaches_mapM {I : σ → Prop} {f : α → EStateM ε σ β} {g : α → β} {xs : List α}
    (h : ∀ x ∈ xs, ∀ s, I s → Reaches (fun b s' => b = g x ∧ I s') (f x) s) {s : σ} (hs : I s) :
    Reaches (fun bs s' => bs = xs.map g ∧ I s') (xs.mapM f) s := by
  induction xs generalizing s with
  | nil => exact reaches_pure ⟨rfl, hs⟩
  | cons x xs ih =>
    rw [List.mapM_cons]
    refine reaches_bind (h x List.mem_cons_self s hs) fun b t hb => ?_
    refine reaches_bind (ih (fun y hy => h y (List.mem_cons_of_mem x hy)) hb.2) fun bs t' hbs => ?_
    exact reaches_pure ⟨by rw [hb.1, hbs.1, List.map_cons], hbs.2⟩

/-- Each round returns and keeps the invariant. -/
theorem reaches_foldlM {I : β → σ → Prop} {f : β → α → EStateM ε σ β} {xs : List α}
    (h : ∀ b s, I b s → ∀ x ∈ xs, Reaches I (f b x) s) {b : β} {s : σ} (hs : I b s) :
    Reaches I (xs.foldlM f b) s := by
  induction xs generalizing b s with
  | nil => exact reaches_pure hs
  | cons x xs ih =>
    rw [List.foldlM_cons]
    refine reaches_bind (h b s hs x List.mem_cons_self) fun c t hc => ?_
    exact ih (fun b s hb y hy => h b s hb y (List.mem_cons_of_mem x hy)) hc

theorem Reaches.mono {Q Q' : α → σ → Prop} {m : EStateM ε σ α} {s : σ} (h : Reaches Q m s)
    (hQ : ∀ a s', Q a s' → Q' a s') : Reaches Q' m s := by
  obtain ⟨a, s', hok, ha⟩ := h
  exact ⟨a, s', hok, hQ a s' ha⟩

/-- What a program that reaches `Q` returned is of `Q`. -/
theorem Reaches.of_ok {Q : α → σ → Prop} {m : EStateM ε σ α} {s s' : σ} {a : α}
    (h : Reaches Q m s) (hok : m s = .ok a s') : Q a s' := by
  obtain ⟨b, t, hb, hQ⟩ := h
  rw [hb] at hok
  cases hok
  exact hQ

/-- `m` raises from `s`. -/
def Raises (m : EStateM ε σ α) (s : σ) : Prop := ∃ e s', m s = .error e s'

theorem raises_throw (e : ε) (s : σ) : Raises (throw e : EStateM ε σ α) s := ⟨e, s, rfl⟩

theorem raises_raiseIf {c : Prop} [Decidable c] {e : ε} {s : σ} (hc : c) :
    Raises (raiseIf c e : EStateM ε σ Unit) s := ⟨e, s, raiseIf_eq_error.2 ⟨hc, rfl, rfl⟩⟩

theorem Raises.bind {m : EStateM ε σ β} {s : σ} (h : Raises m s) (k : β → EStateM ε σ α) :
    Raises (m >>= k) s := by
  obtain ⟨e, s', hm⟩ := h
  exact ⟨e, s', bind_eq_error.2 (.inl hm)⟩

/-- What follows raises, wherever the first part returns. -/
theorem raises_bind {M : β → σ → Prop} {m : EStateM ε σ β} {k : β → EStateM ε σ α} {s : σ}
    (hm : Reaches M m s) (hk : ∀ b t, M b t → Raises (k b) t) : Raises (m >>= k) s := by
  obtain ⟨b, t, hok, hM⟩ := hm
  obtain ⟨e, s', herr⟩ := hk b t hM
  exact ⟨e, s', bind_eq_error.2 (.inr ⟨b, t, hok, herr⟩)⟩

theorem Raises.not_ok {m : EStateM ε σ α} {s s' : σ} {a : α} (h : Raises m s) : m s ≠ .ok a s' := by
  obtain ⟨e, t, herr⟩ := h
  rw [herr]
  exact fun h => by cases h

/-- What a program returns or raises, when it is rescued from raising. -/
theorem reaches_attempt {Q : Option α → σ → Prop} {m : EStateM ε σ α} {s : σ}
    (hok : ∀ a s', m s = .ok a s' → Q (some a) s') (herr : ∀ e s', m s = .error e s' → Q none s') :
    Reaches Q (attempt m) s := by
  rcases ok_or_error m s with ⟨a, h⟩ | ⟨e, h⟩
  · exact ⟨_, _, rescue_of_ok (map_eq_ok.2 ⟨a, h, rfl⟩), hok a _ h⟩
  · exact ⟨none, _, rescue_of_error (map_eq_error.2 h), herr e _ h⟩

/-- A program leaves the same state, whether or not it is rescued from raising. -/
theorem after_attempt (m : EStateM ε σ α) (s : σ) : after (attempt m) s = after m s := by
  rcases ok_or_error m s with ⟨a, h⟩ | ⟨e, h⟩
  · exact after_ok (rescue_of_ok (map_eq_ok.2 ⟨a, h, rfl⟩))
  · exact after_ok (rescue_of_error (map_eq_error.2 h))

/-! ## Programs that answer as expected -/

/-- `m` returns where something is expected of it, and raises where nothing is. -/
def Answers (expected : Option β) (Q : β → α → σ → Prop) (m : EStateM ε σ α) (s : σ) : Prop :=
  match expected with
  | some b => Reaches (Q b) m s
  | none => Raises m s

section Answers

variable {γ δ : Type} {Q : β → α → σ → Prop} {s : σ}

theorem answers_pure {b : β} {a : α} (h : Q b a s) :
    Answers (some b) Q (pure a : EStateM ε σ α) s := reaches_pure h

/-- What is expected of the first part decides what is expected of the rest. -/
theorem answers_bind {expected : Option γ} {f : γ → Option β} {M : γ → δ → σ → Prop}
    {m : EStateM ε σ δ} {k : δ → EStateM ε σ α} (hm : Answers expected M m s)
    (hk : ∀ c d t, M c d t → Answers (f c) Q (k d) t) :
    Answers (expected.bind f) Q (m >>= k) s := by
  cases expected with
  | none => exact Raises.bind hm k
  | some c =>
    obtain ⟨d, t, hok, hM⟩ := hm
    have hanswers := hk c d t hM
    show Answers (f c) Q (m >>= k) s
    cases hf : f c with
    | none =>
      rw [hf] at hanswers
      exact raises_bind (M := fun d' t' => d' = d ∧ t' = t) ⟨d, t, hok, rfl, rfl⟩ fun _ _ h =>
        h.1 ▸ h.2 ▸ hanswers
    | some b =>
      rw [hf] at hanswers
      exact reaches_bind (M := fun d' t' => d' = d ∧ t' = t) ⟨d, t, hok, rfl, rfl⟩ fun _ _ h =>
        h.1 ▸ h.2 ▸ hanswers

/-- The first part returns whatever is expected of the rest. -/
theorem Reaches.answers {expected : Option β} {M : δ → σ → Prop} {m : EStateM ε σ δ}
    {k : δ → EStateM ε σ α} (hm : Reaches M m s) (hk : ∀ d t, M d t → Answers expected Q (k d) t) :
    Answers expected Q (m >>= k) s := by
  have hm : Answers (some ()) (fun _ => M) m s := hm
  exact answers_bind (f := fun _ : Unit => expected) hm fun _ d t h => hk d t h

/-- What a program moves along, it has moved along where it answers. -/
theorem Answers.moved {expected : Option β} {R : σ → σ → Prop} {m : EStateM ε σ α}
    (h : Answers expected Q m s) (hm : Moves R m) :
    Answers expected (fun b a s' => Q b a s' ∧ R s s') m s := by
  cases expected with
  | none => exact h
  | some b =>
    obtain ⟨a, s', hok, hQ⟩ := h
    exact ⟨a, s', hok, hQ, after_ok hok ▸ hm s⟩

/-- What the program returned was expected. -/
theorem Answers.of_ok {expected : Option β} {m : EStateM ε σ α} {s' : σ} {a : α}
    (h : Answers expected Q m s) (hok : m s = .ok a s') : ∃ b, expected = some b ∧ Q b a s' := by
  cases expected with
  | none => exact (Raises.not_ok h hok).elim
  | some b => exact ⟨b, rfl, Reaches.of_ok h hok⟩

end Answers

/-! ## Invariants with conditions on values and exceptions -/

/-- Run in a state of `I`, the program leaves a state of `I`; a value it returns satisfies `Q`, and
an exception it raises `E`. -/
def Meets (I : σ → Prop) (E : ε → Prop) (Q : α → Prop) (m : EStateM ε σ α) : Prop :=
  ∀ s, I s → match m s with
    | .ok a s' => I s' ∧ Q a
    | .error e s' => I s' ∧ E e

section Meets

variable {I : σ → Prop} {E : ε → Prop} {Q : α → Prop} {Q' : β → Prop}

theorem Meets.ok {m : EStateM ε σ α} (h : Meets I E Q m) {s s' : σ} {a : α} (hs : I s)
    (hm : m s = .ok a s') : I s' ∧ Q a := by
  have := h s hs
  rwa [hm] at this

theorem Meets.error {m : EStateM ε σ α} (h : Meets I E Q m) {s s' : σ} {e : ε} (hs : I s)
    (hm : m s = .error e s') : I s' ∧ E e := by
  have := h s hs
  rwa [hm] at this

theorem meets_pure {a : α} (h : Q a) : Meets I E Q (pure a) := fun _ hs => ⟨hs, h⟩

theorem meets_throw {e : ε} (h : E e) : Meets I E Q (throw e) := fun _ hs => ⟨hs, h⟩

theorem meets_query {f : σ → α} (h : ∀ s, I s → Q (f s)) : Meets I E Q (query f) :=
  fun s hs => ⟨hs, h s hs⟩

/-- What follows a read may use that its value was read from a state of `I`. -/
theorem meets_query_bind {f : σ → α} {k : α → EStateM ε σ β}
    (h : ∀ s, I s → Meets I E Q' (k (f s))) : Meets I E Q' (query f >>= k) :=
  fun s hs => h s hs s hs

theorem meets_bind {m : EStateM ε σ α} {k : α → EStateM ε σ β} (hm : Meets I E Q m)
    (hk : ∀ a, Q a → Meets I E Q' (k a)) : Meets I E Q' (m >>= k) := by
  intro s hs
  have := hm s hs
  simp only [bind, EStateM.bind]
  cases hms : m s with
  | ok a t =>
    rw [hms] at this
    exact hk a this.2 t this.1
  | error e t =>
    rw [hms] at this
    exact this

theorem meets_ite {c : Prop} [Decidable c] {m m' : EStateM ε σ α} (hm : c → Meets I E Q m)
    (hm' : ¬c → Meets I E Q m') : Meets I E Q (if c then m else m') := by
  split_ifs with h
  · exact hm h
  · exact hm' h

theorem meets_onlyIf {c : Prop} [Decidable c] {m : EStateM ε σ Unit} {Q : Unit → Prop}
    (hm : Meets I E Q m) (hQ : Q ()) : Meets I E Q (onlyIf c m) :=
  meets_ite (fun _ => hm) fun _ => meets_pure hQ

theorem meets_raiseIf {c : Prop} [Decidable c] {e : ε} {Q : Unit → Prop} (h : E e) (hQ : Q ()) :
    Meets I E Q (raiseIf c e : EStateM ε σ Unit) :=
  meets_onlyIf (meets_throw h) hQ

theorem meets_transaction {m : EStateM ε σ α} (hm : Meets I E Q m) :
    Meets I E Q (transaction m) := by
  intro s hs
  have := hm s hs
  unfold transaction
  cases hms : m s with
  | ok a t =>
    rw [hms] at this
    exact this
  | error e t =>
    rw [hms] at this
    exact ⟨hs, this.2⟩

theorem meets_rescue {m : EStateM ε σ α} {h : ε → EStateM ε σ α} (hm : Meets I E Q m)
    (hh : ∀ e, E e → Meets I E Q (h e)) : Meets I E Q (rescue m h) := by
  intro s hs
  have := hm s hs
  unfold rescue
  cases hms : m s with
  | ok a t =>
    rw [hms] at this
    exact this
  | error e t =>
    rw [hms] at this
    exact hh e this.2 t this.1

theorem meets_map {f : α → β} {m : EStateM ε σ α} (hm : Meets I E (fun a => Q' (f a)) m) :
    Meets I E Q' (f <$> m) := by
  intro s hs
  have := hm s hs
  simp only [Functor.map, EStateM.map]
  cases hms : m s with
  | ok a t =>
    rw [hms] at this
    exact this
  | error e t =>
    rw [hms] at this
    exact this

theorem Meets.mono {P : α → Prop} {m : EStateM ε σ α} (h : Meets I E P m)
    (hQ : ∀ a, P a → Q a) : Meets I E Q m := by
  intro s hs
  have := h s hs
  cases hms : m s with
  | ok a t =>
    rw [hms] at this
    exact ⟨this.1, hQ a this.2⟩
  | error e t =>
    rw [hms] at this
    exact this

theorem meets_forM {f : α → EStateM ε σ PUnit} {xs : List α}
    (h : ∀ x ∈ xs, Meets I E (fun _ => True) (f x)) : Meets I E (fun _ => True) (xs.forM f) := by
  induction xs with
  | nil => exact meets_pure trivial
  | cons x xs ih =>
    exact meets_bind (h x (by simp)) fun _ _ => ih fun y hy => h y (by simp [hy])

theorem meets_foldlM {f : β → α → EStateM ε σ β} {xs : List α} {b : β} (hb : Q' b)
    (h : ∀ b, Q' b → ∀ x ∈ xs, Meets I E Q' (f b x)) : Meets I E Q' (xs.foldlM f b) := by
  induction xs generalizing b with
  | nil => exact meets_pure hb
  | cons x xs ih =>
    rw [List.foldlM_cons]
    exact meets_bind (h b hb x (by simp)) fun c hc =>
      ih hc fun b hb y hy => h b hb y (by simp [hy])

theorem meets_mapM {f : α → EStateM ε σ β} {xs : List α} (h : ∀ x ∈ xs, Meets I E Q' (f x)) :
    Meets I E (fun ys => ∀ y ∈ ys, Q' y) (xs.mapM f) := by
  induction xs with
  | nil => exact meets_pure (by simp)
  | cons x xs ih =>
    rw [List.mapM_cons]
    refine meets_bind (h x (by simp)) fun y hy => ?_
    refine meets_bind (ih fun z hz => h z (by simp [hz])) fun ys hys => meets_pure ?_
    simpa [hy] using hys

theorem meets_exec {Ok : ρ → Prop} [DecidablePred Ok] {e : ε} {f : ρ → ρ}
    {I : Checked Ok → Prop} {Q : Unit → Prop} (hE : E e) (hQ : Q ())
    (h : ∀ s s', I s → s'.val = f s.val → I s') : Meets I E Q (exec e f) := by
  intro s hs
  unfold exec
  split_ifs with hf
  · exact ⟨h s _ hs rfl, hQ⟩
  · exact ⟨hs, hE⟩

end Meets

end Programs
