import Mathlib.Data.List.Forall2
import Mathlib.Data.List.Sort
import Sams.Lib.Interleaving

/-!
# Two runs from related states

`Paired R Q m m'` says of two programs that from any two states related by `R` either both return,
values that are related by `Q`, or both raise the same error, and that the states they leave are
related again. What a program paired with itself makes known does not tell two related states apart
(**`Paired.outcome_eq`**).

There is one rule for each way to build a program, for programs of `EStateM` and for those cut into
atomic actions.
-/

/-! ## Lists whose elements are related -/

namespace Twins

variable {α β : Type} {S : α → α → Prop}

/-- Sorting by related keys keeps related elements at the same places. -/
theorem forall₂_insertionSort {r : α → α → Prop} [DecidableRel r]
    (hr : ∀ {a a' b b'}, S a a' → S b b' →
    (r a b ↔ r a' b')) {l l' : List α} (h : List.Forall₂ S l l') :
    List.Forall₂ S (l.insertionSort r) (l'.insertionSort r) := by
  have hinsert : ∀ {a a' : α} {m m' : List α}, S a a' → List.Forall₂ S m m' →
      List.Forall₂ S (m.orderedInsert r a) (m'.orderedInsert r a') := by
    intro a a' m m' ha hm
    induction hm with
    | nil => exact .cons ha .nil
    | cons hb hm ih =>
      rw [List.orderedInsert_cons, List.orderedInsert_cons, if_congr (hr ha hb) rfl rfl]
      split_ifs
      · exact .cons ha (.cons hb hm)
      · exact .cons hb ih
  induction h with
  | nil => exact .nil
  | cons ha _ ih => exact hinsert ha ih

/-- Lists with the same images, whose elements are otherwise known. -/
theorem forall₂_of_map {f : α → β} {P : α → Prop} (hS : ∀ {a a'}, f a = f a' → P a → P a' → S a a')
    {l l' : List α} (h : l.map f = l'.map f) (hl : ∀ a ∈ l, P a) (hl' : ∀ a ∈ l', P a) :
    List.Forall₂ S l l' := by
  induction l generalizing l' with
  | nil =>
    rw [List.map_nil, eq_comm, List.map_eq_nil_iff] at h
    rw [h]
    exact .nil
  | cons a l ih =>
    cases l' with
    | nil => cases h
    | cons a' l' =>
      rw [List.map_cons, List.map_cons, List.cons.injEq] at h
      refine .cons (hS h.1 (hl a List.mem_cons_self) (hl' a' List.mem_cons_self)) (ih h.2 ?_ ?_)
      · exact fun b hb => hl b (List.mem_cons_of_mem a hb)
      · exact fun b hb => hl' b (List.mem_cons_of_mem a' hb)

theorem any_eq {p : α → Bool} (hp : ∀ {a a'}, S a a' → p a = p a') {l l' : List α}
    (h : List.Forall₂ S l l') : l.any p = l'.any p := by
  induction h with
  | nil => rfl
  | cons ha _ ih => rw [List.any_cons, List.any_cons, hp ha, ih]

end Twins

/-! ## Programs -/

namespace Programs

variable {ε σ α β ρ : Type}

/-- What a program makes known: the value that it returns, or the error. -/
def outcome (m : EStateM ε σ α) (s : σ) : Except ε α :=
  match m s with
  | .ok a _ => .ok a
  | .error e _ => .error e

theorem outcome_of_ok {m : EStateM ε σ α} {s t : σ} {a : α} (h : m s = .ok a t) :
    outcome m s = .ok a := by
  unfold outcome
  rw [h]

theorem outcome_of_error {m : EStateM ε σ α} {s s' : σ} {e : ε} (h : m s = .error e s') :
    outcome m s = .error e := by
  unfold outcome
  rw [h]

/-- Two programs that go the same way from related states. -/
def Paired (R : σ → σ → Prop) (Q : α → α → Prop) (m m' : EStateM ε σ α) : Prop :=
  ∀ s s', R s s' →
    (∃ a a' t t', m s = .ok a t ∧ m' s' = .ok a' t' ∧ Q a a' ∧ R t t') ∨
    ∃ e t t', m s = .error e t ∧ m' s' = .error e t' ∧ R t t'

variable {R : σ → σ → Prop} {Q : α → α → Prop}

theorem Paired.outcome_eq {m m' : EStateM ε σ α} (h : Paired R (· = ·) m m') {s s' : σ}
    (hs : R s s') : outcome m s = outcome m' s' := by
  rcases h s s' hs with ⟨a, a', t, t', hm, hm', rfl, -⟩ | ⟨e, t, t', hm, hm', -⟩
  · rw [outcome_of_ok hm, outcome_of_ok hm']
  · rw [outcome_of_error hm, outcome_of_error hm']

theorem Paired.mono {P : α → α → Prop} {m m' : EStateM ε σ α} (h : Paired R P m m')
    (hPQ : ∀ a a', P a a' → Q a a') : Paired R Q m m' := by
  intro s s' hs
  rcases h s s' hs with ⟨a, a', t, t', hm, hm', hP, ht⟩ | herror
  · exact .inl ⟨a, a', t, t', hm, hm', hPQ a a' hP, ht⟩
  · exact .inr herror

/-- What each of the two returns may be said on its own. -/
theorem Paired.and {U : α → Prop} {m m' : EStateM ε σ α} (h : Paired R Q m m')
    (hm : ∀ s a t, m s = .ok a t → U a) (hm' : ∀ s a t, m' s = .ok a t → U a) :
    Paired R (fun a a' => Q a a' ∧ U a ∧ U a') m m' := by
  intro s s' hs
  rcases h s s' hs with ⟨a, a', t, t', ha, ha', hQ, ht⟩ | herror
  · exact .inl ⟨a, a', t, t', ha, ha', ⟨hQ, hm s a t ha, hm' s' a' t' ha'⟩, ht⟩
  · exact .inr herror

theorem paired_pure {a a' : α} (h : Q a a') :
    Paired R Q (pure a : EStateM ε σ α) (pure a') :=
  fun s s' hs => .inl ⟨a, a', s, s', rfl, rfl, h, hs⟩

theorem paired_throw (e : ε) : Paired R Q (throw e : EStateM ε σ α) (throw e) :=
  fun s s' hs => .inr ⟨e, s, s', rfl, rfl, hs⟩

theorem paired_query {f f' : σ → α} (h : ∀ s s', R s s' → Q (f s) (f' s')) :
    Paired R Q (query f : EStateM ε σ α) (query f') :=
  fun s s' hs => .inl ⟨f s, f' s', s, s', rfl, rfl, h s s' hs, hs⟩

theorem paired_bind {P : β → β → Prop} {m m' : EStateM ε σ β} {k k' : β → EStateM ε σ α}
    (hm : Paired R P m m') (hk : ∀ b b', P b b' → Paired R Q (k b) (k' b')) :
    Paired R Q (m >>= k) (m' >>= k') := by
  intro s s' hs
  rcases hm s s' hs with ⟨b, b', t, t', hb, hb', hP, ht⟩ | ⟨e, t, t', he, he', ht⟩
  · rcases hk b b' hP t t' ht with ⟨a, a', u, u', ha, ha', hQ, hu⟩ | ⟨e, u, u', he, he', hu⟩
    · exact .inl ⟨a, a', u, u', bind_eq_ok.2 ⟨b, t, hb, ha⟩, bind_eq_ok.2 ⟨b', t', hb', ha'⟩,
        hQ, hu⟩
    · exact .inr ⟨e, u, u', bind_eq_error.2 (.inr ⟨b, t, hb, he⟩),
        bind_eq_error.2 (.inr ⟨b', t', hb', he'⟩), hu⟩
  · exact .inr ⟨e, t, t', bind_eq_error.2 (.inl he), bind_eq_error.2 (.inl he'), ht⟩

theorem paired_rescue {m m' : EStateM ε σ α} {h h' : ε → EStateM ε σ α} (hm : Paired R Q m m')
    (hh : ∀ e, Paired R Q (h e) (h' e)) : Paired R Q (rescue m h) (rescue m' h') := by
  intro s s' hs
  rcases hm s s' hs with ⟨a, a', t, t', ha, ha', hQ, ht⟩ | ⟨e, t, t', he, he', ht⟩
  · exact .inl ⟨a, a', t, t', rescue_of_ok ha, rescue_of_ok ha', hQ, ht⟩
  · rw [rescue_of_error he, rescue_of_error he']
    exact hh e t t' ht

/-- The states that a failed transaction goes back to are related. -/
theorem paired_transaction {m m' : EStateM ε σ α} (hm : Paired R Q m m') :
    Paired R Q (transaction m) (transaction m') := by
  intro s s' hs
  unfold transaction
  rcases hm s s' hs with ⟨a, a', t, t', ha, ha', hQ, ht⟩ | ⟨e, t, t', he, he', -⟩
  · rw [ha, ha']
    exact .inl ⟨a, a', t, t', rfl, rfl, hQ, ht⟩
  · rw [he, he']
    exact .inr ⟨e, s, s', rfl, rfl, hs⟩

/-- Two statements that a database takes or refuses together. -/
theorem paired_exec {Ok : ρ → Prop} [DecidablePred Ok] {R : Checked Ok → Checked Ok → Prop}
    {e : ε} {f f' : ρ → ρ}
    (hok : ∀ s s', R s s' → (Ok (f s.val) ↔ Ok (f' s'.val)))
    (h : ∀ s s', R s s' → ∀ ht ht', R ⟨f s.val, ht⟩ ⟨f' s'.val, ht'⟩) :
    Paired R (· = ·) (exec e f : EStateM ε (Checked Ok) Unit) (exec e f') := by
  intro s s' hs
  by_cases ht : Ok (f s.val)
  · have ht' := (hok s s' hs).1 ht
    exact .inl ⟨(), (), _, _, exec_of ht, exec_of ht', rfl, h s s' hs ht ht'⟩
  · have ht' := fun h' => ht ((hok s s' hs).2 h')
    refine .inr ⟨e, s, s', ?_, ?_, hs⟩
    · unfold exec
      rw [dif_neg ht]
    · unfold exec
      rw [dif_neg ht']

/-! ### From two states -/

/-- The two go the same way from these states. -/
def PairedAt (R : σ → σ → Prop) (Q : α → α → Prop) (m m' : EStateM ε σ α) (s s' : σ) : Prop :=
  (∃ a a' t t', m s = .ok a t ∧ m' s' = .ok a' t' ∧ Q a a' ∧ R t t') ∨
    ∃ e t t', m s = .error e t ∧ m' s' = .error e t' ∧ R t t'

/-- What follows may use what the first part has returned from these states. -/
theorem PairedAt.bind_eq {m m' : EStateM ε σ β} {k k' : β → EStateM ε σ α} {s s' : σ}
    (hm : PairedAt R (· = ·) m m' s s')
    (hk : ∀ b t t', m s = .ok b t → m' s' = .ok b t' → R t t' → PairedAt R Q (k b) (k' b) t t') :
    PairedAt R Q (m >>= k) (m' >>= k') s s' := by
  rcases hm with ⟨b, _, t, t', hb, hb', rfl, ht⟩ | ⟨e, t, t', he, he', ht⟩
  · unfold PairedAt
    rw [bind_of_ok hb, bind_of_ok hb']
    exact hk b t t' hb hb' ht
  · exact .inr ⟨e, t, t', bind_of_error he, bind_of_error he', ht⟩

theorem PairedAt.returned_eq {m m' : EStateM ε σ α} {s s' : σ}
    (h : PairedAt R (· = ·) m m' s s') : returned m s = returned m' s' := by
  unfold returned
  rcases h with ⟨a, a', t, t', hm, hm', rfl, -⟩ | ⟨e, t, t', hm, hm', -⟩
  · rw [hm, hm']
  · rw [hm, hm']

/-- The states that are left are related. -/
theorem PairedAt.after_rel {m m' : EStateM ε σ α} {s s' : σ} (h : PairedAt R Q m m' s s') :
    R (after m s) (after m' s') := by
  rcases h with ⟨a, a', t, t', hm, hm', -, ht⟩ | ⟨e, t, t', hm, hm', ht⟩
  · rw [after_ok hm, after_ok hm']
    exact ht
  · rw [after_error hm, after_error hm']
    exact ht

theorem paired_forM {γ : Type} {f : γ → EStateM ε σ PUnit} {xs : List γ}
    (h : ∀ x ∈ xs, Paired R (· = ·) (f x) (f x)) : Paired R (· = ·) (xs.forM f) (xs.forM f) := by
  induction xs with
  | nil => exact paired_pure rfl
  | cons x xs ih =>
    exact paired_bind (h x List.mem_cons_self) fun _ _ _ =>
      ih fun y hy => h y (List.mem_cons_of_mem x hy)

end Programs

namespace Interleaving.Proc

open Programs

variable {μ ε σ α β ρ : Type}

/-- An error is replaced wherever it is raised. -/
@[simp] theorem seq_wrap (f : ε → ε) (p : Proc μ ε σ α) :
    (p.wrap f).seq = rescue p.seq fun e => throw (f e) := by
  induction p with
  | ret a => rfl
  | fail e => rfl
  | act mark m k ih =>
    funext s
    show (rescue m (fun e => throw (f e)) >>= fun r => ((k r).wrap f).seq) s =
      rescue (m >>= fun r => (k r).seq) (fun e => throw (f e)) s
    cases hm : m s with
    | ok r s' =>
      have hbind : (m >>= fun r => (k r).seq) s = (k r).seq s' := bind_of_ok hm
      rw [bind_of_ok (rescue_of_ok hm), ih]
      unfold rescue
      rw [hbind]
    | error e s' =>
      have hthrow : rescue m (fun e => throw (f e)) s = .error (f e) s' := rescue_of_error hm
      rw [bind_of_error hthrow, rescue_of_error (bind_of_error hm)]
      rfl

/-- What a program returns, it returns with its errors replaced. -/
theorem seq_wrap_eq_ok {f : ε → ε} {p : Proc μ ε σ α} {s s' : σ} {a : α} :
    (p.wrap f).seq s = .ok a s' ↔ p.seq s = .ok a s' := by
  rw [seq_wrap]
  constructor
  · intro h
    cases hp : p.seq s with
    | ok b t =>
      rw [rescue_of_ok hp] at h
      exact h
    | error e t =>
      rw [rescue_of_error hp] at h
      exact (throw_eq_ok.1 h).elim
  · exact rescue_of_ok

/-- Two programs that go the same way when each is run alone, from related states. -/
def Twin (R : σ → σ → Prop) (Q : α → α → Prop) (p p' : Proc μ ε σ α) : Prop :=
  Paired R Q p.seq p'.seq

section Twin

variable {R : σ → σ → Prop} {Q : α → α → Prop}

theorem Twin.mono {P : α → α → Prop} {p p' : Proc μ ε σ α} (h : p.Twin R P p')
    (hPQ : ∀ a a', P a a' → Q a a') : p.Twin R Q p' := Paired.mono h hPQ

theorem twin_ret {a a' : α} (h : Q a a') : (pure a : Proc μ ε σ α).Twin R Q (pure a') :=
  paired_pure h

theorem twin_fail (e : ε) : (fail e : Proc μ ε σ α).Twin R Q (fail e) := paired_throw e

theorem twin_bind {P : β → β → Prop} {p p' : Proc μ ε σ β} {f f' : β → Proc μ ε σ α}
    (hp : p.Twin R P p') (hf : ∀ b b', P b b' → (f b).Twin R Q (f' b')) :
    (p >>= f).Twin R Q (p' >>= f') := by
  unfold Twin
  rw [seq_bind, seq_bind]
  exact paired_bind hp hf

/-- What follows two programs that return the same. -/
theorem twin_bind_eq {p p' : Proc μ ε σ β} {f f' : β → Proc μ ε σ α} (hp : p.Twin R (· = ·) p')
    (hf : ∀ b, (f b).Twin R Q (f' b)) : (p >>= f).Twin R Q (p' >>= f') :=
  twin_bind hp fun b _ h => h ▸ hf b

theorem twin_map {P : β → β → Prop} {p p' : Proc μ ε σ β} {f f' : β → α} (hp : p.Twin R P p')
    (hf : ∀ b b', P b b' → Q (f b) (f' b')) : (f <$> p).Twin R Q (f' <$> p') := by
  rw [map_eq_pure_bind, map_eq_pure_bind]
  exact twin_bind hp fun b b' h => twin_ret (hf b b' h)

theorem twin_once {m m' : EStateM ε σ α} (h : Paired R Q m m') :
    (once m : Proc μ ε σ α).Twin R Q (once m') := by
  unfold Twin
  rw [seq_once, seq_once]
  exact h

/-- The marks make no difference to a program that runs alone. -/
theorem twin_marked {x x' : μ} {m m' : EStateM ε σ α} (h : Paired R Q m m') :
    (marked x m).Twin R Q (marked x' m') := by
  unfold Twin
  rw [seq_marked, seq_marked]
  exact h

theorem twin_look {f f' : σ → α} (h : ∀ s s', R s s' → Q (f s) (f' s')) :
    (look f : Proc μ ε σ α).Twin R Q (look f') := twin_once (paired_query h)

theorem twin_failIf {c c' : Prop} [Decidable c] [Decidable c'] {e : ε} (h : c ↔ c') :
    (failIf c e : Proc μ ε σ Unit).Twin R (· = ·) (failIf c' e) := by
  unfold failIf
  by_cases hc : c
  · rw [if_pos hc, if_pos (h.1 hc)]
    exact twin_fail e
  · rw [if_neg hc, if_neg fun hc' => hc (h.2 hc')]
    exact twin_ret rfl

theorem twin_ite {c : Prop} [Decidable c] {p q p' q' : Proc μ ε σ α} (hp : c → p.Twin R Q p')
    (hq : ¬c → q.Twin R Q q') : (if c then p else q).Twin R Q (if c then p' else q') := by
  by_cases hc : c
  · rw [if_pos hc, if_pos hc]
    exact hp hc
  · rw [if_neg hc, if_neg hc]
    exact hq hc

theorem Twin.wrap {p p' : Proc μ ε σ α} (h : p.Twin R Q p') (f : ε → ε) :
    (p.wrap f).Twin R Q (p'.wrap f) := by
  unfold Twin
  rw [seq_wrap, seq_wrap]
  exact paired_rescue h fun e => paired_throw (f e)

theorem twin_forM {γ : Type} {f f' : γ → Proc μ ε σ PUnit} {xs : List γ}
    (h : ∀ x ∈ xs, (f x).Twin R (· = ·) (f' x)) : (xs.forM f).Twin R (· = ·) (xs.forM f') := by
  induction xs with
  | nil => exact twin_ret rfl
  | cons x xs ih =>
    exact twin_bind_eq (h x List.mem_cons_self) fun _ =>
      ih fun y hy => h y (List.mem_cons_of_mem x hy)

/-- A fold over two lists whose elements are related one by one. -/
theorem twin_foldlM {γ : Type} {S : γ → γ → Prop} {P : β → β → Prop}
    {f f' : β → γ → Proc μ ε σ β} {xs xs' : List γ} (hxs : List.Forall₂ S xs xs')
    (h : ∀ b b' x x', P b b' → S x x' → (f b x).Twin R P (f' b' x')) :
    ∀ {b b' : β}, P b b' → (xs.foldlM f b).Twin R P (xs'.foldlM f' b') := by
  induction hxs with
  | nil => exact fun hb => twin_ret hb
  | cons hx _ ih =>
    intro b b' hb
    rw [List.foldlM_cons, List.foldlM_cons]
    exact twin_bind (h _ _ _ _ hb hx) fun c c' hc => ih hc

theorem twin_mapM {γ : Type} {S : γ → γ → Prop} {f f' : γ → Proc μ ε σ β} {P : β → β → Prop}
    {xs xs' : List γ} (hxs : List.Forall₂ S xs xs')
    (h : ∀ x x', S x x' → (f x).Twin R P (f' x')) :
    (xs.mapM f).Twin R (List.Forall₂ P) (xs'.mapM f') := by
  induction hxs with
  | nil => exact twin_ret .nil
  | cons hx _ ih =>
    rw [List.mapM_cons, List.mapM_cons]
    exact twin_bind (h _ _ hx) fun y y' hy => twin_bind ih fun ys ys' hys => twin_ret (.cons hy hys)

end Twin

end Interleaving.Proc
