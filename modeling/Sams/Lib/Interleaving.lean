import Mathlib.Logic.Function.Basic
import Sams.Lib.Programs
import Sams.Lib.Runs

/-!
# Programs whose steps interleave

A `Proc` is a program cut into atomic actions: what lies between two actions is its own, and at each
action other programs may have changed the state since the last one. Run alone, it is the program
`Proc.seq` of `EStateM`. A `Pool` holds one program for each name of `ι` and steps any of them.

An action may carry a mark, which has no effect: it says what the action is, and the history of a
run remembers it. What a marked action takes for granted of the state it is taken in is a relation
`H` between marks and states, and a step is *undisturbed* when that is the case.

The rules are those of rely and guarantee. A guarantee `G` says what an action of the program may
do, as a relation on states that may look at the action's mark; `R` contains what the others may do.
An assertion that no step of `R` falsifies is stable, and `Valid` proves a program by stable
assertions between its actions. If every program of a pool is valid then, in every undisturbed run,
each step keeps to the guarantee of its program (**`Keeping.run`**) and each result satisfies its
postcondition, then and later (**`Sound.run`**).
-/

namespace Interleaving

open Programs Runs

variable {μ ε σ α β ρ : Type}

/-- A program cut into atomic actions. -/
inductive Proc (μ ε σ α : Type) : Type 1 where
  | ret (a : α)
  | fail (e : ε)
  | act {ρ : Type} (mark : Option μ) (m : EStateM ε σ ρ) (k : ρ → Proc μ ε σ α)

namespace Proc

/-! ## Programs -/

def bind : Proc μ ε σ α → (α → Proc μ ε σ β) → Proc μ ε σ β
  | ret a, f => f a
  | fail e, _ => fail e
  | act mark m k, f => act mark m fun r => (k r).bind f

instance : Monad (Proc μ ε σ) where
  pure := ret
  bind := bind

/-- One atomic action. -/
def once (m : EStateM ε σ ρ) : Proc μ ε σ ρ := act none m ret

/-- One atomic action with a mark. -/
def marked (mark : μ) (m : EStateM ε σ ρ) : Proc μ ε σ ρ := act (some mark) m ret

/-- Read the state through `f`. -/
def look (f : σ → ρ) : Proc μ ε σ ρ := once (query f)

/-- Raise `e` when the condition holds. -/
def failIf (c : Prop) [Decidable c] (e : ε) : Proc μ ε σ Unit := if c then fail e else ret ()

/-- Raise `f e` in place of `e`. -/
def wrap (f : ε → ε) : Proc μ ε σ α → Proc μ ε σ α
  | ret a => ret a
  | fail e => fail (f e)
  | act mark m k => act mark (rescue m fun e => throw (f e)) fun r => (k r).wrap f

/-- The program run alone. -/
def seq : Proc μ ε σ α → EStateM ε σ α
  | ret a => pure a
  | fail e => throw e
  | act _ m k => m >>= fun r => (k r).seq

/-- What a program that has ended returned. -/
def value : Proc μ ε σ α → Option α
  | ret a => some a
  | _ => none

theorem value_eq_some {p : Proc μ ε σ α} {a : α} : p.value = some a ↔ p = ret a := by
  cases p <;> simp [value]

@[simp] theorem ret_bind (a : α) (f : α → Proc μ ε σ β) : (ret a).bind f = f a := rfl

@[simp] theorem fail_bind (e : ε) (f : α → Proc μ ε σ β) : (fail e).bind f = fail e := rfl

@[simp] theorem act_bind (mark : Option μ) (m : EStateM ε σ ρ) (k : ρ → Proc μ ε σ α)
    (f : α → Proc μ ε σ β) : (act mark m k).bind f = act mark m fun r => (k r).bind f := rfl

theorem bind_ret (p : Proc μ ε σ α) : p.bind ret = p := by
  induction p with
  | ret a => rfl
  | fail e => rfl
  | act mark m k ih => exact congrArg (act mark m) (funext ih)

theorem bind_assoc' {γ : Type} (p : Proc μ ε σ α) (f : α → Proc μ ε σ β) (g : β → Proc μ ε σ γ) :
    (p.bind f).bind g = p.bind fun a => (f a).bind g := by
  induction p with
  | ret a => rfl
  | fail e => rfl
  | act mark m k ih => exact congrArg (act mark m) (funext ih)

instance : LawfulMonad (Proc μ ε σ) :=
  LawfulMonad.mk' _ bind_ret (fun _ _ => rfl) bind_assoc'

@[simp] theorem seq_pure (a : α) : (pure a : Proc μ ε σ α).seq = pure a := rfl

@[simp] theorem seq_fail (e : ε) : (fail e : Proc μ ε σ α).seq = throw e := rfl

@[simp] theorem seq_once (m : EStateM ε σ α) : (once m : Proc μ ε σ α).seq = m := bind_pure m

@[simp] theorem seq_marked (mark : μ) (m : EStateM ε σ α) : (marked mark m).seq = m := bind_pure m

@[simp] theorem seq_look (f : σ → α) : (look f : Proc μ ε σ α).seq = query f := bind_pure _

@[simp] theorem seq_bind (p : Proc μ ε σ α) (f : α → Proc μ ε σ β) :
    (p >>= f).seq = p.seq >>= fun a => (f a).seq := by
  show (p.bind f).seq = _
  induction p with
  | ret a => rfl
  | fail e => rfl
  | act mark m k ih =>
    show (m >>= fun r => ((k r).bind f).seq) = (m >>= fun r => (k r).seq) >>= _
    rw [bind_assoc]
    exact congrArg (m >>= ·) (funext ih)

@[simp] theorem seq_failIf {c : Prop} [Decidable c] {e : ε} :
    (failIf c e : Proc μ ε σ Unit).seq = raiseIf c e := by
  unfold failIf raiseIf onlyIf
  split_ifs <;> rfl

theorem seq_forM {γ : Type} {xs : List γ} {f : γ → Proc μ ε σ PUnit} :
    (xs.forM f).seq = xs.forM fun x => (f x).seq := by
  induction xs with
  | nil => rfl
  | cons x xs ih =>
    show (f x >>= fun _ => xs.forM f).seq = _
    rw [seq_bind, ih]
    rfl

theorem seq_mapM {γ : Type} {xs : List γ} {f : γ → Proc μ ε σ α} :
    (xs.mapM f).seq = xs.mapM fun x => (f x).seq := by
  induction xs with
  | nil => rfl
  | cons x xs ih =>
    rw [List.mapM_cons, List.mapM_cons, seq_bind]
    refine congrArg _ (funext fun a => ?_)
    rw [seq_bind, ih]
    rfl

theorem seq_foldlM {γ : Type} {xs : List γ} {f : β → γ → Proc μ ε σ β} {b : β} :
    (xs.foldlM f b).seq = xs.foldlM (fun b x => (f b x).seq) b := by
  induction xs generalizing b with
  | nil => rfl
  | cons x xs ih =>
    rw [List.foldlM_cons, List.foldlM_cons, seq_bind]
    exact congrArg _ (funext fun c => ih)

/-! ## Programs that return, alone -/

section Alone

variable {Q : α → σ → Prop} {s : σ}

theorem reaches_ret {a : α} (h : Q a s) : Reaches Q (pure a : Proc μ ε σ α).seq s := reaches_pure h

theorem reaches_bind {M : β → σ → Prop} {p : Proc μ ε σ β} {f : β → Proc μ ε σ α}
    (hp : Reaches M p.seq s) (hf : ∀ b t, M b t → Reaches Q (f b).seq t) :
    Reaches Q (p >>= f).seq s := by
  rw [seq_bind]
  exact Programs.reaches_bind hp hf

theorem reaches_look {f : σ → α} (h : Q (f s) s) : Reaches Q (look f : Proc μ ε σ α).seq s := by
  rw [seq_look]
  exact reaches_query h

theorem reaches_once {m : EStateM ε σ α} (h : Reaches Q m s) :
    Reaches Q (once m : Proc μ ε σ α).seq s := by
  rwa [seq_once]

theorem reaches_map {p : Proc μ ε σ β} {f : β → α} (h : Reaches (fun b => Q (f b)) p.seq s) :
    Reaches Q (f <$> p).seq s := by
  rw [map_eq_pure_bind]
  exact reaches_bind h fun b t hb => reaches_ret hb

theorem raises_bind {M : β → σ → Prop} {p : Proc μ ε σ β} {f : β → Proc μ ε σ α}
    (hp : Reaches M p.seq s) (hf : ∀ b t, M b t → Raises (f b).seq t) : Raises (p >>= f).seq s := by
  rw [seq_bind]
  exact Programs.raises_bind hp hf

end Alone

/-! ## Assertions -/

/-- No step of the other programs falsifies the assertion. -/
def Stable (R : σ → σ → Prop) (A : σ → Prop) : Prop := ∀ s s', A s → R s s' → A s'

theorem stable_true (R : σ → σ → Prop) : Stable R fun _ => True := fun _ _ _ _ => trivial

theorem Stable.mono {R R' : σ → σ → Prop} {A : σ → Prop} (h : Stable R A)
    (hR : ∀ s s', R' s s' → R s s') : Stable R' A := fun s s' hs hss' => h s s' hs (hR s s' hss')

/-- What an action with this mark, if any, takes for granted. -/
def Expects (H : μ → σ → Prop) (mark : Option μ) (s : σ) : Prop := ∀ x ∈ mark, H x s

instance {H : μ → σ → Prop} [∀ x s, Decidable (H x s)] (mark : Option μ) (s : σ) :
    Decidable (Expects H mark s) := by
  cases mark with
  | none => exact .isTrue (by simp [Expects])
  | some x => exact decidable_of_iff (H x s) (by simp [Expects])

/-- Started in a state of `A`, the program keeps to the guarantee at every action that finds what it
takes for granted, whatever steps of `R` other programs take in between, and returns in a state of
the postcondition. What is asserted between two actions is stable. -/
def Valid (H : μ → σ → Prop) (R : σ → σ → Prop) (G : Option μ → σ → σ → Prop)
    (post : α → σ → Prop) : Proc μ ε σ α → (σ → Prop) → Prop
  | ret a, A => ∀ s, A s → post a s
  | fail _, _ => True
  | act mark m k, A => ∀ s, A s → Expects H mark s →
    match m s with
    | .ok r s' => G mark s s' ∧ ∃ B, Stable R B ∧ B s' ∧ (k r).Valid H R G post B
    | .error _ s' => G none s s'

section Valid

variable {H : μ → σ → Prop} {R : σ → σ → Prop} {G : Option μ → σ → σ → Prop}
variable {post : α → σ → Prop} {A B : σ → Prop}

/-- A stronger assertion to start from. -/
theorem Valid.mono {p : Proc μ ε σ α} (h : p.Valid H R G post B) (hAB : ∀ s, A s → B s) :
    p.Valid H R G post A := by
  cases p with
  | ret a => exact fun s hs => h s (hAB s hs)
  | fail e => trivial
  | act mark m k => exact fun s hs => h s (hAB s hs)

/-- A program is valid if it is so whenever it is started. -/
theorem valid_of_start {p : Proc μ ε σ α} (h : ∀ s, A s → p.Valid H R G post A) :
    p.Valid H R G post A := by
  cases p with
  | ret a => exact fun s hs => h s hs s hs
  | fail e => trivial
  | act mark m k => exact fun s hs => h s hs s hs

/-- Fewer steps of the others. -/
theorem Valid.rely {R' : σ → σ → Prop} (hR : ∀ s s', R' s s' → R s s') {p : Proc μ ε σ α}
    (h : p.Valid H R G post A) : p.Valid H R' G post A := by
  induction p generalizing A with
  | ret a => exact h
  | fail e => trivial
  | act mark m k ih =>
    intro s hs hexpects
    have hstep := h s hs hexpects
    cases hm : m s with
    | ok r s' =>
      rw [hm] at hstep
      obtain ⟨hG, C, hstable, hC, hk⟩ := hstep
      exact ⟨hG, C, hstable.mono hR, hC, ih r hk⟩
    | error e s' =>
      rw [hm] at hstep
      exact hstep

/-- A weaker guarantee of a program that takes less for granted. -/
theorem Valid.weaken {H' : μ → σ → Prop} {G' : Option μ → σ → σ → Prop}
    (hH : ∀ x s, H' x s → H x s) (hG : ∀ mark s s', G mark s s' → G' mark s s') {p : Proc μ ε σ α}
    (h : p.Valid H R G post A) : p.Valid H' R G' post A := by
  induction p generalizing A with
  | ret a => exact h
  | fail e => trivial
  | act mark m k ih =>
    intro s hs hexpects
    have hstep := h s hs fun x hx => hH x s (hexpects x hx)
    cases hm : m s with
    | ok r s' =>
      rw [hm] at hstep
      obtain ⟨hstep, B, hB, hBs, hk⟩ := hstep
      exact ⟨hG _ _ _ hstep, B, hB, hBs, ih r hk⟩
    | error e s' =>
      rw [hm] at hstep
      exact hG _ _ _ hstep

/-- A weaker postcondition. -/
theorem Valid.consequence {post' : α → σ → Prop} (hpost : ∀ a s, post a s → post' a s)
    {p : Proc μ ε σ α} (h : p.Valid H R G post A) : p.Valid H R G post' A := by
  induction p generalizing A with
  | ret a => exact fun s hs => hpost a s (h s hs)
  | fail e => trivial
  | act mark m k ih =>
    intro s hs hexpects
    have hstep := h s hs hexpects
    cases hm : m s with
    | ok r s' =>
      rw [hm] at hstep
      obtain ⟨hG, B, hB, hBs, hk⟩ := hstep
      exact ⟨hG, B, hB, hBs, ih r hk⟩
    | error e s' =>
      rw [hm] at hstep
      exact hstep

/-- What no step of `R` falsifies is still there where the program returns. -/
theorem Valid.frame {p : Proc μ ε σ α} (h : p.Valid H R G post A)
    (hR : ∀ mark s s', G mark s s' → R s s') (hB : Stable R B) :
    p.Valid H R G (fun a s => post a s ∧ B s) fun s => A s ∧ B s := by
  induction p generalizing A with
  | ret a => exact fun s hs => ⟨h s hs.1, hs.2⟩
  | fail e => trivial
  | act mark m k ih =>
    intro s hs hexpects
    have hstep := h s hs.1 hexpects
    cases hm : m s with
    | ok r s' =>
      rw [hm] at hstep
      obtain ⟨hG, C, hC, hCs, hk⟩ := hstep
      refine ⟨hG, fun t => C t ∧ B t, ?_, ⟨hCs, hB s s' hs.2 (hR _ _ _ hG)⟩, ih r hk⟩
      exact fun t t' ht hstep => ⟨hC t t' ht.1 hstep, hB t t' ht.2 hstep⟩
    | error e s' =>
      rw [hm] at hstep
      exact hstep

theorem valid_ret {a : α} (h : ∀ s, A s → post a s) :
    (pure a : Proc μ ε σ α).Valid H R G post A := h

theorem valid_fail (e : ε) : (fail e : Proc μ ε σ α).Valid H R G post A := trivial

theorem valid_bind {M : β → σ → Prop} {p : Proc μ ε σ β} {f : β → Proc μ ε σ α}
    (hp : p.Valid H R G M A) (hf : ∀ b, (f b).Valid H R G post (M b)) :
    (p >>= f).Valid H R G post A := by
  show (p.bind f).Valid H R G post A
  induction p generalizing A with
  | ret b => exact (hf b).mono hp
  | fail e => trivial
  | act mark m k ih =>
    intro s hs hexpects
    have h := hp s hs hexpects
    cases hm : m s with
    | ok r s' =>
      rw [hm] at h
      obtain ⟨hG, C, hstable, hC, hk⟩ := h
      exact ⟨hG, C, hstable, hC, ih r hk⟩
    | error e s' =>
      rw [hm] at h
      exact h

theorem Valid.map {p : Proc μ ε σ β} {f : β → α} (h : p.Valid H R G (fun b => post (f b)) A) :
    (f <$> p).Valid H R G post A := by
  rw [map_eq_pure_bind]
  exact valid_bind h fun b => valid_ret fun _ hs => hs

/-- One action. -/
theorem valid_act {mark : Option μ} {m : EStateM ε σ α}
    (hok : ∀ s, A s → Expects H mark s → ∀ a s', m s = .ok a s' → G mark s s' ∧ post a s')
    (herr : ∀ s, A s → Expects H mark s → ∀ e s', m s = .error e s' → G none s s')
    (hstable : ∀ a, Stable R (post a)) : (act mark m ret).Valid H R G post A := by
  intro s hs hexpects
  cases hm : m s with
  | ok a s' =>
    obtain ⟨hG, hpost⟩ := hok s hs hexpects a s' hm
    exact ⟨hG, post a, hstable a, hpost, fun _ h => h⟩
  | error e s' => exact herr s hs hexpects e s' hm

theorem valid_marked {x : μ} {m : EStateM ε σ α}
    (hok : ∀ s, A s → H x s → ∀ a s', m s = .ok a s' → G (some x) s s' ∧ post a s')
    (herr : ∀ s, A s → H x s → ∀ e s', m s = .error e s' → G none s s')
    (hstable : ∀ a, Stable R (post a)) : (marked x m).Valid H R G post A :=
  valid_act (fun s hs h => hok s hs (h x rfl)) (fun s hs h => herr s hs (h x rfl)) hstable

/-- One action whose every outcome is related to where it began. -/
theorem valid_once {m : EStateM ε σ α} (hmoves : Moves (G none) m)
    (hok : ∀ s, A s → ∀ a s', m s = .ok a s' → post a s') (hstable : ∀ a, Stable R (post a)) :
    (once m : Proc μ ε σ α).Valid H R G post A := by
  refine valid_act (fun s hs _ a s' hm => ⟨?_, hok s hs a s' hm⟩) (fun s _ _ e s' hm => ?_) hstable
  · have hs := hmoves s
    rwa [after_ok hm] at hs
  · have hs := hmoves s
    rwa [after_error hm] at hs

theorem valid_failIf {c : Prop} [Decidable c] {e : ε} {post : Unit → σ → Prop}
    (h : ¬c → ∀ s, A s → post () s) : (failIf c e : Proc μ ε σ Unit).Valid H R G post A := by
  unfold failIf
  by_cases hc : c
  · rw [if_pos hc]
    trivial
  · rw [if_neg hc]
    exact h hc

theorem valid_ite {c : Prop} [Decidable c] {p q : Proc μ ε σ α} (hp : c → p.Valid H R G post A)
    (hq : ¬c → q.Valid H R G post A) : (if c then p else q).Valid H R G post A := by
  by_cases hc : c
  · rw [if_pos hc]
    exact hp hc
  · rw [if_neg hc]
    exact hq hc

/-- What a program raises is no part of its validity. -/
theorem Valid.wrap {p : Proc μ ε σ α} (h : p.Valid H R G post A) (f : ε → ε) :
    (p.wrap f).Valid H R G post A := by
  induction p generalizing A with
  | ret a => exact h
  | fail e => trivial
  | act mark m k ih =>
    intro s hs hexpects
    have hm := h s hs hexpects
    show match rescue m _ s with | .ok _ _ => _ | .error _ _ => _
    unfold rescue
    cases hms : m s with
    | ok r s' =>
      rw [hms] at hm
      obtain ⟨hG, B, hstable, hB, hk⟩ := hm
      exact ⟨hG, B, hstable, hB, ih r hk⟩
    | error e s' =>
      rw [hms] at hm
      exact hm

/-- Run alone, a valid program that takes nothing for granted moves along the guarantee. -/
theorem Valid.moves {S : σ → σ → Prop} [IsPreorder σ S] {p : Proc μ ε σ α}
    (h : p.Valid (fun _ _ => True) R (fun _ => S) post A) {s : σ} (hs : A s) :
    S s (after p.seq s) := by
  induction p generalizing A s with
  | ret a => exact refl_of S s
  | fail e => exact refl_of S s
  | act mark m k ih =>
    have hstep := h s hs fun _ _ => trivial
    show S s (after (m >>= fun r => (k r).seq) s)
    cases hm : m s with
    | ok r s' =>
      rw [hm] at hstep
      obtain ⟨hS, B, -, hB, hk⟩ := hstep
      rw [after_bind_ok hm]
      exact trans_of S hS (ih r hk hB)
    | error e s' =>
      rw [hm] at hstep
      rw [after_bind_error hm]
      exact hstep

/-- Run alone, a valid program that takes nothing for granted and returns meets its
postcondition. -/
theorem Valid.seq_ok {p : Proc μ ε σ α} (h : p.Valid (fun _ _ => True) R G post A)
    {s s' : σ} {a : α} (hs : A s) (hok : p.seq s = .ok a s') : post a s' := by
  induction p generalizing A s with
  | ret b =>
    obtain ⟨rfl, rfl⟩ := pure_eq_ok.1 hok
    exact h s hs
  | fail e => exact (throw_eq_ok.1 hok).elim
  | act mark m k ih =>
    have hstep := h s hs fun _ _ => trivial
    obtain ⟨r, t, hm, hk⟩ := bind_eq_ok.1 hok
    rw [hm] at hstep
    obtain ⟨-, B, -, hB, hvalid⟩ := hstep
    exact ih r hvalid hB hk

end Valid

/-! ## Programs that keep to the guarantee -/

/-- Every action keeps to the guarantee, wherever the program is started and whatever the others do,
and what the program returns satisfies `Q`. -/
def Gives (H : μ → σ → Prop) (G : Option μ → σ → σ → Prop) (Q : α → Prop) (p : Proc μ ε σ α) :
    Prop :=
  p.Valid H (fun _ _ => True) G (fun a _ => Q a) fun _ => True

/-- Every action keeps to the guarantee, wherever the program is started, whatever the others do and
whatever it returns. -/
def Keeps (H : μ → σ → Prop) (G : Option μ → σ → σ → Prop) (p : Proc μ ε σ α) : Prop :=
  p.Gives H G fun _ => True

section Keeps

variable {H : μ → σ → Prop} {G : Option μ → σ → σ → Prop} {Q : α → Prop}

theorem Gives.valid {p : Proc μ ε σ α} (h : p.Gives H G Q) (R : σ → σ → Prop) (A : σ → Prop) :
    p.Valid H R G (fun a _ => Q a) A :=
  (Valid.rely (fun _ _ _ => trivial) h).mono fun _ _ => trivial

theorem gives_ret {a : α} (h : Q a) : (pure a : Proc μ ε σ α).Gives H G Q := fun _ _ => h

theorem gives_fail (e : ε) : (fail e : Proc μ ε σ α).Gives H G Q := trivial

theorem gives_bind {M : β → Prop} {p : Proc μ ε σ β} {f : β → Proc μ ε σ α} (hp : p.Gives H G M)
    (hf : ∀ b, M b → (f b).Gives H G Q) : (p >>= f).Gives H G Q := by
  refine valid_bind hp fun b => valid_of_start fun _ hQ => ?_
  exact Valid.mono (hf b hQ) fun _ _ => trivial

theorem gives_ite {c : Prop} [Decidable c] {p q : Proc μ ε σ α} (hp : c → p.Gives H G Q)
    (hq : ¬c → q.Gives H G Q) : (if c then p else q).Gives H G Q := valid_ite hp hq

theorem Gives.wrap {p : Proc μ ε σ α} (h : p.Gives H G Q) (f : ε → ε) : (p.wrap f).Gives H G Q :=
  Valid.wrap h f

/-- A program that keeps to the guarantee, and what follows it. -/
theorem Keeps.bind {R : σ → σ → Prop} {p : Proc μ ε σ β} {f : β → Proc μ ε σ α}
    {post : α → σ → Prop} {A : σ → Prop} (hp : p.Keeps H G)
    (hf : ∀ b, (f b).Valid H R G post fun _ => True) : (p >>= f).Valid H R G post A :=
  valid_bind (Gives.valid hp R A) hf

/-- What is asserted is still there after a program whose steps are of `R`. -/
theorem Gives.frame_bind {R : σ → σ → Prop} {Q : β → Prop} {p : Proc μ ε σ β} {f : β → Proc μ ε σ α}
    {post : α → σ → Prop} {A : σ → Prop} (hp : p.Gives H G Q)
    (hR : ∀ mark s s', G mark s s' → R s s')
    (hA : Stable R A) (hf : ∀ b, Q b → (f b).Valid H R G post A) :
    (p >>= f).Valid H R G post A := by
  have hframe := (Gives.valid hp R fun _ => True).frame hR hA
  refine valid_bind (hframe.mono fun s hs => ⟨trivial, hs⟩) fun b => valid_of_start fun s hs => ?_
  exact (hf b hs.1).mono fun _ h => h.2

theorem keeps_ret (a : α) : (pure a : Proc μ ε σ α).Keeps H G := gives_ret trivial

theorem keeps_fail (e : ε) : (fail e : Proc μ ε σ α).Keeps H G := gives_fail e

theorem keeps_bind {p : Proc μ ε σ β} {f : β → Proc μ ε σ α} (hp : p.Keeps H G)
    (hf : ∀ b, (f b).Keeps H G) : (p >>= f).Keeps H G := gives_bind hp fun b _ => hf b

theorem keeps_map {p : Proc μ ε σ β} {f : β → α} (hp : p.Keeps H G) : (f <$> p).Keeps H G := by
  rw [map_eq_pure_bind]
  exact keeps_bind hp fun b => keeps_ret (f b)

theorem keeps_marked {x : μ} {m : EStateM ε σ α}
    (hok : ∀ s, H x s → ∀ a s', m s = .ok a s' → G (some x) s s')
    (herr : ∀ s, H x s → ∀ e s', m s = .error e s' → G none s s') : (marked x m).Keeps H G :=
  valid_marked (fun s _ h a s' hm => ⟨hok s h a s' hm, trivial⟩) (fun s _ => herr s)
    fun _ => stable_true _

theorem keeps_once {m : EStateM ε σ α} (h : Moves (G none) m) :
    (once m : Proc μ ε σ α).Keeps H G :=
  valid_once h (fun _ _ _ _ _ => trivial) fun _ => stable_true _

theorem keeps_look (hrefl : ∀ s, G none s s) (f : σ → α) : (look f : Proc μ ε σ α).Keeps H G :=
  keeps_once fun s => hrefl s

/-- What is read has the property of every state's. -/
theorem gives_look (hrefl : ∀ s, G none s s) (f : σ → α) (hQ : ∀ s, Q (f s)) :
    (look f : Proc μ ε σ α).Gives H G Q := by
  refine valid_once (fun s => hrefl s) (fun s _ a s' hm => ?_) fun _ _ _ h _ => h
  obtain ⟨rfl, -⟩ := query_eq_ok.1 hm
  exact hQ s

theorem keeps_failIf {c : Prop} [Decidable c] {e : ε} :
    (failIf c e : Proc μ ε σ Unit).Keeps H G := valid_failIf fun _ _ _ => trivial

theorem keeps_ite {c : Prop} [Decidable c] {p q : Proc μ ε σ α} (hp : c → p.Keeps H G)
    (hq : ¬c → q.Keeps H G) : (if c then p else q).Keeps H G := gives_ite hp hq

theorem keeps_forM {γ : Type} {xs : List γ} {f : γ → Proc μ ε σ PUnit}
    (h : ∀ x ∈ xs, (f x).Keeps H G) : (xs.forM f).Keeps H G := by
  induction xs with
  | nil => exact keeps_ret _
  | cons x xs ih =>
    exact keeps_bind (h x List.mem_cons_self) fun _ =>
      ih fun y hy => h y (List.mem_cons_of_mem x hy)

theorem keeps_foldlM {γ : Type} {xs : List γ} {f : β → γ → Proc μ ε σ β} {b : β}
    (h : ∀ b, ∀ x ∈ xs, (f b x).Keeps H G) : (xs.foldlM f b).Keeps H G := by
  induction xs generalizing b with
  | nil => exact keeps_ret b
  | cons x xs ih =>
    rw [List.foldlM_cons]
    exact keeps_bind (h b x List.mem_cons_self) fun c =>
      ih fun d y hy => h d y (List.mem_cons_of_mem x hy)

theorem Keeps.wrap {p : Proc μ ε σ α} (h : p.Keeps H G) (f : ε → ε) : (p.wrap f).Keeps H G :=
  Gives.wrap h f

/-! ## Programs that return under a condition -/

/-- The program returns only if `P`, a fact about no state. -/
def Requires (P : Prop) (p : Proc μ ε σ α) : Prop :=
  p.Gives (fun _ _ => True) (fun _ _ _ => True) fun _ => P

omit H G Q in
theorem Requires.of_ok {P : Prop} {p : Proc μ ε σ α} (h : p.Requires P) {s s' : σ} {a : α}
    (hok : p.seq s = .ok a s') : P :=
  Valid.seq_ok h trivial hok

omit H G Q in
/-- What holds already is no condition. -/
theorem requires_of {P : Prop} (hP : P) (p : Proc μ ε σ α) : p.Requires P := by
  unfold Requires Gives
  induction p with
  | ret a => exact fun _ _ => hP
  | fail e => trivial
  | act mark m k ih =>
    intro s _ _
    cases m s with
    | ok r s' => exact ⟨trivial, _, stable_true _, trivial, ih r⟩
    | error e s' => trivial

omit H G Q in
theorem requires_bind {P : Prop} {p : Proc μ ε σ β} {f : β → Proc μ ε σ α}
    (hf : ∀ b, (f b).Requires P) : (p >>= f).Requires P :=
  gives_bind (requires_of trivial p) fun b _ => hf b

omit H G Q in
theorem Requires.bind {P : Prop} {p : Proc μ ε σ β} (h : p.Requires P) (f : β → Proc μ ε σ α) :
    (p >>= f).Requires P :=
  gives_bind h fun b hP => requires_of hP (f b)

omit H G Q in
theorem requires_failIf_bind {P : Prop} {c : Prop} [Decidable c] {e : ε} {f : Unit → Proc μ ε σ α}
    (h : ¬c → (f ()).Requires P) : (failIf c e >>= f).Requires P := by
  unfold failIf
  by_cases hc : c
  · rw [if_pos hc]
    exact gives_fail e
  · rw [if_neg hc]
    exact h hc

end Keeps

/-! ## Properties kept by composition -/

/-- A property of programs that the constructs of a program keep. -/
structure Compositional (P : ∀ ⦃α : Type⦄, Proc μ ε σ α → Prop) : Prop where
  ret : ∀ {α : Type} (a : α), P (pure a)
  fail : ∀ {α : Type} (e : ε), P (fail e : Proc μ ε σ α)
  bind : ∀ {α β : Type} {p : Proc μ ε σ β} {f : β → Proc μ ε σ α}, P p →
    (∀ b, P (f b)) → P (p >>= f)
  wrap : ∀ {α : Type} {p : Proc μ ε σ α} (f : ε → ε), P p → P (p.wrap f)

namespace Compositional

variable {P : ∀ ⦃α : Type⦄, Proc μ ε σ α → Prop} (h : Compositional P)

include h

theorem map {p : Proc μ ε σ β} (f : β → α) (hp : P p) : P (f <$> p) := by
  rw [map_eq_pure_bind]
  exact h.bind hp fun b => h.ret (f b)

theorem failIf (c : Prop) [Decidable c] (e : ε) : P (Proc.failIf c e : Proc μ ε σ Unit) := by
  unfold Proc.failIf
  by_cases hc : c
  · rw [if_pos hc]
    exact h.fail e
  · rw [if_neg hc]
    exact h.ret ()

/-- What follows a check may use that it passed. -/
theorem failIf_bind {c : Prop} [Decidable c] {e : ε} {f : Unit → Proc μ ε σ α}
    (hf : ¬c → P (f ())) :
    P (Proc.failIf c e >>= f) := by
  unfold Proc.failIf
  by_cases hc : c
  · rw [if_pos hc]
    exact h.fail e
  · rw [if_neg hc]
    exact hf hc

theorem mapM {γ : Type} {xs : List γ} {f : γ → Proc μ ε σ β} (hf : ∀ x, P (f x)) :
    P (xs.mapM f) := by
  induction xs with
  | nil => exact h.ret _
  | cons x xs ih =>
    rw [List.mapM_cons]
    exact h.bind (hf x) fun _ => h.bind ih fun _ => h.ret _

end Compositional

theorem compositional_keeps {H : μ → σ → Prop} {G : Option μ → σ → σ → Prop} :
    Compositional fun _ (p : Proc μ ε σ _) => p.Keeps H G where
  ret _ := keeps_ret _
  fail _ := keeps_fail _
  bind := keeps_bind
  wrap f hp := hp.wrap f

/-- Run alone, a program whose errors are renamed leaves the same state. -/
theorem after_seq_wrap (p : Proc μ ε σ α) (f : ε → ε) (s : σ) :
    after (p.wrap f).seq s = after p.seq s := by
  induction p generalizing s with
  | ret a => rfl
  | fail e => rfl
  | act mark m k ih =>
    show after (rescue m _ >>= fun r => ((k r).wrap f).seq) s = after (m >>= fun r => (k r).seq) s
    cases hm : m s with
    | ok r s' => rw [after_bind_ok hm, after_bind_ok (rescue_of_ok hm), ih r]
    | error e s' =>
      rw [after_bind_error hm]
      exact after_bind_error ((rescue_of_error hm).trans rfl)

theorem compositional_moves {S : σ → σ → Prop} [IsPreorder σ S] :
    Compositional fun _ (p : Proc μ ε σ _) => Moves S p.seq where
  ret a := moves_pure a
  fail e := moves_throw e
  bind hp hf := by
    rw [seq_bind]
    exact moves_bind hp hf
  wrap f hp s := by
    rw [after_seq_wrap]
    exact hp s

/-! ## Programs that do not return without an action -/

/-- The program takes an action with this mark before it returns. -/
def Passes (x : μ) : Proc μ ε σ α → Prop
  | ret _ => False
  | fail _ => True
  | act mark _ k => mark = some x ∨ ∀ r, (k r).Passes x

section Passes

variable {x : μ}

theorem passes_fail (e : ε) : (fail e : Proc μ ε σ α).Passes x := trivial

theorem passes_marked (m : EStateM ε σ α) : (marked x m).Passes x := .inl rfl

/-- The action is taken by what comes first. -/
theorem Passes.bind {p : Proc μ ε σ β} (h : p.Passes x) (f : β → Proc μ ε σ α) :
    (p >>= f).Passes x := by
  induction p with
  | ret b => exact h.elim
  | fail e => trivial
  | act mark m k ih =>
    rcases h with hmark | hk
    · exact .inl hmark
    · exact .inr fun r => ih r (hk r)

/-- The action is taken by what follows. -/
theorem passes_bind (p : Proc μ ε σ β) {f : β → Proc μ ε σ α} (h : ∀ b, (f b).Passes x) :
    (p >>= f).Passes x := by
  induction p with
  | ret b => exact h b
  | fail e => trivial
  | act mark m k ih => exact .inr ih

theorem Passes.map {p : Proc μ ε σ β} (h : p.Passes x) (f : β → α) : (f <$> p).Passes x := by
  rw [map_eq_pure_bind]
  exact h.bind _

theorem Passes.wrap {p : Proc μ ε σ α} (h : p.Passes x) (f : ε → ε) : (p.wrap f).Passes x := by
  induction p with
  | ret a => exact h
  | fail e => trivial
  | act mark m k ih =>
    rcases h with hmark | hk
    · exact .inl hmark
    · exact .inr fun r => ih r (hk r)

end Passes

end Proc

/-! ## Pools -/

/-- Programs that share a state, one for each name of `ι`, and what is remembered of the actions
that were taken: who took it, and its mark. -/
structure Pool (ι μ ε σ α : Type) : Type 1 where
  state : σ
  threads : ι → Proc μ ε σ α
  log : List (ι × μ)

namespace Pool

variable {ι : Type} [DecidableEq ι]

/-- The programs at their start. -/
def start (s : σ) (threads : ι → Proc μ ε σ α) : Pool ι μ ε σ α := ⟨s, threads, []⟩

/-- The program `i` takes its next action. A program that has ended takes none. -/
def step (P : Pool ι μ ε σ α) (i : ι) : Pool ι μ ε σ α :=
  match P.threads i with
  | .ret _ => P
  | .fail _ => P
  | .act mark m k =>
    match m P.state with
    | .ok r s => ⟨s, Function.update P.threads i (k r), P.log ++ (mark.map fun x => (i, x)).toList⟩
    | .error e s => ⟨s, Function.update P.threads i (.fail e), P.log⟩

theorem threads_step_of_ne {P : Pool ι μ ε σ α} {i j : ι} (h : j ≠ i) :
    (P.step i).threads j = P.threads j := by
  unfold step
  cases P.threads i with
  | ret a => rfl
  | fail e => rfl
  | act mark m k =>
    dsimp only
    cases m P.state <;> exact Function.update_of_ne h _ _

theorem threads_step_of_fail {P : Pool ι μ ε σ α} {i : ι} {e : ε} (h : P.threads i = .fail e) :
    (P.step i).threads i = .fail e := by
  simp [step, h]

section Act

variable {P : Pool ι μ ε σ α} {i : ι} {mark : Option μ} {m : EStateM ε σ ρ} {k : ρ → Proc μ ε σ α}
variable {s : σ}

theorem threads_step_of_ok (h : P.threads i = .act mark m k) {r : ρ} (hm : m P.state = .ok r s) :
    (P.step i).threads i = k r := by
  simp [step, h, hm]

theorem state_step_of_ok (h : P.threads i = .act mark m k) {r : ρ} (hm : m P.state = .ok r s) :
    (P.step i).state = s := by
  simp [step, h, hm]

theorem threads_step_of_error (h : P.threads i = .act mark m k) {e : ε}
    (hm : m P.state = .error e s) : (P.step i).threads i = .fail e := by
  simp [step, h, hm]

end Act

/-- The mark of the next action of `i`. -/
def next (P : Pool ι μ ε σ α) (i : ι) : Option μ :=
  match P.threads i with
  | .act mark _ _ => mark
  | _ => none

/-- The next action of `i` finds what it takes for granted. -/
def Undisturbed (H : ι → μ → σ → Prop) (P : Pool ι μ ε σ α) (i : ι) : Prop :=
  Proc.Expects (H i) (P.next i) P.state

instance {H : ι → μ → σ → Prop} [∀ i x s, Decidable (H i x s)] (P : Pool ι μ ε σ α) (i : ι) :
    Decidable (P.Undisturbed H i) := inferInstanceAs (Decidable (Proc.Expects _ _ _))

/-- The mark of the next action of `i`, if it returns. -/
def event (P : Pool ι μ ε σ α) (i : ι) : Option μ :=
  match P.threads i with
  | .act mark m _ => if returns m P.state then mark else none
  | _ => none

omit [DecidableEq ι] in
theorem any_next {P : Pool ι μ ε σ α} {i : ι} {p : μ → Bool} (h : (P.event i).any p = true) :
    (P.next i).any p = true := by
  unfold event at h
  unfold next
  cases hthread : P.threads i with
  | ret a => simp [hthread] at h
  | fail e => simp [hthread] at h
  | act mark m k =>
    rw [hthread] at h
    dsimp only at h ⊢
    split_ifs at h
    · exact h
    · cases h

/-- A program that has returned stays where it is. -/
theorem returned_step {P : Pool ι μ ε σ α} {i : ι} {a : α} (hi : P.threads i = .ret a) (j : ι) :
    (P.step j).threads i = .ret a := by
  by_cases hj : i = j
  · subst hj
    unfold step
    rw [hi]
    exact hi
  · rw [threads_step_of_ne hj]
    exact hi

theorem returned_run {P : Pool ι μ ε σ α} {i : ι} {a : α} (hi : P.threads i = .ret a)
    (is : List ι) :
    (run step P is).threads i = .ret a := by
  let I : Pool ι μ ε σ α → Prop := fun Q => Q.threads i = .ret a
  exact run_inv_of_step (I := I) (fun _ j hP => returned_step hP j) hi is

theorem log_step (P : Pool ι μ ε σ α) (i : ι) :
    (P.step i).log = P.log ++ ((P.event i).map fun x => (i, x)).toList := by
  unfold step event
  cases P.threads i with
  | ret a => simp
  | fail e => simp
  | act mark m k =>
    dsimp only
    unfold returns
    cases m P.state <;> simp

/-- What a program takes before it returns is taken or still to be taken. -/
theorem passes_step {P : Pool ι μ ε σ α} {i : ι} {x : μ}
    (h : (i, x) ∈ P.log ∨ (P.threads i).Passes x) (j : ι) :
    (i, x) ∈ (P.step j).log ∨ ((P.step j).threads i).Passes x := by
  rcases h with h | h
  · exact .inl (by rw [log_step]; exact List.mem_append_left _ h)
  · unfold step
    cases hthread : P.threads j with
    | ret a => exact .inr h
    | fail e => exact .inr h
    | act mark m k =>
      dsimp only
      by_cases hij : i = j
      · subst hij
        rw [hthread] at h
        cases m P.state with
        | error e s => exact .inr (by simp [Proc.Passes])
        | ok r s =>
          rcases h with rfl | hk
          · exact .inl (by simp)
          · exact .inr (by simpa using hk r)
      · cases m P.state <;> exact .inr (by simpa [Function.update_of_ne hij] using h)

/-- A program that has returned has taken it. -/
theorem passed_run {P : Pool ι μ ε σ α} {i : ι} {x : μ} {is : List ι} {a : α}
    (h : (P.threads i).Passes x) (hi : (run step P is).threads i = .ret a) :
    (i, x) ∈ (run step P is).log := by
  let I : Pool ι μ ε σ α → Prop := fun Q => (i, x) ∈ Q.log ∨ (Q.threads i).Passes x
  have hrun : I (run step P is) :=
    run_inv_of_step (I := I) (fun _ j hQ => passes_step hQ j) (.inr h) is
  rcases hrun with hlog | hpasses
  · exact hlog
  · rw [hi] at hpasses
    exact hpasses.elim

variable {H : ι → μ → σ → Prop} {R : σ → σ → Prop} {G : ι → Option μ → σ → σ → Prop}
variable {post : ι → α → σ → Prop}

/-- Every program of the pool is valid from a stable assertion that holds. -/
def Sound (H : ι → μ → σ → Prop) (R : σ → σ → Prop) (G : ι → Option μ → σ → σ → Prop)
    (post : ι → α → σ → Prop) (P : Pool ι μ ε σ α) : Prop :=
  ∀ i, ∃ A, Proc.Stable R A ∧ A P.state ∧ (P.threads i).Valid (H i) R (G i) (post i) A

omit [DecidableEq ι] in
theorem sound_start {s : σ} {threads : ι → Proc μ ε σ α}
    (h : ∀ i, (threads i).Valid (H i) R (G i) (post i) fun _ => True) :
    Sound H R G post (start s threads) :=
  fun i => ⟨_, Proc.stable_true R, trivial, h i⟩

omit [DecidableEq ι] in
/-- A program that has returned meets its postcondition. -/
theorem Sound.returned {P : Pool ι μ ε σ α} (h : Sound H R G post P) {i : ι} {a : α}
    (hi : P.threads i = .ret a) : post i a P.state := by
  obtain ⟨A, -, hA, hvalid⟩ := h i
  rw [hi] at hvalid
  exact hvalid P.state hA

/-- **One undisturbed step** keeps to the guarantee of the program and leaves a sound pool. -/
theorem Sound.step (hrefl : ∀ i s, G i none s s) (hR : ∀ i mark s s', G i mark s s' → R s s')
    {P : Pool ι μ ε σ α} (h : Sound H R G post P) {i : ι} (hi : P.Undisturbed H i) :
    Sound H R G post (P.step i) ∧ G i (P.event i) P.state (P.step i).state := by
  obtain ⟨A, -, hA, hvalid⟩ := h i
  unfold Undisturbed next at hi
  unfold Pool.step event
  -- the others' assertions are stable, and the program's own next one is given by its validity
  have hothers : ∀ {mark s'} {p : Proc μ ε σ α} {log}, G i mark P.state s' →
      (∃ B, Proc.Stable R B ∧ B s' ∧ p.Valid (H i) R (G i) (post i) B) →
      Sound H R G post ⟨s', Function.update P.threads i p, log⟩ := by
    intro mark s' p log hG hown j
    by_cases hj : j = i
    · subst hj
      simpa using hown
    · obtain ⟨C, hC, hCs, hj'⟩ := h j
      refine ⟨C, hC, hC _ _ hCs (hR i mark _ _ hG), ?_⟩
      simpa [Function.update_of_ne hj] using hj'
  cases hthread : P.threads i with
  | ret a => exact ⟨h, hrefl i _⟩
  | fail e => exact ⟨h, hrefl i _⟩
  | act mark m k =>
    rw [hthread] at hi hvalid
    have hstep := hvalid P.state hA hi
    dsimp only
    unfold returns
    cases hm : m P.state with
    | ok r s' =>
      rw [hm] at hstep
      exact ⟨hothers hstep.1 hstep.2, hstep.1⟩
    | error e s' =>
      rw [hm] at hstep
      exact ⟨hothers hstep ⟨_, Proc.stable_true R, trivial, trivial⟩, hstep⟩

/-- **Undisturbed runs of a sound pool.** -/
theorem Sound.run (hrefl : ∀ i s, G i none s s) (hR : ∀ i mark s s', G i mark s s' → R s s')
    {P : Pool ι μ ε σ α} (h : Sound H R G post P) {is : List ι}
    (hrun : EachStep Pool.step (fun (P : Pool ι μ ε σ α) i => P.Undisturbed H i) P is) :
    Sound H R G post (run Pool.step P is) :=
  run_inv (fun _ _ hP hi => (hP.step hrefl hR hi).1) h hrun

/-! ### Pools of programs that keep to a guarantee -/

/-- Every program of the pool keeps to its guarantee from here on. -/
def Keeping (H : ι → μ → σ → Prop) (G : ι → Option μ → σ → σ → Prop) (P : Pool ι μ ε σ α) : Prop :=
  Sound H (fun _ _ => True) G (fun _ _ _ => True) P

omit [DecidableEq ι] in
theorem keeping_start {s : σ} {threads : ι → Proc μ ε σ α}
    (h : ∀ i, (threads i).Keeps (H i) (G i)) : Keeping H G (start s threads) := sound_start h

theorem Keeping.step (hrefl : ∀ i s, G i none s s) {P : Pool ι μ ε σ α} (h : Keeping H G P) {i : ι}
    (hi : P.Undisturbed H i) :
    Keeping H G (P.step i) ∧ G i (P.event i) P.state (P.step i).state :=
  Sound.step hrefl (fun _ _ _ _ _ => trivial) h hi

/-- **Undisturbed runs keep to the guarantees** at every step. -/
theorem Keeping.run (hrefl : ∀ i s, G i none s s) {P : Pool ι μ ε σ α} (h : Keeping H G P)
    {is : List ι}
    (hrun : EachStep Pool.step (fun (P : Pool ι μ ε σ α) i => P.Undisturbed H i) P is) :
    EachStep Pool.step (fun (P : Pool ι μ ε σ α) i => G i (P.event i) P.state (P.step i).state)
      P is :=
  run_each (fun _ _ hP hi => (hP.step hrefl hi).1) (fun _ _ hP hi => (hP.step hrefl hi).2) h hrun

end Pool

end Interleaving
