import Sams.Lib.Interleaving

/-!
# Programs that take something once

`Gone` is an assertion that no step takes back: something is used up. A program takes it when it
does not return before an action of its own that found it there and left it gone. Two programs that
take the same thing do not both return: in every undisturbed run of a pool, at most one of those
that take it has returned (**`Racing.unique`**).
-/

namespace Interleaving

open Programs Runs

variable {μ ε σ α β : Type}

namespace Proc

/-- Started in a state of `A`, the program returns only after an action of its own that found the
thing there and left it gone, whatever steps of `R` other programs take in between. -/
def Takes (H : μ → σ → Prop) (R : σ → σ → Prop) (Gone : σ → Prop) :
    Proc μ ε σ α → (σ → Prop) → Prop
  | ret _, A => ∀ s, ¬A s
  | fail _, _ => True
  | act mark m k, A => ∀ s, A s → Expects H mark s →
    match m s with
    | .ok r s' => ¬Gone s ∧ Gone s' ∨ ∃ B, Stable R B ∧ B s' ∧ (k r).Takes H R Gone B
    | .error _ _ => True

section Takes

variable {H : μ → σ → Prop} {R : σ → σ → Prop} {G : Option μ → σ → σ → Prop} {Gone : σ → Prop}
variable {A B : σ → Prop}

/-- A stronger assertion to start from. -/
theorem Takes.mono {p : Proc μ ε σ α} (h : p.Takes H R Gone B) (hAB : ∀ s, A s → B s) :
    p.Takes H R Gone A := by
  cases p with
  | ret a => exact fun s hs => h s (hAB s hs)
  | fail e => trivial
  | act mark m k => exact fun s hs => h s (hAB s hs)

theorem takes_fail (e : ε) : (fail e : Proc μ ε σ α).Takes H R Gone A := trivial

/-- A program takes it if it does so whenever it is started. -/
theorem takes_of_start {p : Proc μ ε σ α} (h : ∀ s, A s → p.Takes H R Gone A) :
    p.Takes H R Gone A := by
  cases p with
  | ret a => exact fun s hs => h s hs s hs
  | fail e => trivial
  | act mark m k => exact fun s hs => h s hs s hs

/-- It is taken by what comes first. -/
theorem Takes.bind {p : Proc μ ε σ β} (h : p.Takes H R Gone A) (f : β → Proc μ ε σ α) :
    (p >>= f).Takes H R Gone A := by
  show (p.bind f).Takes H R Gone A
  induction p generalizing A with
  | ret b => exact takes_of_start fun s hs => (h s hs).elim
  | fail e => trivial
  | act mark m k ih =>
    intro s hs hexpects
    have hstep := h s hs hexpects
    cases hm : m s with
    | ok r s' =>
      rw [hm] at hstep
      rcases hstep with htaken | ⟨C, hC, hCs, hk⟩
      · exact .inl htaken
      · exact .inr ⟨C, hC, hCs, ih r hk⟩
    | error e s' => trivial

/-- It is taken by what follows. -/
theorem takes_bind {M : β → σ → Prop} {p : Proc μ ε σ β} {f : β → Proc μ ε σ α}
    (hp : p.Valid H R G M A) (hf : ∀ b, (f b).Takes H R Gone (M b)) :
    (p >>= f).Takes H R Gone A := by
  show (p.bind f).Takes H R Gone A
  induction p generalizing A with
  | ret b => exact (hf b).mono hp
  | fail e => trivial
  | act mark m k ih =>
    intro s hs hexpects
    have hstep := hp s hs hexpects
    cases hm : m s with
    | ok r s' =>
      rw [hm] at hstep
      obtain ⟨-, C, hC, hCs, hk⟩ := hstep
      exact .inr ⟨C, hC, hCs, ih r hk⟩
    | error e s' => trivial

/-- It is taken by what follows a program whose steps are of `R`. -/
theorem Keeps.takes_bind {p : Proc μ ε σ β} {f : β → Proc μ ε σ α} (hp : p.Keeps H G)
    (hR : ∀ mark s s', G mark s s' → R s s') (hA : Stable R A) (hf : ∀ b, (f b).Takes H R Gone A) :
    (p >>= f).Takes H R Gone A := by
  have hframe := (Gives.valid hp R fun _ => True).frame hR hA
  refine Proc.takes_bind (hframe.mono fun s hs => ⟨trivial, hs⟩) fun b => ?_
  exact (hf b).mono fun s hs => hs.2

theorem Takes.map {p : Proc μ ε σ β} (h : p.Takes H R Gone A) (f : β → α) :
    (f <$> p).Takes H R Gone A := by
  rw [map_eq_pure_bind]
  exact h.bind _

theorem takes_failIf_bind {c : Prop} [Decidable c] {e : ε} {f : Unit → Proc μ ε σ α}
    (hf : ¬c → (f ()).Takes H R Gone A) : (failIf c e >>= f).Takes H R Gone A := by
  unfold failIf
  by_cases hc : c
  · rw [if_pos hc]
    trivial
  · rw [if_neg hc]
    exact hf hc

/-- One action that finds it there and leaves it gone. -/
theorem takes_act {mark : Option μ} {m : EStateM ε σ α}
    (h : ∀ s, A s → Expects H mark s → ∀ a s', m s = .ok a s' → ¬Gone s ∧ Gone s') :
    (act mark m ret).Takes H R Gone A := by
  intro s hs hexpects
  cases hm : m s with
  | ok a s' => exact .inl (h s hs hexpects a s' hm)
  | error e s' => trivial

end Takes

end Proc

namespace Pool

variable {ι : Type} [DecidableEq ι]
variable {H : ι → μ → σ → Prop} {R : σ → σ → Prop} {G : ι → Option μ → σ → σ → Prop}
variable {post : ι → α → σ → Prop} {Gone : σ → Prop} {racers : ι → Prop}

/-- At most one racer has taken it, and the others still have to. -/
def Racing (H : ι → μ → σ → Prop) (R : σ → σ → Prop) (Gone : σ → Prop) (racers : ι → Prop)
    (P : Pool ι μ ε σ α) : Prop :=
  ∃ winner : Option ι, (winner.isSome → Gone P.state) ∧
    ∀ i, racers i → some i ≠ winner →
      ∃ A, Proc.Stable R A ∧ A P.state ∧ (P.threads i).Takes (H i) R Gone A

omit [DecidableEq ι] in
theorem racing_start {s : σ} {threads : ι → Proc μ ε σ α}
    (h : ∀ i, racers i → (threads i).Takes (H i) R Gone fun _ => True) :
    Racing H R Gone racers (start s threads) :=
  ⟨none, by simp, fun i hi _ => ⟨_, Proc.stable_true R, trivial, h i hi⟩⟩

/-- **One undisturbed step** that is one of `R`. -/
theorem Racing.step (hgone : Proc.Stable R Gone) {P : Pool ι μ ε σ α}
    (h : Racing H R Gone racers P) {i : ι} (hi : P.Undisturbed H i)
    (hR : R P.state (P.step i).state) : Racing H R Gone racers (P.step i) := by
  obtain ⟨winner, hwinner, htakes⟩ := h
  -- who is not `i` keeps what it asserts, and is where it was
  have hothers : ∀ {winner' : Option ι}, winner' = winner ∨ winner = none →
      (winner'.isSome → Gone (P.step i).state) →
      (racers i → some i ≠ winner' → ∃ A, Proc.Stable R A ∧ A (P.step i).state ∧
        ((P.step i).threads i).Takes (H i) R Gone A) → Racing H R Gone racers (P.step i) := by
    intro winner' hcase hsome hown
    refine ⟨winner', hsome, fun j hj hne => ?_⟩
    by_cases hij : j = i
    · subst hij
      exact hown hj hne
    · have hold : some j ≠ winner := by
        rcases hcase with rfl | rfl
        · exact hne
        · exact Option.some_ne_none j
      obtain ⟨A, hA, hAs, hp⟩ := htakes j hj hold
      refine ⟨A, hA, hA _ _ hAs hR, ?_⟩
      rwa [threads_step_of_ne hij]
  have hkept : winner.isSome → Gone (P.step i).state := fun hw => hgone _ _ (hwinner hw) hR
  by_cases hracer : racers i ∧ some i ≠ winner
  · obtain ⟨A, hA, hAs, hp⟩ := htakes i hracer.1 hracer.2
    unfold Undisturbed next at hi
    cases hthread : P.threads i with
    | ret a =>
      rw [hthread] at hp
      exact (hp _ hAs).elim
    | fail e =>
      refine hothers (.inl rfl) hkept fun _ _ => ⟨_, Proc.stable_true R, trivial, ?_⟩
      rw [threads_step_of_fail hthread]
      trivial
    | act mark m k =>
      rw [hthread] at hi hp
      have hstep := hp P.state hAs hi
      cases hm : m P.state with
      | error e s' =>
        refine hothers (.inl rfl) hkept fun _ _ => ⟨_, Proc.stable_true R, trivial, ?_⟩
        rw [threads_step_of_error hthread hm]
        trivial
      | ok r s' =>
        rw [hm] at hstep
        have hstate : (P.step i).state = s' := state_step_of_ok hthread hm
        rcases hstep with ⟨hthere, htaken⟩ | ⟨B, hB, hBs, hk⟩
        · -- nobody had taken it, and now `i` has
          have hnone : winner = none := by
            cases winner with
            | none => rfl
            | some w => exact (hthere (hwinner rfl)).elim
          exact hothers (.inr hnone) (fun _ => hstate ▸ htaken) fun _ hne => (hne rfl).elim
        · refine hothers (.inl rfl) hkept fun _ _ => ⟨B, hB, hstate ▸ hBs, ?_⟩
          rw [threads_step_of_ok hthread hm]
          exact hk
  · exact hothers (.inl rfl) hkept fun hi hne => (hracer ⟨hi, hne⟩).elim

omit [DecidableEq ι] in
/-- **At most one** of those that take it has returned. -/
theorem Racing.unique {P : Pool ι μ ε σ α} (h : Racing H R Gone racers P) {i j : ι} {a b : α}
    (hi : racers i) (hj : racers j) (hai : P.threads i = .ret a) (hbj : P.threads j = .ret b) :
    i = j := by
  obtain ⟨winner, -, htakes⟩ := h
  have hwon : ∀ k c, racers k → P.threads k = .ret c → some k = winner := by
    intro k c hk hret
    by_contra hne
    obtain ⟨A, -, hA, hp⟩ := htakes k hk hne
    rw [hret] at hp
    exact hp _ hA
  exact Option.some.inj ((hwon i a hi hai).trans (hwon j b hj hbj).symm)

/-- **Undisturbed runs** of a sound pool whose steps are all of `R`. -/
theorem Racing.run (hrefl : ∀ i s, G i none s s) (hR : ∀ i mark s s', G i mark s s' → R s s')
    (hgone : Proc.Stable R Gone) {P : Pool ι μ ε σ α} (hsound : Sound H R G post P)
    (h : Racing H R Gone racers P) {is : List ι}
    (hrun : EachStep Pool.step (fun (P : Pool ι μ ε σ α) i => P.Undisturbed H i) P is) :
    Racing H R Gone racers (run Pool.step P is) := by
  let I : Pool ι μ ε σ α → Prop := fun Q => Sound H R G post Q ∧ Racing H R Gone racers Q
  refine (run_inv (I := I) (fun Q i hQ hi => ?_) ⟨hsound, h⟩ hrun).2
  obtain ⟨hsound', hG⟩ := hQ.1.step hrefl hR hi
  exact ⟨hsound', hQ.2.step hgone hi (hR _ _ _ _ hG)⟩

end Pool

end Interleaving
