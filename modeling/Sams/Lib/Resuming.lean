import Mathlib.Data.List.Basic

/-!
# Statements that are run again

A list of statements is run in order, each at the time of its run, and each is committed by
itself. Where a run is cut short, the statements before are there and the next run begins with
the first of them again.

A statement is `Settled` in a state that it leaves alone, whatever the time. Statements
are `Resumable` where each of them is settled once it has been run, and stays settled
under the ones after it.

**`rerun`**: a run that follows one cut short does what that one left to do. **`rerun_any`**: where
only the last statement depends on the time, a run that follows any number of others does what one
run at the time of one of them would have done.
-/

namespace Resuming

variable {σ ε τ : Type*}

/-- A statement that is run at a time. -/
abbrev Statement (σ ε τ : Type*) := τ → σ → Except ε σ

/-- The statements one after the other. -/
def runAll (l : List (Statement σ ε τ)) (t : τ) (s : σ) : Except ε σ :=
  l.foldlM (fun s f => f t s) s

@[simp] theorem runAll_nil (t : τ) (s : σ) : runAll ([] : List (Statement σ ε τ)) t s = .ok s := rfl

theorem runAll_cons (f : Statement σ ε τ) (l : List (Statement σ ε τ)) (t : τ) (s : σ) :
    runAll (f :: l) t s = (f t s).bind (runAll l t) := rfl

theorem runAll_append (l l' : List (Statement σ ε τ)) (t : τ) (s : σ) :
    runAll (l ++ l') t s = (runAll l t s).bind (runAll l' t) := List.foldlM_append

/-- The statement leaves the state alone. -/
def Settled (f : Statement σ ε τ) (s : σ) : Prop := ∀ t, f t s = .ok s

/-- Where the statement has been run it is settled. -/
def Repeatable (f : Statement σ ε τ) : Prop := ∀ t s s', f t s = .ok s' → Settled f s'

/-- What settles one statement still does after the other. -/
def Keeps (g f : Statement σ ε τ) : Prop := ∀ t s s', Settled f s → g t s = .ok s' → Settled f s'

def Resumable (l : List (Statement σ ε τ)) : Prop :=
  (∀ f ∈ l, Repeatable f) ∧ l.Pairwise fun f g => Keeps g f

theorem Resumable.take {l : List (Statement σ ε τ)} (h : Resumable l) (k : Nat) :
    Resumable (l.take k) :=
  ⟨fun f hf => h.1 f (List.mem_of_mem_take hf), h.2.sublist (List.take_sublist k l)⟩

theorem Resumable.tail {f : Statement σ ε τ} {l : List (Statement σ ε τ)} (h : Resumable (f :: l)) :
    Resumable l :=
  ⟨fun g hg => h.1 g (List.mem_cons_of_mem f hg), (List.pairwise_cons.1 h.2).2⟩

/-- Statements that are settled change nothing. -/
theorem runAll_settled {l : List (Statement σ ε τ)} {s : σ} (h : ∀ f ∈ l, Settled f s) (t : τ) :
    runAll l t s = .ok s := by
  induction l with
  | nil => rfl
  | cons f l ih =>
    rw [runAll_cons, h f List.mem_cons_self t]
    exact ih fun g hg => h g (List.mem_cons_of_mem f hg)

/-- A settled statement stays so under statements that keep it. -/
theorem settled_runAll {f : Statement σ ε τ} {l : List (Statement σ ε τ)} {t : τ} {s s' : σ}
    (hkeeps : ∀ g ∈ l, Keeps g f) (hf : Settled f s) (h : runAll l t s = .ok s') :
    Settled f s' := by
  induction l generalizing s with
  | nil => cases h; exact hf
  | cons g l ih =>
    rw [runAll_cons] at h
    cases hg : g t s with
    | error e => rw [hg] at h; cases h
    | ok s₁ =>
      rw [hg] at h
      refine ih (fun g' hg' => hkeeps g' (List.mem_cons_of_mem g hg')) ?_ h
      exact hkeeps g List.mem_cons_self t s s₁ hf hg

/-- After a run each of its statements is settled. -/
theorem Resumable.settled {l : List (Statement σ ε τ)} (hl : Resumable l) {t : τ} {s s' : σ}
    (h : runAll l t s = .ok s') : ∀ f ∈ l, Settled f s' := by
  induction l generalizing s with
  | nil => exact fun _ hf => nomatch hf
  | cons g l ih =>
    rw [runAll_cons] at h
    cases hg : g t s with
    | error e => rw [hg] at h; cases h
    | ok s₁ =>
      rw [hg] at h
      have hkeeps := (List.pairwise_cons.1 hl.2).1
      intro f hf
      rcases List.mem_cons.1 hf with rfl | hf
      · exact settled_runAll hkeeps (hl.1 f List.mem_cons_self t s s₁ hg) h
      · exact ih hl.tail h f hf

/-- The first `k` statements have been run: what a new run does is the rest of them. -/
theorem rerun {l : List (Statement σ ε τ)} (hl : Resumable l) {k : Nat} {t : τ} {s s' : σ}
    (h : runAll (l.take k) t s = .ok s') (t' : τ) : runAll l t' s' = runAll (l.drop k) t' s' := by
  conv_lhs => rw [← List.take_append_drop k l]
  rw [runAll_append, runAll_settled ((hl.take k).settled h)]
  rfl

/-- A run that came to its end is not changed by another. -/
theorem rerun_all {l : List (Statement σ ε τ)} (hl : Resumable l) {t : τ} {s s' : σ}
    (h : runAll l t s = .ok s') (t' : τ) : runAll l t' s' = .ok s' :=
  runAll_settled (hl.settled h) t'

/-- The state that a run leaves, which ends before the first statement that fails. -/
def reached : List (Statement σ ε τ) → τ → σ → σ
  | [], _, s => s
  | f :: l, t, s =>
    match f t s with
    | .ok s' => reached l t s'
    | .error _ => s

/-- It is the state after some of the statements. -/
theorem runAll_reached (l : List (Statement σ ε τ)) (t : τ) (s : σ) :
    ∃ k, runAll (l.take k) t s = .ok (reached l t s) := by
  induction l generalizing s with
  | nil => exact ⟨0, rfl⟩
  | cons f l ih =>
    unfold reached
    cases hf : f t s with
    | error e => exact ⟨0, rfl⟩
    | ok s' =>
      obtain ⟨k, hk⟩ := ih s'
      refine ⟨k + 1, ?_⟩
      rw [List.take_succ_cons, runAll_cons, hf]
      exact hk

theorem reached_of_ok {l : List (Statement σ ε τ)} {t : τ} {s s' : σ} (h : runAll l t s = .ok s') :
    reached l t s = s' := by
  induction l generalizing s with
  | nil =>
    cases h
    rfl
  | cons f l ih =>
    rw [runAll_cons] at h
    unfold reached
    cases hf : f t s with
    | error e =>
      rw [hf] at h
      cases h
    | ok s₁ =>
      rw [hf] at h
      exact ih h

/-- What each statement preserves, a run does. -/
theorem runAll_preserves {l : List (Statement σ ε τ)} {R : σ → σ → Prop} (hrefl : ∀ s, R s s)
    (htrans : ∀ {a b c}, R a b → R b c → R a c) {t : τ}
    (hl : ∀ f ∈ l, ∀ s s', f t s = .ok s' → R s s')
    {s s' : σ} (h : runAll l t s = .ok s') : R s s' := by
  induction l generalizing s with
  | nil =>
    cases h
    exact hrefl _
  | cons f l ih =>
    rw [runAll_cons] at h
    cases hf : f t s with
    | error e =>
      rw [hf] at h
      cases h
    | ok s₁ =>
      rw [hf] at h
      exact htrans (hl f List.mem_cons_self s s₁ hf)
        (ih (fun g hg => hl g (List.mem_cons_of_mem f hg)) h)

/-- Statements that do not depend on the time. -/
theorem runAll_timeless {l : List (Statement σ ε τ)} (h : ∀ f ∈ l, ∀ t t', f t = f t')
    (t t' : τ) (s : σ) :
    runAll l t s = runAll l t' s := by
  induction l generalizing s with
  | nil => rfl
  | cons f l ih =>
    rw [runAll_cons, runAll_cons, h f List.mem_cons_self t t']
    congr 1
    funext s'
    exact ih (fun g hg => h g (List.mem_cons_of_mem f hg)) s'

section Timeless

variable {l : List (Statement σ ε τ)} {last : Statement σ ε τ}

/-- A run after one that was cut short does what one run at the time of either would have done. -/
theorem rerun_reached (hl : Resumable (l ++ [last])) (h : ∀ f ∈ l, ∀ t t', f t = f t') (k : Nat)
    (t t' : τ) (s : σ) :
    runAll (l ++ [last]) t' (reached ((l ++ [last]).take k) t s) = runAll (l ++ [last]) t' s ∨
    runAll (l ++ [last]) t' (reached ((l ++ [last]).take k) t s) = runAll (l ++ [last]) t s := by
  obtain ⟨j, hj⟩ := runAll_reached ((l ++ [last]).take k) t s
  rw [List.take_take] at hj
  by_cases hle : min j k ≤ l.length
  · left
    have hearly : ∀ f ∈ (l ++ [last]).take (min j k), ∀ t t', f t = f t' := by
      intro f hf
      rw [List.take_append_of_le_length hle] at hf
      exact h f (List.mem_of_mem_take hf)
    rw [rerun hl hj t']
    conv_rhs => rw [← List.take_append_drop (min j k) (l ++ [last])]
    rw [runAll_append, runAll_timeless hearly t' t, hj]
    rfl
  · right
    have hall : (l ++ [last]).take (min j k) = l ++ [last] := by
      refine List.take_of_length_le ?_
      rw [List.length_append, List.length_singleton]
      omega
    rw [hall] at hj
    rw [rerun_all hl hj t', hj]

/-- After any number of runs that were cut short, each at its own time. -/
theorem rerun_any (hl : Resumable (l ++ [last])) (h : ∀ f ∈ l, ∀ t t', f t = f t')
    (cut : List (Nat × τ)) (t : τ) (s : σ) : ∃ t' ∈ t :: cut.map Prod.snd,
    runAll (l ++ [last]) t (cut.foldl (fun s c => reached ((l ++ [last]).take c.1) c.2 s) s) =
      runAll (l ++ [last]) t' s := by
  induction cut generalizing s with
  | nil => exact ⟨t, List.mem_cons_self, rfl⟩
  | cons c cut ih =>
    obtain ⟨t', ht', heq⟩ := ih (reached ((l ++ [last]).take c.1) c.2 s)
    rw [List.foldl_cons, heq]
    rw [List.map_cons]
    rcases rerun_reached hl h c.1 c.2 t' s with hsame | hsame
    · refine ⟨t', ?_, hsame⟩
      rcases List.mem_cons.1 ht' with rfl | ht'
      · exact List.mem_cons_self
      · exact List.mem_cons_of_mem _ (List.mem_cons_of_mem _ ht')
    · exact ⟨c.2, List.mem_cons_of_mem _ List.mem_cons_self, hsame⟩

end Timeless

end Resuming
