import Mathlib.Tactic.Common

/-!
# Runs of a system

A system is a function `step : σ → ι → σ`, total because a call that fails also leaves a state.
A run is the list of its inputs. `EachStep C` says that every step of the run meets `C` in the
state it is taken from.

**`run_inv`** and **`run_each`** are the two rules that safety results use: an invariant kept by
every step that meets the condition `C` holds at the end of a run whose steps all meet it, and
what the invariant and the condition give about one step holds of each step.
-/

namespace Runs

variable {σ ι : Type*} {step : σ → ι → σ}

/-- The state after a run. -/
def run (step : σ → ι → σ) (s : σ) (is : List ι) : σ := is.foldl step s

@[simp] theorem run_nil (s : σ) : run step s [] = s := rfl

@[simp] theorem run_cons (s : σ) (i : ι) (is : List ι) :
    run step s (i :: is) = run step (step s i) is := rfl

theorem run_append (s : σ) (is js : List ι) :
    run step s (is ++ js) = run step (run step s is) js := List.foldl_append

/-- `C` holds of each step of the run and of the state it is taken from. -/
def EachStep (step : σ → ι → σ) (C : σ → ι → Prop) : σ → List ι → Prop
  | _, [] => True
  | s, i :: is => C s i ∧ EachStep step C (step s i) is

instance decidableEachStep {C : σ → ι → Prop} [∀ s i, Decidable (C s i)] :
    ∀ s is, Decidable (EachStep step C s is)
  | _, [] => .isTrue trivial
  | s, i :: is => @instDecidableAnd _ _ _ (decidableEachStep (step s i) is)

/-- `I` holds in every state the run passes, the first and the last included. -/
def Throughout (step : σ → ι → σ) (I : σ → Prop) : σ → List ι → Prop
  | s, [] => I s
  | s, i :: is => I s ∧ Throughout step I (step s i) is

theorem eachStep_true (s : σ) (is : List ι) : EachStep step (fun _ _ => True) s is := by
  induction is generalizing s with
  | nil => trivial
  | cons i is ih => exact ⟨trivial, ih _⟩

theorem EachStep.mono {C D : σ → ι → Prop} (h : ∀ s i, C s i → D s i) {s : σ} {is : List ι}
    (hC : EachStep step C s is) : EachStep step D s is := by
  induction is generalizing s with
  | nil => trivial
  | cons i is ih => exact ⟨h _ _ hC.1, ih hC.2⟩

/-- The steps of a run are those of its beginning and those of the rest. -/
theorem eachStep_append {C : σ → ι → Prop} {s : σ} {is js : List ι} :
    EachStep step C s (is ++ js) ↔ EachStep step C s is ∧ EachStep step C (run step s is) js := by
  induction is generalizing s with
  | nil => simp [EachStep]
  | cons i is ih => simp [EachStep, ih, and_assoc]

/-- Each step is taken from the state that the steps before lead to. -/
theorem eachStep_iff_getElem {C : σ → ι → Prop} {s : σ} {is : List ι} : EachStep step C s is ↔
    ∀ n (hn : n < is.length), C (run step s (is.take n)) is[n] := by
  induction is generalizing s with
  | nil => simp [EachStep]
  | cons i is ih =>
    constructor
    · rintro ⟨hstep, hrest⟩ n hn
      cases n with
      | zero => exact hstep
      | succ n => exact ih.1 hrest n (by simpa using hn)
    · intro h
      refine ⟨h 0 (by simp), ih.2 fun n hn => ?_⟩
      exact h (n + 1) (by simpa using hn)

/-- A run of a system that carries another along goes through the states of the other. -/
theorem EachStep.comap {τ : Type*} {step' : τ → ι → τ} {f : τ → σ}
    (hf : ∀ t i, f (step' t i) = step (f t) i) {C : σ → ι → Prop} {t : τ} {is : List ι}
    (hC : EachStep step C (f t) is) : EachStep step' (fun t i => C (f t) i) t is := by
  induction is generalizing t with
  | nil => trivial
  | cons i is ih => exact ⟨hC.1, ih (hf t i ▸ hC.2)⟩

/-- An invariant kept by every step that meets the condition holds at the end of the run. -/
theorem run_inv {I : σ → Prop} {C : σ → ι → Prop}
    (hstep : ∀ s i, I s → C s i → I (step s i)) {s : σ} {is : List ι} (h0 : I s)
    (hC : EachStep step C s is) : I (run step s is) := by
  induction is generalizing s with
  | nil => exact h0
  | cons i is ih => exact ih (hstep s i h0 hC.1) hC.2

/-- An invariant kept by every step holds at the end of every run. -/
theorem run_inv_of_step {I : σ → Prop} (hstep : ∀ s i, I s → I (step s i)) {s : σ}
    (h0 : I s) (is : List ι) : I (run step s is) :=
  run_inv (fun s i hI _ => hstep s i hI) h0 (eachStep_true s is)

/-- What the invariant and the condition give about one step holds of each step of the run. -/
theorem run_each {I : σ → Prop} {C P : σ → ι → Prop}
    (hstep : ∀ s i, I s → C s i → I (step s i)) (hP : ∀ s i, I s → C s i → P s i)
    {s : σ} {is : List ι} (h0 : I s) (hC : EachStep step C s is) : EachStep step P s is := by
  induction is generalizing s with
  | nil => trivial
  | cons i is ih => exact ⟨hP s i h0 hC.1, ih (hstep s i h0 hC.1) hC.2⟩

/-- An invariant kept by every step that meets the condition holds throughout the run. -/
theorem run_throughout {I : σ → Prop} {C : σ → ι → Prop}
    (hstep : ∀ s i, I s → C s i → I (step s i)) {s : σ} {is : List ι} (h0 : I s)
    (hC : EachStep step C s is) : Throughout step I s is := by
  induction is generalizing s with
  | nil => exact h0
  | cons i is ih => exact ⟨h0, ih (hstep s i h0 hC.1) hC.2⟩

/-- What holds throughout a run holds at its end. -/
theorem Throughout.last {I : σ → Prop} {s : σ} {is : List ι} (h : Throughout step I s is) :
    I (run step s is) := by
  induction is generalizing s with
  | nil => exact h
  | cons i is ih => exact ih h.2

theorem Throughout.mono {I J : σ → Prop} (hIJ : ∀ s, I s → J s) {s : σ} {is : List ι}
    (h : Throughout step I s is) : Throughout step J s is := by
  induction is generalizing s with
  | nil => exact hIJ _ h
  | cons i is ih => exact ⟨hIJ _ h.1, ih h.2⟩

/-- What an invariant gives along with `J` holds throughout a run that has `J` throughout. -/
theorem Throughout.with_inv {I J K : σ → Prop} (hstep : ∀ s i, I s → I (step s i))
    (hK : ∀ s, I s → J s → K s) {s : σ} {is : List ι} (h0 : I s) (hJ : Throughout step J s is) :
    Throughout step K s is := by
  induction is generalizing s with
  | nil => exact hK s h0 hJ
  | cons i is ih => exact ⟨hK s h0 hJ.1, ih (hstep s i h0) hJ.2⟩

end Runs
