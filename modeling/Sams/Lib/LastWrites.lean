import Sams.Lib.Runs

/-!
# The last write

A step may write an entry under a key, and an entry that is there after a step was written by it or
was there before and its key is untouched. Then an entry that is there at the end of a run is the
last that was written under its key, or none was written and it has been there since the start
(**`stands_of_has`**).
-/

namespace LastWrites

open Runs

variable {σ ι ε κ : Type*} {step : σ → ι → σ} {writes : σ → ι → Option ε} {key : ε → κ}
    {has : σ → ε → Prop}

/-- The step does not write under the key. -/
def Spares (writes : σ → ι → Option ε) (key : ε → κ) (k : κ) (s : σ) (i : ι) : Prop :=
  ∀ e ∈ writes s i, key e ≠ k

/-- The entry has been there since the start, or was written by a step, and none has written
under its key since. -/
def Stands (step : σ → ι → σ) (writes : σ → ι → Option ε) (key : ε → κ) (has : σ → ε → Prop) (s : σ)
    (is : List ι) (e : ε) : Prop :=
  has s e ∧ EachStep step (Spares writes key (key e)) s is ∨
    ∃ before i after, is = before ++ i :: after ∧ e ∈ writes (run step s before) i ∧
      EachStep step (Spares writes key (key e)) (step (run step s before) i) after

/-- **An entry that is there at the end of a run stands.** -/
theorem stands_of_has (hstep : ∀ s i e, has (step s i) e → e ∈ writes s i ∨ has s e ∧
    Spares writes key (key e) s i)
    {s : σ} {is : List ι} {e : ε} (h : has (run step s is) e) :
    Stands step writes key has s is e := by
  induction is generalizing s with
  | nil => exact .inl ⟨h, trivial⟩
  | cons i is ih =>
    rcases ih h with ⟨hnext, hrest⟩ | ⟨before, j, after, rfl, hwrite, hrest⟩
    · rcases hstep s i e hnext with hwrite | ⟨hstart, hspares⟩
      · exact .inr ⟨[], i, is, rfl, hwrite, hrest⟩
      · exact .inl ⟨hstart, hspares, hrest⟩
    · exact .inr ⟨i :: before, j, after, rfl, hwrite, hrest⟩

end LastWrites
