import Sams.Lib.Programs

/-!
# Programs on a part of the state

A program written for one component of a state runs on the whole of it: `onPart get put m` runs `m`
on what `get` reads, and puts what it leaves back with `put`, whether it returned or raised.
Whatever `put` leaves alone is framed, for any program on the component at all (**`moves_onPart`**).
-/

namespace Programs

variable {ε σ τ α γ : Type}

/-- Run `m` on the component that `get` reads, and put back what it leaves. -/
def onPart (get : σ → τ) (put : τ → σ → σ) (m : EStateM ε τ α) : EStateM ε σ α :=
  fun s => match m (get s) with
    | .ok a t => .ok a (put t s)
    | .error e t => .error e (put t s)

variable {get : σ → τ} {put : τ → σ → σ} {m : EStateM ε τ α}

theorem after_onPart (s : σ) : after (onPart get put m) s = put (after m (get s)) s := by
  unfold after onPart
  cases m (get s) <;> rfl

/-- A relation that every `put` respects holds of a program on the component. -/
theorem moves_onPart {R : σ → σ → Prop} (h : ∀ s t, R s (put t s)) :
    Moves R (onPart get put m) := by
  intro s
  rw [after_onPart]
  exact h s _

end Programs
