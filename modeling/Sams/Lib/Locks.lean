import Mathlib.Algebra.Ring.Nat
import Mathlib.Logic.Function.Basic
import Sams.Lib.Runs

/-!
# Locks that are taken in order

A table says who holds each lock. Whoever holds a lock waits for no lock but one of a higher rank.

* **`exists_unblocked`**: somebody waits for no lock that is held, so there is no deadlock.
* **`exists_end`**: a system that can always come nearer to its end can be brought there.
-/

namespace Locks

open Runs

variable {κ ι : Type}

/-- Who holds each lock. -/
abbrev Table (κ ι : Type) := κ → Option ι

def take [DecidableEq κ] (t : Table κ ι) (k : κ) (i : ι) : Table κ ι := Function.update t k (some i)

def free [DecidableEq κ] (t : Table κ ι) (k : κ) : Table κ ι := Function.update t k none

/-- Whoever leaves gives back all locks. -/
def leave [DecidableEq ι] (t : Table κ ι) (i : ι) :
    Table κ ι := fun k => if t k = some i then none else t k

/-- The table says who holds what. -/
def Agrees (t : Table κ ι) (holds : ι → κ → Prop) : Prop := ∀ k i, t k = some i ↔ holds i k

section Agreement

variable {t : Table κ ι} {holds holds' : ι → κ → Prop} {i j : ι} {k : κ}

/-- A lock is held once. -/
theorem Agrees.exclusive (h : Agrees t holds) (hi : holds i k) (hj : holds j k) : i = j :=
  Option.some.inj (((h k i).2 hi).symm.trans ((h k j).2 hj))

theorem Agrees.same (h : Agrees t holds) (hsame : ∀ j k, holds' j k ↔ holds j k) :
    Agrees t holds' :=
  fun k j => (h k j).trans (hsame j k).symm

theorem Agrees.take [DecidableEq κ] (h : Agrees t holds) (hfree : t k = none)
    (hothers : ∀ j, j ≠ i → ∀ l, holds' j l ↔ holds j l)
    (hown : ∀ l, holds' i l ↔ l = k ∨ holds i l) : Agrees (take t k i) holds' := by
  intro l j
  unfold Locks.take
  by_cases hl : l = k
  · subst hl
    rw [Function.update_self, Option.some.injEq]
    constructor
    · intro hij
      rw [← hij]
      exact (hown l).2 (.inl rfl)
    · intro hj
      by_contra hne
      have hheld := (h l j).2 ((hothers j (Ne.symm hne) l).1 hj)
      rw [hfree] at hheld
      cases hheld
  · rw [Function.update_of_ne hl, h l j]
    by_cases hj : j = i
    · subst hj
      rw [hown l]
      simp [hl]
    · exact (hothers j hj l).symm

theorem Agrees.free [DecidableEq κ] (h : Agrees t holds) (hheld : holds i k)
    (hothers : ∀ j, j ≠ i → ∀ l, holds' j l ↔ holds j l)
    (hown : ∀ l, holds' i l ↔ l ≠ k ∧ holds i l) : Agrees (free t k) holds' := by
  intro l j
  unfold Locks.free
  by_cases hl : l = k
  · subst hl
    rw [Function.update_self]
    constructor
    · intro hj
      cases hj
    · intro hj
      by_cases hji : j = i
      · subst hji
        exact absurd rfl ((hown l).1 hj).1
      · exact absurd (h.exclusive ((hothers j hji l).1 hj) hheld) hji
  · rw [Function.update_of_ne hl, h l j]
    by_cases hj : j = i
    · subst hj
      rw [hown l]
      simp [hl]
    · exact (hothers j hj l).symm

theorem Agrees.leave [DecidableEq ι] (h : Agrees t holds)
    (hothers : ∀ j, j ≠ i → ∀ l, holds' j l ↔ holds j l)
    (hown : ∀ l, ¬holds' i l) : Agrees (leave t i) holds' := by
  intro l j
  unfold Locks.leave
  by_cases hj : j = i
  · subst hj
    have hnot : (if t l = some j then none else t l) ≠ some j := by
      split_ifs with hl
      · simp
      · exact hl
    exact iff_of_false hnot (hown l)
  · rw [hothers j hj l, ← h l j]
    by_cases hl : t l = some i
    · rw [if_pos hl, hl]
      simp [Ne.symm hj]
    · rw [if_neg hl]

end Agreement

/-! ## No deadlock -/

section Order

variable {t : Table κ ι} {holds waits : ι → κ → Prop} {rank : κ → Nat} {bound : Nat}

/-- **Somebody can go on**: the one that is asked about, or one that holds a lock. -/
theorem exists_unblocked (h : Agrees t holds) (hbound : ∀ k, rank k ≤ bound)
    (hrank : ∀ i k l, holds i k → waits i l → rank k < rank l) (i : ι) :
    ∃ j, (j = i ∨ ∃ k, holds j k) ∧ ∀ l, waits j l → t l = none := by
  have hholder : ∀ n j k, holds j k → bound - rank k = n →
      ∃ j', (∃ k, holds j' k) ∧ ∀ l, waits j' l → t l = none := by
    intro n
    induction n using Nat.strongRecOn with
    | ind n ih =>
      intro j k hj hn
      by_cases hfree : ∀ l, waits j l → t l = none
      · exact ⟨j, ⟨k, hj⟩, hfree⟩
      · push Not at hfree
        obtain ⟨l, hl, hheld⟩ := hfree
        obtain ⟨j', hj'⟩ := Option.ne_none_iff_exists'.1 hheld
        have hlt := hrank j k l hj hl
        have hle := hbound l
        exact ih (bound - rank l) (by omega) j' l ((h l j').1 hj') rfl
  by_cases hfree : ∀ l, waits i l → t l = none
  · exact ⟨i, .inl rfl, hfree⟩
  · push Not at hfree
    obtain ⟨l, -, hheld⟩ := hfree
    obtain ⟨j, hj⟩ := Option.ne_none_iff_exists'.1 hheld
    obtain ⟨j', hj', hgo⟩ := hholder _ j l ((h l j).1 hj) rfl
    exact ⟨j', .inr hj', hgo⟩

end Order

/-! ## Coming to an end -/

/-- What one of several parts has left counts into the whole. -/
theorem sum_map_set {α : Type} (f : α → Nat) {xs : List α} {i : Nat} {x : α} (y : α)
    (hi : xs[i]? = some x) :
    ((xs.set i y).map f).sum + f x = (xs.map f).sum + f y := by
  induction xs generalizing i with
  | nil => cases hi
  | cons z zs ih =>
    cases i with
    | zero =>
      rw [List.getElem?_cons_zero, Option.some.injEq] at hi
      subst hi
      simp only [List.set_cons_zero, List.map_cons, List.sum_cons]
      omega
    | succ i =>
      have h := ih hi
      simp only [List.set_cons_succ, List.map_cons, List.sum_cons] at h ⊢
      omega

/-- **The end can be reached** by steps of one kind, where from every state that is not the end such
a step leads nearer to it. -/
theorem exists_end {σ τ : Type} {step : σ → τ → σ} {I P : σ → Prop} {kind : τ → Prop}
    {left : σ → Nat}
    (h : ∀ s, I s → ¬P s → ∃ x, kind x ∧ I (step s x) ∧ left (step s x) < left s) {s : σ}
    (hs : I s) :
    ∃ xs, (∀ x ∈ xs, kind x) ∧ I (run step s xs) ∧ P (run step s xs) := by
  induction hn : left s using Nat.strongRecOn generalizing s with
  | ind n ih =>
    by_cases hP : P s
    · exact ⟨[], by simp, hs, hP⟩
    · obtain ⟨x, hkind, hx, hlt⟩ := h s hs hP
      obtain ⟨xs, hxs, hend⟩ := ih _ (hn ▸ hlt) hx rfl
      refine ⟨x :: xs, ?_, hend⟩
      intro y hy
      rcases List.mem_cons.1 hy with rfl | hy
      · exact hkind
      · exact hxs y hy

end Locks
