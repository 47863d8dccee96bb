import Mathlib.Algebra.GroupWithZero.Nat
import Mathlib.Algebra.BigOperators.Group.List.Basic
import Mathlib.Tactic.Common

/-!
# Sums by group

`GROUP BY key`: what the rows of each group add up to.

* **`sum_total`** — over distinct keys, the totals of the groups add up to that of
  the rows with such a key.
-/

namespace Groups

variable {α κ M : Type} [DecidableEq κ] [AddCommMonoid M]

/-- `SUM(value)` over the rows of the group. -/
def total (key : α → κ) (value : α → M) (rows : List α) (k : κ) : M :=
  ((rows.filter fun x => key x = k).map value).sum

/-- `COUNT(*)` of the group. -/
def count (key : α → κ) (rows : List α) (k : κ) : Nat := (rows.filter fun x => key x = k).length

theorem count_eq_total (key : α → κ) (rows : List α) (k : κ) :
    count key rows k = total key (fun _ => 1) rows k := by
  simp [count, total]

theorem total_cons (key : α → κ) (value : α → M) (x : α) (rows : List α) (k : κ) :
    total key value (x :: rows) k = (if key x = k then value x else 0) +
      total key value rows k := by
  unfold total
  rw [List.filter_cons]
  by_cases h : key x = k
  · simp [h]
  · simp [h]

/-- A value that one of the keys has. -/
theorem sum_ite {ks : List κ} (hks : ks.Nodup) (a : κ) (m : M) :
    (ks.map fun k => if a = k then m else 0).sum = if a ∈ ks then m else 0 := by
  induction ks with
  | nil => simp
  | cons k ks ih =>
    obtain ⟨hk, hks⟩ := List.nodup_cons.1 hks
    rw [List.map_cons, List.sum_cons, ih hks]
    by_cases h : a = k
    · have hnot : a ∉ ks := h ▸ hk
      rw [if_pos h, if_neg hnot, if_pos (h ▸ List.mem_cons_self), add_zero]
    · rw [if_neg h, zero_add]
      by_cases ha : a ∈ ks
      · rw [if_pos ha, if_pos (List.mem_cons_of_mem _ ha)]
      · have hnot : a ∉ k :: ks := fun hin => (List.mem_cons.1 hin).elim h ha
        rw [if_neg ha, if_neg hnot]

/-- **The totals of the groups** add up to the total. -/
theorem sum_total {ks : List κ} (hks : ks.Nodup) (key : α → κ) (value : α → M) (rows : List α) :
    (ks.map (total key value rows)).sum = ((rows.filter fun x => key x ∈ ks).map value).sum := by
  induction rows with
  | nil =>
    have hzero : ks.map (total key value []) = ks.map fun _ => 0 := rfl
    simp [hzero]
  | cons x rows ih =>
    have hsplit : ks.map (total key value (x :: rows)) =
        ks.map fun k => (if key x = k then value x else 0) + total key value rows k :=
      List.map_congr_left fun k _ => total_cons key value x rows k
    rw [hsplit, List.sum_map_add, sum_ite hks, ih, List.filter_cons]
    by_cases h : key x ∈ ks
    · simp [h]
    · simp [h]

theorem sum_count {ks : List κ} (hks : ks.Nodup) (key : α → κ) (rows : List α) :
    (ks.map (count key rows)).sum = (rows.filter fun x => key x ∈ ks).length := by
  have hcounts : ks.map (count key rows) = ks.map (total key (fun _ => 1) rows) :=
    List.map_congr_left fun k _ => count_eq_total key rows k
  rw [hcounts, sum_total hks]
  simp

end Groups
