import Mathlib.Data.List.Sort
import Mathlib.Order.Defs.LinearOrder

/-!
# Pages by a key

A table is read newest first, a page at a time: each page ends at a key, and the next page begins
below it. Between two pages rows may come whose keys are above all that were there.

* **`follow_eq`** — to follow the pages to their end gives the table as it was at the
  first page, newest first.
-/

namespace Paging

variable {α κ : Type} [LinearOrder κ]

/-- `ORDER BY key DESC`. -/
def newestFirst (key : α → κ) (rows : List α) : List α :=
  rows.insertionSort fun x y => key y ≤ key x

/-- The rows below the cursor, if there is one. -/
def below (key : α → κ) (cursor : Option κ) (rows : List α) : List α :=
  rows.filter fun x => ∀ k ∈ cursor, key x < k

/-- The first rows below the cursor. -/
def page (key : α → κ) (limit : Nat) (cursor : Option κ) (rows : List α) : List α :=
  (newestFirst key (below key cursor rows)).take limit

/-- A full page has a page after it. -/
def next (key : α → κ) (limit : Nat) (items : List α) : Option κ :=
  if items.length = limit then items.getLast?.map key else none

/-- The pages from the `n`-th on, as the table stands at each; `fuel` bounds their number. -/
def follow (key : α → κ) (limit : Nat) (rows : Nat → List α) :
    Nat → Nat → Option κ → Option (List α)
  | 0, _, _ => none
  | fuel + 1, n, cursor =>
    match next key limit (page key limit cursor (rows n)) with
    | none => some (page key limit cursor (rows n))
    | some k =>
      (follow key limit rows fuel (n + 1) (some k)).map (page key limit cursor (rows n) ++ ·)

section Newest

variable {key : α → κ} {rows : List α}

theorem newestFirst_perm (key : α → κ) (rows : List α) : (newestFirst key rows).Perm rows :=
  List.perm_insertionSort _ rows

/-- Newest first, each row once. -/
theorem newestFirst_descending (h : (rows.map key).Nodup) :
    (newestFirst key rows).Pairwise fun x y => key y < key x := by
  have htotal : Std.Total fun x y : α => key y ≤ key x := ⟨fun x y => le_total (key y) (key x)⟩
  have htrans : IsTrans α fun x y => key y ≤ key x := ⟨fun _ _ _ hxy hyz => le_trans hyz hxy⟩
  have hsorted : (newestFirst key rows).Pairwise fun x y => key y ≤ key x :=
    List.pairwise_insertionSort _ rows
  have hnodup : ((newestFirst key rows).map key).Nodup :=
    (((newestFirst_perm key rows).map key).nodup_iff).2 h
  have hne : (newestFirst key rows).Pairwise fun x y => key x ≠ key y := List.pairwise_map.1 hnodup
  exact (hsorted.and hne).imp fun h => lt_of_le_of_ne h.1 (Ne.symm h.2)

/-- A list that is newest first is the rows that it permutes, newest first. -/
theorem newestFirst_eq {l : List α} (hperm : rows.Perm l)
    (hdesc : l.Pairwise fun x y => key y < key x) : newestFirst key rows = l := by
  have hnodup : (rows.map key).Nodup := by
    rw [(hperm.map key).nodup_iff]
    exact List.pairwise_map.2 (hdesc.imp fun h => ne_of_gt h)
  refine List.Perm.eq_of_pairwise ?_ (newestFirst_descending hnodup) hdesc
    ((newestFirst_perm key rows).trans hperm)
  intro x y _ _ hxy hyx
  exact absurd hxy (lt_asymm hyx)

end Newest

/-- The table at the first page, and the rows that have come since, with keys above all of it. -/
def Grows (key : α → κ) (rows : Nat → List α) : Prop :=
  ∀ n, ∃ added, rows n = rows 0 ++ added ∧ ∀ x ∈ added, ∀ y ∈ rows 0, key y < key x

section Follow

variable {key : α → κ} {limit : Nat} {rows : Nat → List α}

/-- Below a row of the first table, a later table is what the first has below it. -/
theorem below_later (hgrows : Grows key rows) (hnodup : ((rows 0).map key).Nodup)
    {before after : List α}
    {x : α} (hsplit : newestFirst key (rows 0) = before ++ x :: after) (n : Nat) :
    newestFirst key (below key (some (key x)) (rows n)) = after := by
  obtain ⟨added, hadded, habove⟩ := hgrows n
  have hdesc := newestFirst_descending hnodup
  rw [hsplit, List.pairwise_append, List.pairwise_cons] at hdesc
  obtain ⟨-, ⟨hx, hafter⟩, hbefore⟩ := hdesc
  have hmem : x ∈ rows 0 := (newestFirst_perm key (rows 0)).mem_iff.1 (by rw [hsplit]; simp)
  have hnone : below key (some (key x)) added = [] := by
    refine List.filter_eq_nil_iff.2 fun y hy => ?_
    simp [(habove y hy x hmem).le]
  have hbelow : below key (some (key x)) (before ++ x :: after) = after := by
    unfold below
    rw [List.filter_append, List.filter_cons_of_neg (by simp)]
    have hfirst : before.filter (fun y => ∀ k ∈ some (key x), key y < k) = [] := by
      refine List.filter_eq_nil_iff.2 fun y hy => ?_
      simp [(hbefore y hy x (by simp)).le]
    rw [hfirst, List.nil_append, List.filter_eq_self]
    intro y hy
    simpa using hx y hy
  refine newestFirst_eq ?_ hafter
  have hrows : below key (some (key x)) (rows n) = below key (some (key x)) (rows 0) := by
    rw [hadded]
    unfold below at hnone ⊢
    rw [List.filter_append, hnone, List.append_nil]
  rw [hrows]
  have hperm := ((newestFirst_perm key (rows 0)).filter fun y => ∀ k ∈ some (key x), key y < k).symm
  rw [hsplit] at hperm
  exact hperm.trans (List.Perm.of_eq hbelow)

/-- From where `rest` is still to come, the pages give `rest`. -/
theorem follow_rest (hlimit : 0 < limit) (hgrows : Grows key rows)
    (hnodup : ((rows 0).map key).Nodup)
    {fuel n : Nat} {cursor : Option κ} (before : List α) {rest : List α}
    (hsplit : newestFirst key (rows 0) = before ++ rest)
    (hrest : newestFirst key (below key cursor (rows n)) = rest) (hfuel : rest.length < fuel) :
    follow key limit rows fuel n cursor = some rest := by
  induction fuel generalizing n cursor before rest with
  | zero => omega
  | succ fuel ih =>
    have hpage : page key limit cursor (rows n) = rest.take limit := by
      unfold page
      rw [hrest]
    unfold follow
    rw [hpage]
    by_cases hfull : limit ≤ rest.length
    · -- the page is full, and the next begins below its last row
      have hlength : (rest.take limit).length = limit := by
        rw [List.length_take]
        omega
      have hne : rest.take limit ≠ [] := by
        intro h
        rw [h] at hlength
        simp at hlength
        omega
      obtain ⟨items, x, hitems⟩ := List.eq_nil_or_concat (rest.take limit) |>.resolve_left hne
      have hnext : next key limit (rest.take limit) = some (key x) := by
        unfold next
        rw [if_pos hlength, hitems]
        simp
      have hwhole : rest = items ++ x :: rest.drop limit := by
        have happend := (List.take_append_drop limit rest).symm
        rw [hitems] at happend
        simpa using happend
      have hsplit' : newestFirst key (rows 0) = (before ++ items) ++ x :: rest.drop limit := by
        rw [hsplit, List.append_assoc, ← hwhole]
      rw [hnext]
      dsimp only
      rw [ih (before ++ items ++ [x]) (by simp [hsplit'])
        (below_later hgrows hnodup hsplit' (n + 1)) (by rw [List.length_drop]; omega)]
      simp
    · have hnext : next key limit (rest.take limit) = none := by
        unfold next
        rw [if_neg]
        rw [List.length_take]
        omega
      rw [hnext, List.take_of_length_le (by omega)]

/-- **The pages** are the table at the first of them, newest first, whatever comes in between. -/
theorem follow_eq (limit : Nat) (hlimit : 0 < limit) (hgrows : Grows key rows)
    (hnodup : ((rows 0).map key).Nodup) :
    follow key limit rows ((rows 0).length + 1) 0 none = some (newestFirst key (rows 0)) := by
  refine follow_rest hlimit hgrows hnodup [] rfl ?_ ?_
  · unfold below
    simp
  · rw [(newestFirst_perm key (rows 0)).length_eq]
    omega

end Follow

end Paging
