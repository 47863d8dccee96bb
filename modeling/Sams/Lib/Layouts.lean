import Mathlib.Data.List.Sort
import Sams.Lib.Rows

/-!
# Where the rows of a table lie

A query without an order answers the rows as they lie, and a row that is written may come
to lie elsewhere. A `Layout` gives each key a place of its own; `lay` are the rows in the
order of their places.

**`find?_lay`** — the first row that fits is the one of those that fit which lies first, whatever
the order in which the table is written down.
-/

namespace Layouts

open Rows

variable {α κ : Type}

/-- A place for each key. -/
structure Layout (κ : Type) where
  place : κ → Nat
  injective : Function.Injective place

/-- The rows as they lie. -/
def Layout.lay (ℓ : Layout κ) (key : α → κ) (l : List α) : List α :=
  l.insertionSort fun x y => ℓ.place (key x) ≤ ℓ.place (key y)

/-- Numbered rows lie in the order of their numbers. -/
def inOrder : Layout Nat := ⟨id, Function.injective_id⟩

section Lay

variable {ℓ : Layout κ} {key : α → κ} {l l' : List α}

theorem lay_perm (ℓ : Layout κ) (key : α → κ) (l : List α) : (ℓ.lay key l).Perm l :=
  List.perm_insertionSort _ l

@[simp] theorem mem_lay {x : α} : x ∈ ℓ.lay key l ↔ x ∈ l := (lay_perm ℓ key l).mem_iff

theorem sorted_lay (ℓ : Layout κ) (key : α → κ) (l : List α) :
    (ℓ.lay key l).Pairwise fun x y => ℓ.place (key x) ≤ ℓ.place (key y) :=
  haveI : Std.Total fun x y : α => ℓ.place (key x) ≤ ℓ.place (key y) :=
    ⟨fun x y => le_total (ℓ.place (key x)) (ℓ.place (key y))⟩
  haveI : IsTrans α fun x y => ℓ.place (key x) ≤ ℓ.place (key y) :=
    ⟨fun _ _ _ h h' => le_trans h h'⟩
  List.pairwise_insertionSort _ l

/-- Where the rows lie does not depend on where they were. -/
theorem lay_congr (hkeyed : Keyed key l) (h : l.Perm l') : ℓ.lay key l = ℓ.lay key l' := by
  have hperm : (ℓ.lay key l).Perm (ℓ.lay key l') :=
    (lay_perm ℓ key l).trans (h.trans (lay_perm ℓ key l').symm)
  refine hperm.eq_of_pairwise (fun x y hx hy hxy hyx => ?_) (sorted_lay ℓ key l)
    (sorted_lay ℓ key l')
  have hy' : y ∈ l := h.mem_iff.2 (mem_lay.1 hy)
  exact hkeyed.eq_of_key_eq (mem_lay.1 hx) hy' (ℓ.injective (le_antisymm hxy hyx))

/-- **What is found first.** -/
theorem find?_lay (hkeyed : Keyed key l) {p : α → Bool} {x : α} : (ℓ.lay key l).find? p = some x ↔
    (x ∈ l ∧ p x) ∧ ∀ y ∈ l, p y → ℓ.place (key x) ≤ ℓ.place (key y) := by
  constructor
  · intro h
    obtain ⟨hx, as, bs, hlay, has⟩ := List.find?_eq_some_iff_append.1 h
    refine ⟨⟨mem_lay.1 (List.mem_of_find?_eq_some h), hx⟩, fun y hy hpy => ?_⟩
    have hsorted := sorted_lay ℓ key l
    rw [hlay, List.pairwise_append] at hsorted
    have hmem : y ∈ as ++ x :: bs := hlay ▸ mem_lay.2 hy
    rcases List.mem_append.1 hmem with hy | hy
    · exact absurd hpy (by simpa using has y hy)
    · rcases List.mem_cons.1 hy with rfl | hy
      · exact le_rfl
      · exact (List.pairwise_cons.1 hsorted.2.1).1 y hy
  · rintro ⟨⟨hx, hpx⟩, hfirst⟩
    cases h : (ℓ.lay key l).find? p with
    | none => exact absurd hpx (List.find?_eq_none.1 h x (mem_lay.2 hx))
    | some z =>
      obtain ⟨hz, as, bs, hlay, has⟩ := List.find?_eq_some_iff_append.1 h
      have hz' : z ∈ l := mem_lay.1 (List.mem_of_find?_eq_some h)
      have hsorted := sorted_lay ℓ key l
      rw [hlay, List.pairwise_append] at hsorted
      have hmem : x ∈ as ++ z :: bs := hlay ▸ mem_lay.2 hx
      have hle : ℓ.place (key z) ≤ ℓ.place (key x) := by
        rcases List.mem_append.1 hmem with hx | hx
        · exact absurd hpx (by simpa using has x hx)
        · rcases List.mem_cons.1 hx with rfl | hx
          · exact le_rfl
          · exact (List.pairwise_cons.1 hsorted.2.1).1 x hx
      rw [hkeyed.eq_of_key_eq hz' hx (ℓ.injective (le_antisymm hle (hfirst z hz' hz)))]

theorem isSome_find?_lay {p : α → Bool} : ((ℓ.lay key l).find? p).isSome = (l.find? p).isSome := by
  rw [Bool.eq_iff_iff, List.find?_isSome, List.find?_isSome]
  simp only [mem_lay]

end Lay

end Layouts
