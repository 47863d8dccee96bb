import Mathlib.Data.List.Basic
import Mathlib.Tactic.Common

/-!
# The leftmost match of a pattern, and two patterns that search alike

A pattern is tried at each place of a text, with the element before it in sight; the search answers
what it captures at the first place where it matches.

* **`search_eq_iff`** — two searches answer alike exactly when the patterns are aligned: at the
  first place where either matches, both match and capture the same. It takes that no later match
  captures what an earlier one did.
* **`Captures.not_later`** — the patterns that capture the last word of a text
  after a marker are such.
-/

namespace Leftmost

variable {α β : Type}

/-- A pattern at a place of a text. -/
abbrev Pattern (α β : Type) := Option α → List α → Option β

/-- What the leftmost match captures; `prev` is the element before the text. -/
def search (here : Pattern α β) : Pattern α β
  | _, [] => none
  | prev, c :: cs =>
    match here prev (c :: cs) with
    | some w => some w
    | none => search here (some c) cs

/-- At the first place where either pattern matches, both match and capture the same. -/
def Aligned (here₁ here₂ : Pattern α β) : Option α → List α → Prop
  | _, [] => True
  | prev, c :: cs =>
    if here₁ prev (c :: cs) = none ∧ here₂ prev (c :: cs) = none then
      Aligned here₁ here₂ (some c) cs
    else here₁ prev (c :: cs) = here₂ prev (c :: cs)

instance decidableAligned [DecidableEq β] (here₁ here₂ : Pattern α β) :
    ∀ prev cs, Decidable (Aligned here₁ here₂ prev cs)
  | _, [] => .isTrue trivial
  | prev, c :: cs =>
    have := decidableAligned here₁ here₂ (some c) cs
    inferInstanceAs (Decidable (if here₁ prev (c :: cs) = none ∧ here₂ prev (c :: cs) = none then
      Aligned here₁ here₂ (some c) cs else here₁ prev (c :: cs) = here₂ prev (c :: cs)))

/-- A match that is found stands somewhere. -/
theorem search_some {here : Pattern α β} {prev : Option α} {cs : List α} {w : β}
    (h : search here prev cs = some w) :
    ∃ u prev' rest, cs = u ++ rest ∧ here prev' rest = some w := by
  induction cs generalizing prev with
  | nil => cases h
  | cons c cs ih =>
    rw [search] at h
    cases hhere : here prev (c :: cs) with
    | some v =>
      rw [hhere] at h
      exact ⟨[], prev, c :: cs, rfl, hhere.trans h⟩
    | none =>
      rw [hhere] at h
      obtain ⟨u, prev', rest, rfl, hrest⟩ := ih h
      exact ⟨c :: u, prev', rest, rfl, hrest⟩

/-- Further on, `here₂` captures nothing that `here₁` captures first. -/
def Apart (here₁ here₂ : Pattern α β) : Prop :=
  ∀ u prev prev' cs w, u ≠ [] → here₁ prev (u ++ cs) = some w → here₂ prev' cs ≠ some w

theorem Apart.search_ne {here₁ here₂ : Pattern α β} (h : Apart here₁ here₂)
    {prev prev' : Option α} {c : α}
    {cs : List α} {w : β} (hw : here₁ prev (c :: cs) = some w) :
    search here₂ prev' cs ≠ some w := by
  intro hsearch
  obtain ⟨u, prev'', rest, rfl, hrest⟩ := search_some hsearch
  exact h (c :: u) prev prev'' rest w (List.cons_ne_nil c u) hw hrest

/-- **Two searches answer alike** if and only if their patterns are aligned. -/
theorem search_eq_iff {here₁ here₂ : Pattern α β} (h : Apart here₁ here₂) (h' : Apart here₂ here₁)
    {prev : Option α} {cs : List α} :
    search here₁ prev cs = search here₂ prev cs ↔ Aligned here₁ here₂ prev cs := by
  induction cs generalizing prev with
  | nil => exact iff_of_true rfl trivial
  | cons c cs ih =>
    rw [search, search, Aligned]
    cases h₁ : here₁ prev (c :: cs) with
    | none =>
      cases h₂ : here₂ prev (c :: cs) with
      | none =>
        rw [if_pos ⟨rfl, rfl⟩]
        exact ih
      | some w =>
        rw [if_neg (by simp)]
        exact iff_of_false (h'.search_ne h₂) (by simp)
    | some w =>
      rw [if_neg (by simp)]
      cases h₂ : here₂ prev (c :: cs) with
      | none => exact iff_of_false (fun he => h.search_ne h₁ he.symm) (by simp)
      | some v => exact Iff.rfl

/-! ## The last word after a marker -/

/-- `w` is the last word of the text, and stands after a marker, and white space around it. A marker
shows where it starts. -/
def Captures (space starts : α → Prop) (cs w : List α) : Prop :=
  ∃ x tail blank rest, cs = x :: tail ++ blank ++ w ++ rest ∧ starts x ∧ (∀ y ∈ tail, ¬starts y) ∧
    (∀ y ∈ blank, space y) ∧ w ≠ [] ∧ (∀ y ∈ w, ¬space y) ∧ ∀ y ∈ rest, space y

/-- A word that ends a text but for white space ends at one place. -/
theorem nil_of_word_end {space : α → Prop} {a b w r : List α} (hw : w ≠ [])
    (hword : ∀ y ∈ w, ¬space y) (hr : ∀ y ∈ r, space y) (h : a ++ w = b ++ w ++ r) : r = [] := by
  rcases List.eq_nil_or_concat r with rfl | ⟨r, x, rfl⟩
  · rfl
  obtain ⟨w, y, rfl⟩ := (List.eq_nil_or_concat w).resolve_left hw
  simp only [List.concat_eq_append, ← List.append_assoc] at h hword hr
  have hlast := List.append_inj_right' h rfl
  obtain rfl : y = x := by simpa using hlast
  exact absurd (hr y (by simp)) (hword y (by simp))

/-- A text has one word that ends it, whatever counts as white space. -/
theorem eq_of_word_end {space₁ space₂ : α → Prop} {a b w r r' : List α} (hw : w ≠ [])
    (hword₁ : ∀ y ∈ w, ¬space₁ y) (hword₂ : ∀ y ∈ w, ¬space₂ y) (hr : ∀ y ∈ r, space₁ y)
    (hr' : ∀ y ∈ r', space₂ y) (h : a ++ w ++ r = b ++ w ++ r') : a = b := by
  rcases List.append_eq_append_iff.1 h with ⟨d, hd, rfl⟩ | ⟨d, hd, rfl⟩
  · obtain rfl := nil_of_word_end hw hword₁ (fun y hy => hr y (by simp [hy])) hd
    rw [List.append_nil] at hd
    exact (List.append_cancel_right hd).symm
  · obtain rfl := nil_of_word_end hw hword₂ (fun y hy => hr' y (by simp [hy])) hd
    rw [List.append_nil] at hd
    exact List.append_cancel_right hd

/-- **A later match captures another word**: a marker starts neither inside a marker
nor in white space. -/
theorem Captures.not_later {space₁ space₂ starts : α → Prop} {u cs w : List α}
    (hstart : ∀ x, starts x → ¬space₁ x) (hu : u ≠ []) (h : Captures space₁ starts (u ++ cs) w) :
    ¬Captures space₂ starts cs w := by
  intro h'
  obtain ⟨x, tail, blank, rest, hcs, -, htail, hblank, hw, hword, hrest⟩ := h
  obtain ⟨x', tail', blank', rest', rfl, hx', -, -, -, hword', hrest'⟩ := h'
  have hplace : x :: tail ++ blank = u ++ (x' :: tail' ++ blank') := by
    refine (eq_of_word_end hw hword' hword hrest' hrest ?_).symm
    rw [← hcs]
    simp only [List.append_assoc]
  cases u with
  | nil => exact hu rfl
  | cons z u =>
    have hmem : x' ∈ tail ++ blank := by
      rw [List.cons_append, List.cons_append, List.cons.injEq] at hplace
      rw [hplace.2]
      simp
    rcases List.mem_append.1 hmem with hm | hm
    · exact htail x' hm hx'
    · exact hstart x' hx' (hblank x' hm)

end Leftmost
