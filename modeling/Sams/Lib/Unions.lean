import Mathlib.Data.List.Nodup

/-!
# Listings joined by a key

Several listings are read one after the other into one, and an entry whose key is there already is
left out: the first listing that has a key is the one that it is shown with.

**`mem_keys_addNew`**, **`Collected.addNew`**: the joined listing has every key of the
listings, each of them once.
-/

namespace Unions

variable {α κ : Type*} [DecidableEq κ] (key : α → κ)

/-- The entries so far and the keys that they have. -/
abbrev Seen (α κ : Type*) := List α × List κ

/-- Add the entries whose key has not been seen. -/
def addNew (acc : Seen α κ) (xs : List α) : Seen α κ :=
  xs.foldl (fun acc x => if key x ∈ acc.2 then acc else (acc.1 ++ [x], acc.2 ++ [key x])) acc

@[simp] theorem addNew_nil (acc : Seen α κ) : addNew key acc [] = acc := rfl

theorem addNew_cons_of_mem {acc : Seen α κ} {x : α} (xs : List α) (h : key x ∈ acc.2) :
    addNew key acc (x :: xs) = addNew key acc xs := by
  simp [addNew, h]

theorem addNew_cons_of_not_mem {acc : Seen α κ} {x : α} (xs : List α) (h : key x ∉ acc.2) :
    addNew key acc (x :: xs) = addNew key (acc.1 ++ [x], acc.2 ++ [key x]) xs := by
  simp [addNew, h]

/-- The keys are those of the entries, and no two entries have the same. -/
structure Collected (acc : Seen α κ) : Prop where
  keys : acc.2 = acc.1.map key
  nodup : (acc.1.map key).Nodup

variable {key}

omit [DecidableEq κ] in
theorem collected_nil : Collected key (([], []) : Seen α κ) := ⟨rfl, List.nodup_nil⟩

omit [DecidableEq κ] in
theorem Collected.concat {acc : Seen α κ} (h : Collected key acc) {x : α} (hx : key x ∉ acc.2) :
    Collected key (acc.1 ++ [x], acc.2 ++ [key x]) where
  keys := by simp [h.keys]
  nodup := by
    rw [List.map_append, List.map_singleton]
    refine List.Nodup.append h.nodup (List.nodup_singleton _) ?_
    rw [List.disjoint_singleton, ← h.keys]
    exact hx

theorem Collected.addNew {acc : Seen α κ} (h : Collected key acc) (xs : List α) :
    Collected key (addNew key acc xs) := by
  induction xs generalizing acc with
  | nil => exact h
  | cons x xs ih =>
    by_cases hx : key x ∈ acc.2
    · rw [addNew_cons_of_mem key xs hx]
      exact ih h
    · rw [addNew_cons_of_not_mem key xs hx]
      exact ih (h.concat hx)

/-- Nothing is shown but what was listed. -/
theorem mem_of_mem_addNew {acc : Seen α κ} {xs : List α} {x : α} (h : x ∈ (addNew key acc xs).1) :
    x ∈ acc.1 ∨ x ∈ xs := by
  induction xs generalizing acc with
  | nil => exact .inl h
  | cons y xs ih =>
    by_cases hy : key y ∈ acc.2
    · rw [addNew_cons_of_mem key xs hy] at h
      exact (ih h).imp_right (List.mem_cons_of_mem y)
    · rw [addNew_cons_of_not_mem key xs hy] at h
      rcases ih h with h | h
      · rcases List.mem_append.1 h with h | h
        · exact .inl h
        · exact .inr (List.mem_cons.2 (.inl (List.mem_singleton.1 h)))
      · exact .inr (List.mem_cons_of_mem y h)

/-- Every key that was listed is shown. -/
theorem mem_keys_addNew {acc : Seen α κ} (hacc : Collected key acc) {xs : List α} {k : κ} :
    k ∈ (addNew key acc xs).1.map key ↔ k ∈ acc.1.map key ∨ k ∈ xs.map key := by
  induction xs generalizing acc with
  | nil => simp
  | cons x xs ih =>
    by_cases hx : key x ∈ acc.2
    · rw [addNew_cons_of_mem key xs hx, ih hacc, List.map_cons, List.mem_cons]
      rw [hacc.keys] at hx
      constructor
      · exact Or.imp_right .inr
      · rintro (h | rfl | h)
        · exact .inl h
        · exact .inl hx
        · exact .inr h
    · rw [addNew_cons_of_not_mem key xs hx, ih (hacc.concat hx)]
      simp only [List.map_append, List.map_cons, List.map_nil, List.mem_append, List.mem_cons,
        List.not_mem_nil, or_false, or_assoc]

end Unions
