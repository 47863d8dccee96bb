import Mathlib.Data.List.Induction
import Mathlib.Tactic.Common

/-!
# Dictionaries in the order of insertion

A dictionary is the list of its items. To set a key that is there writes its value in
place; a new key comes last.

* **`lookup_ofPairs`** — the value of a key is that of the last pair with the key.
* **`keys_ofPairs`** — the keys stand in the order in which they first appear.
-/

namespace Dicts

variable {κ α β γ : Type} [DecidableEq κ]

/-! ## Setting a key -/

/-- `d[k] = v`. -/
def setItem (d : List (κ × β)) (k : κ) (v : β) : List (κ × β) :=
  if k ∈ d.map Prod.fst then d.map fun p => if p.1 = k then (k, v) else p
  else d ++ [(k, v)]

theorem keys_setItem (d : List (κ × β)) (k : κ) (v : β) :
    (setItem d k v).map Prod.fst = if k ∈ d.map Prod.fst then d.map Prod.fst
      else d.map Prod.fst ++ [k] := by
  unfold setItem
  split_ifs with h
  · rw [List.map_map]
    refine List.map_congr_left fun p _ => ?_
    by_cases hp : p.1 = k
    · simp [hp]
    · simp [hp]
  · simp

/-- `dict(pairs)`. -/
def ofPairs (ps : List (κ × β)) : List (κ × β) := ps.foldl (fun d p => setItem d p.1 p.2) []

theorem ofPairs_append (ps qs : List (κ × β)) :
    ofPairs (ps ++ qs) = qs.foldl (fun d p => setItem d p.1 p.2) (ofPairs ps) := List.foldl_append

theorem ofPairs_concat (ps : List (κ × β)) (p : κ × β) :
    ofPairs (ps ++ [p]) = setItem (ofPairs ps) p.1 p.2 := ofPairs_append ps [p]

/-! ## Looking a key up -/

variable [BEq κ] [LawfulBEq κ]

theorem lookup_cons_ite (p : κ × β) (d : List (κ × β)) (k : κ) :
    (p :: d).lookup k = if k = p.1 then some p.2 else d.lookup k := by
  obtain ⟨a, b⟩ := p
  rw [List.lookup_cons]
  by_cases h : k = a
  · rw [if_pos h, beq_iff_eq.2 h]
  · rw [if_neg h, beq_eq_false_iff_ne.2 h]

theorem lookup_map_set (d : List (κ × β)) (k k' : κ) (v : β) :
    (d.map fun p => if p.1 = k then (k, v) else p).lookup k' =
      if k' = k then (d.lookup k).map fun _ => v else d.lookup k' := by
  induction d with
  | nil => simp
  | cons p d ih =>
    rw [List.map_cons, lookup_cons_ite, ih, lookup_cons_ite, lookup_cons_ite]
    by_cases hp : p.1 = k
    · rw [if_pos hp, hp]
      by_cases hk : k' = k
      · simp [hk]
      · simp [hk]
    · rw [if_neg hp]
      by_cases hk : k' = k
      · have hne : ¬k = p.1 := fun h => hp h.symm
        simp [hk, hne]
      · simp [hk]

/-- A key that is set has its value, and the others keep theirs. -/
theorem lookup_setItem (d : List (κ × β)) (k k' : κ) (v : β) :
    (setItem d k v).lookup k' = if k' = k then some v else d.lookup k' := by
  unfold setItem
  split_ifs with hin hk hk
  · have hsome : (d.lookup k).isSome := by
      obtain ⟨p, hp, hpk⟩ := List.mem_map.1 hin
      exact List.lookup_isSome_iff.2 ⟨p, hp, beq_iff_eq.2 hpk.symm⟩
    obtain ⟨b, hb⟩ := Option.isSome_iff_exists.1 hsome
    rw [lookup_map_set, if_pos hk, hb]
    rfl
  · rw [lookup_map_set, if_neg hk]
  · have hnone : d.lookup k' = none := by
      refine List.lookup_eq_none_iff.2 fun p hp => ?_
      rw [hk]
      exact bne_iff_ne.2 fun h => hin (h ▸ List.mem_map_of_mem hp)
    rw [List.lookup_append, hnone, Option.none_or, lookup_cons_ite, if_pos hk]
  · rw [List.lookup_append, lookup_cons_ite, if_neg hk, List.lookup_nil, Option.or_none]

/-- **The value of a key** is that of its last pair. -/
theorem lookup_ofPairs (ps : List (κ × β)) (k : κ) :
    (ofPairs ps).lookup k = (ps.reverse.find? fun p => p.1 = k).map Prod.snd := by
  induction ps using List.reverseRecOn with
  | nil => rfl
  | append_singleton ps p ih =>
    rw [ofPairs_concat, lookup_setItem, ih, List.reverse_append, List.reverse_singleton,
      List.singleton_append, List.find?_cons]
    by_cases h : p.1 = k
    · simp [h]
    · have hk : ¬k = p.1 := fun hk => h hk.symm
      simp [h, hk]

/-- **The keys** stand in the order of their first pairs. -/
theorem keys_ofPairs (ps : List (κ × β)) :
    (ofPairs ps).map Prod.fst = (ps.map Prod.fst).eraseDups := by
  induction ps using List.reverseRecOn with
  | nil => rfl
  | append_singleton ps p ih =>
    rw [ofPairs_concat, keys_setItem, ih, List.map_append, List.eraseDups_append]
    by_cases h : p.1 ∈ ps.map Prod.fst
    · rw [if_pos (List.mem_eraseDups.2 h)]
      simp [List.removeAll, List.mem_map.1 h]
    · rw [if_neg fun hin => h (List.mem_eraseDups.1 hin)]
      simp only [List.map_cons, List.map_nil, List.removeAll]
      have hnot : (ps.map Prod.fst).elem p.1 = false := by simpa using h
      rw [List.filter_cons, hnot]
      rfl

omit [DecidableEq κ] in
theorem nodup_eraseDups (ks : List κ) : ks.eraseDups.Nodup := by
  induction ks using List.reverseRecOn with
  | nil => exact List.nodup_nil
  | append_singleton ks k ih =>
    rw [List.eraseDups_append]
    by_cases h : k ∈ ks
    · simpa [List.removeAll, h] using ih
    · have hone : ([k].removeAll ks).eraseDups = [k] := by
        have hnot : ks.elem k = false := by simpa using h
        rw [List.removeAll, List.filter_cons, hnot]
        rfl
      rw [hone, List.nodup_append]
      refine ⟨ih, by simp, fun a ha b hb hab => h ?_⟩
      rw [← List.mem_singleton.1 hb, ← hab]
      exact List.mem_eraseDups.1 ha

theorem eraseDups_map_some (ks : List κ) : (ks.map some).eraseDups = ks.eraseDups.map some := by
  induction ks using List.reverseRecOn with
  | nil => rfl
  | append_singleton ks k ih =>
    rw [List.map_append, List.eraseDups_append, List.eraseDups_append, List.map_append, ih]
    refine congrArg (ks.eraseDups.map some ++ ·) ?_
    by_cases h : k ∈ ks
    · simp [List.removeAll, h]
    · simp [List.removeAll, h, List.eraseDups_cons]

/-- An item has the value of its key. -/
theorem lookup_of_mem_ofPairs {ps : List (κ × β)} {p : κ × β} (h : p ∈ ofPairs ps) :
    (ofPairs ps).lookup p.1 = some p.2 := by
  have hnodup : ((ofPairs ps).map Prod.fst).Nodup := keys_ofPairs ps ▸ nodup_eraseDups _
  generalize ofPairs ps = d at h hnodup
  induction d with
  | nil => cases h
  | cons q d ih =>
    obtain ⟨hq, hd⟩ := List.nodup_cons.1 hnodup
    rw [lookup_cons_ite]
    rcases List.mem_cons.1 h with rfl | hin
    · exact if_pos rfl
    · have hne : ¬p.1 = q.1 := fun heq => hq (heq ▸ List.mem_map_of_mem (f := Prod.fst) hin)
      rw [if_neg hne]
      exact ih hin hd

/-! ## Pairs by their place -/

/-- The last place of an element of `p`. -/
def lastIdx (p : α → Bool) (xs : List α) : Option Nat :=
  (xs.zipIdx.reverse.find? fun x => p x.1).map Prod.snd

theorem lastIdx_concat (p : α → Bool) (xs : List α) (x : α) :
    lastIdx p (xs ++ [x]) = if p x then some xs.length else lastIdx p xs := by
  unfold lastIdx
  rw [List.zipIdx_append, List.reverse_append, List.zipIdx_singleton, List.reverse_singleton,
    List.singleton_append, List.find?_cons]
  cases h : p x
  · rfl
  · simp

theorem lastIdx_eq_some_iff {p : α → Bool} {xs : List α} {i : Nat} :
    lastIdx p xs = some i ↔ xs[i]?.any p ∧ ∀ j : Nat, i < j → xs[j]?.any p = false := by
  induction xs using List.reverseRecOn with
  | nil => simp [lastIdx]
  | append_singleton xs x ih =>
    have hbefore : ∀ j : Nat, j < xs.length → (xs ++ [x])[j]? = xs[j]? :=
      fun j hj => List.getElem?_append_left hj
    have hbeyond : ∀ j : Nat, xs.length < j → (xs ++ [x])[j]? = none := fun j hj =>
      List.getElem?_eq_none (by rw [List.length_append]; exact hj)
    have hlast : (xs ++ [x])[xs.length]? = some x := by simp
    rw [lastIdx_concat]
    by_cases hx : p x = true
    · rw [if_pos hx]
      constructor
      · intro h
        obtain rfl : xs.length = i := Option.some.inj h
        refine ⟨by rw [hlast]; exact hx, fun j hj => ?_⟩
        rw [hbeyond j hj]
        rfl
      · rintro ⟨hi, hlater⟩
        rcases Nat.lt_trichotomy i xs.length with hlt | heq | hgt
        · have hfalse := hlater _ hlt
          rw [hlast] at hfalse
          exact absurd hx (Bool.not_eq_true _ ▸ hfalse)
        · rw [heq]
        · rw [hbeyond i hgt] at hi
          cases hi
    · rw [if_neg hx, ih]
      have hend : p x = false := Bool.not_eq_true _ ▸ hx
      have hsame : ∀ j : Nat, (xs ++ [x])[j]?.any p = xs[j]?.any p := by
        intro j
        rcases Nat.lt_trichotomy j xs.length with hlt | rfl | hgt
        · rw [hbefore j hlt]
        · rw [hlast, List.getElem?_eq_none (Nat.le_refl _)]
          exact hend
        · rw [hbeyond j hgt, List.getElem?_eq_none (Nat.le_of_lt hgt)]
      simp only [hsame]

/-- Lists that are of `p` and of `q` at the same places. -/
theorem lastIdx_congr {p : α → Bool} {q : γ → Bool} {xs : List α} {ys : List γ}
    (h : ∀ i : Nat, xs[i]?.any p = ys[i]?.any q) : lastIdx p xs = lastIdx q ys := by
  refine Option.ext fun i => ?_
  rw [lastIdx_eq_some_iff, lastIdx_eq_some_iff, h]
  simp only [h]

/-- A zip pairs the elements with what stands at their places. -/
theorem zip_eq_map_zipIdx (xs : List α) (ys : List γ) (g : Nat → γ)
    (h : ∀ i (hi : i < ys.length), g i = ys[i]) :
    xs.zip ys = (xs.take ys.length).zipIdx.map fun x => (x.1, g x.2) := by
  refine List.ext_getElem (by simp [Nat.min_comm]) fun i hi hi' => ?_
  have hys : i < ys.length := by
    rw [List.length_zip] at hi
    omega
  simp [h i hys]

/-- **The value of a key**, of pairs whose values are given by their places. -/
theorem lookup_ofPairs_zipIdx (f : α → κ) (g : Nat → β) (xs : List α) (k : κ) :
    (ofPairs (xs.zipIdx.map fun x => (f x.1, g x.2))).lookup k =
      (lastIdx (fun x => f x = k) xs).map g := by
  rw [lookup_ofPairs, ← List.map_reverse, List.find?_map, lastIdx, Option.map_map, Option.map_map]
  rfl

end Dicts
