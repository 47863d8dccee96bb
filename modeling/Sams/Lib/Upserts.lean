import Mathlib.Data.List.Induction
import Sams.Lib.Rows

/-!
# Upserts by key

An upsert patches the first row of its key, and appends a fresh row where there is none. A run of
upserts keeps the rows of other keys, and keeps what a patch does not touch.

* **`filter_upserts_of_none`** — the row of a key that was not there is the fresh row of the first
  upsert of the key, with the patches of the others.
-/

namespace Upserts

open Rows

variable {κ α β : Type}

/-! ## Patches and upserts -/

/-- What is done to a row of a key. -/
structure Patch (key : α → κ) where
  target : κ
  patch : α → α
  key_patch : ∀ x, key x = target → key (patch x) = target

/-- A patch, and the row to append where no row has the key. -/
structure Upsert (key : α → κ) extends Patch key where
  fresh : α
  key_fresh : key fresh = target

variable [DecidableEq κ] {key : α → κ}

/-- The patch, where the row has its key. -/
def Patch.on (p : Patch key) (x : α) : α := if key x = p.target then p.patch x else x

def Upsert.apply (u : Upsert key) : List α → List α
  | [] => [u.fresh]
  | x :: xs => if key x = u.target then u.patch x :: xs else x :: u.apply xs

/-- The upserts, in their order. -/
def upserts (us : List (Upsert key)) (l : List α) : List α := us.foldl (fun l u => u.apply l) l

/-- The patches of its key, in their order. -/
def patched (ps : List (Patch key)) (x : α) : α := ps.foldl (fun x p => p.on x) x

@[simp] theorem upserts_nil (l : List α) : upserts ([] : List (Upsert key)) l = l := rfl

theorem upserts_cons (u : Upsert key) (us : List (Upsert key)) (l : List α) :
    upserts (u :: us) l = upserts us (u.apply l) := rfl

theorem upserts_append (us vs : List (Upsert key)) (l : List α) :
    upserts (us ++ vs) l = upserts vs (upserts us l) := List.foldl_append

theorem patched_cons (p : Patch key) (ps : List (Patch key)) (x : α) :
    patched (p :: ps) x = patched ps (p.on x) := rfl

/-! ## What is kept -/

/-- The first row of the key is patched, by an identifier that is its own. -/
theorem Upsert.apply_of_some {id : α → β} [DecidableEq β] {u : Upsert key} {l : List α} {x : α}
    (hid : Keyed id l) (h : l.find? (fun y => key y = u.target) = some x) :
    u.apply l = updateWhere (fun y => id y = id x) u.patch l := by
  induction l with
  | nil => cases h
  | cons y ys ih =>
    have htail : ∀ z ∈ ys, id z ≠ id y := fun z hz he => by
      have hnodup := List.nodup_cons.1 (show (id y :: ys.map id).Nodup from hid)
      exact hnodup.1 (List.mem_map.2 ⟨z, hz, he⟩)
    have hrow : updateWhere (fun z => id z = id x) u.patch (y :: ys) =
        (if id y = id x then u.patch y else y) ::
          updateWhere (fun z => id z = id x) u.patch ys := by
      simp [updateWhere]
    rw [hrow]
    unfold Upsert.apply
    by_cases hy : key y = u.target
    · rw [List.find?_cons_of_pos (by simpa using hy)] at h
      obtain rfl : y = x := Option.some.inj h
      have hrest : updateWhere (fun z => id z = id y) u.patch ys = ys := by
        unfold updateWhere
        refine (List.map_congr_left fun z hz => ?_).trans (List.map_id ys)
        simp [htail z hz]
      rw [if_pos hy, if_pos rfl, hrest]
    · rw [List.find?_cons_of_neg (by simpa using hy)] at h
      have hne : id y ≠ id x := (htail x (List.mem_of_find?_eq_some h)).symm
      rw [if_neg hy, if_neg hne,
        ih (List.nodup_cons.1 (show (id y :: ys.map id).Nodup from hid)).2 h]

theorem Upsert.apply_of_none {u : Upsert key} {l : List α}
    (h : l.find? (fun y => key y = u.target) = none) : u.apply l = l ++ [u.fresh] := by
  induction l with
  | nil => rfl
  | cons y ys ih =>
    have hnone : ∀ z ∈ y :: ys, ¬key z = u.target := by simpa using h
    rw [Upsert.apply, if_neg (hnone y (by simp)),
      ih (by simpa using fun z hz => hnone z (by simp [hz]))]
    rfl

theorem Upsert.map_apply {g : α → β} {u : Upsert key}
    (hg : ∀ x, key x = u.target → g (u.patch x) = g x) (l : List α) :
    ∃ added, (u.apply l).map g = l.map g ++ added := by
  induction l with
  | nil => exact ⟨_, rfl⟩
  | cons x xs ih =>
    unfold Upsert.apply
    by_cases h : key x = u.target
    · exact ⟨[], by simp [h, hg x h]⟩
    · obtain ⟨added, hadded⟩ := ih
      exact ⟨added, by simp [h, hadded]⟩

/-- What the patches keep stays in its place, and fresh rows come after. -/
theorem map_upserts {g : α → β} (us : List (Upsert key))
    (hg : ∀ u ∈ us, ∀ x, key x = u.target → g (u.patch x) = g x) (l : List α) :
    ∃ added, (upserts us l).map g = l.map g ++ added := by
  induction us generalizing l with
  | nil => exact ⟨[], (List.append_nil _).symm⟩
  | cons u us ih =>
    obtain ⟨first, hfirst⟩ := u.map_apply (hg u (by simp)) l
    obtain ⟨rest, hrest⟩ := ih (fun v hv => hg v (by simp [hv])) (u.apply l)
    exact ⟨first ++ rest, by rw [upserts_cons, hrest, hfirst, List.append_assoc]⟩

theorem Upsert.key_mem_apply (u : Upsert key) (l : List α) : u.target ∈ (u.apply l).map key := by
  induction l with
  | nil => simp [Upsert.apply, u.key_fresh]
  | cons x xs ih =>
    unfold Upsert.apply
    by_cases h : key x = u.target
    · simp [h, u.key_patch x h]
    · rw [if_neg h, List.map_cons]
      exact List.mem_cons_of_mem _ ih

/-- After the upserts there is a row of each of their keys. -/
theorem key_mem_upserts {us : List (Upsert key)} {u : Upsert key} (hu : u ∈ us) (l : List α) :
    u.target ∈ (upserts us l).map key := by
  induction us generalizing l with
  | nil => cases hu
  | cons v us ih =>
    rcases List.mem_cons.1 hu with rfl | hu
    · obtain ⟨added, hadded⟩ := map_upserts (g := key) us
        (fun w _ x hx => (w.key_patch x hx).trans hx.symm) (u.apply l)
      rw [upserts_cons, hadded]
      exact List.mem_append_left _ (u.key_mem_apply l)
    · exact ih hu (v.apply l)

/-! ## The rows of one key -/

section OneKey

variable {us : List (Upsert key)} {u : Upsert key} {l : List α} {k : κ}

theorem Upsert.keys_apply (u : Upsert key) (l : List α) :
    (u.apply l).map key = if u.target ∈ l.map key then l.map key else l.map key ++ [u.target] := by
  induction l with
  | nil => simp [Upsert.apply, u.key_fresh]
  | cons x xs ih =>
    unfold Upsert.apply
    by_cases h : key x = u.target
    · simp [h, u.key_patch x h]
    · rw [if_neg h, List.map_cons, ih, List.map_cons]
      have hmem : u.target ∈ key x :: xs.map key ↔ u.target ∈ xs.map key := by
        simp [Ne.symm h]
      by_cases hin : u.target ∈ xs.map key
      · rw [if_pos hin, if_pos (hmem.2 hin)]
      · rw [if_neg hin, if_neg fun hall => hin (hmem.1 hall)]
        rfl

/-- The keys that come after those that are there are other keys, and each comes once. -/
theorem keys_upserts (us : List (Upsert key)) (l : List α) :
    ∃ more, (upserts us l).map key = l.map key ++ more ∧ (∀ k ∈ more, k ∉ l.map key) ∧
      more.Nodup := by
  induction us using List.reverseRecOn with
  | nil => exact ⟨[], (List.append_nil _).symm, by simp, List.nodup_nil⟩
  | append_singleton us u ih =>
    obtain ⟨more, hkeys, hother, hnodup⟩ := ih
    have hlast : upserts (us ++ [u]) l = u.apply (upserts us l) := upserts_append us [u] l
    rw [hlast, u.keys_apply, hkeys]
    split_ifs with hin
    · exact ⟨more, rfl, hother, hnodup⟩
    · rw [List.mem_append, not_or] at hin
      refine ⟨more ++ [u.target], List.append_assoc _ _ _, fun k hk => ?_, ?_⟩
      · rcases List.mem_append.1 hk with hk | hk
        · exact hother k hk
        · exact List.mem_singleton.1 hk ▸ hin.1
      · rw [List.nodup_append]
        refine ⟨hnodup, List.nodup_singleton _, fun a ha b hb => ?_⟩
        rw [List.mem_singleton] at hb
        rintro rfl
        exact hin.2 (hb ▸ ha)

theorem Upsert.filter_apply_of_ne (h : u.target ≠ k) :
    (u.apply l).filter (fun x => key x = k) = l.filter fun x => key x = k := by
  induction l with
  | nil => simp [Upsert.apply, u.key_fresh, h]
  | cons x xs ih =>
    unfold Upsert.apply
    by_cases hx : key x = u.target
    · simp [hx, u.key_patch x hx, h]
    · rw [if_neg hx, List.filter_cons, List.filter_cons, ih]

theorem Upsert.filter_apply_of_none (h : l.filter (fun x => key x = u.target) = []) :
    (u.apply l).filter (fun x => key x = u.target) = [u.fresh] := by
  have hnone : l.find? (fun x => key x = u.target) = none := by
    rw [← List.head?_filter, h]
    rfl
  rw [Upsert.apply_of_none hnone, List.filter_append, h]
  simp [u.key_fresh]

theorem Upsert.filter_apply_of_one {x : α} (h : l.filter (fun x => key x = u.target) = [x]) :
    (u.apply l).filter (fun x => key x = u.target) = [u.patch x] := by
  induction l with
  | nil => cases h
  | cons y ys ih =>
    unfold Upsert.apply
    by_cases hy : key y = u.target
    · rw [List.filter_cons_of_pos (by simpa using hy)] at h
      obtain ⟨rfl, hys⟩ := List.cons.inj h
      rw [if_pos hy, List.filter_cons_of_pos (by simpa using u.key_patch y hy), hys]
    · rw [List.filter_cons_of_neg (by simpa using hy)] at h
      rw [if_neg hy, List.filter_cons_of_neg (by simpa using hy), ih h]

/-- Upserts of other keys leave the rows of a key. -/
theorem filter_upserts_of_ne (h : us.filter (fun u => u.target = k) = []) :
    (upserts us l).filter (fun x => key x = k) = l.filter fun x => key x = k := by
  induction us generalizing l with
  | nil => rfl
  | cons u us ih =>
    have hu : u.target ≠ k := by simpa using List.filter_eq_nil_iff.1 h u List.mem_cons_self
    rw [List.filter_cons_of_neg (by simpa using hu)] at h
    rw [upserts_cons, ih h, Upsert.filter_apply_of_ne hu]

/-- The one row of a key takes the patches of its key. -/
theorem filter_upserts_of_one {x : α} (h : l.filter (fun x => key x = k) = [x]) :
    (upserts us l).filter (fun x => key x = k) =
      [patched ((us.filter fun u => u.target = k).map Upsert.toPatch) x] := by
  have hkey : key x = k := by
    have hx : x ∈ l.filter fun x => key x = k := by rw [h]; exact List.mem_singleton_self x
    exact of_decide_eq_true (List.mem_filter.1 hx).2
  induction us generalizing l x with
  | nil => exact h
  | cons u us ih =>
    rw [upserts_cons]
    by_cases hu : u.target = k
    · subst hu
      rw [ih (Upsert.filter_apply_of_one h) (u.key_patch x hkey), List.filter_cons_of_pos (by simp),
        List.map_cons, patched_cons]
      rw [show u.toPatch.on x = u.patch x from if_pos hkey]
    · rw [ih ((Upsert.filter_apply_of_ne hu).trans h) hkey,
        List.filter_cons_of_neg (by simpa using hu)]

/-- **The row of a key that was not there** is the fresh row of the first upsert of the key, with
the patches of the others. -/
theorem filter_upserts_of_none (h : l.filter (fun x => key x = k) = []) {rest : List (Upsert key)}
    (hus : us.filter (fun u => u.target = k) = u :: rest) :
    (upserts us l).filter (fun x => key x = k) = [patched (rest.map Upsert.toPatch) u.fresh] := by
  induction us generalizing l with
  | nil => cases hus
  | cons v us ih =>
    rw [upserts_cons]
    by_cases hv : v.target = k
    · rw [List.filter_cons_of_pos (by simpa using hv)] at hus
      obtain ⟨rfl, hrest⟩ := List.cons.inj hus
      subst hv
      rw [filter_upserts_of_one (Upsert.filter_apply_of_none h), hrest]
    · rw [List.filter_cons_of_neg (by simpa using hv)] at hus
      exact ih ((Upsert.filter_apply_of_ne hv).trans h) hus

end OneKey

/-! ## The upserts in other terms -/

section Projection

variable {key' : β → κ} {g : α → β}

/-- An upsert, seen through a projection that keeps the key. -/
theorem Upsert.apply_map {u : Upsert key} {u' : Upsert key'} {l : List α}
    (hkey : ∀ x, key' (g x) = key x)
    (htarget : u'.target = u.target)
    (hpatch : ∀ x, key x = u.target → g (u.patch x) = u'.patch (g x))
    (hfresh : u.target ∉ l.map key → g u.fresh = u'.fresh) :
    (u.apply l).map g = u'.apply (l.map g) := by
  induction l with
  | nil =>
    rw [Upsert.apply, List.map_nil, Upsert.apply, List.map_singleton, hfresh (by simp)]
  | cons x xs ih =>
    rw [List.map_cons, Upsert.apply, Upsert.apply, hkey, htarget]
    by_cases hx : key x = u.target
    · rw [if_pos hx, if_pos hx, List.map_cons, hpatch x hx]
    · rw [if_neg hx, if_neg hx, List.map_cons, ih fun hout => hfresh (by simp [Ne.symm hx, hout])]

end Projection

end Upserts
