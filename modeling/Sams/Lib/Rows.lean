import Mathlib.Data.List.Nodup
import Mathlib.Tactic.Common

/-!
# Tables as lists of rows

A table is a list of rows in the order they were inserted. The constraints a database puts on it
are two relations: `Keyed key l`, no two rows have the same key, and `Refers f key l l'`, every
foreign key `f` of a row of `l` is the key of a row of `l'`. A write is an append, a `filter`, or
`updateWhere`, which rewrites the rows that satisfy a condition and leaves the others as they are.
-/

namespace Rows

variable {α β κ : Type}

/-- No two rows have the same key. -/
def Keyed (key : α → κ) (l : List α) : Prop := (l.map key).Nodup

/-- Every foreign key of a row of `l` is the key of a row of `l'`. -/
def Refers (f : α → Option κ) (key : β → κ) (l : List α) (l' : List β) : Prop :=
  ∀ x ∈ l, ∀ k ∈ f x, k ∈ l'.map key

instance [DecidableEq κ] (key : α → κ) (l : List α) : Decidable (Keyed key l) :=
  inferInstanceAs (Decidable (l.map key).Nodup)

instance [DecidableEq κ] (f : α → Option κ) (key : β → κ) (l : List α) (l' : List β) :
    Decidable (Refers f key l l') :=
  inferInstanceAs (Decidable (∀ x ∈ l, ∀ k ∈ f x, k ∈ l'.map key))

/-- Rewrite the rows that satisfy `p`. -/
def updateWhere (p : α → Bool) (f : α → α) (l : List α) : List α :=
  l.map fun x => if p x then f x else x

/-! ## Keys -/

theorem Keyed.eq_of_key_eq {key : α → κ} {l : List α} (h : Keyed key l) {x y : α} (hx : x ∈ l)
    (hy : y ∈ l) (hk : key x = key y) : x = y :=
  List.inj_on_of_nodup_map h hx hy hk

/-- Looking a key up finds the one row that has it. -/
theorem Keyed.find?_eq_some [DecidableEq κ] {key : α → κ} {l : List α} (h : Keyed key l) {k : κ}
    {x : α} : l.find? (fun y => key y = k) = some x ↔ x ∈ l ∧ key x = k := by
  constructor
  · intro hx
    exact ⟨List.mem_of_find?_eq_some hx, by simpa using List.find?_some hx⟩
  · rintro ⟨hx, hk⟩
    cases hy : l.find? fun y => key y = k with
    | none => simpa [hk] using List.find?_eq_none.1 hy x hx
    | some y =>
      have hyk : key y = k := by simpa using List.find?_some hy
      rw [h.eq_of_key_eq (List.mem_of_find?_eq_some hy) hx (hyk.trans hk.symm)]

/-- Selecting by key gives the row that has it, or nothing. -/
theorem Keyed.filter_key [DecidableEq κ] {key : α → κ} {l : List α} (h : Keyed key l) (k : κ) :
    l.filter (fun x => key x = k) = (l.find? fun x => key x = k).toList := by
  induction l with
  | nil => rfl
  | cons x l ih =>
    obtain ⟨hx, hl⟩ := List.nodup_cons.1 h
    by_cases hk : key x = k
    · have hnone : l.filter (fun y => key y = k) = [] := by
        rw [List.filter_eq_nil_iff]
        intro y hy hyk
        exact hx (List.mem_map.2 ⟨y, hy, by simp_all⟩)
      simp [hk, hnone]
    · simp only [List.filter_cons, List.find?_cons, hk, decide_false, Bool.false_eq_true, if_false]
      exact ih hl

/-- Keys that select at most one row each are distinct. -/
theorem keyed_of_filter_key [DecidableEq κ] {key : α → κ} {l : List α}
    (h : ∀ k, (l.filter fun x => key x = k).length ≤ 1) : Keyed key l := by
  unfold Keyed
  rw [List.nodup_iff_count_le_one]
  intro k
  rw [List.count_eq_countP, List.countP_map, List.countP_eq_length_filter]
  exact h k

theorem Refers.exists_row {f : α → Option κ} {key : β → κ} {l : List α} {l' : List β}
    (h : Refers f key l l') {x : α} (hx : x ∈ l) {k : κ} (hk : f x = some k) :
    ∃ y ∈ l', key y = k :=
  List.mem_map.1 (h x hx k hk)

/-- Deleting rows leaves the keys of the others distinct. -/
theorem Keyed.filter {key : α → κ} {l : List α} (h : Keyed key l) (p : α → Bool) :
    Keyed key (l.filter p) :=
  List.Nodup.sublist (List.filter_sublist.map key) h

/-- Keys are distinct in whatever order the rows are. -/
theorem Keyed.perm {key : α → κ} {l l' : List α} (h : Keyed key l) (hl : l'.Perm l) :
    Keyed key l' :=
  (hl.map key).nodup_iff.2 h

theorem Refers.perm_left {f : α → Option κ} {key : β → κ} {l m : List α} {l' : List β}
    (h : Refers f key l l') (hm : m.Perm l) : Refers f key m l' :=
  fun x hx => h x (hm.mem_iff.1 hx)

theorem Refers.perm_right {f : α → Option κ} {key : β → κ} {l : List α} {l' m : List β}
    (h : Refers f key l l') (hm : m.Perm l') : Refers f key l m :=
  fun x hx k hk => (hm.map key).mem_iff.2 (h x hx k hk)

/-- An update that writes no key leaves the keys distinct. -/
theorem Keyed.map {key : α → κ} {l : List α} (h : Keyed key l) {f : α → α}
    (hf : ∀ x, key (f x) = key x) : Keyed key (l.map f) := by
  unfold Keyed
  rw [List.map_map]
  exact (List.map_congr_left fun x _ => hf x) ▸ h

/-- A row that was added has a key of its own. -/
theorem Keyed.ne_of_append {key : α → κ} {l : List α} {y : α} (h : Keyed key (l ++ [y])) :
    ∀ x ∈ l, key x ≠ key y := by
  unfold Keyed at h
  rw [List.map_append, List.nodup_append] at h
  exact fun x hx => h.2.2 (key x) (List.mem_map_of_mem hx) (key y) (by simp)

/-- A new row with a key of its own. -/
theorem Keyed.append {key : α → κ} {l : List α} (h : Keyed key l) {y : α}
    (hy : ∀ x ∈ l, key x ≠ key y) : Keyed key (l ++ [y]) := by
  unfold Keyed
  rw [List.map_append, List.nodup_append]
  refine ⟨h, List.nodup_singleton _, fun a ha b hb => ?_⟩
  obtain ⟨x, hx, rfl⟩ := List.mem_map.1 ha
  rw [List.map_singleton, List.mem_singleton] at hb
  exact hb ▸ hy x hx

/-- A new row whose reference, if any, is there. -/
theorem Refers.append {f : α → Option κ} {key : β → κ} {l : List α} {l' : List β}
    (h : Refers f key l l') {y : α} (hy : ∀ k ∈ f y, k ∈ l'.map key) :
    Refers f key (l ++ [y]) l' := by
  intro x hx
  rcases List.mem_append.1 hx with hx | hx
  · exact h x hx
  · exact List.mem_singleton.1 hx ▸ hy

/-- Rows that refer to a deleted row are deleted with it: `ON DELETE CASCADE`. -/
theorem Refers.cascade {f : α → Option κ} {key : β → κ} {l : List α} {l' : List β}
    (h : Refers f key l l') {p : α → Bool} {q : β → Bool}
    (hpq : ∀ x ∈ l, ∀ y ∈ l', f x = some (key y) → p x = true → q y = true) :
    Refers f key (l.filter p) (l'.filter q) := by
  intro x hx k hk
  obtain ⟨hxl, hpx⟩ := List.mem_filter.1 hx
  obtain ⟨y, hy, rfl⟩ := h.exists_row hxl hk
  exact List.mem_map_of_mem (List.mem_filter.2 ⟨hy, hpq x hxl y hy hk hpx⟩)

/-- The same, with the deleted rows looked up in the table referred to. -/
theorem Refers.cascade_any [DecidableEq κ] {f : α → κ} {key : β → κ} {l : List α} {l' : List β}
    (h : Refers (fun x => some (f x)) key l l') (p : β → Bool) :
    Refers (fun x => some (f x)) key (l.filter fun x => ¬l'.any fun y => p y ∧ key y = f x)
      (l'.filter fun y => ¬p y) := by
  apply h.cascade
  intro x _ y hy hxy hkeep
  simp only [Option.some.injEq] at hxy
  simp only [decide_eq_true_eq, List.any_eq_true, not_exists, not_and] at hkeep ⊢
  exact fun hp => hkeep y hy hp hxy.symm

/-- More rows to refer to break no reference. -/
theorem Refers.mono_right {f : α → Option κ} {key : β → κ} {l : List α} {l' l'' : List β}
    (h : Refers f key l l') (hsub : ∀ y ∈ l', y ∈ l'') : Refers f key l l'' := by
  intro x hx k hk
  obtain ⟨y, hy, rfl⟩ := h.exists_row hx hk
  exact List.mem_map_of_mem (hsub y hy)

/-- Deleting rows that nothing refers to breaks no reference. -/
theorem Refers.filter_right {f : α → Option κ} {key : β → κ} {l : List α} {l' : List β}
    (h : Refers f key l l') {q : β → Bool}
    (hq : ∀ x ∈ l, ∀ y ∈ l', f x = some (key y) → q y = true) :
    Refers f key l (l'.filter q) := by
  intro x hx k hk
  obtain ⟨y, hy, rfl⟩ := h.exists_row hx hk
  exact List.mem_map_of_mem (List.mem_filter.2 ⟨hy, hq x hx y hy hk⟩)

/-- Deleting referring rows breaks no reference. -/
theorem Refers.filter_left {f : α → Option κ} {key : β → κ} {l : List α} {l' : List β}
    (h : Refers f key l l') (p : α → Bool) : Refers f key (l.filter p) l' :=
  fun x hx => h x (List.mem_of_mem_filter hx)

/-- An update of the rows referred to that writes no key breaks no reference. -/
theorem Refers.map_right {f : α → Option κ} {key : β → κ} {l : List α} {l' : List β}
    (h : Refers f key l l') {g : β → β} (hg : ∀ y, key (g y) = key y) :
    Refers f key l (l'.map g) := by
  intro x hx k hk
  rw [List.map_map]
  exact (List.map_congr_left fun y _ => hg y) ▸ h x hx k hk

/-- An update of the referring rows that keeps some references and nulls the others. -/
theorem Refers.map_left {f : α → Option κ} {key : β → κ} {l : List α} {l' l'' : List β}
    (h : Refers f key l l') {g : α → α}
    (hg : ∀ x ∈ l, ∀ y ∈ l', f (g x) = some (key y) → y ∈ l'')
    (hf : ∀ x ∈ l, ∀ k, f (g x) = some k → f x = some k) : Refers f key (l.map g) l'' := by
  intro z hz k hk
  obtain ⟨x, hx, rfl⟩ := List.mem_map.1 hz
  obtain ⟨y, hy, rfl⟩ := h.exists_row hx (hf x hx k hk)
  exact List.mem_map_of_mem (hg x hx y hy hk)

/-- An update of the referring rows that writes no reference. -/
theorem Refers.map_same {f : α → Option κ} {key : β → κ} {l : List α} {l' : List β}
    (h : Refers f key l l') {g : α → α} (hg : ∀ x, f (g x) = f x) : Refers f key (l.map g) l' :=
  h.map_left (fun _ _ _ hy _ => hy) fun x _ _ hx => hg x ▸ hx

/-- Two tables count the same when the rows counted have the same keys. -/
theorem countP_eq_of_keys {key : α → κ} {key' : β → κ} {p : α → Bool} {q : β → Bool} {l : List α}
    {l' : List β} (hl : Keyed key l) (hl' : Keyed key' l')
    (h : ∀ k, (∃ x ∈ l, p x = true ∧ key x = k) ↔ ∃ y ∈ l', q y = true ∧ key' y = k) :
    l.countP p = l'.countP q := by
  have hnodup : ((l.filter p).map key).Nodup := List.Nodup.sublist (List.filter_sublist.map key) hl
  have hnodup' : ((l'.filter q).map key').Nodup :=
    List.Nodup.sublist (List.filter_sublist.map key') hl'
  have hperm : ((l.filter p).map key).Perm ((l'.filter q).map key') := by
    rw [List.perm_ext_iff_of_nodup hnodup hnodup']
    intro k
    simpa [and_assoc] using h k
  have hlen := hperm.length_eq
  rwa [List.length_map, List.length_map, ← List.countP_eq_length_filter,
    ← List.countP_eq_length_filter] at hlen

/-! ## Updates -/

theorem mem_updateWhere {p : α → Bool} {f : α → α} {l : List α} {y : α} :
    y ∈ updateWhere p f l ↔ ∃ x ∈ l, (if p x then f x else x) = y :=
  List.mem_map

/-- A row of the updated table is an old row that was left alone or the image of one that was
rewritten. -/
theorem cases_of_mem_updateWhere {p : α → Bool} {f : α → α} {l : List α} {y : α}
    (h : y ∈ updateWhere p f l) :
    (y ∈ l ∧ p y = false) ∨ ∃ x ∈ l, p x = true ∧ f x = y := by
  obtain ⟨x, hx, rfl⟩ := mem_updateWhere.1 h
  split_ifs with hp
  · exact .inr ⟨x, hx, hp, rfl⟩
  · exact .inl ⟨hx, by simpa using hp⟩

theorem mem_updateWhere_of_mem {p : α → Bool} {f : α → α} {l : List α} {x : α} (hx : x ∈ l) :
    (if p x then f x else x) ∈ updateWhere p f l :=
  List.mem_map_of_mem (f := fun x => if p x then f x else x) hx

theorem mem_updateWhere_of_not {p : α → Bool} {f : α → α} {l : List α} {x : α} (hx : x ∈ l)
    (hp : p x = false) : x ∈ updateWhere p f l := by
  have h := mem_updateWhere_of_mem (p := p) (f := f) hx
  rwa [if_neg (by simp [hp])] at h

theorem mem_updateWhere_of_pos {p : α → Bool} {f : α → α} {l : List α} {x : α} (hx : x ∈ l)
    (hp : p x = true) : f x ∈ updateWhere p f l := by
  have h := mem_updateWhere_of_mem (p := p) (f := f) hx
  rwa [if_pos hp] at h

/-- A column that the update does not write is the same list before and after. -/
theorem map_updateWhere {g : α → β} {p : α → Bool} {f : α → α} {l : List α}
    (h : ∀ x ∈ l, p x = true → g (f x) = g x) : (updateWhere p f l).map g = l.map g := by
  unfold updateWhere
  rw [List.map_map]
  refine List.map_congr_left fun x hx => ?_
  simp only [Function.comp]
  split_ifs with hp
  · exact h x hx hp
  · rfl

/-- Forgetting a part of each row commutes with an update that does not look at it. -/
theorem map_updateWhere_comm {g : α → α} {p : α → Bool} {f f' : α → α} {l : List α}
    (hp : ∀ x, p (g x) = p x) (hf : ∀ x, g (f x) = f' (g x)) :
    (updateWhere p f l).map g = updateWhere p f' (l.map g) := by
  unfold updateWhere
  rw [List.map_map, List.map_map]
  refine List.map_congr_left fun x _ => ?_
  simp only [Function.comp, hp]
  split_ifs
  · exact hf x
  · rfl

/-- So are the rows that a condition selects, when the update writes neither the condition nor the
column. -/
theorem map_filter_updateWhere {g : α → β} {q p : α → Bool} {f : α → α} {l : List α}
    (hq : ∀ x, q (f x) = q x) (h : ∀ x ∈ l, p x = true → q x = true → g (f x) = g x) :
    ((updateWhere p f l).filter q).map g = (l.filter q).map g := by
  have hfilter : (updateWhere p f l).filter q = updateWhere p f (l.filter q) := by
    unfold updateWhere
    rw [List.filter_map]
    congr 2
    funext x
    simp only [Function.comp]
    split_ifs
    · exact hq x
    · rfl
  rw [hfilter]
  refine map_updateWhere fun x hx hp => ?_
  obtain ⟨hxl, hqx⟩ := List.mem_filter.1 hx
  exact h x hxl hp hqx

/-- An update of rows that a condition selects neither before nor after. -/
theorem filter_updateWhere_of_not {q p : α → Bool} {f : α → α} {l : List α}
    (h : ∀ x ∈ l, p x = true → q x = false ∧ q (f x) = false) :
    (updateWhere p f l).filter q = l.filter q := by
  induction l with
  | nil => rfl
  | cons x l ih =>
    have ih := ih fun y hy => h y (List.mem_cons_of_mem x hy)
    have hx := h x List.mem_cons_self
    unfold updateWhere at *
    rw [List.map_cons, List.filter_cons, List.filter_cons, ih]
    by_cases hp : p x = true
    · simp [hp, hx hp]
    · simp [hp]

/-- Looking up a key that the update does not write finds the rewritten row. -/
theorem find?_updateWhere [DecidableEq κ] {key : α → κ} {p : α → Bool} {f : α → α} {l : List α}
    (hkey : ∀ x, key (f x) = key x) (k : κ) :
    (updateWhere p f l).find? (fun x => key x = k) =
      (l.find? fun x => key x = k).map fun x => if p x then f x else x := by
  unfold updateWhere
  rw [List.find?_map]
  congr 2
  funext x
  simp only [Function.comp]
  split_ifs
  · rw [hkey]
  · rfl

/-- Two updates of the same rows are one. -/
theorem updateWhere_updateWhere {p : α → Bool} {f g : α → α} {l : List α}
    (h : ∀ x, p x = true → p (f x) = true) :
    updateWhere p g (updateWhere p f l) = updateWhere p (fun x => g (f x)) l := by
  unfold updateWhere
  rw [List.map_map]
  refine List.map_congr_left fun x _ => ?_
  by_cases hp : p x = true
  · simp only [Function.comp, hp, if_true, h x hp]
  · simp [hp]

/-- An update that writes no key leaves the keys distinct. -/
theorem Keyed.updateWhere {key : α → κ} {p : α → Bool} {f : α → α} {l : List α} (h : Keyed key l)
    (hf : ∀ x, key (f x) = key x) : Keyed key (Rows.updateWhere p f l) := by
  unfold Keyed
  rw [map_updateWhere fun x _ _ => hf x]
  exact h

/-- An update that writes no reference breaks none. -/
theorem Refers.updateWhere {f : α → Option κ} {key : β → κ} {l : List α} {l' : List β}
    (h : Refers f key l l') {p : α → Bool} {g : α → α} (hg : ∀ x, f (g x) = f x) :
    Refers f key (Rows.updateWhere p g l) l' :=
  h.map_same fun x => by split_ifs <;> simp [hg]

/-- Nor does one of the rows referred to that writes no key. -/
theorem Refers.updateWhere_right {f : α → Option κ} {key : β → κ} {l : List α} {l' : List β}
    (h : Refers f key l l') {p : β → Bool} {g : β → β} (hg : ∀ y, key (g y) = key y) :
    Refers f key l (Rows.updateWhere p g l') :=
  h.map_right fun y => by split_ifs <;> simp [hg]

/-- An update that rewrites no row changes nothing. -/
theorem updateWhere_eq_self {p : α → Bool} {f : α → α} {l : List α}
    (h : ∀ x ∈ l, p x = true → f x = x) : updateWhere p f l = l := by
  have := map_updateWhere (g := id) h
  simpa using this

/-- An update that changes nothing rewrites no row. -/
theorem eq_of_updateWhere_eq_self {p : α → Bool} {f : α → α} {l : List α}
    (h : updateWhere p f l = l) {x : α} (hx : x ∈ l) (hp : p x = true) : f x = x := by
  have hmap : l.map (fun x => if p x then f x else x) = l.map id := by
    rw [List.map_id]
    exact h
  have hrow := List.map_inj_left.1 hmap x hx
  rwa [if_pos hp] at hrow

/-- **Updates of one row each**, by different keys: every row is rewritten by the one update of its
key, if there is one. -/
theorem foldl_updateWhere_key [DecidableEq κ] (key : α → κ) {keyOf : β → κ} {f : β → α → α}
    (hkey : ∀ b x, key (f b x) = key x) {bs : List β} (hbs : (bs.map keyOf).Nodup) (l : List α) :
    bs.foldl (fun l b => updateWhere (fun x => key x = keyOf b) (f b) l) l =
      l.map fun x => ((bs.find? fun b => keyOf b = key x).map fun b => f b x).getD x := by
  induction bs generalizing l with
  | nil => simp
  | cons b bs ih =>
    obtain ⟨hb, hbs⟩ := List.nodup_cons.1 hbs
    rw [List.foldl_cons, ih hbs, updateWhere, List.map_map]
    refine List.map_congr_left fun x _ => ?_
    by_cases hx : key x = keyOf b
    · -- no later update has this key
      have hnone : bs.find? (fun b' => keyOf b' = keyOf b) = none := by
        simp only [List.find?_eq_none, decide_eq_true_eq]
        exact fun b' hb' he => hb (List.mem_map.2 ⟨b', hb', he⟩)
      simp [Function.comp, hkey, hx, hnone]
    · have hx' : keyOf b ≠ key x := fun he => hx he.symm
      simp [Function.comp, hx, hx']

end Rows
