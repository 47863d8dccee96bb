import Sams.Lib.Layouts

/-!
# Upserts by a name that need not be unique

A row has a number of its own, and a name that other rows may have too. An upsert writes the row of
its name that lies first, and adds one where there is none. So it depends on where the rows lie
which of them it writes, but not on what has been written: the rows of a name that was there at the
start are those of the start, and of a name that was not there only one is added. The *slot* of a
row says which of them it is.

* **`Grown.find?_slot`** — what an upsert finds is the row in the slot that its name
  has had since the start.
* **`upserted_at`** — the upsert changes what is written in that slot, and in no other.
* **`Written.same_iff`** — upserts leave a table as it is exactly when those of each slot leave what
  is written there as it is.
-/

namespace Slots

open Rows Layouts

variable {α β κ ρ γ : Type}

/-- Of a row: its number, its name, what upserts write of it, and the rest. -/
structure Shape (α κ ρ γ : Type) where
  id : α → Nat
  name : α → κ
  core : α → ρ
  content : α → γ
  id_of_core : ∀ {x y}, core x = core y → id x = id y
  ext : ∀ {x y}, core x = core y → content x = content y → x = y

variable [DecidableEq κ] (T : Shape α κ ρ γ)

/-- The row, by its number if it was there at the start, and else by its name. -/
def Shape.slot (start : List α) (x : α) : Nat ⊕ κ :=
  if T.id x ∈ start.map T.id then .inl (T.id x) else .inr (T.name x)

/-- The first row of the name. -/
def Shape.named (ℓ : Layout Nat) (l : List α) (k : κ) : Option α :=
  (ℓ.lay T.id l).find? fun x => T.name x = k

/-- The slot that an upsert of the name is for. -/
def Shape.target (ℓ : Layout Nat) (start : List α) (k : κ) : Nat ⊕ κ :=
  match T.named ℓ start k with
  | some x => .inl (T.id x)
  | none => .inr k

/-- What is written of the row in the slot. -/
def Shape.at (start l : List α) (s : Nat ⊕ κ) : Option γ :=
  (l.find? fun x => T.slot start x = s).map T.content

/-- The rows of the start are there, and others, each with a name of its own. -/
structure Grown (start l : List α) : Prop where
  start_keyed : Keyed T.id start
  keyed : Keyed T.id l
  kept : ∀ x ∈ start, ∃ y ∈ l, T.core y = T.core x ∧ T.name y = T.name x
  new : ∀ y ∈ l, T.id y ∉ start.map T.id → T.name y ∉ start.map T.name
  single : ∀ y ∈ l, ∀ z ∈ l, T.id y ∉ start.map T.id → T.id z ∉ start.map T.id →
    T.name y = T.name z → y = z

/-- The first row of the name is patched, or a fresh row is added. -/
structure Upserted (ℓ : Layout Nat) (k : κ) (fresh : γ) (patch : γ → γ) (l l' : List α)
    (y : α) : Prop where
  name : T.name y = k
  mem : ∀ z, z ∈ l' ↔ z = y ∨ z ∈ l ∧ T.id z ≠ T.id y
  patched : ∀ x, T.named ℓ l k = some x → T.core y = T.core x ∧ T.content y = patch (T.content x)
  added : T.named ℓ l k = none → T.id y ∉ l.map T.id ∧ T.content y = fresh

variable {T}

section Named

variable {ℓ : Layout Nat} {start l l' : List α} {k : κ}

theorem named_eq_some (hkeyed : Keyed T.id l) {x : α} : T.named ℓ l k = some x ↔
    (x ∈ l ∧ T.name x = k) ∧ ∀ y ∈ l, T.name y = k → ℓ.place (T.id x) ≤ ℓ.place (T.id y) := by
  unfold Shape.named
  rw [find?_lay hkeyed]
  simp only [decide_eq_true_eq]

/-- Of names that tell rows apart it does not matter where they lie. -/
theorem target_of_keyed (hkeyed : Keyed T.id l) (hnames : Keyed T.name l)
    (ℓ ℓ' : Layout Nat) (k : κ) :
    T.target ℓ l k = T.target ℓ' l k := by
  have hnamed : T.named ℓ l k = T.named ℓ' l k := by
    refine Option.ext fun x => ?_
    have hfirst : ∀ ℓ : Layout Nat, T.named ℓ l k = some x ↔ x ∈ l ∧ T.name x = k := fun ℓ => by
      rw [named_eq_some hkeyed]
      refine and_iff_left_of_imp fun hx y hy hname => ?_
      rw [hnames.eq_of_key_eq hx.1 hy (hx.2.trans hname.symm)]
    exact (hfirst ℓ).trans (hfirst ℓ').symm
  unfold Shape.target
  rw [hnamed]

theorem named_eq_none : T.named ℓ l k = none ↔ ∀ y ∈ l, T.name y ≠ k := by
  unfold Shape.named
  rw [List.find?_eq_none]
  simp only [mem_lay, decide_eq_true_eq]

omit [DecidableEq κ] in
theorem grown_refl (h : Keyed T.id l) : Grown T l l where
  start_keyed := h
  keyed := h
  kept x hx := ⟨x, hx, rfl, rfl⟩
  new _ hy hout := absurd (List.mem_map_of_mem hy) hout
  single _ hy _ _ hout := absurd (List.mem_map_of_mem hy) hout

omit [DecidableEq κ] in
theorem Grown.perm (h : Grown T start l) (hl : l'.Perm l) : Grown T start l' where
  start_keyed := h.start_keyed
  keyed := h.keyed.perm hl
  kept x hx := by
    obtain ⟨y, hy, hrest⟩ := h.kept x hx
    exact ⟨y, hl.mem_iff.2 hy, hrest⟩
  new y hy := h.new y (hl.mem_iff.1 hy)
  single y hy z hz := h.single y (hl.mem_iff.1 hy) z (hl.mem_iff.1 hz)

section Grown

variable (h : Grown T start l)

include h

omit [DecidableEq κ] in
/-- A row of a number of the start has its name. -/
theorem Grown.old {y : α} (hy : y ∈ l) (hid : T.id y ∈ start.map T.id) :
    ∃ x ∈ start, T.id x = T.id y ∧ T.name x = T.name y := by
  obtain ⟨x, hx, hxid⟩ := List.mem_map.1 hid
  obtain ⟨z, hz, hcore, hname⟩ := h.kept x hx
  obtain rfl : z = y := h.keyed.eq_of_key_eq hz hy ((T.id_of_core hcore).trans hxid)
  exact ⟨x, hx, hxid, hname.symm⟩

omit [DecidableEq κ] in
/-- Each slot has one row. -/
theorem Grown.slot_injective {y z : α} (hy : y ∈ l) (hz : z ∈ l)
    (hs : T.slot start y = T.slot start z) :
    y = z := by
  unfold Shape.slot at hs
  split_ifs at hs with hyid hzid hzid
  · exact h.keyed.eq_of_key_eq hy hz (Sum.inl.inj hs)
  · exact h.single y hy z hz hyid hzid (Sum.inr.inj hs)

theorem Grown.at_eq_some {s : Nat ⊕ κ} {c : γ} :
    T.at start l s = some c ↔ ∃ x ∈ l, T.slot start x = s ∧ T.content x = c := by
  unfold Shape.at
  rw [Option.map_eq_some_iff]
  constructor
  · rintro ⟨x, hx, hc⟩
    exact ⟨x, List.mem_of_find?_eq_some hx, by simpa using List.find?_some hx, hc⟩
  · rintro ⟨x, hx, hs, hc⟩
    cases hfind : l.find? fun x => T.slot start x = s with
    | none => exact absurd hs (by simpa using List.find?_eq_none.1 hfind x hx)
    | some y =>
      have hy : T.slot start y = s := by simpa using List.find?_some hfind
      have hyx := h.slot_injective (List.mem_of_find?_eq_some hfind) hx (hy.trans hs.symm)
      exact ⟨y, rfl, hyx ▸ hc⟩

omit h in
theorem at_eq_none {s : Nat ⊕ κ} : T.at start l s = none ↔ ∀ x ∈ l, T.slot start x ≠ s := by
  unfold Shape.at
  rw [Option.map_eq_none_iff, List.find?_eq_none]
  simp only [decide_eq_true_eq]

/-- **What is found** is in the slot that the name has had since the start. -/
theorem Grown.find?_slot {x : α} (hx : T.named ℓ l k = some x) :
    T.slot start x = T.target ℓ start k := by
  obtain ⟨⟨hmem, hname⟩, hfirst⟩ := (named_eq_some h.keyed).1 hx
  unfold Shape.slot Shape.target
  split_ifs with hid
  · obtain ⟨x₀, hx₀, hxid, hxname⟩ := h.old hmem hid
    have hnamed : T.named ℓ start k = some x₀ := by
      refine (named_eq_some h.start_keyed).2 ⟨⟨hx₀, hxname.trans hname⟩, fun z₀ hz₀ hzname => ?_⟩
      obtain ⟨z, hz, hcore, hsame⟩ := h.kept z₀ hz₀
      rw [hxid, ← T.id_of_core hcore]
      exact hfirst z hz (hsame.trans hzname)
    rw [hnamed]
    exact congrArg Sum.inl hxid.symm
  · have hnone : T.named ℓ start k = none := named_eq_none.2 fun z₀ hz₀ hzname =>
      h.new x hmem hid (List.mem_map.2 ⟨z₀, hz₀, hzname.trans hname.symm⟩)
    rw [hnone, hname]

theorem Grown.target_of_none (hnone : T.named ℓ l k = none) : T.target ℓ start k = .inr k := by
  have hstart : T.named ℓ start k = none := named_eq_none.2 fun z₀ hz₀ hzname => by
    obtain ⟨z, hz, -, hsame⟩ := h.kept z₀ hz₀
    exact named_eq_none.1 hnone z hz (hsame.trans hzname)
  unfold Shape.target
  rw [hstart]

theorem Grown.at_target : T.at start l (T.target ℓ start k) = (T.named ℓ l k).map T.content := by
  cases hfound : T.named ℓ l k with
  | some x =>
    exact h.at_eq_some.2 ⟨x, ((named_eq_some h.keyed).1 hfound).1.1, h.find?_slot hfound, rfl⟩
  | none =>
    refine at_eq_none.2 fun x hx hs => ?_
    rw [h.target_of_none hfound] at hs
    unfold Shape.slot at hs
    split_ifs at hs
    exact named_eq_none.1 hfound x hx (Sum.inr.inj hs)

end Grown

/-! ## One upsert -/

/-! ## What an upsert writes -/

section Tables

variable {ℓ : Layout Nat} {k : κ} {fresh : γ} {patch : γ → γ} {l m : List α}

/-- A row is added where there is none of the name. -/
theorem upserted_append {y : α} (hm : m.Perm l) (hkeyed : Keyed T.id (m ++ [y]))
    (hnone : T.named ℓ l k = none) (hname : T.name y = k) (hcontent : T.content y = fresh) :
    Upserted T ℓ k fresh patch l (m ++ [y]) y := by
  have hnew := hkeyed.ne_of_append
  refine ⟨hname, fun z => ?_, fun x hx => ?_, fun _ => ⟨fun hin => ?_, hcontent⟩⟩
  · rw [List.mem_append, List.mem_singleton, or_comm, hm.mem_iff]
    exact or_congr_right ⟨fun hz => ⟨hz, hnew z (hm.mem_iff.2 hz)⟩, And.left⟩
  · rw [hnone] at hx
    cases hx
  · obtain ⟨z, hz, hid⟩ := List.mem_map.1 hin
    exact hnew z (hm.mem_iff.2 hz) hid

/-- The row of the name that lies first is patched. -/
theorem upserted_updateWhere {f : α → α} {x : α} (hm : m.Perm l) (hkeyed : Keyed T.id l)
    (hfound : T.named ℓ l k = some x) (hname : T.name (f x) = k) (hcore : T.core (f x) = T.core x)
    (hcontent : T.content (f x) = patch (T.content x)) :
    Upserted T ℓ k fresh patch l (updateWhere (fun z => T.id z = T.id x) f m) (f x) := by
  obtain ⟨⟨hx, -⟩, -⟩ := (named_eq_some hkeyed).1 hfound
  refine ⟨hname, fun z => ?_, fun x' hx' => ?_, fun hnone => ?_⟩
  · rw [mem_updateWhere, T.id_of_core hcore]
    constructor
    · rintro ⟨w, hw, rfl⟩
      by_cases hid : T.id w = T.id x
      · obtain rfl := hkeyed.eq_of_key_eq (hm.mem_iff.1 hw) hx hid
        exact .inl (by simp)
      · exact .inr (by simpa [hid] using hm.mem_iff.1 hw)
    · rintro (rfl | ⟨hz, hid⟩)
      · exact ⟨x, hm.mem_iff.2 hx, by simp⟩
      · exact ⟨z, hm.mem_iff.2 hz, by simp [hid]⟩
  · obtain rfl : x = x' := Option.some.inj (hfound.symm.trans hx')
    exact ⟨hcore, hcontent⟩
  · rw [hfound] at hnone
    cases hnone

end Tables

section Upserted

variable {fresh : γ} {patch : γ → γ} {y : α} (h : Grown T start l)
    (hu : Upserted T ℓ k fresh patch l l' y)

include h hu

/-- The row that is written is in the slot of the name. -/
theorem Upserted.slot : T.slot start y = T.target ℓ start k := by
  cases hfound : T.named ℓ l k with
  | some x =>
    rw [← h.find?_slot hfound]
    have hname := ((named_eq_some h.keyed).1 hfound).1.2
    unfold Shape.slot
    rw [T.id_of_core (hu.patched x hfound).1, hu.name, hname]
  | none =>
    have hid : T.id y ∉ start.map T.id := fun hin => by
      obtain ⟨x₀, hx₀, hxid⟩ := List.mem_map.1 hin
      obtain ⟨z, hz, hcore, -⟩ := h.kept x₀ hx₀
      exact (hu.added hfound).1 (List.mem_map.2 ⟨z, hz, (T.id_of_core hcore).trans hxid⟩)
    rw [h.target_of_none hfound, ← hu.name]
    exact if_neg hid

/-- A row that was there is there, but for what is written of it. -/
theorem Upserted.kept {x : α} (hx : x ∈ l) :
    ∃ z ∈ l', T.core z = T.core x ∧ T.name z = T.name x := by
  by_cases hid : T.id x = T.id y
  · cases hfound : T.named ℓ l k with
    | some x₀ =>
      obtain ⟨⟨hmem, hname⟩, -⟩ := (named_eq_some h.keyed).1 hfound
      have hcore := (hu.patched x₀ hfound).1
      obtain rfl : x = x₀ := h.keyed.eq_of_key_eq hx hmem (hid.trans (T.id_of_core hcore))
      exact ⟨y, (hu.mem y).2 (.inl rfl), hcore, hu.name.trans hname.symm⟩
    | none => exact absurd (List.mem_map.2 ⟨x, hx, hid⟩) (hu.added hfound).1
  · exact ⟨x, (hu.mem x).2 (.inr ⟨hx, hid⟩), rfl, rfl⟩

theorem Upserted.grown (hkeyed : Keyed T.id l') : Grown T start l' where
  start_keyed := h.start_keyed
  keyed := hkeyed
  kept x hx := by
    obtain ⟨x', hx', hcore, hname⟩ := h.kept x hx
    obtain ⟨z, hz, hcore', hname'⟩ := hu.kept h hx'
    exact ⟨z, hz, hcore'.trans hcore, hname'.trans hname⟩
  new z hz hout := by
    rcases (hu.mem z).1 hz with rfl | ⟨hz, -⟩
    · cases hfound : T.named ℓ l k with
      | some x =>
        obtain ⟨⟨hmem, hname⟩, -⟩ := (named_eq_some h.keyed).1 hfound
        rw [hu.name, ← hname]
        exact h.new x hmem (T.id_of_core (hu.patched x hfound).1 ▸ hout)
      | none =>
        rw [hu.name]
        intro hin
        obtain ⟨x₀, hx₀, hname⟩ := List.mem_map.1 hin
        obtain ⟨x, hx, -, hsame⟩ := h.kept x₀ hx₀
        exact named_eq_none.1 hfound x hx (hsame.trans hname)
    · exact h.new z hz hout
  single z hz w hw hzout hwout hname := by
    -- a row of the name of the row that was written is that row
    have hone : ∀ v ∈ l, T.id v ∉ start.map T.id → T.name v = T.name y → T.id v = T.id y := by
      intro v hv hvout hvname
      cases hfound : T.named ℓ l k with
      | some x =>
        obtain ⟨⟨hmem, hxname⟩, -⟩ := (named_eq_some h.keyed).1 hfound
        have hid := T.id_of_core (hu.patched x hfound).1
        by_cases hxout : T.id x ∈ start.map T.id
        · obtain ⟨x₀, hx₀, -, hsame⟩ := h.old hmem hxout
          exact absurd (List.mem_map.2 ⟨x₀, hx₀,
            hsame.trans (hxname.trans (hvname.trans hu.name).symm)⟩)
            (h.new v hv hvout)
        · obtain rfl := h.single v hv x hmem hvout hxout (hvname.trans (hu.name.trans hxname.symm))
          exact hid.symm
      | none => exact absurd (hvname.trans hu.name) (named_eq_none.1 hfound v hv)
    rcases (hu.mem z).1 hz with rfl | ⟨hz, hzid⟩
    · rcases (hu.mem w).1 hw with rfl | ⟨hw, hwid⟩
      · rfl
      · exact absurd (hone w hw hwout hname.symm) hwid
    · rcases (hu.mem w).1 hw with rfl | ⟨hw, hwid⟩
      · exact absurd (hone z hz hzout hname) hzid
      · exact h.single z hz w hw hzout hwout hname

/-- **What an upsert writes.** -/
theorem upserted_at (hkeyed : Keyed T.id l') (s : Nat ⊕ κ) : T.at start l' s =
    if s = T.target ℓ start k then some ((T.at start l s).elim fresh patch)
      else T.at start l s := by
  have hgrown := hu.grown h hkeyed
  have hslot := hu.slot h
  split_ifs with hs
  · subst hs
    refine hgrown.at_eq_some.2 ⟨y, (hu.mem y).2 (.inl rfl), hslot, ?_⟩
    rw [h.at_target]
    cases hfound : T.named ℓ l k with
    | some x => exact (hu.patched x hfound).2
    | none => exact (hu.added hfound).2
  · refine Option.ext fun c => ?_
    rw [hgrown.at_eq_some, h.at_eq_some]
    constructor
    · rintro ⟨x, hx, hxs, hc⟩
      rcases (hu.mem x).1 hx with rfl | ⟨hx, -⟩
      · exact absurd (hxs.symm.trans hslot) hs
      · exact ⟨x, hx, hxs, hc⟩
    · rintro ⟨x, hx, hxs, hc⟩
      refine ⟨x, (hu.mem x).2 (.inr ⟨hx, fun hid => hs ?_⟩), hxs, hc⟩
      -- a row of that number is the one that was written
      obtain ⟨z, hz, hcore, hname⟩ := hu.kept h hx
      obtain rfl : z = y :=
        hkeyed.eq_of_key_eq hz ((hu.mem y).2 (.inl rfl)) ((T.id_of_core hcore).trans hid)
      rw [← hxs, ← hslot]
      unfold Shape.slot
      rw [T.id_of_core hcore, hname]

end Upserted

end Named

/-! ## Overrides -/

/-- `f` leaves the field alone, or sets it to a value of its own. -/
def Overwrites (field : α → β) (f : α → α) : Prop :=
  (∀ x, field (f x) = field x) ∨ ∃ b, ∀ x, field (f x) = b

theorem Overwrites.refl (field : α → β) : Overwrites field id := .inl fun _ => rfl

theorem Overwrites.comp {field : α → β} {f g : α → α} (hf : Overwrites field f)
    (hg : Overwrites field g) : Overwrites field (f ∘ g) := by
  rcases hf with hf | ⟨b, hf⟩
  · rcases hg with hg | ⟨b, hg⟩
    · exact .inl fun x => (hf (g x)).trans (hg x)
    · exact .inr ⟨b, fun x => (hf (g x)).trans (hg x)⟩
  · exact .inr ⟨b, fun x => hf (g x)⟩

/-- A field is written once. -/
theorem Overwrites.again {field : α → β} {f : α → α} (h : Overwrites field f) (x : α) :
    field (f (f x)) = field (f x) := by
  rcases h with h | ⟨b, h⟩
  · exact h (f x)
  · rw [h, h]

/-- A kind of functions that is closed under composition, and each of which does its work once. -/
structure Overriding (F : (α → α) → Prop) : Prop where
  refl : F id
  comp : ∀ {f g}, F f → F g → F (f ∘ g)
  again : ∀ {f}, F f → ∀ x, f (f x) = f x

/-! ## Many upserts -/

/-- An upsert, by its slot. -/
structure Entry (κ γ : Type) where
  target : Nat ⊕ κ
  fresh : γ
  patch : γ → γ

/-- What the upserts of a slot make of what is written there. -/
def written (us : List (Entry κ γ)) (s : Nat ⊕ κ) (o : Option γ) : Option γ :=
  us.foldl (fun o u => if s = u.target then some (o.elim u.fresh u.patch) else o) o

theorem written_append (us vs : List (Entry κ γ)) (s : Nat ⊕ κ) (o : Option γ) :
    written (us ++ vs) s o = written vs s (written us s o) := List.foldl_append

theorem written_of_ne {us : List (Entry κ γ)} {s : Nat ⊕ κ} (h : ∀ u ∈ us, s ≠ u.target)
    (o : Option γ) :
    written us s o = o := by
  induction us with
  | nil => rfl
  | cons u us ih =>
    have hrest := ih fun v hv => h v (List.mem_cons_of_mem u hv)
    unfold written at hrest ⊢
    rw [List.foldl_cons, if_neg (h u List.mem_cons_self)]
    exact hrest

/-- Something is written in a slot that it was written in, or that an upsert is for. -/
theorem isSome_written {us : List (Entry κ γ)} {s : Nat ⊕ κ} {o : Option γ} :
    (written us s o).isSome ↔ o.isSome ∨ ∃ u ∈ us, s = u.target := by
  induction us generalizing o with
  | nil => simp [written]
  | cons u us ih =>
    have hcons : written (u :: us) s o =
        written us s (if s = u.target then some (o.elim u.fresh u.patch) else o) :=
      rfl
    rw [hcons, ih]
    by_cases hs : s = u.target
    · simp [hs]
    · simp [hs]

/-- Entries that patch the same slots alike write the same where something is written,
or nothing is to be. -/
theorem written_congr {us vs : List (Entry κ γ)}
    (h : List.Forall₂ (fun u v => u.target = v.target ∧ u.patch = v.patch) us vs) {s : Nat ⊕ κ}
    {o : Option γ} (ho : o.isSome ∨ ∀ u ∈ us, s ≠ u.target) : written us s o = written vs s o := by
  induction h generalizing o with
  | nil => rfl
  | @cons u v us vs huv _ ih =>
    have hcons : ∀ (w : Entry κ γ) ws, written (w :: ws) s o =
        written ws s (if s = w.target then some (o.elim w.fresh w.patch) else o) := fun _ _ => rfl
    rw [hcons, hcons, ← huv.1]
    by_cases hs : s = u.target
    · rw [if_pos hs, if_pos hs]
      obtain ⟨c, rfl⟩ :=
        Option.isSome_iff_exists.1 (ho.resolve_right fun hne => hne u List.mem_cons_self hs)
      show written us s (some (u.patch c)) = written vs s (some (v.patch c))
      rw [← huv.2]
      exact ih (.inl rfl)
    · rw [if_neg hs, if_neg hs]
      exact ih (ho.imp_right fun hne w hw => hne w (List.mem_cons_of_mem u hw))

/-- On what is written already the upserts of a slot are one function. -/
theorem written_some {F : (γ → γ) → Prop} (hF : Overriding F) {us : List (Entry κ γ)}
    (hus : ∀ u ∈ us, F u.patch) (s : Nat ⊕ κ) :
    ∃ f, F f ∧ ∀ c, written us s (some c) = some (f c) := by
  induction us with
  | nil => exact ⟨id, hF.refl, fun _ => rfl⟩
  | cons u us ih =>
    obtain ⟨f, hf, hall⟩ := ih fun v hv => hus v (List.mem_cons_of_mem u hv)
    by_cases hs : s = u.target
    · refine ⟨f ∘ u.patch, hF.comp hf (hus u List.mem_cons_self), fun c => ?_⟩
      have hcons : written (u :: us) s (some c) = written us s (some (u.patch c)) :=
        congrArg (written us s) (if_pos hs)
      rw [hcons, hall]
      rfl
    · refine ⟨f, hf, fun c => ?_⟩
      have hcons : written (u :: us) s (some c) = written us s (some c) :=
        congrArg (written us s) (if_neg hs)
      rw [hcons, hall]

/-- **The upserts again** change nothing, where they override and a fresh row is patched already. -/
theorem written_again {F : (γ → γ) → Prop} (hF : Overriding F) {us : List (Entry κ γ)}
    (hus : ∀ u ∈ us, F u.patch) (hfresh : ∀ u ∈ us, u.patch u.fresh = u.fresh) (s : Nat ⊕ κ)
    (o : Option γ) :
    written us s (written us s o) = written us s o := by
  have hsome : ∀ c, written us s (written us s (some c)) = written us s (some c) := by
    obtain ⟨f, hf, hall⟩ := written_some hF hus s
    intro c
    rw [hall, hall, hF.again hf]
  -- the first upsert of the slot might as well have found its fresh row
  have hnone : written us s none = none ∨ ∃ u ∈ us, written us s none =
      written us s (some u.fresh) := by
    clear hsome
    induction us with
    | nil => exact .inl rfl
    | cons u us ih =>
      by_cases hs : s = u.target
      · refine .inr ⟨u, List.mem_cons_self, ?_⟩
        have hcons : ∀ o, written (u :: us) s o = written us s (some (o.elim u.fresh u.patch)) :=
          fun o => congrArg (written us s) (if_pos hs)
        rw [hcons, hcons]
        exact congrArg (fun c => written us s (some c)) (hfresh u List.mem_cons_self).symm
      · have hcons : ∀ o, written (u :: us) s o = written us s o :=
          fun o => congrArg (written us s) (if_neg hs)
        rw [hcons]
        rcases ih (fun v hv => hus v (List.mem_cons_of_mem u hv))
          fun v hv => hfresh v (List.mem_cons_of_mem u hv) with h | ⟨v, hv, h⟩
        · exact .inl h
        · exact .inr ⟨v, List.mem_cons_of_mem u hv, by rw [hcons, h]⟩
  cases o with
  | some c => exact hsome c
  | none =>
    rcases hnone with h | ⟨u, -, h⟩
    · rw [h, h]
    · rw [h, hsome]

variable (T) in
/-- The upserts have taken the table from `l` to `l'`. -/
structure Written (start : List α) (us : List (Entry κ γ)) (l l' : List α) : Prop where
  grown : Grown T start l'
  kept : ∀ x ∈ l, ∃ y ∈ l', T.core y = T.core x ∧ T.name y = T.name x
  wrote : ∀ s, T.at start l' s = written us s (T.at start l s)

section Written

variable {start l l' l'' : List α} {us vs : List (Entry κ γ)}

/-- Where the rows lie is not written. -/
theorem written_perm (h : Grown T start l) (hl : l'.Perm l) : Written T start [] l l' where
  grown := h.perm hl
  kept x hx := ⟨x, hl.mem_iff.2 hx, rfl, rfl⟩
  wrote s := by
    refine Option.ext fun c => ?_
    rw [(h.perm hl).at_eq_some]
    simp only [hl.mem_iff]
    exact h.at_eq_some.symm

theorem Upserted.written {ℓ : Layout Nat} {k : κ} {fresh : γ} {patch : γ → γ} {y : α}
    (h : Grown T start l) (hu : Upserted T ℓ k fresh patch l l' y) (hkeyed : Keyed T.id l') :
    Written T start [⟨T.target ℓ start k, fresh, patch⟩] l l' where
  grown := hu.grown h hkeyed
  kept _ hx := hu.kept h hx
  wrote s := upserted_at h hu hkeyed s

theorem Written.append (h : Written T start us l l') (h' : Written T start vs l' l'') :
    Written T start (us ++ vs) l l'' where
  grown := h'.grown
  kept x hx := by
    obtain ⟨y, hy, hcore, hname⟩ := h.kept x hx
    obtain ⟨z, hz, hcore', hname'⟩ := h'.kept y hy
    exact ⟨z, hz, hcore'.trans hcore, hname'.trans hname⟩
  wrote s := by rw [written_append, h'.wrote, h.wrote]

variable (h : Grown T start l) (hw : Written T start us l l')

include hw

/-- A row is in the slot that it was in. -/
theorem Written.exists_row {x : α} (hx : x ∈ l) :
    ∃ y ∈ l', T.core y = T.core x ∧ T.slot start y = T.slot start x := by
  obtain ⟨y, hy, hcore, hname⟩ := hw.kept x hx
  refine ⟨y, hy, hcore, ?_⟩
  unfold Shape.slot
  rw [T.id_of_core hcore, hname]

include h

/-- A row that no upsert is for stays as it is. -/
theorem Written.untouched {x : α} (hx : x ∈ l) (hus : ∀ u ∈ us, T.slot start x ≠ u.target) :
    x ∈ l' := by
  obtain ⟨y, hy, hcore, hslot⟩ := hw.exists_row hx
  have hat : T.at start l' (T.slot start x) = some (T.content x) := by
    rw [hw.wrote, written_of_ne hus]
    exact h.at_eq_some.2 ⟨x, hx, rfl, rfl⟩
  obtain ⟨z, hz, hzslot, hcontent⟩ := hw.grown.at_eq_some.1 hat
  obtain rfl : z = y := hw.grown.slot_injective hz hy (hzslot.trans hslot.symm)
  exact T.ext hcore hcontent ▸ hy

/-- **Upserts that change nothing.** -/
theorem Written.same_iff : l'.Perm l ↔ ∀ s, written us s (T.at start l s) = T.at start l s := by
  constructor
  · intro hperm s
    rw [← hw.wrote]
    exact (written_perm h hperm).wrote s
  · intro hsame
    have hnodup : ∀ {m : List α}, Keyed T.id m → m.Nodup := fun hm => List.Nodup.of_map _ hm
    have hin : ∀ x ∈ l, x ∈ l' := by
      intro x hx
      obtain ⟨y, hy, hcore, hslot⟩ := hw.exists_row hx
      have hat : T.at start l' (T.slot start x) = some (T.content x) := by
        rw [hw.wrote, hsame]
        exact h.at_eq_some.2 ⟨x, hx, rfl, rfl⟩
      obtain ⟨z, hz, hzslot, hcontent⟩ := hw.grown.at_eq_some.1 hat
      obtain rfl : z = y := hw.grown.slot_injective hz hy (hzslot.trans hslot.symm)
      exact T.ext hcore hcontent ▸ hy
    refine (List.perm_ext_iff_of_nodup (hnodup hw.grown.keyed) (hnodup h.keyed)).2 fun y =>
      ⟨fun hy => ?_, hin y⟩
    have hat : T.at start l (T.slot start y) = some (T.content y) := by
      rw [← hsame, ← hw.wrote]
      exact hw.grown.at_eq_some.2 ⟨y, hy, rfl, rfl⟩
    obtain ⟨x, hx, hslot, -⟩ := h.at_eq_some.1 hat
    exact hw.grown.slot_injective (hin x hx) hy hslot ▸ hx

end Written

end Slots
