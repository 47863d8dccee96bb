import Sams.School.Writes
import Sams.School.Years

/-!
# Lines of rollovers that are not committed

`PendingLines P d`: every line of a rollover that is not committed satisfies `P`. Whatever a step
does to other tables, it keeps such an invariant when storing a proposal, overriding and unlinking
do (**`pendingLines_step`**): a rollover that is recomputed is not committed, and a commit takes
the lines it closes out of the invariant.
-/

namespace Sams.School

open Programs Rows TenantRepository TenantService

/-- The rollover is not committed. -/
def Tables.Pending (t : Tables) (rid : Nat) : Prop :=
  ∀ r ∈ t.rollovers, r.id = rid → r.state ≠ .committed

/-- Every line of a rollover that is not committed satisfies `P`. -/
def PendingLines (P : LineRow → Prop) (d : Db) : Prop :=
  ∀ l ∈ d.val.lines, d.val.Pending l.rolloverId → P l

/-- A tenant without rollovers has no lines. -/
theorem Fresh.no_line {d : Db} (h : Fresh d) {l : LineRow} (hl : l ∈ d.val.lines) : False := by
  obtain ⟨r, hr, -⟩ := d.ok.rollovers.line_rollover.exists_row hl rfl
  rw [show d.val.rollovers = [] from h] at hr
  cases hr

theorem Fresh.pendingLines {d : Db} (h : Fresh d) (P : LineRow → Prop) : PendingLines P d :=
  fun _ hl => (h.no_line hl).elim

/-! ## Which rollovers are committed -/

theorem Db.pending_of {d : Db} {r : RolloverRow} (hr : r ∈ d.val.rollovers)
    (hstate : r.state ≠ .committed) : d.val.Pending r.id := by
  intro x hx hid
  rwa [Db.rollover_unique hx hr hid]

theorem Db.not_pending {d : Db} {r : RolloverRow} (hr : r ∈ d.val.rollovers)
    (hstate : r.state = .committed) : ¬d.val.Pending r.id := fun h => h r hr rfl hstate

/-- The rollover that was found or created is not committed: a committed one starts at a closed
year, and this one at the active year. -/
theorem Created.pending {d d' : Db} {f t : Nat} {r : RolloverRow} (h : Created d f t r d')
    (hI : YearInv d) : d'.val.Pending r.id := by
  rcases h.state with ⟨hr, rfl⟩ | ⟨hdraft, seq, hval⟩
  · refine Db.pending_of hr fun hcom => ?_
    have hclosed := hI.committed r hr hcom
    rw [h.from_eq] at hclosed
    cases hclosed.unique h.from_active
  · have hr : r ∈ d'.val.rollovers := by simp [hval]
    exact Db.pending_of hr (by simp [hdraft])

theorem Created.pending_old {d d' : Db} {f t : Nat} {r : RolloverRow} (h : Created d f t r d')
    {rid : Nat} (hp : d'.val.Pending rid) : d.val.Pending rid := by
  rcases h.state with ⟨-, rfl⟩ | ⟨-, seq, hval⟩
  · exact hp
  · intro x hx
    exact hp x (by rw [hval]; exact List.mem_append_left _ hx)

/-- After a commit its rollover is committed and the others are as before. -/
theorem Performed.pending_iff {d d' : Db} {r : RolloverRow} {resolved : List (TargetKey × Nat)}
    (hp : Performed d r resolved d') (hr : r ∈ d.val.rollovers) (rid : Nat) :
    d'.val.Pending rid ↔ rid ≠ r.id ∧ d.val.Pending rid := by
  unfold Tables.Pending
  rw [hp.rollovers]
  constructor
  · intro h
    refine ⟨fun he => ?_, fun x hx hid hcom => ?_⟩
    · exact h _ (mem_updateWhere_of_pos hr (by simp)) he.symm rfl
    · have hm := mem_updateWhere_of_mem (p := fun x : RolloverRow => x.id = r.id)
        (f := fun x => ⟨x.id, x.fromYearId, x.toYearId, .committed,
          some (summaryOf (d.val.openLines r.id)), x.createdBy⟩) hx
      refine h _ hm ?_ ?_
      · split_ifs <;> exact hid
      · split_ifs
        · rfl
        · exact hcom
  · rintro ⟨hne, h⟩ x hx hid
    rcases cases_of_mem_updateWhere hx with ⟨hx, -⟩ | ⟨y, hy, hyr, rfl⟩
    · exact h x hx hid
    · exact absurd (hid.symm.trans (of_decide_eq_true hyr)) hne

/-- A line before and after a commit. -/
theorem Performed.line_origin {d d' : Db} {r : RolloverRow} {resolved : List (TargetKey × Nat)}
    (hp : Performed d r resolved d') {l' : LineRow} (hl' : l' ∈ d'.val.lines) :
    (l' ∈ d.val.lines ∧ l' ∉ d.val.openLines r.id) ∨
      ∃ l ∈ d.val.openLines r.id, l' = l.close resolved := by
  rw [hp.lines] at hl'
  obtain ⟨l, hl, rfl⟩ := List.mem_map.1 hl'
  split_ifs with hopen
  · exact .inr ⟨l, hopen, rfl⟩
  · exact .inl ⟨hl, hopen⟩

/-! ## One step -/

section Step

variable {P : LineRow → Prop} {d d' : Db}

theorem pendingLines_of_eq (hI : PendingLines P d) (hr : d'.val.rollovers = d.val.rollovers)
    (hl : d'.val.lines = d.val.lines) : PendingLines P d' := by
  unfold PendingLines Tables.Pending at *
  rwa [hr, hl]

theorem pendingLines_created {f t : Nat} {r : RolloverRow} (h : Created d f t r d')
    (hI : PendingLines P d) : PendingLines P d' := by
  intro l hl hpend
  refine hI l ?_ (h.pending_old hpend)
  rcases h.state with ⟨-, rfl⟩ | ⟨-, seq, hval⟩
  · exact hl
  · rwa [hval] at hl

/-- Storing proposals in the lines of a pending rollover. -/
theorem pendingLines_recomputed {rid y : Nat} (h : Recomputed d rid y d')
    (hrid : d.val.Pending rid) (hstore : ∀ p ∈ proposals d.val rid y, ∀ l : LineRow,
      (P l ∨ ∃ id sid, l = blankLine id rid sid) → P (l.store p))
    (hI : PendingLines P d) : PendingLines P d' := by
  intro l' hl' hpend
  by_cases hr : l'.rolloverId = rid
  · obtain ⟨p, hp, l, rfl, hlr, -, hold⟩ := h.stored hl' hr
    refine hstore p hp l ?_
    rcases hold with hl | ⟨id, rfl, -⟩
    · exact .inl (hI l hl (hlr.symm ▸ hrid))
    · exact .inr ⟨id, _, rfl⟩
  · have hm : l' ∈ d'.val.linesOf l'.rolloverId := by simp [Tables.linesOf, hl']
    rw [h.others hr] at hm
    obtain ⟨lines, seq, hval⟩ := h.only
    rw [hval] at hpend
    exact hI l' (List.mem_filter.1 hm).1 hpend

theorem pendingLines_previewed {rid : Nat} (hpend : d.val.Pending rid)
    (hval : d'.val = d.val.setRollovers (fun r => r.id = rid) fun r => { r with
      state := .previewed })
    (hI : PendingLines P d) : PendingLines P d' := by
  intro l hl hlpend
  rw [hval] at hl hlpend
  refine hI l hl fun x hx hid => ?_
  by_cases hx' : x.id = rid
  · exact hpend x hx hx'
  · exact hlpend x (mem_updateWhere_of_not hx (by simpa using hx')) hid

theorem pendingLines_performed {r : RolloverRow} {resolved : List (TargetKey × Nat)}
    (hr : r ∈ d.val.rollovers) (hp : Performed d r resolved d') (hI : PendingLines P d) :
    PendingLines P d' := by
  intro l' hl' hpend
  obtain ⟨hne, hpend⟩ := (hp.pending_iff hr _).1 hpend
  rcases hp.line_origin hl' with ⟨hl, -⟩ | ⟨l, hopen, rfl⟩
  · exact hI l' hl hpend
  · -- a line of the rollover itself, which is committed now
    exact absurd ((LineRow.close_ids resolved l).1.trans (openLines_mem.1 hopen).2.1) hne

/-- **An invariant of pending lines** is kept by a step when storing a proposal, overriding and
unlinking keep it. -/
theorem pendingLines_step [Unicode] {op : Op} (hY : YearInv d) (hI : PendingLines P d)
    (hstore : ∀ (t : Tables) (rid y : Nat), ∀ p ∈ proposals t rid y, ∀ l : LineRow,
      (P l ∨ ∃ id sid, l = blankLine id rid sid) → P (l.store p))
    (hover : ∀ u lid a lv sec l l', op = .overrideRolloverLine u lid a lv sec →
      Authz.require u rolloverRoles → d.val.line? lid = some l → d.val.Pending l.rolloverId →
        P l → d.val.overridden l a lv sec = some l' → P l')
    (hrelink : ∀ l l' : LineRow, l ∈ d.val.lines → d.val.Pending l.rolloverId → P l →
      l.Relinks (op.DeletesLevel d) l' → P l') : PendingLines P (step d op) := by
  have hwrites := step_writes d op
  generalize step d op = d' at hwrites
  cases hwrites with
  | idle hr hl => exact pendingLines_of_eq hI hr hl
  | edited _ h =>
    intro l' hl' hpend
    obtain ⟨l, hl, he⟩ := h.origin hl'
    have hpend' : d.val.Pending l.rolloverId := by
      rw [← he.rolloverId]
      unfold Tables.Pending at *
      rwa [h.rollovers] at hpend
    exact hrelink l l' hl hpend' (hI l hl hpend') he
  | created h => exact pendingLines_created h hI
  | generated hcreated h =>
    exact pendingLines_recomputed h (hcreated.pending hY) (hstore _ _ _)
      (pendingLines_created hcreated hI)
  | previewed hfound hstate h hwritten =>
    obtain ⟨hr, rfl⟩ := d.ok.keys.rollovers.find?_eq_some.1 hfound
    have hpend := Db.pending_of hr hstate
    have hI₁ := pendingLines_recomputed h hpend (hstore _ _ _) hI
    rcases hwritten with rfl | hval
    · exact hI₁
    · refine pendingLines_previewed ?_ hval hI₁
      obtain ⟨lines, seq, honly⟩ := h.only
      rwa [honly]
  | overridden hallowed hfound hoverridden hwritten =>
    rename_i u lid a lv sec l l'
    intro x hx hpend
    rw [hwritten] at hx hpend
    rcases cases_of_mem_updateWhere hx with ⟨hx, -⟩ | ⟨y, hy, hyid, rfl⟩
    · exact hI x hx hpend
    · have hl : l ∈ d.val.lines := List.mem_of_find?_eq_some hfound
      obtain ⟨action, -, rfl, -⟩ := overridden_some hoverridden
      exact hover u lid a lv sec l _ rfl hallowed hfound hpend (hI l hl hpend) hoverridden
  | performed hfound hstate hp =>
    exact pendingLines_performed (List.mem_of_find?_eq_some hfound) hp hI

end Step

end Sams.School
