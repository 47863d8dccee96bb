import Sams.School.Ladder
import Sams.School.Writes

/-!
# Overrides and recomputation

Recomputing drops the lines of students without a fact and stores proposals in the others, where a
stored override keeps the target it was given. So the overridden lines survive any mix of
recomputations and changes of levels, classes and rosters, as long as their students keep a fact
(**`overrides_survive`**). What does not survive is the target level of a line when that level is
deleted: the schema nulls it.

Recomputing again with the same facts stores the same proposals, because a flag depends on an old
line only through its override, and the lines are those of the first time.
-/

namespace Sams.School

open Programs Rows Runs TenantRepository TenantService

/-! ## Recomputing twice -/

/-- The flags depend on the old lines only through the targets of the overrides. -/
theorem flagOverCapacity_congr {existing existing' : Nat → Option LineRow}
    {ps : List ProposedLine}
    (h : ∀ p ∈ ps, effectiveTarget (existing' p.studentId) p =
      effectiveTarget (existing p.studentId) p) :
    flagOverCapacity existing' ps = flagOverCapacity existing ps := by
  have hgroup : ∀ key, ps.filter (fun p => effectiveTarget (existing' p.studentId) p = some key) =
      ps.filter fun p => effectiveTarget (existing p.studentId) p = some key :=
    fun key => List.filter_congr fun p hp => by rw [h p hp]
  have hcap : ∀ key, capacityFor existing' ps key = capacityFor existing ps key := by
    intro key
    have hown : ps.find? (fun p =>
          effectiveTarget (existing' p.studentId) p = some key ∧ p.proposedAction = .promote) =
        ps.find? fun p =>
          effectiveTarget (existing p.studentId) p = some key ∧ p.proposedAction = .promote := by
      rw [← List.head?_filter, ← List.head?_filter]
      congr 1
      exact List.filter_congr fun p hp => by rw [h p hp]
    simp only [capacityFor, hown]
  refine List.map_congr_left fun p hp => ?_
  rw [h p hp]
  simp only [hgroup, hcap]

theorem effectiveTarget_store (l : LineRow) (p q : ProposedLine) :
    effectiveTarget (some (l.store p)) q = effectiveTarget (some l) q := by
  cases ho : l.overrideAction with
  | none => simp [effectiveTarget, LineRow.store, ho]
  | some a => simp [effectiveTarget, LineRow.store, LineRow.target, ho]

theorem effectiveTarget_blank (id rid sid : Nat) (q : ProposedLine) :
    effectiveTarget (some (blankLine id rid sid)) q = effectiveTarget none q := rfl

/-- The line that a recomputation leaves for a student with a proposal. -/
theorem Recomputed.lineFor {d d' : Db} {rid y : Nat} (h : Recomputed d rid y d') {sid : Nat}
    (hs : sid ∈ (proposals d.val rid y).map ProposedLine.studentId) :
    ∃ p l, d'.val.lineFor rid sid = some (l.store p) ∧
      (d.val.lineFor rid sid = some l ∨
        ∃ id, l = blankLine id rid sid ∧ d.val.lineFor rid sid = none) := by
  obtain ⟨p, hp, rfl⟩ := List.mem_map.1 hs
  obtain ⟨l', hl', hr, hsid⟩ := h.stores p hp
  obtain ⟨q, -, l, rfl, hlr, hls, hold⟩ := h.stored hl' hr
  have hq : q.studentId = p.studentId := hls.symm.trans hsid
  refine ⟨q, l, Db.lineFor_eq_some.2 ⟨hl', hr, hsid⟩, ?_⟩
  rcases hold with hl | ⟨id, rfl, hnone⟩
  · exact .inl (Db.lineFor_eq_some.2 ⟨hl, hlr, hls.trans hq⟩)
  · rw [hq] at hnone ⊢
    exact .inr ⟨id, rfl, hnone⟩

/-- With the same facts and the lines of a first recomputation the proposals are the same. -/
theorem Recomputed.proposals_eq {d d₁ d₂ : Db} {rid y : Nat} (h : Recomputed d rid y d₁)
    (hlines : d₂.val.lines = d₁.val.lines) (hfacts : planFacts d₂.val y = planFacts d.val y) :
    proposals d₂.val rid y = proposals d.val rid y := by
  unfold proposals
  rw [hfacts]
  refine flagOverCapacity_congr fun p hp => ?_
  have hs : p.studentId ∈ (proposals d.val rid y).map ProposedLine.studentId := by
    obtain ⟨q, hq, hqs⟩ := flagOverCapacity_studentId (d.val.lineFor rid) hp
    exact List.mem_map.2 ⟨q, hq, hqs⟩
  obtain ⟨q, l, hl', hold⟩ := h.lineFor hs
  have hline : d₂.val.lineFor rid p.studentId = some (l.store q) := by
    rw [← hl', Tables.lineFor, Tables.lineFor, hlines]
  rw [hline, effectiveTarget_store]
  rcases hold with hl | ⟨id, rfl, hnone⟩
  · rw [hl]
  · rw [hnone, effectiveTarget_blank]

/-- Rewriting lines keeps the tables consistent when it keeps their keys and what they refer to
exists. -/
theorem ok_setLines {d : Db} {f : LineRow → LineRow} (hkey : ∀ l : LineRow, l.SameKey (f l))
    (haction : ∀ l ∈ d.val.lines, (f l).proposedAction ≠ .withdraw)
    (hclass : ∀ l ∈ d.val.lines, ∀ id ∈ (f l).fromClassId, id ∈ d.val.classes.map ClassRow.id)
    (hlevel : ∀ l ∈ d.val.lines, ∀ id ∈ (f l).toLevelId, id ∈ d.val.levels.map LevelRow.levelId) :
    Tables.Ok { d.val with lines := d.val.lines.map f } := by
  have hmap : ∀ {κ : Type} (g : LineRow → κ), (∀ l, g (f l) = g l) →
      (d.val.lines.map f).map g = d.val.lines.map g := by
    intro κ g hg
    rw [List.map_map]
    exact List.map_congr_left fun l _ => hg l
  obtain ⟨hkeys, hunique, hchecks, hplacements, hrefs, hevents, hcontacts⟩ := d.ok
  have hrefers : ∀ {κ : Type} {g : LineRow → Option κ} {ks : List κ}, (∀ l, g (f l) = g l) →
      (∀ l ∈ d.val.lines, ∀ k ∈ g l, k ∈ ks) → ∀ l ∈ d.val.lines.map f, ∀ k ∈ g l, k ∈ ks := by
    intro κ g ks hg h l' hl' k hk
    obtain ⟨l, hl, rfl⟩ := List.mem_map.1 hl'
    exact h l hl k (hg l ▸ hk)
  have hwritten : ∀ {κ : Type} {g : LineRow → Option κ} {ks : List κ},
      (∀ l ∈ d.val.lines, ∀ k ∈ g (f l), k ∈ ks) → ∀ l ∈ d.val.lines.map f, ∀ k ∈ g l, k ∈ ks := by
    intro κ g ks h l' hl'
    obtain ⟨l, hl, rfl⟩ := List.mem_map.1 hl'
    exact h l hl
  refine ⟨{ hkeys with lines := ?_ }, { hunique with line_student := ?_ },
    { hchecks with line_proposed_action := ?_ }, { hplacements with },
    { hrefs with
      line_rollover := hrefers (fun l => by rw [(hkey l).rolloverId]) hrefs.line_rollover
      line_student := hrefers (fun l => by rw [(hkey l).studentId]) hrefs.line_student
      line_from_class := hwritten hclass
      line_to_level := hwritten hlevel
      line_to_class := hrefers (fun l => (hkey l).toClassId) hrefs.line_to_class },
    { hevents with }, { hcontacts with }⟩
  · rw [Keyed, hmap _ fun l => (hkey l).id]
    exact hkeys.lines
  · rw [Keyed, hmap _ fun l => Prod.ext (hkey l).rolloverId (hkey l).studentId]
    exact hunique.line_student
  · intro l' hl'
    obtain ⟨l, hl, rfl⟩ := List.mem_map.1 hl'
    exact haction l hl

/-- A fact names a class and a level that exist. -/
theorem planFact_exists {t : Tables} {y : Nat} {f : PlanFact} (h : f ∈ planFacts t y) :
    f.fromClassId ∈ t.classes.map ClassRow.id ∧
      ∀ id ∈ f.toLevelId, id ∈ t.levels.map LevelRow.levelId := by
  obtain ⟨s, -, -, hf⟩ := mem_planFacts.1 h
  obtain ⟨c, hc, -, -, lv, -, -, nl, hnl, rfl⟩ := mem_studentFacts.1 hf
  refine ⟨List.mem_map_of_mem hc, fun id hid => ?_⟩
  change id ∈ nl at hid
  unfold nextLevels at hnl
  dsimp only at hnl
  split_ifs at hnl
  · rw [List.mem_singleton.1 hnl] at hid
    cases hid
  · obtain ⟨lv', hlv', rfl⟩ := List.mem_map.1 hnl
    cases hid
    exact List.mem_map_of_mem (List.mem_filter.1 hlv').1

/-- What is proposed can be stored. -/
theorem proposal_exists {t : Tables} {rid y : Nat} {p : ProposedLine} (h : p ∈ proposals t rid y) :
    p.proposedAction ≠ .withdraw ∧ p.fromClassId ∈ t.classes.map ClassRow.id ∧
      ∀ id ∈ p.toLevelId, id ∈ t.levels.map LevelRow.levelId := by
  obtain ⟨f, hf, e, rfl⟩ := mem_proposals h
  obtain ⟨haction, hclass, hlevel⟩ := propose_fields f
  obtain ⟨hfc, hfl⟩ := planFact_exists hf
  exact ⟨haction, by rwa [← hclass] at hfc, fun id hid => hfl id (hlevel id hid)⟩

/-- Storing what is proposed, up to any point, keeps the tables consistent. -/
theorem ok_stored {d : Db} {rid y : Nat} {ps : List ProposedLine}
    (hps : ∀ p ∈ ps, p ∈ proposals d.val rid y) :
    Tables.Ok { d.val with lines := d.val.lines.map (LineRow.storeAll rid ps) } := by
  have hcases : ∀ l : LineRow, l.storeAll rid ps = l ∨
      ∃ p ∈ proposals d.val rid y, l.storeAll rid ps = l.store p := by
    intro l
    rw [storeAll_eq]
    cases hfind : ps.reverse.find? fun p => l.rolloverId = rid ∧ l.studentId = p.studentId with
    | none => exact .inl rfl
    | some p =>
      exact .inr ⟨p, hps p (List.mem_reverse.1 (List.mem_of_find?_eq_some hfind)), rfl⟩
  refine ok_setLines (sameKey_storeAll rid ps) (fun l hl => ?_) (fun l hl id hid => ?_)
    fun l hl id hid => ?_
  · rcases hcases l with h | ⟨p, hp, h⟩
    · rw [h]
      exact d.ok.checks.line_proposed_action l hl
    · rw [h]
      exact (proposal_exists hp).1
  · rcases hcases l with h | ⟨p, hp, h⟩
    · rw [h] at hid
      exact d.ok.rollovers.line_from_class l hl id hid
    · rw [h] at hid
      cases hid
      exact (proposal_exists hp).2.1
  · rcases hcases l with h | ⟨p, hp, h⟩
    · rw [h] at hid
      exact d.ok.rollovers.line_to_level l hl id hid
    · rw [h] at hid
      simp only [LineRow.store] at hid
      split_ifs at hid
      · exact (proposal_exists hp).2.2 id hid
      · exact d.ok.rollovers.line_to_level l hl id hid

/-- Storing proposals for students who have a line adds no line. -/
theorem foldl_upsertLine_old {t : Tables} {rid : Nat} {ps : List ProposedLine}
    (h : ∀ p ∈ ps, (t.lineFor rid p.studentId).isSome) :
    ps.foldl (fun t p => upsertLine t rid p) t =
      { t with lines := t.lines.map (LineRow.storeAll rid ps) } := by
  induction ps using List.reverseRecOn with
  | nil =>
    have hid : t.lines.map (LineRow.storeAll rid []) = t.lines := List.map_id _
    rw [hid]
    rfl
  | append_singleton ps p ih =>
    rw [List.foldl_append, ih fun q hq => h q (List.mem_append_left _ hq), List.foldl_cons,
      List.foldl_nil]
    obtain ⟨l, hl⟩ := Option.isSome_iff_exists.1 (h p (by simp))
    have hkey : l.rolloverId = rid ∧ l.studentId = p.studentId := by simpa using List.find?_some hl
    have hany : ((t.lines.map (LineRow.storeAll rid ps)).any fun l =>
        l.rolloverId = rid ∧ l.studentId = p.studentId) = true := by
      rw [List.any_eq_true]
      have hsame := sameKey_storeAll rid ps l
      exact ⟨_, List.mem_map_of_mem (List.mem_of_find?_eq_some hl),
        by simp [hsame.rolloverId, hsame.studentId, hkey]⟩
    unfold upsertLine
    rw [if_pos hany]
    simp only [Tables.setLines, updateWhere, List.map_map]
    congr 1
    refine List.map_congr_left fun x _ => ?_
    simp only [Function.comp, decide_eq_true_eq, storeAll_append]
    rfl

/-- Lines are no facts. -/
theorem OnlyLines.planFacts_eq {d d' : Db} (h : OnlyLines d d') (y : Nat) :
    planFacts d'.val y = planFacts d.val y := by
  obtain ⟨lines, seq, hval⟩ := h
  rw [hval]
  rfl

/-- **Recomputing again changes nothing** when the facts are the same. -/
theorem recompute_again {rid y : Nat} {d d₁ d₂ : Db}
    (h : recomputeRolloverLines rid y d = .ok () d₁) (hlines : d₂.val.lines = d₁.val.lines)
    (hfacts : planFacts d₂.val y = planFacts d.val y) :
    recomputeRolloverLines rid y d₂ = .ok () d₂ := by
  have hrec := recompute_lines h
  have hps := hrec.proposals_eq hlines hfacts
  obtain ⟨blanks, -, hmap⟩ := hrec.lines
  have hline : ∀ p ∈ proposals d₂.val rid y, (d₂.val.lineFor rid p.studentId).isSome := by
    intro p hp
    rw [hps] at hp
    obtain ⟨q, l, hl, -⟩ := hrec.lineFor (List.mem_map_of_mem hp)
    rw [Tables.lineFor, hlines]
    exact Option.isSome_of_eq_some hl
  -- no line is dropped
  have hkept : (d₂.val.lines.filter fun l => ¬(l.rolloverId = rid ∧
      l.studentId ∉ (proposals d₂.val rid y).map ProposedLine.studentId)) = d₂.val.lines := by
    refine List.filter_eq_self.2 fun l hl => ?_
    rw [hlines] at hl
    simp only [not_and, not_not, decide_eq_true_eq]
    intro hr
    obtain ⟨p, hp, l₀, rfl, -, hs, -⟩ := hrec.stored hl hr
    rw [hps]
    exact List.mem_map.2 ⟨p, hp, hs.symm⟩
  -- and every line has its last proposal already
  have hstored : d₂.val.lines.map (LineRow.storeAll rid (proposals d₂.val rid y)) =
      d₂.val.lines := by
    rw [hps, hlines, hmap, List.map_map]
    exact List.map_congr_left fun l _ => storeAll_storeAll rid _ l
  obtain ⟨d₃, hloop, hval⟩ := forM_exec_of (e := PyError.databaseError)
    (f := fun p t => upsertLine t rid p) (proposals d₂.val rid y) (s := d₂) fun ys hys => by
      rw [foldl_upsertLine_old fun p hp => hline p (hys.subset hp)]
      exact ok_stored fun p hp => hys.subset hp
  have hsame : d₃ = d₂ := by
    rw [foldl_upsertLine_old hline, hstored] at hval
    exact Checked.ext hval
  rw [hsame] at hloop
  have hread : getRolloverPlanFacts y d₂ = .ok (planFacts d₂.val y) d₂ :=
    getRolloverPlanFacts_of (by rw [hfacts]; exact hrec.ordinals)
  refine bind_eq_ok.2 ⟨_, d₂, hread, ?_⟩
  simp only [query_bind, views_lineFor]
  show upsertRolloverLines rid (proposals d₂.val rid y) d₂ = .ok () d₂
  refine transaction_eq_ok.2 (bind_eq_ok.2 ⟨(), d₂, exec_eq_ok.2 ?_, hloop⟩)
  rw [hkept]

/-! ## One step -/

/-- The call recomputes the rollover, if its checks pass. -/
def Op.Replans (r : RolloverRow) : Op → Prop
  | .generateRolloverPlan _ f t _ => f = r.fromYearId ∧ t = r.toYearId
  | .previewRollover _ rid => rid = r.id
  | _ => False

/-- The step leaves the line to itself: its student has a fact if its rollover is recomputed, and
it is not overridden again. -/
structure LeavesLine (l : LineRow) (d : Db) (op : Op) : Prop where
  fact : ∀ r ∈ d.val.rollovers, r.id = l.rolloverId → op.Replans r →
    l.studentId ∈ (planFacts d.val r.fromYearId).map PlanFact.studentId
  own : ∀ u a lv sec, op ≠ .overrideRolloverLine u l.id a lv sec

/-- `l'` is the line `l`, with the same override and the same section. -/
structure LineRow.SameOverride (l l' : LineRow) : Prop where
  id : l'.id = l.id
  rolloverId : l'.rolloverId = l.rolloverId
  studentId : l'.studentId = l.studentId
  overrideAction : l'.overrideAction = l.overrideAction
  toSectionLabel : l'.toSectionLabel = l.toSectionLabel

theorem LineRow.SameOverride.trans {l l' l'' : LineRow} (h : l.SameOverride l')
    (h' : l'.SameOverride l'') : l.SameOverride l'' :=
  ⟨h'.id.trans h.id, h'.rolloverId.trans h.rolloverId, h'.studentId.trans h.studentId,
    h'.overrideAction.trans h.overrideAction, h'.toSectionLabel.trans h.toSectionLabel⟩

theorem sameOverride_refl (l : LineRow) : l.SameOverride l := ⟨rfl, rfl, rfl, rfl, rfl⟩

theorem LeavesLine.congr {l l' : LineRow} {d : Db} {op : Op} (h : LeavesLine l d op)
    (hs : l.SameOverride l') : LeavesLine l' d op := by
  constructor
  · intro r hr hid hre
    rw [hs.studentId]
    exact h.fact r hr (hid.trans hs.rolloverId) hre
  · intro u a lv sec
    rw [hs.id]
    exact h.own u a lv sec

/-- The line is still there, with its override and its target; its target level may be gone. -/
def Stands (l : LineRow) (gone : Nat → Prop) (d' : Db) : Prop :=
  ∃ l' ∈ d'.val.lines, l.SameOverride l' ∧
    (l'.toLevelId = l.toLevelId ∨ l'.toLevelId = none ∧ ∃ lid, l.toLevelId = some lid ∧ gone lid)

theorem stands_of_mem {l : LineRow} {gone : Nat → Prop} {d' : Db} (h : l ∈ d'.val.lines) :
    Stands l gone d' := ⟨l, h, sameOverride_refl l, .inl rfl⟩

/-- An overridden line stands through a recomputation that has a fact of its student. -/
theorem Recomputed.stands {d d' : Db} {rid y : Nat} (h : Recomputed d rid y d') {l : LineRow}
    (hl : l ∈ d.val.lines) (ho : l.overrideAction.isSome)
    (hs : l.rolloverId = rid → l.studentId ∈ (planFacts d.val y).map PlanFact.studentId)
    {gone : Nat → Prop} : Stands l gone d' := by
  by_cases hr : l.rolloverId = rid
  · obtain ⟨p, -, -, hm⟩ := h.kept hl hr (hs hr)
    have hnone : l.overrideAction.isNone = false := by
      rw [← Option.not_isSome, ho]
      rfl
    refine ⟨l.store p, hm, ⟨rfl, rfl, rfl, rfl, ?_⟩, .inl ?_⟩
    · simp [LineRow.store, hnone]
    · simp [LineRow.store, hnone]
  · have hm : l ∈ d.val.linesOf l.rolloverId := by simp [Tables.linesOf, hl]
    rw [← h.others hr] at hm
    exact stands_of_mem (List.mem_filter.1 hm).1

theorem override_step [Unicode] {d : Db} {op : Op} {l : LineRow} (hl : l ∈ d.val.lines)
    (ho : l.overrideAction.isSome) (hop : LeavesLine l d op) :
    Stands l (op.DeletesLevel d) (step d op) := by
  have hwrites := step_writes d op
  generalize step d op = d' at hwrites
  obtain ⟨r₀, hr₀, hid₀⟩ := d.ok.rollovers.line_rollover.exists_row hl rfl
  cases hwrites with
  | idle _ hlines => exact stands_of_mem (hlines ▸ hl)
  | edited _ h =>
    obtain ⟨l', hl', he⟩ := h.kept hl
    exact ⟨l', hl', ⟨he.id, he.rolloverId, he.studentId, he.overrideAction, he.toSectionLabel⟩,
      he.toLevelId⟩
  | created h =>
    rcases h.state with ⟨-, rfl⟩ | ⟨-, seq, hval⟩
    · exact stands_of_mem hl
    · exact stands_of_mem (by rw [hval]; exact hl)
  | generated hcreated h =>
    rename_i u f t c r d₁
    obtain ⟨hl₁, hfacts, hr₁⟩ : l ∈ d₁.val.lines ∧ planFacts d₁.val f = planFacts d.val f ∧
        r₀ ∈ d₁.val.rollovers := by
      rcases hcreated.state with ⟨-, rfl⟩ | ⟨-, seq, hval⟩
      · exact ⟨hl, rfl, hr₀⟩
      · rw [hval]
        exact ⟨hl, rfl, List.mem_append_left _ hr₀⟩
    refine h.stands hl₁ ho fun hr => ?_
    -- the rollover of the line is the one that was found
    have hfound : r ∈ d₁.val.rollovers := by
      rcases hcreated.state with ⟨hm, rfl⟩ | ⟨-, seq, hval⟩
      · exact hm
      · simp [hval]
    obtain rfl := Db.rollover_unique hr₁ hfound (hid₀.trans hr)
    have hsid := hop.fact r₀ hr₀ hid₀ ⟨hcreated.from_eq.symm, hcreated.to_eq.symm⟩
    rwa [hfacts, ← hcreated.from_eq]
  | previewed hfound hstate h hwritten =>
    rename_i u rid r d₁
    have hstands : Stands l (Op.DeletesLevel d (.previewRollover u rid)) d₁ := by
      refine h.stands hl ho fun hr => ?_
      obtain ⟨hm, hrid⟩ := d.ok.keys.rollovers.find?_eq_some.1 hfound
      exact hop.fact r hm (hrid.trans hr.symm) hrid.symm
    rcases hwritten with rfl | hval
    · exact hstands
    · unfold Stands
      rw [hval]
      exact hstands
  | overridden hallowed hfound hover hwritten =>
    rename_i u lid a lv sec x x'
    refine stands_of_mem ?_
    rw [hwritten]
    refine mem_updateWhere_of_not hl ?_
    simp only [decide_eq_false_iff_not]
    exact fun he => hop.own u a lv sec (by rw [he])
  | performed hfound hstate hp =>
    rename_i u rid c r resolved
    refine ⟨if l ∈ d.val.openLines r.id then l.close resolved else l, ?_, ?_⟩
    · rw [hp.lines]
      exact List.mem_map_of_mem (f := fun l =>
        if l ∈ d.val.openLines r.id then l.close resolved else l) hl
    · unfold LineRow.close
      split_ifs <;> exact ⟨⟨rfl, rfl, rfl, rfl, rfl⟩, .inl rfl⟩

/-! ## Runs -/

/-- The step does not delete the target level of the line. -/
def SparesTarget (l : LineRow) (d : Db) (op : Op) : Prop :=
  ∀ lid, l.toLevelId = some lid → ¬op.DeletesLevel d lid

/-- An overridden line stands through a run that leaves it alone. -/
theorem override_run [Unicode] {d : Db} {ops : List Op} {l : LineRow} (hl : l ∈ d.val.lines)
    (ho : l.overrideAction.isSome) (hC : EachStep step (LeavesLine l) d ops) :
    ∃ l' ∈ (run step d ops).val.lines, l.SameOverride l' ∧ (l'.toLevelId = l.toLevelId ∨
      l'.toLevelId = none ∧ ¬EachStep step (SparesTarget l) d ops) := by
  induction ops generalizing d l with
  | nil => exact ⟨l, hl, sameOverride_refl l, .inl rfl⟩
  | cons op ops ih =>
    obtain ⟨hop, hops⟩ := hC
    obtain ⟨l₁, hl₁, hsame, hto⟩ := override_step hl ho hop
    have ho₁ : l₁.overrideAction.isSome := by rwa [hsame.overrideAction]
    obtain ⟨l₂, hl₂, hsame', hto'⟩ := ih hl₁ ho₁ (hops.mono fun d op h => h.congr hsame)
    refine ⟨l₂, hl₂, hsame.trans hsame', ?_⟩
    rcases hto with hto | ⟨hnone, lid, hlid, hgone⟩
    · have hspare : ∀ d op, SparesTarget l d op → SparesTarget l₁ d op := by
        intro d op h lid hlid
        exact h lid (hto ▸ hlid)
      rw [hto] at hto'
      exact hto'.imp_right fun h => ⟨h.1, fun hC => h.2 (hC.2.mono hspare)⟩
    · -- the level went with this step
      refine .inr ⟨?_, fun hC => hC.1 lid hlid hgone⟩
      rcases hto' with h | h
      · exact h.trans hnone
      · exact h.1

/-- **Overrides survive recomputation.** In a run of any operations, every overridden line whose
student has a fact whenever its rollover is recomputed keeps its override and its target, except
that deleting the target level nulls it; and recomputing again with the same facts changes
nothing. -/
theorem overrides_survive [Unicode] (d : Db) (ops : List Op) :
    (∀ l ∈ d.val.lines, l.overrideAction.isSome → EachStep step (LeavesLine l) d ops →
      ∃ l' ∈ (run step d ops).val.lines, l.SameOverride l' ∧ (l'.toLevelId = l.toLevelId ∨
        l'.toLevelId = none ∧ ¬EachStep step (SparesTarget l) d ops)) ∧
      ∀ (rid y : Nat) (d₁ d₂ : Db), recomputeRolloverLines rid y d = .ok () d₁ →
        d₂.val.lines = d₁.val.lines → planFacts d₂.val y = planFacts d.val y →
          recomputeRolloverLines rid y d₂ = .ok () d₂ :=
  ⟨fun _ hl ho hC => override_run hl ho hC, fun _ _ _ _ h hlines hfacts =>
    recompute_again h hlines hfacts⟩

/-- The line of the rollover is overridden to promote into another section. -/
def overriddenSchool : Db := smallRun [.generateRolloverPlan ["school_admin"] 1 2 none,
  .overrideRolloverLine ["school_admin"] 100 (some "promote") (some 2) (some "B")]

def overriddenLine : LineRow :=
  ⟨100, 100, 1, some 1, some 2, some "B", none, .promote, some .promote, none, false⟩

theorem overriddenSchool_state : overriddenSchool.val.lines = [overriddenLine] ∧
    overriddenSchool.val.rollovers = [⟨100, 1, 2, .draft, none, none⟩] ∧
    (planFacts overriddenSchool.val 1).map PlanFact.studentId = [1] ∧
    returns (recomputeRolloverLines 100 1) overriddenSchool = true := by
  decide +kernel

/-- Every rollover there is keeps a fact of the line's student. -/
theorem leavesLine_of {d : Db} {op : Op} {x : RolloverRow}
    (hroll : d.val.rollovers = [x]) (hfact : overriddenLine.studentId ∈
      (planFacts d.val x.fromYearId).map PlanFact.studentId)
    (h : ∀ u lid a lv sec, op ≠ .overrideRolloverLine u lid a lv sec) :
    LeavesLine overriddenLine d op := by
  refine ⟨fun r hr _ _ => ?_, fun u a lv sec => h u _ a lv sec⟩
  rw [hroll, List.mem_singleton] at hr
  rwa [hr]

theorem overrides_survive_overridden :
    (∃ l' ∈ (run (@step ascii) overriddenSchool [.previewRollover ["school_admin"] 100]).val.lines,
      overriddenLine.SameOverride l' ∧ (l'.toLevelId = some 2 ∨ l'.toLevelId = none ∧
        ¬EachStep (@step ascii) (SparesTarget overriddenLine) overriddenSchool
          [.previewRollover ["school_admin"] 100])) ∧
      ∃ d₁, recomputeRolloverLines 100 1 overriddenSchool = .ok () d₁ ∧
        recomputeRolloverLines 100 1 d₁ = .ok () d₁ := by
  obtain ⟨hlines, hroll, hfacts, hret⟩ := overriddenSchool_state
  have h := @overrides_survive ascii overriddenSchool [.previewRollover ["school_admin"] 100]
  constructor
  · refine h.1 overriddenLine (by simp [hlines]) rfl ⟨?_, trivial⟩
    exact leavesLine_of hroll (by rw [hfacts]; simp [overriddenLine]) (by simp)
  · obtain ⟨⟨⟩, d₁, hok⟩ := returns_iff.1 hret
    exact ⟨d₁, hok, h.2 100 1 d₁ d₁ hok rfl ((recompute_lines hok).only.planFacts_eq 1)⟩

/-- The target level is deleted. -/
def targetDeleted : List Op := [.deleteLevel ["school_admin"] 2 none,
  .generateRolloverPlan ["school_admin"] 1 2 none]

theorem targetDeleted_state :
    (run (@step ascii) overriddenSchool targetDeleted).val.lines =
      [⟨100, 100, 1, some 1, none, some "B", none, .graduate, some .promote, some .noNextLevel,
        false⟩] ∧
    (@step ascii overriddenSchool (.deleteLevel ["school_admin"] 2 none)).val.rollovers =
      [⟨100, 1, 2, .draft, none, none⟩] ∧
    (planFacts (@step ascii overriddenSchool (.deleteLevel ["school_admin"] 2 none)).val 1).map
      PlanFact.studentId = [1] := by
  decide +kernel

/-- The line keeps its override and loses its target level. -/
theorem override_target_nulled : ¬∀ (d : Db) (ops : List Op), ∀ l ∈ d.val.lines,
    l.overrideAction.isSome → EachStep (@step ascii) (LeavesLine l) d ops →
      ∃ l' ∈ (run (@step ascii) d ops).val.lines, l.SameOverride l' ∧
        l'.toLevelId = l.toLevelId := by
  intro h
  obtain ⟨hlines, hroll, hfacts, -⟩ := overriddenSchool_state
  obtain ⟨hend, hroll', hfacts'⟩ := targetDeleted_state
  obtain ⟨l', hl', -, hto⟩ := h overriddenSchool targetDeleted overriddenLine (by simp [hlines]) rfl
    ⟨leavesLine_of hroll (by rw [hfacts]; simp [overriddenLine]) (by simp),
      leavesLine_of hroll' (by rw [hfacts']; simp [overriddenLine]) (by simp), trivial⟩
  rw [hend, List.mem_singleton] at hl'
  subst hl'
  cases hto

end Sams.School
