import Sams.School.Found

/-!
# The preview of an import and the import

`preview_import_rows` and `import_academic_rows` go through the rows of a file with the
same `_resolve_import_row`; the preview leaves out the writes. So the preview sees every
row in the school as it is, and the import sees it in the school that the rows before have
made, as it has come to lie.

**`preview_agrees_iff`**: the import answers every row as the preview did exactly when each row
finds at its turn a grade and a class if the preview found them and none where it did not, no row is
refused, and the tables take what the rows write.
-/

namespace Sams.School

open Programs Rows Runs Layouts Slots TenantRepository

section Law

variable [Unicode]

/-! ## What the rows before have added -/

/-- The row finds its class in the tables. -/
def findsClass (row : ImportRow) (t : Tables) (name : String) : Bool :=
  ((gradeNamed t row.grade).bind fun l => classNamed t name l.levelId).isSome

/-- No row before names the grade that this one would add to the tables; and it finds a class as
they lie at its turn, or one that a row before has added, exactly if it finds one as they lie. -/
structure FirstToName (lying : Nat → Lying) (rows : List ImportRow) (d : Db) (n : Nat)
    (row : ImportRow) :
    Prop where
  grade : gradeNamed d.val row.grade = none →
    ∀ m r, m < n → rows[m]? = some r → r.Whole → nameKey r.grade ≠ nameKey row.grade
  class_ : ∀ name ∈ row.class?, ∀ y ∈ activeYear d.val,
    (findsClass row d.val name ↔ findsClass row (d.laid (lying n)).val name ∨
      ∃ m r, m < n ∧ rows[m]? = some r ∧ r.Whole ∧ ∃ name' ∈ r.class?,
        classTarget (lying n) d row name y = classTarget (lying m) d r name' y)

section Growth

variable {lying : Nat → Lying} {ordinals : List (String × Int)} {d e : Db}
    {row : ImportRow} {ℓ : Lying}

theorem isSome_gradeNamed_laid (e : Db) (ℓ : Lying) (name : String) :
    (gradeNamed (e.laid ℓ).val name).isSome = (gradeNamed e.val name).isSome := isSome_find?_lay

/-- A row is for a level of the start if its grade is there. -/
theorem isSome_levelTarget (row : ImportRow) :
    (levelShape.at d.val.levels d.val.levels (levelTarget ℓ d row)).isSome =
    (gradeNamed d.val row.grade).isSome := by
  rw [← isSome_gradeNamed_laid d ℓ, gradeNamed_laid]
  unfold levelTarget
  rw [(grown_refl (T := levelShape) d.ok.keys.levels).at_target, Option.isSome_map]

/-- Two rows are for one new level if they name it alike. -/
theorem levelTarget_eq {ℓ' : Lying} {r : ImportRow} (hnew : gradeNamed d.val row.grade = none) :
    levelTarget ℓ d row = levelTarget ℓ' d r ↔ nameKey r.grade = nameKey row.grade := by
  have hnone : ∀ ℓ : Lying, levelShape.named ℓ.levels d.val.levels (nameKey row.grade) = none := by
    intro ℓ
    have hsome := isSome_gradeNamed_laid d ℓ row.grade
    rw [hnew, gradeNamed_laid] at hsome
    exact Option.not_isSome_iff_eq_none.1 (by rw [hsome]; simp)
  unfold levelTarget Shape.target
  rw [hnone]
  constructor
  · intro h
    cases hfound : levelShape.named ℓ'.levels d.val.levels (nameKey r.grade) with
    | some x =>
      rw [hfound] at h
      cases h
    | none =>
      rw [hfound] at h
      exact (Sum.inr.inj h).symm
  · intro h
    rw [h, hnone]

section Imported

variable {rows : List (ImportRow × Nat)} {level : Nat → Nat ⊕ String}
  (h : Imported lying ordinals rows level d e)

include h

/-- A row finds its grade if it was there or a row before names it. -/
theorem Imported.grade_iff :
    (gradeNamed (e.laid ℓ).val row.grade).isSome ↔ (gradeNamed d.val row.grade).isSome ∨
    ∃ p ∈ rows, p.1.Whole ∧ levelTarget ℓ d row = levelTarget (lying p.2) d p.1 := by
  rw [gradeNamed_laid, ← Option.isSome_map (f := levelShape.content), ← h.levels.grown.at_target,
    h.levels.wrote, isSome_written]
  refine or_congr ?_ ?_
  · rw [← isSome_levelTarget (ℓ := ℓ) row]
    rfl
  · unfold levelEntries
    simp only [List.mem_map, List.mem_filter, decide_eq_true_eq]
    constructor
    · rintro ⟨u, ⟨p, ⟨hp, hwhole⟩, rfl⟩, htarget⟩
      exact ⟨p, hp, hwhole, htarget⟩
    · rintro ⟨p, hp, hwhole, htarget⟩
      exact ⟨_, ⟨p, ⟨hp, hwhole⟩, rfl⟩, htarget⟩

/-- A row finds its class where it is in the slot of the row. -/
theorem Imported.findsClass_iff {name : String} {y : Nat} (hyear : activeYear d.val = some y) :
    findsClass row (e.laid ℓ).val name ↔
      ((classShape level).at d.val.classes e.val.classes (classTarget ℓ d row name y)).isSome := by
  have hyear' : activeYear e.val = some y := h.spared.activeYear.trans hyear
  have hknown : Knows level d d := h.knows.before h.levels
  have hslot :=
    h.classes.grown.at_target (ℓ := ℓ.classes) (k := (levelTarget ℓ d row, nameKey name, y))
  rw [target_known hknown] at hslot
  unfold classTarget
  rw [hslot, Option.isSome_map]
  unfold findsClass
  cases hgrade : gradeNamed (e.laid ℓ).val row.grade with
  | some l =>
    have hnamed : levelShape.named ℓ.levels e.val.levels (nameKey row.grade) = some l :=
      (gradeNamed_laid row.grade).symm.trans hgrade
    have hl : l ∈ e.val.levels := ((named_eq_some (T := levelShape) e.ok.keys.levels).1 hnamed).1.1
    have hlevel : level l.levelId = levelTarget ℓ d row :=
      (h.knows l hl).trans (h.levels.grown.find?_slot hnamed)
    rw [Option.bind_some,
      classNamed_laid h.knows h.levels.grown (fun l hl => List.mem_map_of_mem hl)
      (List.mem_map_of_mem hl) hyear', hlevel]
  | none =>
    -- no class is of a level that is not there
    have hnone : levelShape.at d.val.levels e.val.levels (levelTarget ℓ d row) = none := by
      have hat := h.levels.grown.at_target (ℓ := ℓ.levels) (k := nameKey row.grade)
      rw [← gradeNamed_laid, hgrade] at hat
      exact hat
    have habsent : (classShape level).named ℓ.classes e.val.classes
        (levelTarget ℓ d row, nameKey name, y) = none := by
      refine named_eq_none.2 fun c hc hname => ?_
      obtain ⟨l, hl, hid⟩ := e.ok.placements.class_level.exists_row hc rfl
      refine at_eq_none.1 hnone l hl ?_
      rw [← h.knows l hl, hid]
      exact congrArg Prod.fst hname
    rw [habsent]
    rfl

/-- A row finds its class if it found it at the start or a row before is for it. -/
theorem Imported.class_iff {name : String} {y : Nat} (hyear : activeYear d.val = some y) :
    findsClass row (e.laid ℓ).val name ↔ findsClass row (d.laid ℓ).val name ∨
      ∃ p ∈ rows, p.1.Whole ∧ ∃ name' ∈ p.1.class?,
        classTarget ℓ d row name y = classTarget (lying p.2) d p.1 name' y := by
  have hstart : Imported lying ordinals [] level d d :=
    ⟨h.knows.before h.levels,
      written_perm (grown_refl (T := levelShape) d.ok.keys.levels) (.refl _),
      written_perm (grown_refl (T := classShape level) d.ok.keys.classes) (.refl _), spared_refl d⟩
  rw [h.findsClass_iff hyear, hstart.findsClass_iff hyear, h.classes.wrote, isSome_written]
  refine or_congr_right ?_
  unfold classEntries
  simp only [List.mem_flatMap, List.mem_filter, decide_eq_true_eq]
  constructor
  · rintro ⟨u, ⟨p, ⟨hp, hwhole⟩, hu⟩, htarget⟩
    unfold classEntry? at hu
    rw [hyear] at hu
    cases hname : p.1.class? with
    | none =>
      rw [hname] at hu
      cases hu
    | some name' =>
      rw [hname, List.mem_singleton] at hu
      subst hu
      exact ⟨p, hp, hwhole, name', hname, htarget⟩
  · rintro ⟨p, hp, hwhole, name', hname, htarget⟩
    refine ⟨classEntry (lying p.2) d p.1 name' y, ⟨p, ⟨hp, hwhole⟩, ?_⟩, htarget⟩
    unfold classEntry?
    rw [hyear, Option.mem_def.1 hname]
    exact List.mem_singleton_self _

end Imported

omit [Unicode] in
theorem gradeActions_eq_iff (g g' : Bool) : ((if g then "update_grade" else "create_grade") =
    if g' then "update_grade" else "create_grade") ↔ g = g' := by
  revert g g'
  decide

omit [Unicode] in
theorem actions_eq_iff (g k g' k' : Bool) :
    ((if g then "update_grade" else "create_grade") ++ "+" ++
        (if k then "update_class" else "create_class") =
      (if g' then "update_grade" else "create_grade") ++ "+" ++
        if k' then "update_class" else "create_class") ↔ g = g' ∧ k = k' := by
  revert g k g' k'
  decide

omit [Unicode] in
/-- The rows before the `n`th, with their numbers. -/
theorem mem_take_zipIdx {rows : List ImportRow} {n : Nat} {p : ImportRow × Nat} :
    p ∈ rows.zipIdx.take n ↔ p.2 < n ∧ rows[p.2]? = some p.1 := by
  rw [List.mem_take_iff_getElem]
  constructor
  · rintro ⟨m, hm, rfl⟩
    rw [List.length_zipIdx, Nat.lt_min] at hm
    rw [List.getElem_zipIdx]
    dsimp only
    rw [Nat.zero_add]
    exact ⟨hm.1, List.getElem?_eq_getElem hm.2⟩
  · rintro ⟨hn, hp⟩
    obtain ⟨hlt, hval⟩ := List.getElem?_eq_some_iff.1 hp
    refine ⟨p.2, by rw [List.length_zipIdx]; omega, ?_⟩
    rw [List.getElem_zipIdx, hval, Nat.zero_add]

section Turn

variable {rows : List ImportRow} {n : Nat} {level : Nat → Nat ⊕ String}

/-- A row finds at its turn a grade that was not there if a row before has added it. -/
theorem Imported.grade_kept (h : Imported lying ordinals (rows.zipIdx.take n) level d e) :
    (gradeNamed (e.laid (lying n)).val row.grade).isSome = (gradeNamed d.val row.grade).isSome ↔
      (gradeNamed d.val row.grade = none → ∀ m r, m < n → rows[m]? = some r → r.Whole →
        nameKey r.grade ≠ nameKey row.grade) := by
  rw [Bool.eq_iff_iff, h.grade_iff]
  cases hg : gradeNamed d.val row.grade with
  | some l => simp
  | none =>
    simp only [Option.isSome_none, Bool.false_eq_true, false_or, iff_false, forall_const]
    constructor
    · intro hnone m r hm hr hwhole hsame
      exact hnone ⟨(r, m), mem_take_zipIdx.2 ⟨hm, hr⟩, hwhole, (levelTarget_eq hg).2 hsame⟩
    · rintro hfirst ⟨p, hp, hwhole, htarget⟩
      obtain ⟨hm, hr⟩ := mem_take_zipIdx.1 hp
      exact hfirst p.2 p.1 hm hr hwhole ((levelTarget_eq hg).1 htarget)

/-- And so with its class. -/
theorem Imported.class_kept (h : Imported lying ordinals (rows.zipIdx.take n) level d e)
    {name : String} {y : Nat} (hyear : activeYear d.val = some y) :
    findsClass row (e.laid (lying n)).val name ↔ findsClass row (d.laid (lying n)).val name ∨
      ∃ m r, m < n ∧ rows[m]? = some r ∧ r.Whole ∧ ∃ name' ∈ r.class?,
        classTarget (lying n) d row name y = classTarget (lying m) d r name' y := by
  rw [h.class_iff hyear]
  refine or_congr_right ⟨?_, ?_⟩
  · rintro ⟨p, hp, hwhole, hrest⟩
    obtain ⟨hm, hr⟩ := mem_take_zipIdx.1 hp
    exact ⟨p.2, p.1, hm, hr, hwhole, hrest⟩
  · rintro ⟨m, r, hm, hr, hwhole, hrest⟩
    exact ⟨(r, m), mem_take_zipIdx.2 ⟨hm, hr⟩, hwhole, hrest⟩

/-- **The action of a row at its turn** is that of the start if no row before has
added what it finds. -/
theorem Imported.action_iff (h : Imported lying ordinals (rows.zipIdx.take n) level d e)
    (hyear : row.class?.isSome → (activeYear d.val).isSome) :
    row.action (e.laid (lying n)).val = row.action d.val ↔ FirstToName lying rows d n row := by
  cases hname : row.class? with
  | none =>
    have hactions : ∀ t : Tables, row.action t =
        if (gradeNamed t row.grade).isSome then "update_grade" else "create_grade" := fun t => by
      unfold ImportRow.action
      rw [hname]
      rfl
    rw [hactions, hactions, gradeActions_eq_iff, h.grade_kept]
    exact ⟨fun h => ⟨h, by simp [hname]⟩, fun h => h.grade⟩
  | some name =>
    have hactions : ∀ t : Tables, row.action t =
        (if (gradeNamed t row.grade).isSome then "update_grade" else "create_grade") ++ "+" ++
          if findsClass row t name then "update_class" else "create_class" := fun t => by
      unfold ImportRow.action
      rw [hname]
      rfl
    obtain ⟨y, hy⟩ := Option.isSome_iff_exists.1 (hyear (by rw [hname]; rfl))
    rw [hactions, hactions, actions_eq_iff, h.grade_kept, Bool.eq_iff_iff, h.class_kept hy]
    constructor
    · rintro ⟨hfirst, hsame⟩
      refine ⟨hfirst, fun name' hname' y' hy' => ?_⟩
      rw [hname, Option.mem_some_iff] at hname'
      rw [Option.mem_def, hy, Option.some.injEq] at hy'
      subst hname' hy'
      exact hsame.symm
    · intro hfirst
      exact ⟨hfirst.grade, (hfirst.class_ name hname y hy).symm⟩

end Turn

end Growth

/-! ## The law -/

/-- For every preview of the rows the import returns, wherever the tables come to lie, and answers
every row the same. -/
def PreviewAgrees (lying : Nat → Lying) (rows : List ImportRow) (d : Db) : Prop :=
  ∀ results d₁, previewImportRows rows d = .ok results d₁ →
    ∃ results' d₂, importAcademicRowsLying lying rows d₁ = .ok results' d₂ ∧
      results'.map RowResult.verdict = results.map RowResult.verdict

/-- Rows that are written or skipped are imported. -/
theorem importing_written {lying : Nat → Lying} {ordinals : List (String × Int)}
    {rows : List (ImportRow × Nat)} {d : Db}
    (h : EachStep (importStep lying ordinals) (fun d p => ¬p.1.Refused (d.laid (lying p.2)).val ∧
      (p.1.Whole → p.1.Writable ordinals (d.laid (lying p.2)))) d rows) :
    ∃ results, importingLying lying ordinals rows d =
      .ok results (run (importStep lying ordinals) d rows) := by
  induction rows generalizing d with
  | nil => exact ⟨[], rfl⟩
  | cons p rows ih =>
    obtain ⟨⟨hquiet, hwritable⟩, hrest⟩ := h
    have hrow : ∃ r d₁, resolveImportRow ordinals true (p.2 + 2) p.1 (d.laid (lying p.2)) =
        .ok r d₁ := by
      by_cases hwhole : p.1.Whole
      · obtain ⟨r, d₁, hr, -⟩ := resolve_writable (p.2 + 2) hquiet hwhole (hwritable hwhole)
        exact ⟨r, d₁, hr⟩
      · rcases resolve_cases ordinals (p.2 + 2) p.1 (d.laid (lying p.2)) with
          ⟨hrefused, -⟩ | ⟨-, -, r, -, hr⟩ | ⟨-, hw, -⟩
        · exact absurd hrefused hquiet
        · exact ⟨r, _, hr true⟩
        · exact absurd hw hwhole
    obtain ⟨r, d₁, hr⟩ := hrow
    have hstep : importStep lying ordinals d p = d₁ := after_ok hr
    obtain ⟨rs, hrs⟩ := ih hrest
    rw [run_cons]
    exact ⟨r :: rs, importingLying_cons.2 ⟨r, rs, _, hr.trans (by rw [hstep]), rfl, hrs, rfl⟩⟩

/-- Where there is a preview, the import agrees with it if each row finds at its turn what the
preview found. -/
theorem previewAgrees_iff_steady {lying : Nat → Lying} {rows : List ImportRow} {d : Db}
    (hquiet : ∀ row ∈ rows, ¬row.Refused d.val) : PreviewAgrees lying rows d ↔
      EachStep (importStep lying (plannedOrdinals rows d))
        (Steady lying (plannedOrdinals rows d) d.val) d rows.zipIdx := by
  have hnumbered : ∀ p ∈ rows.zipIdx, ¬p.1.Refused d.val := fun p hp => by
    have hfst := List.mem_map_of_mem (f := Prod.fst) hp
    rw [List.zipIdx_map_fst] at hfst
    exact hquiet _ hfst
  obtain ⟨results, hresults⟩ : ∃ results, previewImportRows rows d = .ok results d :=
    previewing_returns hnumbered
  have hverdicts := (previewing_ok hresults).2.2
  rw [← importing_iff d.val, ← hverdicts]
  constructor
  · intro h
    exact h results d hresults
  · intro h results₁ d₁ h₁
    rw [hresults] at h₁
    cases h₁
    exact h

/-- The rows before the `n`th are imported if each of them is written or skipped at its turn. -/
theorem imported_left {lying : Nat → Lying} {rows : List ImportRow} {d : Db} {n : Nat}
    (hbefore : ∀ k (hk : k < rows.length), k < n → ¬rows[k].Refused (turn lying rows d k).val ∧
      (rows[k].Whole → rows[k].Writable (plannedOrdinals rows d) (turn lying rows d k))) :
    Imported lying (plannedOrdinals rows d) (rows.zipIdx.take n) (levelOf d (left lying rows d n)) d
      (left lying rows d n) := by
  have heach : EachStep (importStep lying (plannedOrdinals rows d)) (fun d' p =>
      ¬p.1.Refused (d'.laid (lying p.2)).val ∧
        (p.1.Whole → p.1.Writable (plannedOrdinals rows d) (d'.laid (lying p.2)))) d
      (rows.zipIdx.take n) := by
    rw [eachStep_iff_getElem]
    intro k hk
    rw [List.length_take, List.length_zipIdx] at hk
    rw [List.getElem_take, List.getElem_zipIdx, List.take_take, min_eq_left (by omega),
      Nat.zero_add]
    exact hbefore k (by omega) (by omega)
  obtain ⟨results', h⟩ := importing_written heach
  exact imported h (knows_levelOf _ _)

/-- At its turn a row is as steady as the condition says, if the rows before were written or
skipped. -/
theorem steady_iff {lying : Nat → Lying} {rows : List ImportRow} {d : Db} {n : Nat}
    (hn : n < rows.length) (hbefore : ∀ k (hk : k < rows.length), k < n →
      ¬rows[k].Refused (turn lying rows d k).val ∧
        (rows[k].Whole → rows[k].Writable (plannedOrdinals rows d) (turn lying rows d k))) :
    Steady lying (plannedOrdinals rows d) d.val (left lying rows d n) (rows[n], n) ↔
      ¬rows[n].Refused (turn lying rows d n).val ∧
        (rows[n].Whole → FirstToName lying rows d n rows[n] ∧
          rows[n].Writable (plannedOrdinals rows d) (turn lying rows d n)) := by
  have himp := imported_left hbefore
  have haction : rows[n].Writable (plannedOrdinals rows d) (turn lying rows d n) →
      (rows[n].action (turn lying rows d n).val = rows[n].action d.val ↔
        FirstToName lying rows d n rows[n]) := fun hwritable =>
    himp.action_iff fun hname => by
      rw [← himp.spared.activeYear]
      exact hwritable.year hname
  constructor
  · intro h
    refine ⟨h.quiet, fun hwhole => ?_⟩
    obtain ⟨hsame, hwritable⟩ := h.written hwhole
    exact ⟨(haction hwritable).1 hsame, hwritable⟩
  · rintro ⟨hquiet, hrow⟩
    refine ⟨hquiet, fun hwhole => ?_⟩
    obtain ⟨hfirst, hwritable⟩ := hrow hwhole
    exact ⟨(haction hwritable).2 hfirst, hwritable⟩

/-- **Preview and import** agree exactly when there is no preview, or no row is refused, no row
finds what a row before it has added where the preview found nothing, and the writes of no row are
refused. -/
theorem preview_agrees_iff (lying : Nat → Lying) (rows : List ImportRow) (d : Db) :
    PreviewAgrees lying rows d ↔ (∃ row ∈ rows, row.Refused d.val) ∨
      ∀ n (hn : n < rows.length), ¬rows[n].Refused (turn lying rows d n).val ∧
        (rows[n].Whole → FirstToName lying rows d n rows[n] ∧
          rows[n].Writable (plannedOrdinals rows d) (turn lying rows d n)) := by
  by_cases hrefused : ∃ row ∈ rows, row.Refused d.val
  · refine iff_of_true (fun results d₁ h => ?_) (.inl hrefused)
    obtain ⟨row, hrow, hrefused⟩ := hrefused
    rw [← List.zipIdx_map_fst 0 rows] at hrow
    obtain ⟨p, hp, rfl⟩ := List.mem_map.1 hrow
    exact absurd hrefused ((previewing_ok h).2.1 p hp)
  · rw [previewAgrees_iff_steady fun row hrow h => hrefused ⟨row, hrow, h⟩, or_iff_right hrefused,
      eachStep_iff_getElem]
    constructor
    · intro h
      have hsteady : ∀ k (hk : k < rows.length),
          Steady lying (plannedOrdinals rows d) d.val (left lying rows d k) (rows[k], k) :=
        fun k hk => by
          have := h k (by simpa using hk)
          rwa [List.getElem_zipIdx, Nat.zero_add] at this
      exact fun n hn => (steady_iff hn fun k hk _ =>
        ⟨(hsteady k hk).quiet, fun hw => ((hsteady k hk).written hw).2⟩).1 (hsteady n hn)
    · intro h n hn
      rw [List.length_zipIdx] at hn
      rw [List.getElem_zipIdx, Nat.zero_add]
      exact (steady_iff hn fun k hk _ => ⟨(h k hk).1, fun hw => ((h k hk).2 hw).2⟩).2 (h n hn)

end Law

/-! ## A grade that is named twice -/

section Example

attribute [local instance] ascii

theorem twice_previewed :
    (returned (previewImportRows [gradeRow "G9", gradeRow "G9"]) smallSchool).map
    (·.map RowResult.verdict) = some [(true, "create_grade"), (true, "create_grade")] := by
  decide +kernel

theorem twice_imported : (returned (importAcademicRowsLying (fun _ => .asInserted)
    [gradeRow "G9", gradeRow "G9"]) smallSchool).map (·.map RowResult.verdict) =
      some [(true, "create_grade"), (true, "update_grade")] := by
  decide +kernel

/-- The import updates the grade that the preview meant to create twice. -/
theorem previewed_otherwise :
    ¬PreviewAgrees (fun _ => .asInserted) [gradeRow "G9", gradeRow "G9"] smallSchool := by
  intro h
  obtain ⟨results, hresults, hverdicts⟩ := Option.map_eq_some_iff.1 twice_previewed
  obtain ⟨d₁, hpreview⟩ := returned_eq_some.1 hresults
  obtain ⟨results', d₂, himport, hagree⟩ := h results d₁ hpreview
  obtain ⟨results₁, hresults₁, hverdicts₁⟩ := Option.map_eq_some_iff.1 twice_imported
  obtain ⟨d₃, hok⟩ := returned_eq_some.1 hresults₁
  rw [(previewing_ok hpreview).1, hok] at himport
  cases himport
  rw [hverdicts₁, hverdicts] at hagree
  exact absurd hagree (by decide)

end Example

end Sams.School
