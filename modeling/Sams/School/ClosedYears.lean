import Sams.School.Frozen
import Sams.School.Removal

/-!
# Closed years are frozen

No operation asks whether the year of a class is closed. **`closed_years_frozen`**: in every run
whose calls spare the closed years (`SparesClosed`), each step leaves the classes of every closed
year and the students placed in them as they are, except that a commit may take students out.
Without the condition it does not: `closed_class_entered` places a student in a class of a closed
year.

For most operations the condition is read off their arguments. The structure editor needs more: it
resolves levels and sections by id, then by name, while it is rewriting both, and deletes what the
payload does not list. `SaveInv` is what its loops keep: the year is frozen, no level is lost, a
level that got another name got it from a payload level that names it, and no class that the
payload lists is lost.
-/

namespace Sams.School

open Programs Rows Runs TenantRepository

/-! ## What a payload names -/

/-- The id is given and is nothing in `find`. -/
def Unknown {α : Type} (find : Nat → Option α) (id : Option Nat) : Prop :=
  ∀ i, Text.nonZero id = some i → find i = none

/-- The row of a known id is found by it, and no other id is. -/
theorem resolve_id {α : Type} {find : Nat → Option α} {key : α → Nat}
    (hkey : ∀ i x, find i = some x → key x = i) (id : Option Nat) :
    (∃ i x, Text.nonZero id = some i ∧ find i = some x ∧
        Text.nonZero (((Text.nonZero id).bind find).map key) = some i) ∨
      (Unknown find id ∧ Text.nonZero (((Text.nonZero id).bind find).map key) = none) := by
  cases hid : Text.nonZero id with
  | none => exact .inr ⟨fun i hi => by simp [hid] at hi, rfl⟩
  | some i =>
    cases hx : find i with
    | none =>
      refine .inr ⟨fun j hj => ?_, by simp [hx, Text.nonZero]⟩
      rw [← Option.some.inj (hid.symm.trans hj)]
      exact hx
    | some x =>
      refine .inl ⟨i, x, rfl, hx, ?_⟩
      rw [Option.bind_some, hx, Option.map_some, hkey i x hx, Text.nonZero_eq_some]
      exact ⟨rfl, (Text.nonZero_eq_some.1 hid).2⟩

theorem level?_key {d : Db} (i : Nat) (r : LevelRow) (h : d.val.level? i = some r) :
    r.levelId = i :=
  (d.ok.keys.levels.find?_eq_some.1 h).2

theorem class?_key {d : Db} (i : Nat) (c : ClassRow) (h : d.val.class? i = some c) : c.id = i :=
  (d.ok.keys.classes.find?_eq_some.1 h).2

section Save

variable [Unicode]

/-- The payload level names the level: by its id, else by its name. -/
def LevelIn.Names (d : Db) (l : LevelIn) (lid : Nat) : Prop :=
  Text.nonZero l.levelId = some lid ∨
    Unknown d.val.level? l.levelId ∧ ∃ r ∈ d.val.levels, r.levelId = lid ∧
      sameName r.name l.cleanName

/-- It names the level, or a name that the payload gives to the level. -/
def LevelIn.Reaches (d : Db) (p : StructureIn) (l : LevelIn) (lid : Nat) : Prop :=
  l.Names d lid ∨ Unknown d.val.level? l.levelId ∧
    ∃ l₀ ∈ p.levels, l₀.Names d lid ∧ sameName l₀.cleanName l.cleanName

/-- The section of the payload level names the class: by its id, else by its level and name. -/
def SectionIn.Names (d : Db) (p : StructureIn) (l : LevelIn) (s : SectionIn)
    (c : ClassRow) : Prop :=
  Text.nonZero s.id = some c.id ∨
    Unknown d.val.class? s.id ∧ l.Reaches d p c.levelId ∧ sameName c.name (s.cleanName l.cleanName)

/-- The payload lists the class if it names its level, and whatever names the class has its
values. -/
structure StructureIn.Spares (d : Db) (p : StructureIn) (c : ClassRow) : Prop where
  listed : ∀ l ∈ p.levels, l.Names d c.levelId → c.id ∈ p.sectionIds
  under : ∀ l ∈ p.levels, ∀ s ∈ l.sections, Text.nonZero s.id = some c.id →
    Text.nonZero l.levelId = some c.levelId
  same : ∀ l ∈ p.levels, ∀ s ∈ l.sections, s.Names d p l c →
    s.cleanName l.cleanName = c.name ∧ s.cleanCapacity = c.capacity ∧
      deriveSectionLabel c.name = c.sectionLabel

theorem sameName_iff {a b : String} : sameName a b ↔ Unicode.sqlLower a = Unicode.sqlLower b := by
  simp [sameName]

/-- What resolving a payload level finds. -/
theorem findLevel_eq_some {d : Db} {l : LevelIn} {lid : Nat} (h : findLevel d.val l = some lid) :
    l.Names d lid := by
  unfold findLevel at h
  dsimp only at h
  rcases resolve_id level?_key l.levelId with ⟨i, r, hi, -, hres⟩ | ⟨hunknown, hres⟩
  · rw [hres] at h
    exact .inl (hi.trans h)
  · rw [hres] at h
    obtain ⟨r, hr, rfl⟩ := Option.map_eq_some_iff.1 h
    have hname : sameName r.name l.cleanName := by simpa using List.find?_some hr
    exact .inr ⟨hunknown, r, List.mem_of_find?_eq_some hr, rfl, hname⟩

theorem findLevel_of_id {d : Db} {l : LevelIn} {r : LevelRow} (hr : r ∈ d.val.levels)
    (h : Text.nonZero l.levelId = some r.levelId) : findLevel d.val l = some r.levelId := by
  unfold findLevel
  dsimp only
  rcases resolve_id level?_key l.levelId with ⟨i, -, hi, -, hres⟩ | ⟨hunknown, -⟩
  · rw [hres, ← h, hi]
  · have hfind := d.ok.keys.levels.find?_eq_some.2 ⟨hr, rfl⟩
    cases (hunknown _ h).symm.trans hfind

/-- What resolving a payload section finds. -/
theorem findSection_eq_some {d : Db} {lid cid : Nat} {name : String} {s : SectionIn}
    (h : findSection d.val lid name s = some cid) :
    Text.nonZero s.id = some cid ∨
      Unknown d.val.class? s.id ∧ ∃ c ∈ d.val.classes, c.id = cid ∧ c.levelId = lid ∧
        sameName c.name (s.cleanName name) := by
  unfold findSection at h
  dsimp only at h
  rcases resolve_id class?_key s.id with ⟨i, c, hi, -, hres⟩ | ⟨hunknown, hres⟩
  · rw [hres] at h
    exact .inl (hi.trans h)
  · rw [hres] at h
    obtain ⟨c, hc, rfl⟩ := Option.map_eq_some_iff.1 h
    have hname : c.levelId = lid ∧ sameName c.name (s.cleanName name) := by
      simpa using List.find?_some hc
    exact .inr ⟨hunknown, c, List.mem_of_find?_eq_some hc, rfl, hname⟩

/-! ## What the loops keep -/

/-- What holds of each state the save passes, `d` being the state it starts from. -/
structure SaveInv (d : Db) (p : StructureIn) (y : Nat) (t : Db) : Prop where
  frozen : Frozen y d t
  levels : ∀ r₀ ∈ d.val.levels, ∃ r ∈ t.val.levels, r.levelId = r₀.levelId
  names : ∀ r ∈ t.val.levels, ∀ r₀ ∈ d.val.levels, r.levelId = r₀.levelId →
    r.name = r₀.name ∨ ∃ l ∈ p.levels, l.Names d r.levelId ∧ sameName l.cleanName r.name
  listed : ∀ c ∈ d.val.classes, c.id ∈ p.sectionIds → ∃ c' ∈ t.val.classes, c'.id = c.id

theorem saveInv_refl (d : Db) (p : StructureIn) (y : Nat) : SaveInv d p y d where
  frozen := refl_of _ d
  levels r hr := ⟨r, hr, rfl⟩
  names r hr r₀ hr₀ he := .inl (by rw [Db.level_unique hr hr₀ he])
  listed c hc _ := ⟨c, hc, rfl⟩

variable {d t t' : Db} {p : StructureIn} {y : Nat} {l : LevelIn}

/-- What the payload level reaches in the state it is resolved in it reaches from the start. -/
theorem SaveInv.reaches (hI : SaveInv d p y t) {r₀ : LevelRow} (hr₀ : r₀ ∈ d.val.levels)
    (h : l.Names t r₀.levelId) : l.Reaches d p r₀.levelId := by
  rcases h with hid | ⟨hunknown, r, hr, hrid, hname⟩
  · exact .inl (.inl hid)
  · have hunknown₀ : Unknown d.val.level? l.levelId := by
      intro i hi
      cases hfind : d.val.level? i with
      | none => rfl
      | some x =>
        obtain ⟨hx, rfl⟩ := d.ok.keys.levels.find?_eq_some.1 hfind
        obtain ⟨x', hx', hid⟩ := hI.levels x hx
        cases (hunknown _ hi).symm.trans (t.ok.keys.levels.find?_eq_some.2 ⟨hx', hid⟩)
    rcases hI.names r hr r₀ hr₀ hrid with heq | ⟨l₀, hl₀, hn₀, hs₀⟩
    · exact .inl (.inr ⟨hunknown₀, r₀, hr₀, rfl, heq ▸ hname⟩)
    · refine .inr ⟨hunknown₀, l₀, hl₀, hrid ▸ hn₀, ?_⟩
      rw [sameName_iff] at *
      exact hs₀.trans hname

/-- Nothing that the invariant mentions was written. -/
theorem SaveInv.of_eq (hI : SaveInv d p y t) (hl : t'.val.levels = t.val.levels)
    (hc : t'.val.classes = t.val.classes) (hs : t'.val.students = t.val.students) :
    SaveInv d p y t' where
  frozen := trans_of _ hI.frozen (frozen_of_eq hc hs)
  levels := hl ▸ hI.levels
  names := hl ▸ hI.names
  listed := hc ▸ hI.listed

/-- Only what the payload level reaches gets its name. -/
theorem SaveInv.rename (hI : SaveInv d p y t) (hl : l ∈ p.levels) {lid : Nat}
    (hreach : ∀ r₀ ∈ d.val.levels, r₀.levelId = lid → l.Reaches d p lid)
    {f : LevelRow → LevelRow} (hid : ∀ r, (f r).levelId = r.levelId)
    (hname : ∀ r, (f r).name = l.cleanName)
    (ht : t'.val = t.val.setLevels (fun r => r.levelId = lid) f) : SaveInv d p y t' where
  frozen := trans_of _ hI.frozen (frozen_of_eq (by rw [ht]; rfl) (by rw [ht]; rfl))
  levels r₀ hr₀ := by
    obtain ⟨r, hr, he⟩ := hI.levels r₀ hr₀
    rw [ht]
    refine ⟨_, mem_updateWhere_of_mem hr, ?_⟩
    split_ifs
    · rw [hid, he]
    · exact he
  names r hr r₀ hr₀ he := by
    rw [ht] at hr
    rcases cases_of_mem_updateWhere hr with ⟨hm, -⟩ | ⟨x, -, hx, rfl⟩
    · exact hI.names r hm r₀ hr₀ he
    · have hx : x.levelId = lid := of_decide_eq_true hx
      rw [hid] at he ⊢
      rw [hname, hx]
      right
      rcases hreach r₀ hr₀ (he.symm.trans hx) with hn | ⟨-, l₀, hl₀, hn₀, hs₀⟩
      · exact ⟨l, hl, hn, sameName_iff.2 rfl⟩
      · exact ⟨l₀, hl₀, hn₀, hs₀⟩
  listed c hc hmem := by
    rw [ht]
    exact hI.listed c hc hmem

/-- **Saving one level**: it resolves to a level the payload reaches, to the one of its id if there
is one, or to a new one. -/
theorem saveLevel_ok (hI : SaveInv d p y t) (hl : l ∈ p.levels) {lid : Nat}
    (h : saveLevel l t = .ok lid t') :
    SaveInv d p y t' ∧ (∀ r₀ ∈ d.val.levels, r₀.levelId = lid → l.Reaches d p lid) ∧
      ∀ r₀ ∈ d.val.levels, Text.nonZero l.levelId = some r₀.levelId → lid = r₀.levelId := by
  unfold saveLevel at h
  simp only [query_bind] at h
  cases hfound : Text.nonZero (findLevel t.val l) with
  | some i =>
    rw [hfound] at h
    obtain ⟨_, s, hset, hret⟩ := bind_eq_ok.1 h
    obtain ⟨rfl, rfl⟩ := pure_eq_ok.1 hret
    have hfind := (Text.nonZero_eq_some.1 hfound).1
    have hreach : ∀ r₀ ∈ d.val.levels, r₀.levelId = i → l.Reaches d p i := by
      rintro r₀ hr₀ rfl
      exact hI.reaches hr₀ (findLevel_eq_some hfind)
    refine ⟨hI.rename hl hreach (by intro _; rfl) (by intro _; rfl) (exec_eq_ok.1 hset), hreach, ?_⟩
    intro r₀ hr₀ hid
    obtain ⟨r, hr, he⟩ := hI.levels r₀ hr₀
    rw [findLevel_of_id hr (by rw [he]; exact hid), he] at hfind
    exact (Option.some.inj hfind).symm
  | none =>
    rw [hfound] at h
    unfold createLevel at h
    simp only [query_bind] at h
    obtain ⟨_, s, hins, hret⟩ := bind_eq_ok.1 h
    obtain ⟨rfl, rfl⟩ := pure_eq_ok.1 hret
    have hs := exec_eq_ok.1 hins
    -- the insert passed, so the id was free
    have hfree : ∀ r₀ ∈ d.val.levels, r₀.levelId ≠ t.val.seq.level := by
      intro r₀ hr₀ he
      obtain ⟨r, hr, hid⟩ := hI.levels r₀ hr₀
      have hk := s.ok.keys.levels
      rw [hs] at hk
      exact hk.ne_of_append r hr (hid.trans he)
    refine ⟨⟨?_, fun r₀ hr₀ => ?_, fun r hr r₀ hr₀ he => ?_, ?_⟩, ?_, ?_⟩
    · exact trans_of _ hI.frozen (frozen_of_eq (by rw [hs]) (by rw [hs]))
    · obtain ⟨r, hr, he⟩ := hI.levels r₀ hr₀
      exact ⟨r, by rw [hs]; exact List.mem_append_left _ hr, he⟩
    · rw [hs] at hr
      rcases List.mem_append.1 hr with hr | hr
      · exact hI.names r hr r₀ hr₀ he
      · rw [List.mem_singleton.1 hr] at he
        exact absurd he.symm (hfree r₀ hr₀)
    · rw [hs]
      exact hI.listed
    · exact fun r₀ hr₀ he => absurd he (hfree r₀ hr₀)
    · intro r₀ hr₀ hid
      obtain ⟨r, hr, he⟩ := hI.levels r₀ hr₀
      have hne := (Text.nonZero_eq_some.1 hid).2
      rw [findLevel_of_id hr (by rw [he]; exact hid), he] at hfound
      cases hfound.symm.trans (Text.nonZero_eq_some.2 ⟨rfl, hne⟩)

/-- A class of the year in a state of the invariant is, in what matters, one from the start. -/
theorem SaveInv.class_eq (hI : SaveInv d p y t) {c' : ClassRow} (hc' : c' ∈ t.val.classes)
    (hy : c'.academicYearId = y) :
    ∃ c ∈ d.val.classes, c.academicYearId = y ∧ c.core = c'.core := by
  have hmem : c'.core ∈ t.val.classesOf y := mem_classesOf.2 ⟨c', hc', hy, rfl⟩
  rw [hI.frozen.classes] at hmem
  exact mem_classesOf.1 hmem

/-- **Saving one section** leaves the year alone. -/
theorem saveSection_ok {ctx : SaveContext} {lid : Nat} {inc inc' : List Nat} {s : SectionIn}
    (hI : SaveInv d p y t) (hl : l ∈ p.levels) (hs : s ∈ l.sections)
    (hspares : ∀ c ∈ d.val.classes, c.academicYearId = y → p.Spares d c)
    (hreach : ∀ r₀ ∈ d.val.levels, r₀.levelId = lid → l.Reaches d p lid)
    (hbyId : ∀ r₀ ∈ d.val.levels, Text.nonZero l.levelId = some r₀.levelId → lid = r₀.levelId)
    (hactive : ctx.activeYearId ≠ some y) (h : saveSection ctx lid l inc s t = .ok inc' t') :
    SaveInv d p y t' := by
  unfold saveSection at h
  simp only [query_bind] at h
  cases hfound : Text.nonZero (findSection t.val lid l.cleanName s) with
  | some cid =>
    rw [hfound] at h
    obtain ⟨_, u, hset, hret⟩ := bind_eq_ok.1 h
    obtain ⟨-, rfl⟩ := pure_eq_ok.1 hret
    have hfind := findSection_eq_some (Text.nonZero_eq_some.1 hfound).1
    have hfrozen : Frozen y t u := by
      rw [← after_ok hset]
      refine frozen_setClasses (fun _ => rfl) fun c' hc' hp hy => ?_
      have hid' : c'.id = cid := of_decide_eq_true hp
      -- the class that is rewritten is one the payload has to spare
      obtain ⟨c, hc, hcy, hcore⟩ := hI.class_eq hc' hy
      simp only [ClassRow.core, Prod.mk.injEq] at hcore
      obtain ⟨hid, hname, hlevel, hlabel, hcap, -⟩ := hcore
      obtain ⟨r₀, hr₀, hr₀l⟩ := d.ok.placements.class_level.exists_row hc rfl
      obtain ⟨-, hunder, hsame⟩ := hspares c hc hcy
      have hnames : s.Names d p l c ∧ lid = c.levelId := by
        rcases hfind with hsid | ⟨hunknown, c'', hc'', hid'', hlevel'', hname''⟩
        · have hsid : Text.nonZero s.id = some c.id := by rw [hsid, hid, hid']
          have hlid := hunder l hl s hs hsid
          rw [← hr₀l] at hlid
          exact ⟨.inl hsid, (hbyId r₀ hr₀ hlid).trans hr₀l⟩
        · obtain rfl := Db.class_unique hc'' hc' (hid''.trans hid'.symm)
          have hlid : lid = c.levelId := by rw [hlevel, hlevel'']
          refine ⟨.inr ⟨fun i hi => ?_, ?_, hname ▸ hname''⟩, hlid⟩
          · -- an id that the payload lists is not lost
            cases hx : d.val.class? i with
            | none => rfl
            | some x =>
              obtain ⟨hxm, rfl⟩ := d.ok.keys.classes.find?_eq_some.1 hx
              have hlist : x.id ∈ p.sectionIds :=
                List.mem_flatMap.2 ⟨l, hl, List.mem_filterMap.2 ⟨s, hs, hi⟩⟩
              obtain ⟨x', hx', hxid⟩ := hI.listed x hxm hlist
              cases (hunknown _ hi).symm.trans (t.ok.keys.classes.find?_eq_some.2 ⟨hx', hxid⟩)
          · exact hlid ▸ hreach r₀ hr₀ (hr₀l.trans hlid.symm)
      obtain ⟨hn, hcp, hlb⟩ := hsame l hl s hs hnames.1
      simp only [ClassRow.core, hn, hcp, hnames.2, ← hname, ← hlevel, ← hcap, ← hlabel, hlb]
    have hu := exec_eq_ok.1 hset
    refine ⟨trans_of _ hI.frozen hfrozen, ?_, ?_, fun c hc hmem => ?_⟩
    · rw [hu]
      exact hI.levels
    · rw [hu]
      exact hI.names
    · obtain ⟨c', hc', he⟩ := hI.listed c hc hmem
      rw [hu]
      refine ⟨_, mem_updateWhere_of_mem hc', ?_⟩
      split_ifs <;> exact he
  | none =>
    rw [hfound] at h
    dsimp only at h
    split_ifs at h
    swap
    · obtain ⟨-, rfl⟩ := pure_eq_ok.1 h
      exact hI
    · cases hyear : ctx.activeYearId with
      | none =>
        rw [hyear] at h
        exact (throw_eq_ok.1 h).elim
      | some yearId =>
        rw [hyear] at h hactive
        simp only [query_bind] at h
        obtain ⟨_, u, hins, hret⟩ := bind_eq_ok.1 h
        obtain ⟨-, rfl⟩ := pure_eq_ok.1 hret
        have hu := exec_eq_ok.1 hins
        refine ⟨trans_of _ hI.frozen ?_, ?_, ?_, fun c hc hmem => ?_⟩
        · rw [← after_ok hins]
          exact frozen_insertClass fun he => hactive (congrArg some he)
        · rw [hu]
          exact hI.levels
        · rw [hu]
          exact hI.names
        · obtain ⟨c', hc', he⟩ := hI.listed c hc hmem
          rw [hu]
          exact ⟨c', List.mem_append_left _ hc', he⟩

omit [Unicode] in
/-- Removing classes drops their rows and writes no level. -/
theorem removed_structure {ids : List Nat} {cb : Option Nat} {u : Unit}
    (h : removeClasses ids cb t = .ok u t') :
    t'.val.levels = t.val.levels ∧
      t'.val.classes = t.val.classes.filter fun c => ¬decide (c.id ∈ ids) = true := by
  obtain ⟨t₁, t₂, hset, hrec, hdel⟩ := removeClasses_ok h
  obtain ⟨history, seq, hval⟩ := hrec.only
  rw [hdel, hval, hset]
  exact ⟨rfl, rfl⟩

/-- **Saving one level with its sections** leaves the year alone. -/
theorem saveLevelAndSections_ok {ctx : SaveContext} {u : Unit} (hI : SaveInv d p y t)
    (hl : l ∈ p.levels) (hspares : ∀ c ∈ d.val.classes, c.academicYearId = y → p.Spares d c)
    (hctx : ctx.allIncoming = p.sectionIds) (hactive : ctx.activeYearId ≠ some y)
    (h : saveLevelAndSections ctx l t = .ok u t') : SaveInv d p y t' := by
  unfold saveLevelAndSections at h
  obtain ⟨lid, t₁, h₁, h⟩ := bind_eq_ok.1 h
  obtain ⟨hI₁, hreach, hbyId⟩ := saveLevel_ok hI hl h₁
  obtain ⟨inc, t₂, h₂, h⟩ := bind_eq_ok.1 h
  have hI₂ : [] ⊆ l.sections ∧ SaveInv d p y t₂ := by
    refine foldlM_ok_rec (fun rest _ t => rest ⊆ l.sections ∧ SaveInv d p y t) ?_ h₂
      ⟨fun _ hs => hs, hI₁⟩
    rintro s rest b b' v v' ⟨hsub, hv⟩ hsec
    refine ⟨fun x hx => hsub (List.mem_cons_of_mem _ hx), ?_⟩
    exact saveSection_ok hv hl (hsub List.mem_cons_self) hspares hreach hbyId hactive hsec
  replace hI₂ := hI₂.2
  simp only [query_bind] at h
  rcases onlyIf_eq_ok.1 h with ⟨-, hrem⟩ | ⟨-, rfl⟩
  swap
  · exact hI₂
  obtain ⟨hlevels, hclasses⟩ := removed_structure hrem
  -- what is removed is not listed, and a class of the year is
  have hout : ∀ cid ∈ ((t₂.val.classes.filter fun c => c.levelId = lid).map ClassRow.id).filter
      (fun id => id ∉ inc ∧ id ∉ ctx.allIncoming), ¬t₂.val.ClassIn cid y := by
    rintro cid hcid ⟨c', hc', rfl, hy⟩
    obtain ⟨hmem, hnot⟩ := List.mem_filter.1 hcid
    have hnot : c'.id ∉ p.sectionIds := by
      rw [← hctx]
      exact (of_decide_eq_true hnot).2
    obtain ⟨x, hx, hxid⟩ := List.mem_map.1 hmem
    obtain ⟨hxm, hxl⟩ := List.mem_filter.1 hx
    have hlevel : c'.levelId = lid := by
      rw [← Db.class_unique hxm hc' hxid]
      exact of_decide_eq_true hxl
    obtain ⟨c, hc, hcy, hcore⟩ := hI₂.class_eq hc' hy
    simp only [ClassRow.core, Prod.mk.injEq] at hcore
    obtain ⟨r₀, hr₀, hr₀l⟩ := d.ok.placements.class_level.exists_row hc rfl
    have hlid : r₀.levelId = lid := by rw [hr₀l, hcore.2.2.1, hlevel]
    rw [← hcore.1] at hnot
    have hlid' : c.levelId = lid := hr₀l.symm.trans hlid
    rcases hreach r₀ hr₀ hlid with hn | ⟨-, l₀, hl₀, hn₀, -⟩
    · exact hnot ((hspares c hc hcy).listed l hl (hlid' ▸ hn))
    · exact hnot ((hspares c hc hcy).listed l₀ hl₀ (hlid' ▸ hn₀))
  refine ⟨trans_of _ hI₂.frozen (after_ok hrem ▸ frozen_removeClasses hout), ?_, ?_,
    fun c hc hmem => ?_⟩
  · rw [hlevels]
    exact hI₂.levels
  · rw [hlevels]
    exact hI₂.names
  · obtain ⟨c', hc', he⟩ := hI₂.listed c hc hmem
    rw [hclasses]
    refine ⟨c', List.mem_filter.2 ⟨hc', ?_⟩, he⟩
    rw [← he, ← hctx] at hmem
    simp [hmem]

omit [Unicode] in
/-- What saving the calendar does not write. -/
theorem same_saveSettings :
    Moves (Same fun d : Db => (d.val.levels, d.val.classes, d.val.students)) (saveSettings p) := by
  unfold saveSettings
  refine moves_bind (moves_query _) fun r => ?_
  cases r with
  | none => exact moves_exec fun _ _ => rfl
  | some row => exact moves_exec fun _ _ => rfl

theorem same_saveBlackouts :
    Moves (Same fun d : Db => (d.val.levels, d.val.classes, d.val.students)) (saveBlackouts p) := by
  unfold saveBlackouts
  refine moves_bind (moves_query _) fun existing => ?_
  refine moves_bind (moves_foldlM fun _ bd _ => ?_) fun _ => moves_exec fun _ _ => rfl
  unfold saveBlackout
  cases Text.nonEmpty bd.date with
  | none => exact moves_pure _
  | some text =>
    dsimp only
    cases strptimeDate text with
    | none => exact moves_throw _
    | some date =>
      dsimp only
      cases existing.reverse.find? fun b => b.date = date with
      | none => exact moves_bind (moves_exec fun _ _ => rfl) fun _ => moves_pure _
      | some row => exact moves_bind (moves_exec fun _ _ => rfl) fun _ => moves_pure _

/-- **The structure editor** leaves a closed year alone when the payload spares its classes. -/
theorem frozen_saveAcademicStructure {cb : Option Nat} (hclosed : d.val.YearIs y .closed)
    (hspares : ∀ c ∈ d.val.classes, c.academicYearId = y → p.Spares d c) :
    Frozen y d (after (saveAcademicStructure p cb) d) := by
  unfold saveAcademicStructure
  refine after_transaction_ind (refl_of _ d) fun u d' h => ?_
  simp only [query_bind] at h
  obtain ⟨_, d₁, h₁, h⟩ := bind_eq_ok.1 h
  obtain ⟨_, d₂, h₂, h⟩ := bind_eq_ok.1 h
  simp only [query_bind] at h
  have hI₂ : SaveInv d p y d₂ := by
    obtain ⟨hl₁, hc₁⟩ := Prod.mk.inj (same_saveSettings.same_ok h₁)
    obtain ⟨hl₂, hc₂⟩ := Prod.mk.inj (same_saveBlackouts.same_ok h₂)
    obtain ⟨hc₁, hs₁⟩ := Prod.mk.inj hc₁
    obtain ⟨hc₂, hs₂⟩ := Prod.mk.inj hc₂
    exact (saveInv_refl d p y).of_eq (hl₂.trans hl₁) (hc₂.trans hc₁) (hs₂.trans hs₁)
  have hrun : [] ⊆ p.levels ∧ SaveInv d p y d' := by
    refine forM_ok_rec (fun rest t => rest ⊆ p.levels ∧ SaveInv d p y t) ?_ h ⟨fun _ hl => hl, hI₂⟩
    rintro l rest v v' ⟨hsub, hv⟩ hsave
    refine ⟨fun x hx => hsub (List.mem_cons_of_mem _ hx), ?_⟩
    refine saveLevelAndSections_ok hv (hsub List.mem_cons_self) hspares rfl (fun he => ?_) hsave
    exact active_ne_closed hclosed he rfl
  exact hrun.2.frozen

/-! ## Runs -/

/-- What a call must respect for the year `y` to stay as it is. -/
def Op.Spares (d : Db) (y : Nat) : Op → Prop
  | .createClassIn _ _ _ _ _ year => Text.nonZero year ≠ some y
  | .updateClass u i n l _ cap _ =>
    Authz.require u (TenantService.adminRoles ++ ["class:update"]) →
      ∀ c ∈ d.val.classes, c.id = i → c.academicYearId = y →
        (n.map Text.strip).getD c.name = c.name ∧ l.getD c.levelId = c.levelId ∧
          cap.getD c.capacity = c.capacity ∧ deriveSectionLabel c.name = c.sectionLabel
  | .deleteClass u i _ => Authz.require u TenantService.adminRoles → ¬d.val.ClassIn i y
  | .deleteLevel u l _ => Authz.require u TenantService.adminRoles →
    ∀ c ∈ d.val.classes, c.levelId = l → c.academicYearId ≠ y
  | .saveAcademicStructure u p _ =>
    Authz.require u (TenantService.adminRoles ++ ["level:manage", "level:create", "school:write"]) →
      ∀ c ∈ d.val.classes, c.academicYearId = y → p.Spares d c
  | op => ∀ sid o cid, op.Target d sid o → d.val.ClassIn cid y →
    (o = some cid ↔ d.val.Placed sid cid y)

/-- The call spares every closed year. -/
def SparesClosed (d : Db) (op : Op) : Prop := ∀ y, d.val.YearIs y .closed → op.Spares d y

/-- The step leaves every closed year closed, its classes as they are, and the students placed in
them as they are, except that a commit may take students out. -/
def LeavesClosedYears (d : Db) (op : Op) : Prop :=
  ∀ y, d.val.YearIs y .closed → (step d op).val.YearIs y .closed ∧
    (step d op).val.classesOf y = d.val.classesOf y ∧
    (∀ sid cid, (step d op).val.Placed sid cid y → d.val.Placed sid cid y) ∧
    ((∀ u r c, op ≠ .commitRollover u r c) →
      ∀ sid cid, d.val.Placed sid cid y → (step d op).val.Placed sid cid y)

/-- An operation that is not the rollover's leaves a year it spares alone. -/
theorem frozen_step {op : Op} (hroll : op.isRollover = false) (hclosed : d.val.YearIs y .closed)
    (hop : op.Spares d y) : Frozen y d (step d op) := by
  have hplaces : (∀ sid o cid, op.Target d sid o → d.val.ClassIn cid y →
      (o = some cid ↔ d.val.Placed sid cid y)) → Places (op.Target d) True d (step d op) →
      Frozen y d (step d op) := fun hop h => frozen_of_places h hop
  cases op with
  | createStudent u e n cl g b c =>
    have h := places_serviceCreateStudent d u e n cl g b c
    rw [← after_map fun _ => ()] at h
    exact hplaces hop h
  | placeStudent i n cl g b c =>
    exact hplaces hop (moves_map (places_createStudent i n cl g b c) d)
  | reassignStudentClass u i cl c =>
    exact hplaces hop (places_gated (places_reassignStudentClass i cl c) d)
  | bulkReassignStudents u ids cl c =>
    exact hplaces hop (places_gated (places_bulkReassignStudents ids cl c) d)
  | createLevel u n f a =>
    refine moves_map (moves_gated ?_) d
    exact moves_bind (frozen_upsertLevelByName n f a) fun _ => moves_pure _
  | updateLevel u l n f a => exact moves_map (moves_gated (frozen_updateLevel l n f a)) d
  | deleteLevel u l c =>
    refine moves_map_at ?_
    unfold TenantService.deleteLevel
    rw [after_gate_bind]
    split_ifs with hgate
    · exact frozen_deleteLevel (hop hgate) (frozen_record _ _ _ _ _)
    · exact refl_of _ d
  | createClass u n l hd cap a =>
    have hmoves : Moves (Shields y) (TenantService.createClass u n l hd cap a) := by
      refine moves_gated (moves_bind (moves_query _) fun level => ?_)
      cases level with
      | none => exact moves_throw _
      | some level =>
        refine moves_bind (moves_raiseIf _ _) fun _ => moves_bind ?_ fun _ => moves_pure _
        exact fun t => ⟨(quiet_editable.upsertClassByNameAndLevel _ _ _ _ _ _ t).years,
          frozen_upsertClass⟩
    exact (moves_map hmoves d).2 hclosed
  | createClassIn n l hd cap a year =>
    refine moves_map_at ?_
    exact frozen_createClass hclosed hop
  | updateClass u i n l hd cap a =>
    refine moves_map_at ?_
    unfold TenantService.updateClass
    rw [after_gate_bind]
    split_ifs with hgate
    swap
    · exact refl_of _ d
    have hcheck : Moves Eq (TenantService.checkNewLevel l) := by
      cases l with
      | none => exact moves_pure _
      | some lid =>
        refine moves_bind (moves_query _) fun level => ?_
        cases level with
        | none => exact moves_throw _
        | some level => exact moves_raiseIf _ _
    refine moves_bind_of_ok (hcheck d ▸ refl_of _ d) fun _ t h => ?_
    obtain rfl : d = t := (hcheck d).trans (after_ok h)
    exact frozen_updateClass (hop hgate)
  | deleteClass u i c =>
    refine moves_map_at ?_
    unfold TenantService.deleteClass
    rw [after_gate_bind]
    split_ifs with hgate
    · exact frozen_deleteClass (hop hgate) (frozen_record _ _ _ _ _)
    · exact refl_of _ d
  | saveAcademicStructure u p c =>
    unfold step Op.program TenantService.saveAcademicStructure
    rw [after_gate_bind]
    split_ifs with hgate
    swap
    · exact refl_of _ d
    simp only [after_query_bind, after_raiseIf_bind]
    split_ifs
    · exact refl_of _ d
    · exact frozen_saveAcademicStructure hclosed (hop hgate)
  | commitStructureImport u rows =>
    have hmoves : Moves (Shields y) (TenantService.commitStructureImport u rows) :=
      moves_gated (shields_importAcademicRows rows)
    exact (moves_map hmoves d).2 hclosed
  | _ => cases hroll

theorem leavesClosedYears_step {op : Op} (hI : YearInv d) (hop : SparesClosed d op) :
    LeavesClosedYears d op := by
  intro y hclosed
  have hframe : Frozen y d (step d op) → (step d op).val.classesOf y = d.val.classesOf y ∧
      (∀ sid cid, (step d op).val.Placed sid cid y → d.val.Placed sid cid y) ∧
      ((∀ u r c, op ≠ .commitRollover u r c) →
        ∀ sid cid, d.val.Placed sid cid y → (step d op).val.Placed sid cid y) :=
    fun h => ⟨h.classes, fun sid cid => (h.placed sid cid).1, fun _ sid cid => (h.placed sid cid).2⟩
  by_cases hroll : op.isRollover = false
  · have hyears : (step d op).val.years = d.val.years := by
      rcases step_effect d hroll with h | h
      · exact h.years
      · exact h.years
    exact ⟨(yearIs_congr hyears).2 hclosed, hframe (frozen_step hroll hclosed (hop y hclosed))⟩
  · rcases rollover_kinds d (by simpa using hroll) with h | ⟨r, ⟨hr, -, u, c, rfl, -⟩, h⟩
    · exact ⟨h.statuses y _ hclosed, hframe (frozen_of_eq h.classes h.students)⟩
    · -- the year a commit activates is planned or active, so it is not the closed one
      have hto : r.toYearId ≠ y := by
        rintro rfl
        rcases commit_statuses hI hr h with ⟨-, ht⟩ | ⟨-, ht⟩
        · cases ht.unique hclosed
        · cases ht.unique hclosed
      obtain ⟨hclasses, hleave⟩ := h.leaves_alone hto
      refine ⟨?_, hclasses, hleave, fun hno => absurd rfl (hno u r.id c)⟩
      have hst := flipped_yearIs h.years hclosed
      rw [if_neg hto.symm] at hst
      split_ifs at hst
      · exact hst
      · exact hst

/-- **Closed years are frozen** throughout every run that spares them. -/
theorem closed_years_frozen (hfresh : Fresh d) {ops : List Op}
    (hops : EachStep step SparesClosed d ops) : EachStep step LeavesClosedYears d ops :=
  run_each (fun d op hI _ => yearInv_step d op hI)
    (fun _ _ hI hop => leavesClosedYears_step hI hop) hfresh.yearInv hops

end Save

/-- Year 1 is rolled over into year 2. -/
def rolledOver : List Op := planned 100 1 2 ++ [committed 100]

/-- After that a class is opened, in the active year. -/
theorem closed_years_frozen_rolledOver :
    EachStep (@step ascii) (@LeavesClosedYears ascii) smallSchool
      (rolledOver ++ [.createClassIn "G2 - B" 2 none none true none]) := by
  refine @closed_years_frozen ascii smallSchool rfl _ ⟨?_, ?_, ?_, ?_, trivial⟩
  · exact fun y _ _ _ _ h => h.elim
  · exact fun y _ _ _ _ h => h.elim
  · exact fun y _ _ _ _ h => h.elim
  · exact fun y _ => nofun

theorem rolledOver_state :
    (smallRun rolledOver).val.students = [⟨1, "S", some 100, none, none, .enrolled, none⟩] ∧
      (⟨1, "Y1", .closed, none, none, none⟩ : YearRow) ∈ (smallRun rolledOver).val.years := by
  decide +kernel

def backToYearOne : Op := .reassignStudentClass ["school_admin"] 1 (some 1) none

theorem backToYearOne_state :
    (⟨1, "S", some 1, none, none, .enrolled, none⟩ : StudentRow) ∈
        (@step ascii (smallRun rolledOver) backToYearOne).val.students ∧
      (⟨1, "G1 - A", 1, none, 25, true, 1, some "A"⟩ : ClassRow) ∈
        (@step ascii (smallRun rolledOver) backToYearOne).val.classes := by decide +kernel

/-- A student of year 2 is placed in a class of the closed year 1. -/
theorem closed_class_entered :
    Fresh smallSchool ∧ ¬EachStep (@step ascii) (@LeavesClosedYears ascii) smallSchool
      (rolledOver ++ [backToYearOne]) := by
  refine ⟨rfl, fun h => ?_⟩
  have hlast : @LeavesClosedYears ascii (smallRun rolledOver) backToYearOne :=
    (eachStep_append.1 h).2.1
  obtain ⟨hstudents, hyear⟩ := rolledOver_state
  obtain ⟨hs, hc⟩ := backToYearOne_state
  obtain ⟨-, -, henter, -⟩ := hlast 1 (Db.yearIs_iff.2 ⟨_, hyear, rfl, rfl⟩)
  obtain ⟨⟨s, hs₀, -, hcid⟩, -⟩ := henter 1 1 ⟨⟨_, hs, rfl, rfl⟩, _, hc, rfl, rfl⟩
  rw [hstudents, List.mem_singleton] at hs₀
  rw [hs₀] at hcid
  simp at hcid

end Sams.School
