import Sams.School.Planning
import Sams.School.Removal

/-!
# What committing a rollover writes

A commit that found its rollover previewed and returned is described table by table by
`Performed`. Its two loops are followed separately.

* **Opening classes** (`resolve_loop`). The key of a promoting line is looked up in what has been
  resolved so far, then its composed name among the classes of `to_year`; only if both fail is a
  class opened. So an opened class has the level, section and capacity of the first promoting line
  of its name.
* **Applying lines** (`apply_loop`). Every student has at most one line, so the updates of the
  loop are one update of the table, and the history grows by one row for each line that is not
  held, in their order.
-/

namespace Sams.School

open Programs Rows TenantRepository

/-- The lines a commit reads. -/
def Tables.openLines (t : Tables) (rid : Nat) : List LineRow :=
  (t.linesOf rid).filter fun l => ¬l.applied

theorem openLines_mem {t : Tables} {rid : Nat} {l : LineRow} :
    l ∈ t.openLines rid ↔ l ∈ t.lines ∧ l.rolloverId = rid ∧ l.applied = false := by
  simp only [Tables.openLines, Tables.linesOf, List.mem_filter, decide_eq_true_eq,
    Bool.not_eq_true, and_assoc]

theorem openLines_nodup (d : Db) (rid : Nat) : (d.val.openLines rid).Nodup := by
  have hlines : d.val.lines.Nodup := List.Nodup.of_map _ d.ok.keys.lines
  exact (hlines.filter _).filter _

theorem openLines_one {d : Db} {rid : Nat} {l l' : LineRow} (hl : l ∈ d.val.openLines rid)
    (hl' : l' ∈ d.val.openLines rid) (hs : l.studentId = l'.studentId) : l = l' := by
  obtain ⟨hm, hr, -⟩ := openLines_mem.1 hl
  obtain ⟨hm', hr', -⟩ := openLines_mem.1 hl'
  exact Db.line_unique hm hm' (hr.trans hr'.symm) hs

/-- The lines a commit reads have different students. -/
theorem openLines_students (d : Db) (rid : Nat) :
    ((d.val.openLines rid).map LineRow.studentId).Nodup := by
  refine (openLines_nodup d rid).map_on fun l hl l' hl' hs => ?_
  exact openLines_one hl hl' hs

/-! ## Opening classes -/

/-- The composed name of the class that a line promotes into. -/
def Tables.targetName (t : Tables) (l : LineRow) : Option String :=
  (l.toLevelId.bind t.level?).map fun level =>
    level.name ++ " - " ++ Text.showOption l.toSectionLabel

/-- The name depends on the target only. -/
theorem targetName_congr {t : Tables} {l l' : LineRow} (h : l.target = l'.target) :
    t.targetName l = t.targetName l' := by
  obtain ⟨hlevel, hsection⟩ := Prod.mk.inj h
  simp only [Tables.targetName, hlevel, hsection]

/-- The lines that find or open a class: those that promote from some class. -/
def opening (ls : List LineRow) : List LineRow :=
  ls.filter fun l => l.effective = .promote ∧ Text.nonZero l.fromClassId ≠ none

/-- The class is a new one of the year, with the level, the section and the capacity of the first
of the lines that has its name. -/
structure OpenedBy (t : Tables) (toYear : Nat) (ls : List LineRow) (c : ClassRow) : Prop where
  year : c.academicYearId = toYear
  fresh : ∀ c' ∈ t.classes, c'.academicYearId = toYear → c'.name ≠ c.name
  source : ∃ l src, (opening ls).find? (fun l => t.targetName l = some c.name) = some l ∧
    l.target = (some c.levelId, c.sectionLabel) ∧ l.fromClassId.bind t.class? = some src ∧
    c.capacity = src.capacity

theorem OpenedBy.append {t : Tables} {toYear : Nat} {ls : List LineRow} {c : ClassRow}
    (h : OpenedBy t toYear ls c) (ls' : List LineRow) : OpenedBy t toYear (ls ++ ls') c := by
  refine ⟨h.year, h.fresh, ?_⟩
  obtain ⟨l, src, hfind, hl⟩ := h.source
  refine ⟨l, src, ?_, hl⟩
  rw [opening, List.filter_append, List.find?_append, ← opening, hfind]
  rfl

/-- A class of that name in that year. -/
def Tables.HasNamed (t : Tables) (name : Option String) (toYear cid : Nat) : Prop :=
  ∃ c ∈ t.classes, c.id = cid ∧ name = some c.name ∧ c.academicYearId = toYear

/-- What is known when the lines `done` have been resolved. -/
structure Resolves (d : Db) (toYear : Nat) (done : List LineRow) (resolved : List (TargetKey × Nat))
    (s : Db) : Prop where
  only : ∃ opened seq, s.val = { d.val with classes := d.val.classes ++ opened, seq } ∧
    ∀ c ∈ opened, OpenedBy d.val toYear done c
  named : ∀ l ∈ opening done, ∃ cid, s.val.HasNamed (d.val.targetName l) toYear cid
  found : ∀ k cid, resolved.lookup k = some cid →
    ∃ l ∈ opening done, l.target = k ∧ s.val.HasNamed (d.val.targetName l) toYear cid

theorem resolves_nil (d : Db) (toYear : Nat) : Resolves d toYear [] [] d where
  only := ⟨[], d.val.seq, by simp, by simp⟩
  named := by simp [opening]
  found := by simp

theorem Resolves.level? {d s : Db} {toYear : Nat} {done : List LineRow}
    {resolved : List (TargetKey × Nat)} (h : Resolves d toYear done resolved s) :
    s.val.level? = d.val.level? := by
  obtain ⟨opened, seq, hval, -⟩ := h.only
  rw [hval]
  rfl

/-- The class a line comes from is found where it was. -/
theorem Resolves.source {d s : Db} {toYear : Nat} {done : List LineRow}
    {resolved : List (TargetKey × Nat)} (h : Resolves d toYear done resolved s) {l : LineRow}
    (hl : l ∈ d.val.lines) : l.fromClassId.bind s.val.class? = l.fromClassId.bind d.val.class? := by
  obtain ⟨opened, seq, hval, -⟩ := h.only
  cases hc : l.fromClassId with
  | none => rfl
  | some cid =>
    obtain ⟨c, hcm, hcid⟩ := d.ok.rollovers.line_from_class.exists_row hl hc
    have hfind : d.val.class? cid = some c := d.ok.keys.classes.find?_eq_some.2 ⟨hcm, hcid⟩
    have hfind' : s.val.class? cid = some c := by
      refine s.ok.keys.classes.find?_eq_some.2 ⟨?_, hcid⟩
      rw [hval]
      exact List.mem_append_left _ hcm
    rw [Option.bind_some, Option.bind_some, hfind, hfind']

theorem opening_append (ls : List LineRow) (l : LineRow) : opening (ls ++ [l]) =
    opening ls ++ if l.effective = .promote ∧ Text.nonZero l.fromClassId ≠ none then [l]
      else [] := by
  unfold opening
  rw [List.filter_append]
  congr 1
  by_cases h : l.effective = .promote ∧ Text.nonZero l.fromClassId ≠ none <;> simp [h]

/-- A line that neither finds nor opens a class. -/
theorem Resolves.skip {d s : Db} {toYear : Nat} {done : List LineRow}
    {resolved : List (TargetKey × Nat)} (h : Resolves d toYear done resolved s) {l : LineRow}
    (hl : l.effective = .promote → Text.nonZero l.fromClassId ≠ none →
      ∃ cid, s.val.HasNamed (d.val.targetName l) toYear cid) :
    Resolves d toYear (done ++ [l]) resolved s where
  only := by
    obtain ⟨opened, seq, hval, hopen⟩ := h.only
    exact ⟨opened, seq, hval, fun c hc => (hopen c hc).append [l]⟩
  named := by
    intro x hx
    rw [opening_append] at hx
    rcases List.mem_append.1 hx with hx | hx
    · exact h.named x hx
    · split_ifs at hx with hcond
      · rw [List.mem_singleton.1 hx]
        exact hl hcond.1 hcond.2
      · cases hx
  found := by
    intro k cid hk
    obtain ⟨x, hx, hxk⟩ := h.found k cid hk
    exact ⟨x, by rw [opening_append]; exact List.mem_append_left _ hx, hxk⟩

/-- The key of a processed line is resolved to the class of its name. -/
theorem Resolves.add {d s : Db} {toYear : Nat} {done : List LineRow}
    {resolved : List (TargetKey × Nat)} (h : Resolves d toYear done resolved s) {l : LineRow}
    (hl : l ∈ opening done) {cid : Nat} (hc : s.val.HasNamed (d.val.targetName l) toYear cid) :
    Resolves d toYear done (resolved ++ [(l.target, cid)]) s where
  only := h.only
  named := h.named
  found := by
    intro k cid' hk
    rw [List.lookup_append] at hk
    rcases Option.or_eq_some_iff.1 hk with hk | ⟨-, hk⟩
    · exact h.found k cid' hk
    · by_cases hkl : k = l.target
      · subst hkl
        obtain rfl : cid = cid' := by simpa using hk
        exact ⟨l, hl, rfl, hc⟩
      · have hne : (k == l.target) = false := by simpa using hkl
        rw [List.lookup_cons, hne] at hk
        cases hk

/-- A class is opened when no class of the year has the line's name. -/
theorem Resolves.opens {d s s' : Db} {toYear : Nat} {done : List LineRow}
    {resolved : List (TargetKey × Nat)} (h : Resolves d toYear done resolved s) {l : LineRow}
    (hl : l.effective = .promote ∧ Text.nonZero l.fromClassId ≠ none) {c : ClassRow}
    (src : ClassRow) (hname : d.val.targetName l = some c.name) (hyear : c.academicYearId = toYear)
    (hfresh : s.val.classNamed c.name toYear = none)
    (htarget : l.target = (some c.levelId, c.sectionLabel))
    (hsrc : l.fromClassId.bind d.val.class? = some src) (hcap : c.capacity = src.capacity)
    (hins : s'.val = s.val.insertClass c) :
    Resolves d toYear (done ++ [l]) (resolved ++ [(l.target, c.id)]) s' := by
  obtain ⟨opened, seq, hval, hopen⟩ := h.only
  have hno : ∀ c' ∈ s.val.classes, c'.academicYearId = toYear → c'.name ≠ c.name := by
    intro c' hc' hy hn
    have := List.find?_eq_none.1 hfresh c' hc'
    simp [hn, hy] at this
  -- an earlier line of the name would have left a class of the name
  have hfirst : (opening done).find? (fun x => d.val.targetName x = some c.name) = none := by
    rw [List.find?_eq_none]
    intro x hx hxn
    obtain ⟨cid, c', hc', -, hn', hy'⟩ := h.named x hx
    rw [of_decide_eq_true hxn, Option.some.injEq] at hn'
    exact hno c' hc' hy' hn'.symm
  have hmem : ∀ {name cid}, s.val.HasNamed name toYear cid → s'.val.HasNamed name toYear cid := by
    rintro name cid ⟨c', hc', he⟩
    exact ⟨c', by rw [hins]; exact List.mem_append_left _ hc', he⟩
  have hc : s'.val.HasNamed (d.val.targetName l) toYear c.id :=
    ⟨c, by rw [hins]; simp [Tables.insertClass], rfl, hname, hyear⟩
  have hopening := opening_append done l
  rw [if_pos hl] at hopening
  have hgrow : Resolves d toYear (done ++ [l]) resolved s' := by
    refine ⟨⟨opened ++ [c], { seq with class_ := seq.class_ + 1 }, ?_, ?_⟩, ?_, ?_⟩
    · rw [hins, hval, Tables.insertClass, List.append_assoc]
    · intro c' hc'
      rcases List.mem_append.1 hc' with hc' | hc'
      · exact (hopen c' hc').append [l]
      · rw [List.mem_singleton.1 hc']
        refine ⟨hyear, fun c₀ hc₀ => hno c₀ ?_, l, src, ?_, htarget, hsrc, hcap⟩
        · rw [hval]
          exact List.mem_append_left _ hc₀
        · rw [hopening, List.find?_append, hfirst]
          simp [hname]
    · intro x hx
      rw [hopening] at hx
      rcases List.mem_append.1 hx with hx | hx
      · obtain ⟨cid, hcid⟩ := h.named x hx
        exact ⟨cid, hmem hcid⟩
      · rw [List.mem_singleton.1 hx]
        exact ⟨c.id, hc⟩
    · intro k cid hk
      obtain ⟨x, hx, hxk, hcid⟩ := h.found k cid hk
      exact ⟨x, by rw [hopening]; exact List.mem_append_left _ hx, hxk, hmem hcid⟩
  exact hgrow.add (by rw [hopening]; simp) hc

/-- **Resolving one line.** -/
theorem resolveTarget_ok {d s s' : Db} {toYear : Nat} {done : List LineRow}
    {resolved resolved' : List (TargetKey × Nat)} (h : Resolves d toYear done resolved s)
    {l : LineRow} (hl : l ∈ d.val.lines)
    (hok : resolveTarget toYear resolved l s = .ok resolved' s') :
    Resolves d toYear (done ++ [l]) resolved' s' := by
  unfold resolveTarget at hok
  split_ifs at hok with hact hskip
  · -- the line does not promote
    obtain ⟨rfl, rfl⟩ := pure_eq_ok.1 hok
    exact h.skip fun hp => absurd hp hact
  · -- its key has been resolved, or it comes from no class
    obtain ⟨rfl, rfl⟩ := pure_eq_ok.1 hok
    refine h.skip fun _ hfrom => ?_
    obtain ⟨cid, hcid⟩ := Option.isSome_iff_exists.1 (hskip.resolve_right hfrom)
    obtain ⟨x, -, hx, hname⟩ := h.found _ _ hcid
    exact ⟨cid, targetName_congr (t := d.val) hx ▸ hname⟩
  have hopens : l.effective = .promote ∧ Text.nonZero l.fromClassId ≠ none :=
    ⟨not_not.1 hact, fun he => hskip (.inr he)⟩
  have hopening := opening_append done l
  rw [if_pos hopens] at hopening
  simp only [query_bind] at hok
  rw [h.level?, h.source hl] at hok
  cases hlv : l.toLevelId.bind d.val.level? with
  | none =>
    rw [hlv] at hok
    exact (throw_eq_ok.1 hok).elim
  | some level =>
    cases hsrc : l.fromClassId.bind d.val.class? with
    | none =>
      rw [hlv, hsrc] at hok
      exact (throw_eq_ok.1 hok).elim
    | some src =>
      rw [hlv, hsrc] at hok
      simp only [query_bind] at hok
      have hname : d.val.targetName l =
          some (level.name ++ " - " ++ Text.showOption l.toSectionLabel) := by
        simp [Tables.targetName, hlv]
      cases hc : s.val.classNamed (level.name ++ " - " ++ Text.showOption l.toSectionLabel)
          toYear with
      | some c =>
        rw [hc] at hok
        obtain ⟨rfl, rfl⟩ := pure_eq_ok.1 hok
        have hcname : c.name = level.name ++ " - " ++ Text.showOption l.toSectionLabel ∧
            c.academicYearId = toYear := by simpa using List.find?_some hc
        have hnamed : s.val.HasNamed (d.val.targetName l) toYear c.id :=
          ⟨c, List.mem_of_find?_eq_some hc, rfl, by rw [hname, hcname.1], hcname.2⟩
        exact (h.skip fun _ _ => ⟨_, hnamed⟩).add (by rw [hopening]; simp) hnamed
      | none =>
        rw [hc] at hok
        simp only [query_bind] at hok
        obtain ⟨_, t, hins, hret⟩ := bind_eq_ok.1 hok
        obtain ⟨rfl, rfl⟩ := pure_eq_ok.1 hret
        have hlevel : l.toLevelId = some level.levelId := by
          obtain ⟨lid, hlid, hfind⟩ := Option.bind_eq_some_iff.1 hlv
          rw [hlid, (d.ok.keys.levels.find?_eq_some.1 hfind).2]
        have hval := exec_eq_ok.1 hins
        refine h.opens hopens src ?_ ?_ hc ?_ hsrc ?_ hval
        · exact hname
        · rfl
        · exact Prod.ext hlevel rfl
        · rfl

/-- The loop of step 1. -/
theorem resolve_loop {d s s' : Db} {toYear : Nat} {ls : List LineRow}
    {resolved : List (TargetKey × Nat)} (hls : ∀ l ∈ ls, l ∈ d.val.lines)
    (h₀ : Resolves d toYear [] [] s) (h : ls.foldlM (resolveTarget toYear) [] s = .ok resolved s') :
    Resolves d toYear ls resolved s' := by
  have hI := foldlM_ok_rec
    (fun rest resolved t => ∃ done, done ++ rest = ls ∧ Resolves d toYear done resolved t)
    (fun l rest b b' t t' hI hl => ?_) h ⟨[], rfl, h₀⟩
  · obtain ⟨done, hdone, hres⟩ := hI
    rw [List.append_nil] at hdone
    exact hdone ▸ hres
  · obtain ⟨done, hdone, hres⟩ := hI
    refine ⟨done ++ [l], by rw [List.append_assoc]; exact hdone, ?_⟩
    exact resolveTarget_ok hres (hls l (by rw [← hdone]; simp)) hl

/-! ## Applying lines -/

/-- The class a line moves its student to, once the classes are resolved. -/
def LineRow.newClass (resolved : List (TargetKey × Nat)) (l : LineRow) : Option Nat :=
  if l.effective = .promote then resolved.lookup l.target else none

/-- What the line does to its student. -/
def LineRow.move (resolved : List (TargetKey × Nat)) (exit : Option Date) (l : LineRow)
    (s : StudentRow) : StudentRow :=
  match l.effective with
  | .promote => { s with classId := l.newClass resolved }
  | .graduate => { s with classId := none, status := .graduated, exitedOn := exit }
  | .withdraw => { s with classId := none, status := .withdrawn, exitedOn := exit }
  | .hold => s

@[simp]
theorem LineRow.move_id (resolved : List (TargetKey × Nat)) (exit : Option Date) (l : LineRow)
    (s : StudentRow) : (l.move resolved exit s).id = s.id := by
  unfold LineRow.move
  cases l.effective <;> rfl

/-- The lines that are applied: those that are not held. -/
def moving (ls : List LineRow) : List LineRow := ls.filter fun l => l.effective ≠ .hold

/-- What applying the lines `ls` writes. -/
structure Applies (resolved : List (TargetKey × Nat)) (exit : Option Date) (ls : List LineRow)
    (d d' : Db) : Prop where
  only : ∃ students lines history seq, d'.val = { d.val with students, lines, history, seq }
  students : d'.val.students = ls.foldl
    (fun ss l => updateWhere (fun s => s.id = l.studentId) (l.move resolved exit) ss)
    d.val.students
  lines : d'.val.lines = ls.foldl
    (fun xs l => updateWhere (fun x => x.id = l.id)
      (fun x => if l.effective = .promote then { x with
        toClassId := l.newClass resolved } else x) xs)
    d.val.lines
  log : d'.val.log = d.val.log ++
    (moving ls).map fun l => (l.studentId, l.fromClassId, l.newClass resolved)

theorem applies_nil (resolved : List (TargetKey × Nat)) (exit : Option Date) (d : Db) :
    Applies resolved exit [] d d :=
  ⟨⟨_, _, _, _, rfl⟩, rfl, rfl, by simp [moving]⟩

theorem Applies.append {resolved : List (TargetKey × Nat)} {exit : Option Date}
    {ls ls' : List LineRow} {d d' d'' : Db} (h : Applies resolved exit ls d d')
    (h' : Applies resolved exit ls' d' d'') : Applies resolved exit (ls ++ ls') d d'' := by
  refine ⟨?_, ?_, ?_, ?_⟩
  · obtain ⟨_, _, _, _, hval⟩ := h.only
    obtain ⟨_, _, _, _, hval'⟩ := h'.only
    exact ⟨_, _, _, _, by rw [hval', hval]⟩
  · rw [h'.students, h.students, List.foldl_append]
  · rw [h'.lines, h.lines, List.foldl_append]
  · rw [h'.log, h.log, moving, moving, moving, List.filter_append, List.map_append,
      List.append_assoc]

/-- A student leaves the school. -/
theorem moveStudent_applies {resolved : List (TargetKey × Nat)} {exit : Option Date}
    {l : LineRow} {f : StudentRow → StudentRow} {changedBy : Option Nat} {d d' : Db} {u : Unit}
    (hmove : l.move resolved exit = f) (hout : l.effective ≠ .promote) (hgo : l.effective ≠ .hold)
    (h : moveStudent l none f changedBy d = .ok u d') : Applies resolved exit [l] d d' := by
  obtain ⟨_, t, hset, hrec⟩ := bind_eq_ok.1 h
  have hval := exec_eq_ok.1 hset
  have hrec := recordClassChange_records hrec
  obtain ⟨history, seq, hval'⟩ := hrec.only
  refine ⟨⟨_, _, _, _, by rw [hval', hval]; rfl⟩, ?_, ?_, ?_⟩
  · rw [hval', hval, ← hmove]
    rfl
  · rw [hval', hval]
    simp only [List.foldl_cons, List.foldl_nil, if_neg hout]
    exact (updateWhere_eq_self fun _ _ _ => rfl).symm
  · rw [hrec.log, hval]
    simp [moving, hgo, hout, LineRow.newClass, Tables.log, Tables.setStudents]

variable [Unicode]

/-- Applying one line. -/
theorem applyLine_ok {resolved : List (TargetKey × Nat)} {exit : Option Date}
    {changedBy : Option Nat} {applied applied' : List Nat} {l : LineRow} {d d' : Db}
    (h : applyLine resolved exit changedBy applied l d = .ok applied' d') :
    Applies resolved exit [l] d d' ∧ applied' = applied ++ (moving [l]).map LineRow.id ∧
      (l.effective = .promote → (resolved.lookup l.target).isSome) := by
  unfold applyLine at h
  cases hact : l.effective with
  | hold =>
    rw [hact] at h
    obtain ⟨rfl, rfl⟩ := pure_eq_ok.1 h
    refine ⟨⟨⟨_, _, _, _, rfl⟩, ?_, ?_, ?_⟩, ?_, by simp⟩
    · simp only [List.foldl_cons, List.foldl_nil]
      exact (updateWhere_eq_self fun _ _ _ => by simp [LineRow.move, hact]).symm
    · simp only [List.foldl_cons, List.foldl_nil, hact, reduceCtorEq, if_false]
      exact (updateWhere_eq_self fun _ _ _ => rfl).symm
    · simp [moving, hact]
    · simp [moving, hact]
  | promote =>
    rw [hact] at h
    dsimp only at h
    cases htarget : Text.nonZero (resolved.lookup l.target) with
    | none =>
      rw [htarget] at h
      exact (throw_eq_ok.1 h).elim
    | some target =>
      rw [htarget] at h
      have hlook := (Text.nonZero_eq_some.1 htarget).1
      obtain ⟨_, t₁, hset, h⟩ := bind_eq_ok.1 h
      obtain ⟨_, t₂, hline, h⟩ := bind_eq_ok.1 h
      obtain ⟨_, t₃, hrec, hret⟩ := bind_eq_ok.1 h
      obtain ⟨rfl, rfl⟩ := pure_eq_ok.1 hret
      have e₁ := exec_eq_ok.1 hset
      have e₂ := exec_eq_ok.1 hline
      have hrec := recordClassChange_records hrec
      obtain ⟨history, seq, e₃⟩ := hrec.only
      have hnew : l.newClass resolved = some target := by simp [LineRow.newClass, hact, hlook]
      have hmove : l.move resolved exit = fun s => { s with classId := some target } := by
        funext s
        simp [LineRow.move, hact, hnew]
      refine ⟨⟨⟨_, _, _, _, by rw [e₃, e₂, e₁]; rfl⟩, ?_, ?_, ?_⟩, ?_, by simp [hlook]⟩
      · rw [e₃, e₂, e₁, List.foldl_cons, List.foldl_nil, hmove]
        rfl
      · rw [e₃, e₂, e₁, List.foldl_cons, List.foldl_nil, hnew]
        simp [hact, Tables.setLines, Tables.setStudents]
      · rw [hrec.log, e₂, e₁]
        simp [moving, hact, hnew, Tables.log, Tables.setLines, Tables.setStudents]
      · simp [moving, hact]
  | graduate =>
    rw [hact] at h
    obtain ⟨_, t, hm, hret⟩ := bind_eq_ok.1 h
    obtain ⟨rfl, rfl⟩ := pure_eq_ok.1 hret
    refine ⟨moveStudent_applies ?_ (by simp [hact]) (by simp [hact]) hm, ?_, by simp⟩
    · funext s
      simp [LineRow.move, hact]
    · simp [moving, hact]
  | withdraw =>
    rw [hact] at h
    obtain ⟨_, t, hm, hret⟩ := bind_eq_ok.1 h
    obtain ⟨rfl, rfl⟩ := pure_eq_ok.1 hret
    refine ⟨moveStudent_applies ?_ (by simp [hact]) (by simp [hact]) hm, ?_, by simp⟩
    · funext s
      simp [LineRow.move, hact]
    · simp [moving, hact]

/-- The loop of step 2. -/
theorem apply_loop {resolved : List (TargetKey × Nat)} {exit : Option Date}
    {changedBy : Option Nat} {ls : List LineRow} {applied applied' : List Nat} {d d' : Db}
    (h : ls.foldlM (applyLine resolved exit changedBy) applied d = .ok applied' d') :
    Applies resolved exit ls d d' ∧ applied' = applied ++ (moving ls).map LineRow.id ∧
      ∀ l ∈ ls, l.effective = .promote → (resolved.lookup l.target).isSome := by
  induction ls generalizing applied d with
  | nil =>
    obtain ⟨rfl, rfl⟩ := pure_eq_ok.1 h
    exact ⟨applies_nil _ _ _, by simp [moving], by simp⟩
  | cons l ls ih =>
    rw [List.foldlM_cons] at h
    obtain ⟨applied₁, d₁, hl, hls⟩ := bind_eq_ok.1 h
    obtain ⟨h₁, rfl, hres⟩ := applyLine_ok hl
    obtain ⟨h₂, rfl, hres'⟩ := ih hls
    refine ⟨h₁.append h₂, ?_, ?_⟩
    · rw [List.append_assoc, ← List.map_append, moving, moving, moving, ← List.filter_append]
      rfl
    · intro x hx
      rcases List.mem_cons.1 hx with rfl | hx
      · exact hres
      · exact hres' x hx

/-! ## The whole commit -/

/-- The statuses after step 3. -/
def flipped (fromYear toYear : Nat) (years : List YearRow) : List YearRow :=
  updateWhere (fun y => y.id = toYear)
    (fun y => { y with status := .active, rolledFromId := some fromYear })
    (updateWhere (fun y => y.id = fromYear) (fun y => { y with status := .closed }) years)

/-- An applied line. A held one stays as it is. -/
def LineRow.close (resolved : List (TargetKey × Nat)) (l : LineRow) : LineRow :=
  if l.effective = .hold then l
  else
    { l with
      toClassId := if l.effective = .promote then l.newClass resolved else l.toClassId
      applied := true }

/-- What committing the previewed rollover `r` writes. -/
structure Performed (d : Db) (r : RolloverRow) (resolved : List (TargetKey × Nat)) (d' : Db) :
    Prop where
  only : ∃ years classes students history rollovers lines seq,
    d'.val = { d.val with years, classes, students, history, rollovers, lines, seq }
  years : d'.val.years = flipped r.fromYearId r.toYearId d.val.years
  rollovers : d'.val.rollovers = updateWhere (fun x => x.id = r.id)
    (fun x => { x with state := .committed, summary := some (summaryOf (d.val.openLines r.id)) })
    d.val.rollovers
  classes : ∃ opened, d'.val.classes = d.val.classes ++ opened ∧
    ∀ c ∈ opened, OpenedBy d.val r.toYearId (d.val.openLines r.id) c
  found : ∀ l ∈ d.val.openLines r.id, l.effective = .promote →
    ∃ cid, l.newClass resolved = some cid ∧ d'.val.HasNamed (d.val.targetName l) r.toYearId cid
  students : d'.val.students = d.val.students.map fun s =>
    (((d.val.openLines r.id).find? fun l => l.studentId = s.id).map fun l =>
      l.move resolved ((d.val.year? r.fromYearId).bind YearRow.endDate) s).getD s
  lines : d'.val.lines = d.val.lines.map fun l =>
    if l ∈ d.val.openLines r.id then l.close resolved else l
  log : d'.val.log = d.val.log ++
    (moving (d.val.openLines r.id)).map fun l => (l.studentId, l.fromClassId, l.newClass resolved)

omit [Unicode] in
/-- The two updates of the lines, together. -/
theorem closed_lines (d : Db) (rid : Nat) (resolved : List (TargetKey × Nat)) :
    updateWhere (fun l => l.id ∈ (moving (d.val.openLines rid)).map LineRow.id ∧ ¬l.applied)
        (fun l => { l with applied := true })
        ((d.val.openLines rid).foldl
          (fun xs l => updateWhere (fun x => x.id = l.id)
            (fun x => if l.effective = .promote then { x with toClassId := l.newClass resolved }
              else x) xs) d.val.lines) =
      d.val.lines.map fun l => if l ∈ d.val.openLines rid then l.close resolved else l := by
  have hids : ((d.val.openLines rid).map LineRow.id).Nodup := by
    have hall : (d.val.lines.map LineRow.id).Nodup := d.ok.keys.lines
    exact hall.sublist ((List.filter_sublist.trans List.filter_sublist).map LineRow.id)
  rw [foldl_updateWhere_key LineRow.id (fun l x => by split_ifs <;> rfl) hids,
    updateWhere, List.map_map]
  refine List.map_congr_left fun l hl => ?_
  have hmine : ∀ x ∈ d.val.openLines rid, x.id = l.id → x = l := fun x hx he =>
    d.ok.keys.lines.eq_of_key_eq (openLines_mem.1 hx).1 hl he
  by_cases hopen : l ∈ d.val.openLines rid
  · have hfind : (d.val.openLines rid).find? (fun x => x.id = l.id) = some l :=
      (show Keyed LineRow.id _ from hids).find?_eq_some.2 ⟨hopen, rfl⟩
    have hnot : l.applied = false := (openLines_mem.1 hopen).2.2
    by_cases hhold : l.effective = .hold
    · have hmoving : l.id ∉ (moving (d.val.openLines rid)).map LineRow.id := by
        intro hm
        obtain ⟨x, hx, he⟩ := List.mem_map.1 hm
        obtain ⟨hxo, hxh⟩ := List.mem_filter.1 hx
        rw [hmine x hxo he] at hxh
        simp [hhold] at hxh
      simp only [Function.comp, hfind, Option.map_some, Option.getD_some, hhold, reduceCtorEq,
        if_false, if_pos hopen, LineRow.close, if_true]
      exact if_neg fun hm => hmoving (of_decide_eq_true hm).1
    · have hmoving : l.id ∈ (moving (d.val.openLines rid)).map LineRow.id :=
        List.mem_map_of_mem (List.mem_filter.2 ⟨hopen, by simpa using hhold⟩)
      simp only [Function.comp, hfind, Option.map_some, Option.getD_some, if_pos hopen,
        LineRow.close, if_neg hhold]
      by_cases hprom : l.effective = .promote
      · simp only [hprom, if_true, hmoving, hnot]
        simp
      · simp only [if_neg hprom, hmoving, hnot]
        simp
  · have hfind : (d.val.openLines rid).find? (fun x => x.id = l.id) = none := by
      rw [List.find?_eq_none]
      intro x hx he
      exact hopen (hmine x hx (of_decide_eq_true he) ▸ hx)
    have hmoving : l.id ∉ (moving (d.val.openLines rid)).map LineRow.id := by
      intro hm
      obtain ⟨x, hx, he⟩ := List.mem_map.1 hm
      exact hopen (hmine x (List.mem_filter.1 hx).1 he ▸ (List.mem_filter.1 hx).1)
    simp only [Function.comp, hfind, Option.map_none, Option.getD_none, if_neg hopen]
    exact if_neg fun hm => hmoving (of_decide_eq_true hm).1

/-- **A commit that returned performed the rollover.** -/
theorem commitPreviewed_ok {r : RolloverRow} {changedBy : Option Nat} {d d' : Db}
    {o : Option RolloverRow} (h : commitPreviewed r changedBy d = .ok o d') :
    o = d'.val.rollover? r.id ∧ ∃ resolved, Performed d r resolved d' := by
  obtain ⟨_, d₁, h₁, h⟩ := bind_eq_ok.1 h
  have e₁ := exec_eq_ok.1 h₁
  simp only [query_bind] at h
  obtain ⟨resolved, d₂, h₂, h⟩ := bind_eq_ok.1 h
  simp only [query_bind] at h
  obtain ⟨applied, d₃, h₃, h⟩ := bind_eq_ok.1 h
  obtain ⟨_, d₄, h₄, h⟩ := bind_eq_ok.1 h
  have e₄ := exec_eq_ok.1 h₄
  obtain ⟨_, d₆, hflip, h⟩ := bind_eq_ok.1 h
  obtain ⟨_, d₅, h₅, h₆⟩ := bind_eq_ok.1 hflip
  have e₅ := exec_eq_ok.1 h₅
  have e₆ := exec_eq_ok.1 h₆
  obtain ⟨_, d₇, h₇, hread⟩ := bind_eq_ok.1 h
  have e₇ := exec_eq_ok.1 h₇
  obtain ⟨rfl, rfl⟩ := query_eq_ok.1 hread
  have hlines : (d₁.val.linesOf r.id).filter (fun l => ¬l.applied) = d.val.openLines r.id := by
    rw [e₁]
    rfl
  rw [hlines] at h₂ h₃ e₇
  have hres : Resolves d₁ r.toYearId (d.val.openLines r.id) resolved d₂ := by
    refine resolve_loop (fun l hl => ?_) (resolves_nil d₁ r.toYearId) h₂
    rw [e₁]
    exact (openLines_mem.1 hl).1
  obtain ⟨opened, seq₂, e₂, hopened⟩ := hres.only
  obtain ⟨happ, rfl, hlook⟩ := apply_loop h₃
  obtain ⟨students, lines, history, seq₃, e₃⟩ := happ.only
  have hstudents := happ.students
  have hxs := happ.lines
  have hlog := happ.log
  have hyear : (d₂.val.year? r.fromYearId).bind YearRow.endDate =
      (d.val.year? r.fromYearId).bind YearRow.endDate := by
    rw [e₂, e₁]
    rfl
  rw [hyear] at hstudents
  refine ⟨rfl, resolved, ?_⟩
  have htables : d₇.val =
      { d.val with
        years := flipped r.fromYearId r.toYearId d.val.years
        classes := d.val.classes ++ opened
        students := d₃.val.students
        history := d₃.val.history
        rollovers := updateWhere (fun x => x.id = r.id)
          (fun x => { x with state := .committed,
                             summary := some (summaryOf (d.val.openLines r.id)) })
          (updateWhere (fun x => x.id = r.id) (fun x => { x with state := .committing })
            d.val.rollovers)
        lines := updateWhere
          (fun l => l.id ∈ (moving (d.val.openLines r.id)).map LineRow.id ∧ ¬l.applied)
          (fun l => { l with applied := true }) d₃.val.lines
        seq := seq₃ } := by
    rw [e₇, e₆, e₅, e₄, e₃, e₂, e₁]
    rfl
  have hclasses : d₇.val.classes = d₂.val.classes := by
    rw [htables, e₂, e₁]
    rfl
  constructor
  · exact ⟨_, _, _, _, _, _, _, htables⟩
  · rw [htables]
  · rw [htables]
    exact updateWhere_updateWhere fun x hx => hx
  · refine ⟨opened, by rw [htables], fun c hc => ?_⟩
    have hc := hopened c hc
    rw [e₁] at hc
    exact ⟨hc.year, hc.fresh, hc.source⟩
  · intro l hl hprom
    obtain ⟨cid, hcid⟩ := Option.isSome_iff_exists.1 (hlook l hl hprom)
    obtain ⟨x, -, hx, c, hc, hname⟩ := hres.found _ _ hcid
    refine ⟨cid, by simp [LineRow.newClass, hprom, hcid], c, by rwa [hclasses], ?_⟩
    rw [e₁, targetName_congr hx] at hname
    exact hname
  · have h₀ : d₂.val.students = d.val.students := by
      rw [e₂, e₁]
      rfl
    rw [htables, hstudents, h₀]
    exact foldl_updateWhere_key _ (fun l s => by simp) (openLines_students d r.id) _
  · have h₀ : d₂.val.lines = d.val.lines := by
      rw [e₂, e₁]
      rfl
    rw [htables, hxs, h₀]
    exact closed_lines d r.id resolved
  · have h₀ : d₂.val.log = d.val.log := by
      rw [e₂, e₁]
      rfl
    have h₇ : d₇.val.log = d₃.val.log := by
      rw [htables]
      rfl
    rw [h₇, hlog, h₀]

/-- **What committing does.** It raised, or it returned a rollover that was committed already and
changed nothing, or it performed a previewed one. -/
theorem commit_ok {u : List String} {rid : Nat} {changedBy : Option Nat} {d d' : Db}
    {o : Option RolloverRow} (h : TenantService.commitRollover u rid changedBy d = .ok o d') :
    Authz.require u TenantService.rolloverRoles ∧
      ∃ r ∈ d.val.rollovers, r.id = rid ∧
        ((r.state = .committed ∧ o = some r ∧ d' = d) ∨
          (r.state = .previewed ∧ o = d'.val.rollover? rid ∧
            ∃ resolved, Performed d r resolved d')) := by
  unfold TenantService.commitRollover TenantService.gate at h
  obtain ⟨_, t, hgate, h⟩ := bind_eq_ok.1 h
  obtain ⟨hallowed, rfl⟩ := raiseIf_eq_ok.1 hgate
  refine ⟨not_not.1 hallowed, ?_⟩
  unfold commitYearRollover at h
  have h := transaction_eq_ok.1 h
  simp only [query_bind] at h
  cases hr : d.val.rollover? rid with
  | none =>
    rw [hr] at h
    exact (throw_eq_ok.1 h).elim
  | some r =>
    obtain ⟨hmem, rfl⟩ := d.ok.keys.rollovers.find?_eq_some.1 hr
    refine ⟨r, hmem, rfl, ?_⟩
    rw [hr] at h
    dsimp only at h
    cases hstate : r.state with
    | committed =>
      rw [hstate] at h
      obtain ⟨rfl, rfl⟩ := pure_eq_ok.1 h
      exact .inl ⟨rfl, rfl, rfl⟩
    | previewed =>
      rw [hstate] at h
      exact .inr ⟨rfl, commitPreviewed_ok h⟩
    | draft =>
      rw [hstate] at h
      exact (throw_eq_ok.1 h).elim
    | committing =>
      rw [hstate] at h
      exact (throw_eq_ok.1 h).elim

end Sams.School
