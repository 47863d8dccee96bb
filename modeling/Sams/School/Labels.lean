import Mathlib.Data.List.DropRight
import Mathlib.Data.List.TakeWhile
import Sams.School.Years

/-!
# The section labels of classes

A class is matched to next year's class by its section label, which four writers derive from its
name. The commit of a rollover opens classes too: it composes the name from a level and the label
of a line, and copies that label.

* `deriveSectionLabel_append` — the label derived from a composed name is the line's label exactly
  when that label is a word.
* `deriveSectionLabel_ends` — what is derived from a name is a word, and ends the trimmed name.
* `Labelled` — every class has the label its name shows. Every step keeps it, but for a commit that
  opens a class under a label that is no word.
-/

namespace Sams.School

open Programs Rows Runs TenantRepository

/-! ## Words -/

/-- A label that white space neither splits nor makes empty. -/
def IsWord (label : String) : Prop := label ≠ "" ∧ label.toList.any Text.isSpace = false

instance (label : String) : Decidable (IsWord label) := inferInstanceAs (Decidable (_ ∧ _))

theorem IsWord.isSpace {label : String} (h : IsWord label) {c : Char} (hc : c ∈ label.toList) :
    Text.isSpace c = false := by
  simpa using List.any_eq_false.1 h.2 c hc

/-- A prefix that was taken is a prefix that can be dropped. -/
theorem drop_takeWhile {α : Type} (p : α → Bool) (l : List α) :
    l.drop (l.takeWhile p).length = l.dropWhile p := by
  induction l with
  | nil => rfl
  | cons x l ih =>
    by_cases hx : p x = true
    · simp [hx, ih]
    · simp [hx]

/-- The label part of a pattern is the next word, when nothing else follows. -/
theorem trailingLabel_eq (cs : List Char) : trailingLabel cs =
    if (cs.dropWhile Text.isSpace).takeWhile (fun c => ¬Text.isSpace c) ≠ [] ∧
        ((cs.dropWhile Text.isSpace).dropWhile fun c => ¬Text.isSpace c).all Text.isSpace then
      some (String.ofList ((cs.dropWhile Text.isSpace).takeWhile fun c => ¬Text.isSpace c))
    else none := by
  unfold trailingLabel
  simp only [drop_takeWhile]

/-- What the pattern captures is a word. -/
theorem trailingLabel_isWord {cs : List Char} {label : String}
    (h : trailingLabel cs = some label) : IsWord label := by
  rw [trailingLabel_eq] at h
  split_ifs at h with hword
  obtain rfl := Option.some.inj h
  refine ⟨fun he => hword.1 ?_, List.any_eq_false.2 fun c hc => ?_⟩
  · simpa using congrArg String.toList he
  · rw [String.toList_ofList] at hc
    simpa using List.mem_takeWhile_imp hc

theorem searchLabel_isWord [Unicode] {prev : Option Char} {cs : List Char} {label : String}
    (h : searchLabel prev cs = some label) : IsWord label := by
  induction cs generalizing prev with
  | nil => cases h
  | cons c cs ih =>
    unfold searchLabel at h
    cases hmatch : (afterMarker prev (c :: cs)).bind trailingLabel with
    | some found =>
      rw [hmatch] at h
      obtain ⟨rest, -, hrest⟩ := Option.bind_eq_some_iff.1 hmatch
      exact Option.some.inj h ▸ trailingLabel_isWord hrest
    | none =>
      rw [hmatch] at h
      exact ih h

/-- A word at the end is captured. -/
theorem trailingLabel_word {label : String} (h : IsWord label) :
    trailingLabel (' ' :: label.toList) = some label := by
  have hne : label.toList ≠ [] := fun he => h.1 (String.toList_eq_nil_iff.1 he)
  have hblank : (' ' :: label.toList).dropWhile Text.isSpace = label.toList := by
    rw [List.dropWhile_cons_of_pos (by decide)]
    cases hl : label.toList with
    | nil => rfl
    | cons c cs =>
      have hc : Text.isSpace c = false := h.isSpace (by simp [hl])
      rw [List.dropWhile_cons_of_neg (by simp [hc])]
  have hword : label.toList.takeWhile (fun c => ¬Text.isSpace c) = label.toList :=
    List.takeWhile_eq_self_iff.2 fun c hc => by simp [h.isSpace hc]
  have hrest : label.toList.dropWhile (fun c => ¬Text.isSpace c) = [] :=
    List.dropWhile_eq_nil_iff.2 fun c hc => by simp [h.isSpace hc]
  rw [trailingLabel_eq, hblank, hword, hrest, if_pos ⟨hne, rfl⟩, String.ofList_toList]

/-- Dropping stops at the latest where the predicate fails. -/
theorem suffix_dropWhile {α : Type} {p : α → Bool} {x : α} (hx : p x = false) (cs rest : List α) :
    x :: rest <:+ (cs ++ x :: rest).dropWhile p := by
  induction cs with
  | nil => simp [hx]
  | cons c cs ih =>
    rw [List.cons_append, List.dropWhile_cons]
    split_ifs
    · exact ih
    · exact List.suffix_append (c :: cs) _

/-- Nothing is captured where more than a word follows. -/
theorem trailingLabel_two {label : String} (h : IsWord label) (cs : List Char) :
    trailingLabel (cs ++ '-' :: ' ' :: label.toList) = none := by
  obtain ⟨v, hv⟩ := suffix_dropWhile (p := Text.isSpace) (x := '-') (by decide) cs
    (' ' :: label.toList)
  obtain ⟨w, hw⟩ := suffix_dropWhile (p := fun c => ¬Text.isSpace c) (x := ' ') (by decide)
    (v ++ ['-']) label.toList
  rw [List.append_assoc, List.singleton_append, hv] at hw
  rw [trailingLabel_eq, if_neg]
  rintro ⟨-, hall⟩
  -- the label itself is left over
  rw [← hw, List.all_eq_true] at hall
  cases hl : label.toList with
  | nil => exact h.1 (String.toList_eq_nil_iff.1 hl)
  | cons c cs =>
    have hspace := hall c (by simp [hl])
    rw [h.isSpace (by simp [hl])] at hspace
    cases hspace

/-- A word of the pattern that matches ends before a blank. -/
theorem length_le_of_zipWith {word cs rest : List Char}
    (hword : ∀ p ∈ word, sameLetter p ' ' = false)
    (h : (List.zipWith sameLetter word (cs ++ ' ' :: rest)).all id = true) :
    word.length ≤ cs.length := by
  induction word generalizing cs with
  | nil => simp
  | cons p word ih =>
    cases cs with
    | nil => simp [hword p (by simp)] at h
    | cons c cs =>
      simp only [List.cons_append, List.zipWith_cons_cons, List.all_cons, Bool.and_eq_true] at h
      simpa using ih (fun q hq => hword q (by simp [hq])) h.2

theorem section_ne_blank : ∀ p ∈ "section".toList, sameLetter p ' ' = false := by
  simp [sameLetter]

/-- A marker that starts before a blank ends before it. -/
theorem afterMarker_append [Unicode] {prev : Option Char} {c : Char} {cs rest found : List Char}
    (h : afterMarker prev (c :: (cs ++ ' ' :: rest)) = some found) :
    ∃ cs', found = cs' ++ ' ' :: rest := by
  unfold afterMarker at h
  split at h
  · rename_i hdash
    obtain ⟨-, rfl⟩ := List.cons.inj hdash
    exact ⟨cs, (Option.some.inj h).symm⟩
  · dsimp only at h
    split_ifs at h with hmatch
    have hlen : "section".toList.length ≤ (c :: cs).length :=
      length_le_of_zipWith section_ne_blank hmatch.2.2
    refine ⟨(c :: cs).drop "section".toList.length, ?_⟩
    rw [← Option.some.inj h, ← List.cons_append, List.drop_append_of_le_length hlen]

theorem afterMarker_blank [Unicode] (prev : Option Char) (cs : List Char) :
    afterMarker prev (' ' :: cs) = none := by
  unfold afterMarker
  split
  · simp_all
  · refine if_neg fun h => ?_
    have hlen : "section".toList.length ≤ [].length :=
      length_le_of_zipWith section_ne_blank h.2.2
    simp at hlen

/-- A word after a dash is found, whatever comes before. -/
theorem searchLabel_append [Unicode] {label : String} (h : IsWord label) (prev : Option Char)
    (cs : List Char) :
    searchLabel prev (cs ++ ' ' :: '-' :: ' ' :: label.toList) = some label := by
  induction cs generalizing prev with
  | nil =>
    have hdash : afterMarker (some ' ') ('-' :: ' ' :: label.toList) =
        some (' ' :: label.toList) := rfl
    rw [List.nil_append, searchLabel, afterMarker_blank, Option.bind_none]
    dsimp only
    rw [searchLabel, hdash, Option.bind_some, trailingLabel_word h]
  | cons c cs ih =>
    have hnone : (afterMarker prev (c :: (cs ++ ' ' :: '-' :: ' ' :: label.toList))).bind
        trailingLabel = none := by
      cases hfound : afterMarker prev (c :: (cs ++ ' ' :: '-' :: ' ' :: label.toList)) with
      | none => rfl
      | some found =>
        obtain ⟨cs', rfl⟩ := afterMarker_append hfound
        have := trailingLabel_two h (cs' ++ [' '])
        rwa [List.append_assoc] at this
    rw [List.cons_append, searchLabel, hnone]
    exact ih _

/-- **The label of a composed name** is the label it was composed with, when that is a word and
only then. -/
theorem deriveSectionLabel_append [Unicode] (name label : String) :
    deriveSectionLabel (name ++ " - " ++ label) = some label ↔ IsWord label := by
  refine ⟨searchLabel_isWord, fun h => ?_⟩
  have := searchLabel_append h none name.toList
  unfold deriveSectionLabel
  rwa [String.toList_append, String.toList_append, List.append_assoc]

/-! ## Where the label stands -/

/-- The label stands at the end of the text, but for white space. -/
theorem trailingLabel_ends {cs : List Char} {label : String} (h : trailingLabel cs = some label) :
    ∃ rest, label.toList ++ rest <:+ cs ∧ ∀ c ∈ rest, Text.isSpace c = true := by
  rw [trailingLabel_eq] at h
  split_ifs at h with hword
  obtain rfl := Option.some.inj h
  refine ⟨(cs.dropWhile Text.isSpace).dropWhile fun c => ¬Text.isSpace c, ?_,
    List.all_eq_true.1 hword.2⟩
  rw [String.toList_ofList, List.takeWhile_append_dropWhile]
  exact List.dropWhile_suffix _

theorem afterMarker_suffix [Unicode] {prev : Option Char} {cs rest : List Char}
    (h : afterMarker prev cs = some rest) : rest <:+ cs := by
  unfold afterMarker at h
  split at h
  · obtain rfl := Option.some.inj h
    exact List.suffix_cons _ _
  · dsimp only at h
    split_ifs at h
    obtain rfl := Option.some.inj h
    exact List.drop_suffix _ _

theorem searchLabel_ends [Unicode] {prev : Option Char} {cs : List Char} {label : String}
    (h : searchLabel prev cs = some label) :
    ∃ rest, label.toList ++ rest <:+ cs ∧ ∀ c ∈ rest, Text.isSpace c = true := by
  induction cs generalizing prev with
  | nil => cases h
  | cons c cs ih =>
    unfold searchLabel at h
    cases hmatch : (afterMarker prev (c :: cs)).bind trailingLabel with
    | some found =>
      rw [hmatch] at h
      obtain ⟨after, hmarker, hlabel⟩ := Option.bind_eq_some_iff.1 hmatch
      obtain ⟨rest, hsuffix, hrest⟩ := trailingLabel_ends hlabel
      exact ⟨rest, Option.some.inj h ▸ hsuffix.trans (afterMarker_suffix hmarker), hrest⟩
    | none =>
      rw [hmatch] at h
      obtain ⟨rest, hsuffix, hrest⟩ := ih h
      exact ⟨rest, hsuffix.trans (List.suffix_cons c cs), hrest⟩

/-- What is dropped on the right is dropped with all that follows it. -/
theorem rdropWhile_append_of_pos {α : Type} {p : α → Bool} {l rest : List α}
    (h : ∀ x ∈ rest, p x = true) : (l ++ rest).rdropWhile p = l.rdropWhile p := by
  unfold List.rdropWhile
  rw [List.reverse_append, List.dropWhile_append_of_pos fun x hx => h x (List.mem_reverse.1 hx)]

/-- A word that ends a text but for white space ends the trimmed text. -/
theorem suffix_strip {name label : String} {rest : List Char} (hword : IsWord label)
    (hsuffix : label.toList ++ rest <:+ name.toList) (hrest : ∀ c ∈ rest, Text.isSpace c = true) :
    label.toList <:+ (Text.strip name).toList := by
  obtain ⟨u, hu⟩ := hsuffix
  have hne : label.toList ≠ [] := fun he => hword.1 (String.toList_eq_nil_iff.1 he)
  obtain ⟨c, cs, hcons⟩ := List.exists_cons_of_ne_nil hne
  have hc : Text.isSpace c = false := hword.isSpace (by simp [hcons])
  -- what is dropped on the left stands before the label
  obtain ⟨v, hv⟩ := suffix_dropWhile (p := Text.isSpace) hc u (cs ++ rest)
  rw [Text.toList_strip, ← hu, hcons, List.cons_append, ← hv]
  have hsplit : v ++ c :: (cs ++ rest) = v ++ c :: cs ++ rest := by simp
  have hkept : (v ++ c :: cs).rdropWhile Text.isSpace = v ++ c :: cs := by
    rw [List.rdropWhile_eq_self_iff]
    intro hl hspace
    have hmem : (v ++ c :: cs).getLast hl ∈ label.toList := by
      rw [List.getLast_append_of_ne_nil hl (List.cons_ne_nil c cs), hcons]
      exact List.getLast_mem _
    rw [hword.isSpace hmem] at hspace
    cases hspace
  rw [hsplit, rdropWhile_append_of_pos hrest, hkept]
  exact ⟨v, rfl⟩

/-- **What is derived from a name** is a word, and ends the trimmed name. -/
theorem deriveSectionLabel_ends [Unicode] {name label : String}
    (h : deriveSectionLabel name = some label) :
    IsWord label ∧ label.toList <:+ (Text.strip name).toList := by
  have hword := searchLabel_isWord h
  obtain ⟨rest, hsuffix, hrest⟩ := searchLabel_ends h
  exact ⟨hword, suffix_strip hword hsuffix hrest⟩

/-! ## Steps -/

section Steps

variable [Unicode]

/-- Every class has the section label of its name. -/
def Labelled (d : Db) : Prop := ∀ c ∈ d.val.classes, c.Labelled

instance (c : ClassRow) : Decidable c.Labelled := inferInstanceAs (Decidable (_ = _))

instance : DecidablePred Labelled := fun d => inferInstanceAs (Decidable (∀ c ∈ d.val.classes, _))

/-- Editing levels and classes keeps the labels. -/
theorem labelled_editable : Editable (Keeps Labelled) where
  peripheral h := moves_exec fun d _ hd => by
    obtain ⟨levels, settings, blackouts, auditLog, seq, hval⟩ := h d.val
    simp only [Labelled, hval]
    exact hd
  setClasses p f h := moves_exec fun d _ hd c hc => by
    rcases cases_of_mem_updateWhere hc with ⟨hm, -⟩ | ⟨x, -, -, rfl⟩
    · exact hd c hm
    · exact (h x).2.2
  insertClass c₀ h := moves_exec fun d _ hd c hc => by
    rcases List.mem_append.1 hc with hm | hm
    · exact hd c hm
    · exact List.mem_singleton.1 hm ▸ h
  removeClasses ids changedBy d u d' h hd c hc := by
    obtain ⟨d₁, d₂, hset, hrec, hdel⟩ := removeClasses_ok h
    obtain ⟨history, seq, hval⟩ := hrec.only
    rw [hdel, hval, hset] at hc
    exact hd c (List.mem_filter.1 hc).1

/-- Every class that a commit of `r` has to open gets a word for a label: a line that promotes has
one, or `to_year` has a class of the composed name. -/
def Tables.OpensUnderWords (t : Tables) (r : RolloverRow) : Prop :=
  ∀ l ∈ opening (t.openLines r.id),
    (∃ c ∈ t.classes, t.targetName l = some c.name ∧ c.academicYearId = r.toYearId) ∨
      ∃ label ∈ l.toSectionLabel, IsWord label

instance (t : Tables) (r : RolloverRow) : Decidable (t.OpensUnderWords r) :=
  inferInstanceAs (Decidable (∀ l ∈ opening (t.openLines r.id), _ ∨ _))

/-- Every class that a commit opens gets a label that is a word. -/
def KeepsLabels (d : Db) (op : Op) : Prop := ∀ r, op.Attempts d r → d.val.OpensUnderWords r

/-- The name of a class that a commit opens shows its label exactly when that is a word. -/
theorem OpenedBy.derived {d : Db} {toYear : Nat} {ls : List LineRow} {c : ClassRow} {label : String}
    (h : OpenedBy d.val toYear ls c) (hlabel : c.sectionLabel = some label) :
    deriveSectionLabel c.name = some label ↔ IsWord label := by
  obtain ⟨l, src, hfind, htarget, -, -⟩ := h.source
  have hname : d.val.targetName l = some c.name := by simpa using List.find?_some hfind
  obtain ⟨level, -, hcomposed⟩ := Option.map_eq_some_iff.1 hname
  have hsame : l.toSectionLabel = some label := (congrArg Prod.snd htarget).trans hlabel
  rw [← hcomposed, hsame]
  exact deriveSectionLabel_append level.name label

/-- A class opened under a word has the label of its name. -/
theorem OpenedBy.labelled {d : Db} {r : RolloverRow} {c : ClassRow}
    (h : OpenedBy d.val r.toYearId (d.val.openLines r.id) c) (hwords : d.val.OpensUnderWords r) :
    c.Labelled := by
  obtain ⟨l, src, hfind, htarget, -, -⟩ := h.source
  have hname : d.val.targetName l = some c.name := by simpa using List.find?_some hfind
  rcases hwords l (List.mem_of_find?_eq_some hfind) with ⟨c', hc', hname', hyear⟩ |
    ⟨label, hlabel, hword⟩
  · exact absurd (Option.some.inj (hname'.symm.trans hname)) (h.fresh c' hc' hyear)
  · have hsame : c.sectionLabel = some label := (congrArg Prod.snd htarget).symm.trans hlabel
    exact hsame.trans ((h.derived hsame).2 hword).symm

theorem labelled_commit {d : Db} {r : RolloverRow} (hr : r ∈ d.val.rollovers)
    (hstate : r.state = .previewed) (hwords : d.val.OpensUnderWords r) (hI : Labelled d)
    (u : List String) (c : Option Nat) :
    Labelled (after (TenantService.commitRollover u r.id c) d) := by
  rcases ok_or_error (TenantService.commitRollover u r.id c) d with ⟨o, h⟩ | ⟨e, h⟩
  · have hfound : d.val.rollover? r.id = some r := d.ok.keys.rollovers.find?_eq_some.2 ⟨hr, rfl⟩
    obtain ⟨resolved, hp⟩ := commit_performed hfound hstate h
    obtain ⟨opened, hval, hopened⟩ := hp.classes
    intro x hx
    rw [hval] at hx
    rcases List.mem_append.1 hx with hx | hx
    · exact hI x hx
    · exact (hopened x hx).labelled hwords
  · rwa [commit_error h]

/-- **A step keeps the labels**, unless it opens a class under a label that is no word. -/
theorem labelled_step {d : Db} {op : Op} (hop : KeepsLabels d op) (hI : Labelled d) :
    Labelled (step d op) := by
  cases hediting : op.isEditing with
  | true =>
    refine labelled_editable.step hediting (fun _ lid _ _ => ?_) d hI
    exact moves_exec fun _ _ hd => hd
  | false =>
    cases hroll : op.isRollover with
    | true =>
      rcases rollover_kinds d hroll with h | ⟨r, hattempt, -⟩
      · intro c hc
        exact hI c (h.classes ▸ hc)
      · obtain ⟨hr, hstate, u, c, rfl, -⟩ := id hattempt
        rw [step, Op.program, after_discard]
        exact labelled_commit hr hstate (hop r hattempt) hI u c
    | false =>
      intro c hc
      exact hI c ((places_step d hediting hroll).classes ▸ hc)

/-- **The labels stay in step with the names**, in every run whose commits open classes only under
words. -/
theorem labels_in_sync {d : Db} (h₀ : Labelled d) {ops : List Op}
    (hC : EachStep step KeepsLabels d ops) : Throughout step Labelled d ops :=
  run_throughout (fun _ _ hI hop => labelled_step hop hI) h₀ hC

/-! ## The round trip -/

/-- **The round trip of a section label**: a composed name shows the label that it was composed
with, what a name shows is a word that ends the trimmed name, and a class that a commit opens under
a word shows that word, whatever the name of its level. -/
theorem label_round_trip :
    (∀ name label, IsWord label → deriveSectionLabel (name ++ " - " ++ label) = some label) ∧
    (∀ name label, deriveSectionLabel name = some label →
      IsWord label ∧ label.toList <:+ (Text.strip name).toList) ∧
    ∀ (d d' : Db) (u : List String) (rid : Nat) (changedBy : Option Nat) (o : Option RolloverRow),
      TenantService.commitRollover u rid changedBy d = .ok o d' →
      ∀ c ∈ d'.val.classes, c ∉ d.val.classes → ∀ label, c.sectionLabel = some label →
        IsWord label → deriveSectionLabel c.name = some label := by
  refine ⟨fun name label => (deriveSectionLabel_append name label).2,
    fun name label => deriveSectionLabel_ends,
      fun d d' u rid changedBy o h c hc hnew label hlabel hword => ?_⟩
  obtain ⟨-, r, -, -, ⟨-, -, rfl⟩ | ⟨-, -, resolved, hp⟩⟩ := commit_ok h
  · exact absurd hc hnew
  · obtain ⟨opened, hval, hopened⟩ := hp.classes
    rw [hval] at hc
    have hc' := (List.mem_append.1 hc).resolve_left hnew
    exact ((hopened c hc').derived hlabel).2 hword

end Steps

theorem opensUnderWords_planned : ∀ r ∈ (smallRun (planned 100 1 2)).val.rollovers,
    (smallRun (planned 100 1 2)).val.OpensUnderWords r := by
  decide +kernel

theorem keepsLabels_planned :
    EachStep (@step ascii) KeepsLabels smallSchool (planned 100 1 2) := by
  have hother : ∀ (d : Db) {op : Op}, (∀ u rid c, op ≠ .commitRollover u rid c) →
      KeepsLabels d op := fun d op h r ⟨_, _, u, c, he, _⟩ => absurd he (h u r.id c)
  exact ⟨hother _ (by simp), hother _ (by simp), trivial⟩

theorem keepsLabels_committed : KeepsLabels (smallRun (planned 100 1 2)) (committed 100) :=
  fun r hr => opensUnderWords_planned r hr.1

theorem labels_in_sync_committed :
    Throughout (@step ascii) (@Labelled ascii) smallSchool (planned 100 1 2 ++ [committed 100]) :=
  @labels_in_sync ascii smallSchool (by decide +kernel) (planned 100 1 2 ++ [committed 100])
    (eachStep_append.2 ⟨keepsLabels_planned, keepsLabels_committed, trivial⟩)

/-! ## A label of two words -/

/-- The line of the small school's student is overridden to a section of two words, and the
rollover is committed. -/
def twoWords : List Op :=
  planned 100 1 2 ++
    [.overrideRolloverLine ["school_admin"] 100 (some "promote") (some 2) (some "B 2"),
     .previewRollover ["school_admin"] 100, committed 100]

theorem twoWords_class : ∃ c ∈ (smallRun twoWords).val.classes,
    c.name = "G2 - B 2" ∧ c.sectionLabel = some "B 2" ∧
      @deriveSectionLabel ascii c.name = none := by
  decide +kernel

/-- The new class has a label that its name does not show. -/
theorem label_out_of_sync : ¬∀ (d : Db) (ops : List Op), @Labelled ascii d →
    Throughout (@step ascii) (@Labelled ascii) d ops := by
  intro h
  have hlast : @Labelled ascii (smallRun twoWords) :=
    (h smallSchool twoWords (by decide +kernel)).last
  obtain ⟨c, hc, -, hlabel, hname⟩ := twoWords_class
  have hshown : c.sectionLabel = @deriveSectionLabel ascii c.name := hlast c hc
  exact Option.some_ne_none _ (hlabel.symm.trans (hshown.trans hname))

end Sams.School
