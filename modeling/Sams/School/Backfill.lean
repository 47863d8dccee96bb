import Mathlib.Data.List.DropRight
import Sams.Lib.Leftmost
import Sams.School.Labels

/-!
# The section label in the dialect of the database

The initialiser of a tenant's schema fills in the section labels that are missing. It takes them
from the names by a pattern that was written to mirror the program's own, in the regular expressions
of the database: these have the letters of `Section` in two cases only, and the white space of the
locale, and the pattern does not ask for a word boundary before `Section`.

* **`sqlSectionLabel_eq_iff`** — the two labels of a name are the same if and only if the
  two patterns are aligned on it: at the first place where either matches, both match and
  capture the same word.
-/

namespace Sams.School

open Leftmost

/-- What the locale of the database counts as white space. ASCII is the same in every locale. -/
class SqlLocale where
  isSpace : Char → Bool
  isSpace_ascii : ∀ c : Char, c.toNat < 128 →
    isSpace c = decide (c.toNat = 32 ∨ 9 ≤ c.toNat ∧ c.toNat ≤ 13)
  /-- The long s is a letter. -/
  isSpace_longS : ∀ c : Char, c.toNat = 0x17F → isSpace c = false

/-- The locale `C`, which knows no character beyond ASCII. -/
@[reducible] def cLocale : SqlLocale where
  isSpace c := c.toNat = 32 ∨ 9 ≤ c.toNat ∧ c.toNat ≤ 13
  isSpace_ascii _ _ := rfl
  isSpace_longS c h := by simp [h]

/-! ## The pattern of the initialiser -/

/-- One letter of `Section` under `(?i)`. -/
def sqlSameLetter (pat c : Char) : Bool := c = pat ∨ c = pat.toUpper

/-- What follows `(?:-|Section)` when it matches here. -/
def sqlAfterMarker (cs : List Char) : Option (List Char) :=
  match cs with
  | '-' :: rest => some rest
  | _ =>
    let word := "section".toList
    if cs.length ≥ word.length ∧ (List.zipWith sqlSameLetter word cs).all id then
      some (cs.drop word.length)
    else none

/-- `\s*(\S+)\s*$`, for a white space. -/
def wordAtEnd (space : Char → Bool) (cs : List Char) : Option String :=
  let cs := cs.dropWhile space
  let label := cs.takeWhile fun c => ¬space c
  if label ≠ [] ∧ (cs.drop label.length).all space then some (String.ofList label) else none

/-- `TRIM`, which drops blanks. -/
def sqlTrim (s : String) : String :=
  String.ofList ((s.toList.dropWhile (· = ' ')).rdropWhile (· = ' '))

/-- The program's label pattern, at a place of a name. -/
def labelHere [Unicode] :
    Pattern Char String := fun prev cs => (afterMarker prev cs).bind trailingLabel

section Locale

variable [SqlLocale]

/-- The initialiser's label pattern, at a place of a name. -/
def sqlLabelHere : Pattern Char String := fun _ cs =>
  (sqlAfterMarker cs).bind (wordAtEnd SqlLocale.isSpace)

/-- `SUBSTRING(name FROM '(?i)(?:-|Section)\s*(\S+)\s*$')`. -/
def sqlSubstring (name : String) : Option String := search sqlLabelHere none name.toList

/-- The label that the initialiser takes from a name. -/
def sqlSectionLabel (name : String) : Option String := (sqlSubstring name).map sqlTrim

/-- The two patterns are aligned on a name. -/
def Alike [Unicode] (name : String) : Prop := Aligned labelHere sqlLabelHere none name.toList

instance [Unicode] (name : String) : Decidable (Alike name) :=
  inferInstanceAs (Decidable (Aligned ..))

end Locale

/-! ## What the patterns capture -/

/-- A marker starts with a dash or an `S`. -/
def Starts (c : Char) : Prop := c = '-' ∨ sameLetter 's' c = true

theorem starts_iff {c : Char} : Starts c ↔
    c.toNat = 45 ∨ c.toNat = 115 ∨ c.toNat = 83 ∨ c.toNat = 0x17F := by
  have hchar : ∀ d : Char, c = d ↔ c.toNat = d.toNat := fun d => Char.toNat_inj.symm
  simp [Starts, sameLetter, hchar]

theorem isSpace_of_starts {c : Char} (h : Starts c) : Text.isSpace c = false := by
  rcases starts_iff.1 h with h | h | h | h <;> simp [Text.isSpace, Text.spaceCodes, h]

theorem sqlIsSpace_of_starts [SqlLocale] {c : Char} (h : Starts c) :
    SqlLocale.isSpace c = false := by
  rcases starts_iff.1 h with h | h | h | h
  · simp [SqlLocale.isSpace_ascii c (by omega), h]
  · simp [SqlLocale.isSpace_ascii c (by omega), h]
  · simp [SqlLocale.isSpace_ascii c (by omega), h]
  · exact SqlLocale.isSpace_longS c h

/-- No other letter of `Section` starts a marker. -/
theorem not_starts {p c : Char} (hp : p ∈ "ection".toList) (h : sameLetter p c = true) :
    ¬Starts c := by
  have hchar : ∀ d : Char, c = d ↔ c.toNat = d.toNat := fun d => Char.toNat_inj.symm
  rw [starts_iff]
  simp only [sameLetter, hchar, decide_eq_true_eq] at h
  have hcases : p = 'e' ∨ p = 'c' ∨ p = 't' ∨ p = 'i' ∨ p = 'o' ∨ p = 'n' := by simpa using hp
  rcases hcases with rfl | rfl | rfl | rfl | rfl | rfl <;> simp at h <;> omega

/-- The text of a marker: where it starts, and what follows. -/
def IsMarker (m : List Char) : Prop := ∃ x tail, m = x :: tail ∧ Starts x ∧ ∀ y ∈ tail, ¬Starts y

theorem isMarker_dash : IsMarker ['-'] := ⟨'-', [], rfl, .inl rfl, by simp⟩

theorem exists_mem_zip {α β : Type} {as : List α} {bs : List β} {y : β}
    (hy : y ∈ bs.take as.length) :
    ∃ a ∈ as, (a, y) ∈ List.zip as bs := by
  induction as generalizing bs with
  | nil => simp at hy
  | cons a as ih =>
    cases bs with
    | nil => simp at hy
    | cons b bs =>
      rw [List.length_cons, List.take_succ_cons] at hy
      rcases List.mem_cons.1 hy with rfl | hy
      · exact ⟨a, by simp, by simp⟩
      · obtain ⟨a', ha', hzip⟩ := ih hy
        exact ⟨a', by simp [ha'], by simp [hzip]⟩

/-- `Section`, in whatever letters. -/
theorem isMarker_section {cs : List Char} (hlen : "section".toList.length ≤ cs.length)
    (h : ∀ p ∈ List.zip "section".toList cs, sameLetter p.1 p.2 = true) :
    IsMarker (cs.take "section".toList.length) := by
  cases cs with
  | nil => cases hlen
  | cons x tail =>
    have hzip : List.zip "section".toList (x :: tail) = ('s', x) :: List.zip "ection".toList tail :=
      rfl
    rw [hzip] at h
    refine ⟨x, tail.take "ection".toList.length, rfl, .inr (h ('s', x) (by simp)), fun y hy => ?_⟩
    obtain ⟨p, hp, hmem⟩ := exists_mem_zip hy
    exact not_starts hp (h _ (List.mem_cons_of_mem _ hmem))

theorem all_zipWith {f : Char → Char → Bool} {as bs : List Char}
    (h : (List.zipWith f as bs).all id = true) : ∀ p ∈ List.zip as bs, f p.1 p.2 = true := by
  intro p hp
  rw [List.all_eq_true] at h
  refine h (f p.1 p.2) ?_
  rw [← List.map_uncurry_zip_eq_zipWith]
  exact List.mem_map.2 ⟨p, hp, rfl⟩

theorem afterMarker_isMarker [Unicode] {prev : Option Char} {cs rest : List Char}
    (h : afterMarker prev cs = some rest) : ∃ m, cs = m ++ rest ∧ IsMarker m := by
  unfold afterMarker at h
  split at h
  · exact ⟨['-'], by rw [← Option.some.inj h]; rfl, isMarker_dash⟩
  · dsimp only at h
    split_ifs at h with hmatch
    obtain ⟨-, hlen, hletters⟩ := hmatch
    refine ⟨cs.take "section".toList.length, ?_, isMarker_section hlen (all_zipWith hletters)⟩
    rw [← Option.some.inj h, List.take_append_drop]

theorem sameLetter_of_sql {p c : Char} (h : sqlSameLetter p c = true) : sameLetter p c = true := by
  simp only [sqlSameLetter, sameLetter, decide_eq_true_eq] at h ⊢
  rcases h with h | h
  · exact .inl h
  · exact .inr (.inl h)

theorem sqlAfterMarker_isMarker {cs rest : List Char} (h : sqlAfterMarker cs = some rest) :
    ∃ m, cs = m ++ rest ∧ IsMarker m := by
  unfold sqlAfterMarker at h
  split at h
  · exact ⟨['-'], by rw [← Option.some.inj h]; rfl, isMarker_dash⟩
  · dsimp only at h
    split_ifs at h with hmatch
    obtain ⟨hlen, hletters⟩ := hmatch
    refine ⟨cs.take "section".toList.length, ?_, isMarker_section hlen fun p hp => ?_⟩
    · rw [← Option.some.inj h, List.take_append_drop]
    · exact sameLetter_of_sql (all_zipWith hletters p hp)

/-- What follows a marker is captured when it is one word, with white space around it. -/
theorem wordAtEnd_captures {space : Char → Bool} {m cs : List Char} {w : String} (hm : IsMarker m)
    (h : wordAtEnd space cs = some w) :
    Captures (fun c => space c = true) Starts (m ++ cs) w.toList := by
  obtain ⟨x, tail, rfl, hx, htail⟩ := hm
  unfold wordAtEnd at h
  dsimp only at h
  split_ifs at h with hword
  obtain ⟨hne, hrest⟩ := hword
  obtain rfl := Option.some.inj h
  rw [String.toList_ofList]
  refine ⟨x, tail, cs.takeWhile space, _, ?_, hx, htail, fun y hy => List.mem_takeWhile_imp hy, hne,
    fun y hy => ?_, List.all_eq_true.1 hrest⟩
  · rw [List.append_assoc, List.append_assoc, drop_takeWhile, List.takeWhile_append_dropWhile,
      List.takeWhile_append_dropWhile]
  · simpa using List.mem_takeWhile_imp hy

theorem labelHere_captures [Unicode] {prev : Option Char} {cs : List Char} {w : String}
    (h : labelHere prev cs = some w) :
    Captures (fun c => Text.isSpace c = true) Starts cs w.toList := by
  obtain ⟨rest, hmarker, hword⟩ := Option.bind_eq_some_iff.1 h
  obtain ⟨m, rfl, hm⟩ := afterMarker_isMarker hmarker
  exact wordAtEnd_captures hm hword

theorem sqlLabelHere_captures [SqlLocale] {prev : Option Char} {cs : List Char} {w : String}
    (h : sqlLabelHere prev cs = some w) :
    Captures (fun c => SqlLocale.isSpace c = true) Starts cs w.toList := by
  obtain ⟨rest, hmarker, hword⟩ := Option.bind_eq_some_iff.1 h
  obtain ⟨m, rfl, hm⟩ := sqlAfterMarker_isMarker hmarker
  exact wordAtEnd_captures hm hword

/-! ## The two labels -/

section Labels

variable [Unicode] [SqlLocale]

theorem apart_labelHere : Apart labelHere sqlLabelHere := by
  intro u prev prev' cs w hu h h'
  refine (labelHere_captures h).not_later (fun x hx => ?_) hu (sqlLabelHere_captures h')
  simp [isSpace_of_starts hx]

theorem apart_sqlLabelHere : Apart sqlLabelHere labelHere := by
  intro u prev prev' cs w hu h h'
  refine (sqlLabelHere_captures h).not_later (fun x hx => ?_) hu (labelHere_captures h')
  simp [sqlIsSpace_of_starts hx]

omit [SqlLocale] in
theorem deriveSectionLabel_eq (name : String) :
    deriveSectionLabel name = search labelHere none name.toList := by
  have hsearch : ∀ prev cs, searchLabel prev cs = search labelHere prev cs := by
    intro prev cs
    induction cs generalizing prev with
    | nil => rfl
    | cons c cs ih =>
      rw [searchLabel, search, ih, labelHere]
      cases (afterMarker prev (c :: cs)).bind trailingLabel <;> rfl
  exact hsearch none name.toList

omit [Unicode] in
/-- A captured word holds no blank to be trimmed. -/
theorem sqlSectionLabel_eq (name : String) : sqlSectionLabel name = sqlSubstring name := by
  unfold sqlSectionLabel
  cases h : sqlSubstring name with
  | none => rfl
  | some w =>
    obtain ⟨u, prev, rest, -, hw⟩ := search_some h
    obtain ⟨_, _, _, _, -, -, -, -, -, hword, -⟩ := sqlLabelHere_captures hw
    have hblank : ∀ c ∈ w.toList, ¬c = ' ' := by
      intro c hc he
      have hspace : SqlLocale.isSpace c = true := by
        rw [he, SqlLocale.isSpace_ascii ' ' (by decide)]
        decide
      exact hword c hc hspace
    have htrim : sqlTrim w = w := by
      unfold sqlTrim
      rw [List.dropWhile_eq_self_iff.2, List.rdropWhile_eq_self_iff.2, String.ofList_toList]
      · intro hne
        simpa using hblank _ (List.getLast_mem hne)
      · intro hpos
        simpa using hblank _ (List.getElem_mem hpos)
    rw [Option.map_some, htrim]

/-- **The initialiser's label of a name is the program's** if and only if the two
patterns are aligned on it. -/
theorem sqlSectionLabel_eq_iff (name : String) :
    sqlSectionLabel name = deriveSectionLabel name ↔ Alike name := by
  rw [sqlSectionLabel_eq, deriveSectionLabel_eq, eq_comm]
  exact search_eq_iff apart_labelHere apart_sqlLabelHere

end Labels

end Sams.School
