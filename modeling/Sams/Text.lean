import Mathlib.Algebra.Ring.Nat
import Mathlib.Data.List.DropRight
import Mathlib.Tactic.Common

/-!
# Text as the program sees it

The string operations of the source: Python's `strip`, `lower` and `repr`, the
database's `LOWER`/`UPPER`, which texts it takes, and the truth value of an optional
string or id (`x or default`).

White space is Python's exact set. The case tables of Unicode and of the database's locale, and the
room of its indexes, are a parameter of the development, the class `Unicode`; `ascii` is
the instance that is right for short ASCII text, and the one on which concrete inputs are evaluated.
-/

namespace Sams

/-- The character tables and case mappings the program's strings go through. -/
class Unicode where
  /-- `str.lower`. -/
  lower : String → String
  /-- `str.upper`. -/
  upper : String → String
  /-- The database's `LOWER`, which also decides equality of `CITEXT` columns. -/
  sqlLower : String → String
  /-- The database's `UPPER`. -/
  sqlUpper : String → String
  /-- `str.isalnum` of one character. -/
  isAlnum : Char → Bool
  /-- `str.isprintable` of one character. -/
  isPrintable : Char → Bool
  /-- The value of a decimal digit of any script. -/
  decimal : Char → Option Nat
  /-- An index of the database has room for the text. -/
  indexed : String → Bool := fun _ => true

/-- The order of the database on texts. -/
class Collation where
  le : String → String → Bool

namespace Text

/-- The code points for which `str.isspace` holds, the white space of `strip` and of `\s`. -/
def spaceCodes : List Nat :=
  [0x09, 0x0A, 0x0B, 0x0C, 0x0D, 0x1C, 0x1D, 0x1E, 0x1F, 0x20, 0x85, 0xA0, 0x1680,
   0x2000, 0x2001, 0x2002, 0x2003, 0x2004, 0x2005, 0x2006, 0x2007, 0x2008, 0x2009, 0x200A,
   0x2028, 0x2029, 0x202F, 0x205F, 0x3000]

def isSpace (c : Char) : Bool := spaceCodes.contains c.toNat

/-- White space dropped from the right end. -/
def rstripChars (cs : List Char) : List Char := (cs.reverse.dropWhile isSpace).reverse

/-- `str.strip`. -/
def strip (s : String) : String := String.ofList (rstripChars (s.toList.dropWhile isSpace))

/-- `strip`, on characters. -/
theorem toList_strip (s : String) :
    (strip s).toList = (s.toList.dropWhile isSpace).rdropWhile isSpace := by
  unfold strip
  rw [String.toList_ofList]
  rfl

theorem strip_strip (s : String) : strip (strip s) = strip s := by
  refine String.toList_inj.1 ?_
  rw [toList_strip, toList_strip]
  have hhead : (((s.toList.dropWhile isSpace).rdropWhile isSpace).dropWhile isSpace) =
      (s.toList.dropWhile isSpace).rdropWhile isSpace := by
    rw [List.dropWhile_eq_self_iff]
    intro hpos
    have hfront := List.rdropWhile_prefix isSpace (l := s.toList.dropWhile isSpace)
    rw [hfront.getElem hpos]
    exact List.dropWhile_get_zero_not _ _ _
  rw [hhead, List.rdropWhile_idempotent]

/-- `str.lower`. ASCII text has one lower case, whatever the tables say of the rest. -/
def lower [Unicode] (s : String) : String :=
  if s.toList.all fun c => c.toNat < 128 then String.ofList (s.toList.map Char.toLower)
  else Unicode.lower s

/-- The value of a character that `\d` matches: a decimal digit of any script. -/
def decimal [Unicode] (c : Char) : Option Nat :=
  if c.toNat < 128 then if c.isDigit then some (c.toNat - 0x30) else none
  else (Unicode.decimal c).filter (· < 10)

theorem decimal_lt [Unicode] {c : Char} {n : Nat} (h : decimal c = some n) : n < 10 := by
  unfold decimal at h
  split_ifs at h with hascii hdigit
  · obtain rfl := Option.some.inj h
    have hle : c.toNat ≤ 57 := by
      simp only [Char.isDigit, Bool.and_eq_true, decide_eq_true_eq] at hdigit
      exact hdigit.2
    omega
  · exact of_decide_eq_true (Option.filter_eq_some_iff.1 h).2

/-- The database takes the text: it has none with the character U+0000. -/
@[irreducible] def storable (s : String) : Bool := s.toList.all fun c => c ≠ Char.ofNat 0

/-- `str.startswith`. -/
def startsWith (s start : String) : Bool := start.toList.isPrefixOf s.toList

/-- `str.endswith`. -/
def endsWith (s ending : String) : Bool := ending.toList.isSuffixOf s.toList

/-- `x or None` of an optional string: the empty string counts as absent. -/
def nonEmpty (s : Option String) : Option String := s.filter (· ≠ "")

@[simp] theorem nonEmpty_some {s : String} (h : s ≠ "") : nonEmpty (some s) = some s :=
  Option.filter_some_pos (decide_eq_true h)

@[simp] theorem nonEmpty_empty : nonEmpty (some "") = none := rfl

/-- `x or None` of an optional id: zero counts as absent. -/
def nonZero (n : Option Nat) : Option Nat := n.filter (· ≠ 0)

theorem nonZero_eq_some {n : Option Nat} {i : Nat} : nonZero n = some i ↔ n = some i ∧ i ≠ 0 := by
  simp [nonZero, Option.filter_eq_some_iff]

/-- `f"{x}"` of an optional string. -/
def showOption (s : Option String) : String := s.getD "None"

def singleQuote : Char := Char.ofNat 0x27

def doubleQuote : Char := Char.ofNat 0x22

/-- One character of a `repr`, inside the quote `q`. -/
def reprChar [Unicode] (q c : Char) : List Char :=
  if c = '\\' ∨ c = q then ['\\', c]
  else if c = '\n' then ['\\', 'n']
  else if c = '\r' then ['\\', 'r']
  else if c = '\t' then ['\\', 't']
  else if Unicode.isPrintable c then [c]
  else if c.toNat < 0x100 then '\\' :: 'x' :: hex 2 c.toNat
  else if c.toNat < 0x10000 then '\\' :: 'u' :: hex 4 c.toNat
  else '\\' :: 'U' :: hex 8 c.toNat
where
  /-- The last `k` hexadecimal digits of `n`. -/
  hex (k n : Nat) : List Char :=
    ((List.range k).map fun i => Nat.digitChar (n / 16 ^ i % 16)).reverse

/-- `repr` of a string: double quotes only when it holds a single quote and no double one. -/
def repr [Unicode] (s : String) : String :=
  let q := if singleQuote ∈ s.toList ∧ doubleQuote ∉ s.toList then doubleQuote else singleQuote
  String.ofList (q :: s.toList.flatMap (reprChar q) ++ [q])

/-- `f"{x!r}"` of an optional string. -/
def reprOption [Unicode] : Option String → String
  | none => "None"
  | some s => repr s

example : strip " \tGrade 1 - A\n" = "Grade 1 - A" := by decide

end Text

/-- The tables restricted to ASCII. -/
@[reducible] def ascii : Unicode where
  lower s := String.ofList (s.toList.map Char.toLower)
  upper s := String.ofList (s.toList.map Char.toUpper)
  sqlLower s := String.ofList (s.toList.map Char.toLower)
  sqlUpper s := String.ofList (s.toList.map Char.toUpper)
  isAlnum := Char.isAlphanum
  isPrintable c := decide (0x20 ≤ c.toNat ∧ c.toNat < 0x7F)
  decimal c := if c.isDigit then some (c.toNat - 0x30) else none

/-- Texts in the order of their code points. -/
@[reducible] def byCodePoint : Collation where
  le a b := decide (a ≤ b)

end Sams
