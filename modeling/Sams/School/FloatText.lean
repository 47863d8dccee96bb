import Sams.School.Tables

/-!
# `int(float(text))`

The structure import reads its whole numbers through a Python float. The text is parsed as a
decimal, rounded to the nearest double (ties to even), and truncated; an infinity raises
`OverflowError`, and anything else that is not a number raises `ValueError`.
-/

namespace Sams.School.FloatText

variable [Unicode]

/-- A decimal `± mantissa * 10 ^ exponent`. -/
structure Decimal where
  negative : Bool
  mantissa : Nat
  exponent : Int
  deriving DecidableEq, Repr

/-- What the text of a float denotes. -/
inductive Value where
  | finite (d : Decimal)
  | infinite
  | nan
  deriving DecidableEq, Repr

/-- Digits with single underscores between them: the number, how many digits, and the rest. -/
def digits : Bool → Nat → Nat → List Char → Option (Nat × Nat × List Char)
  | prevDigit, n, k, [] => if prevDigit ∨ k = 0 then some (n, k, []) else none
  | prevDigit, n, k, c :: cs =>
    match Unicode.decimal c with
    | some v => digits true (10 * n + v) (k + 1) cs
    | none =>
      if c = '_' then
        if prevDigit then digits false n k cs else none
      else if prevDigit ∨ k = 0 then some (n, k, c :: cs) else none

/-- An optional sign. -/
def sign : List Char → Bool × List Char
  | '-' :: cs => (true, cs)
  | '+' :: cs => (false, cs)
  | cs => (false, cs)

/-- The exponent part, to the end of the text. -/
def exponent (cs : List Char) : Option Int :=
  match cs with
  | [] => some 0
  | e :: cs =>
    if e = 'e' ∨ e = 'E' then
      let (neg, cs) := sign cs
      match digits false 0 0 cs with
      | some (n, k, []) => if k = 0 then none else some (if neg then -(n : Int) else n)
      | _ => none
    else none

/-- `float(text)` up to rounding; `none` where it raises. -/
def parse (s : String) : Option Value :=
  let (negative, cs) := sign (Text.strip s).toList
  let word := String.ofList (cs.map Char.toLower)
  if word = "inf" ∨ word = "infinity" then some .infinite
  else if word = "nan" then some .nan
  else
    match digits false 0 0 cs with
    | none => none
    | some (whole, k, rest) =>
      let fraction := match rest with
        | '.' :: cs => digits false whole 0 cs
        | cs => some (whole, 0, cs)
      match fraction with
      | none => none
      | some (mantissa, k', rest) =>
        if k + k' = 0 then none
        else (exponent rest).map fun e => .finite { negative, mantissa, exponent := e - k' }

/-- `num / den` rounded to an integer, ties to even. -/
def roundHalfEven (num den : Nat) : Nat :=
  let q := num / den
  let r := num % den
  if 2 * r > den ∨ (2 * r = den ∧ q % 2 = 1) then q + 1 else q

/-- `num / den` scaled by `2 ^ -e`, as a fraction. -/
def scale (num den : Nat) (e : Int) : Nat × Nat :=
  if 0 ≤ e then (num, den * 2 ^ e.toNat) else (num * 2 ^ (-e).toNat, den)

/-- The integer part of the double nearest to `num / den`; `none` when it is infinite. -/
def truncDouble (num den : Nat) : Option Nat :=
  if num = 0 then some 0
  else
    let e₀ : Int := (Nat.log2 num : Int) - Nat.log2 den - 52
    let (n₀, d₀) := scale num den e₀
    let e := if n₀ < 2 ^ 52 * d₀ then e₀ - 1 else e₀
    let (n, d) := scale num den e
    let q := roundHalfEven n d
    if 0 ≤ e then
      let v := q * 2 ^ e.toNat
      if v < 2 ^ 1024 then some v else none
    else some (q / 2 ^ (-e).toNat)

/-- `int` of a parsed float. -/
def toInt : Value → Except PyError Int
  | .infinite => .error (.overflowError "cannot convert float infinity to integer")
  | .nan => .error (.valueError "cannot convert float NaN to integer")
  | .finite d =>
    -- powers of ten outside the range of a double need not be computed
    let size := (Nat.log2 d.mantissa : Int) / 4 + d.exponent
    if d.mantissa ≠ 0 ∧ size > 400 then
      .error (.overflowError "cannot convert float infinity to integer")
    else if d.mantissa = 0 ∨ (Nat.log2 d.mantissa : Int) + d.exponent < -400 then .ok 0
    else
      match truncDouble (d.mantissa * 10 ^ d.exponent.toNat) (10 ^ (-d.exponent).toNat) with
      | none => .error (.overflowError "cannot convert float infinity to integer")
      | some n => .ok (if d.negative then -n else n)

/-- `int(float(s))`. -/
def intOfFloat (s : String) : Except PyError Int :=
  match parse s with
  | none => .error (.valueError ("could not convert string to float: " ++ Text.repr s))
  | some v => toInt v

end Sams.School.FloatText
