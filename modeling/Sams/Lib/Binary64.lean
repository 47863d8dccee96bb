import Mathlib.Algebra.Order.Field.Power
import Mathlib.Data.Int.Log
import Mathlib.Data.Rat.Floor
import Mathlib.Tactic.Linarith
import Mathlib.Tactic.NormNum
import Mathlib.Tactic.Positivity
import Mathlib.Tactic.GCongr

/-!
# Binary floating point over the rationals

A binary64 number is a rational with a significand of 53 bits, and an operation is the exact
one followed by `fl`, which rounds to the nearest such number. Overflow is left out: the
exponent has no upper bound.

* `fl_bounds`: the relative error of `fl` is at most `unit` on the normal range.
* `product_bounds`: that of a product of rounded factors.
* `flSum_eq`: a sum none of whose partial sums is rounded is exact.
-/

namespace Sams.Binary64

/-! ## Rounding to an integer -/

/-- To the nearest integer, a tie to the even one. -/
def roundEven (x : ℚ) : ℤ :=
  if Int.fract x < 1 / 2 then ⌊x⌋
  else if 1 / 2 < Int.fract x then ⌊x⌋ + 1
  else if Even ⌊x⌋ then ⌊x⌋ else ⌊x⌋ + 1

/-- To the nearest integer, a tie away from zero. -/
def roundAway (x : ℚ) : ℤ := if 0 ≤ x then ⌊x + 1 / 2⌋ else -⌊-x + 1 / 2⌋

theorem roundEven_error (x : ℚ) : |(roundEven x : ℚ) - x| ≤ 1 / 2 := by
  have hx : x = ⌊x⌋ + Int.fract x := (Int.floor_add_fract x).symm
  have hnonneg := Int.fract_nonneg x
  have hlt := Int.fract_lt_one x
  unfold roundEven
  rw [abs_le]
  split_ifs <;> push_cast <;> constructor <;> linarith

@[simp]
theorem roundEven_intCast (n : ℤ) : roundEven n = n := by
  unfold roundEven
  rw [Int.fract_intCast, Int.floor_intCast, if_pos (by norm_num)]

/-- What is nearer than a half is rounded to it. -/
theorem roundAway_eq {x : ℚ} {n : ℤ} (hx : 0 ≤ x) (h : |x - n| < 1 / 2) :
    roundAway x = n := by
  obtain ⟨hlow, hhigh⟩ := abs_lt.1 h
  unfold roundAway
  rw [if_pos hx, Int.floor_eq_iff]
  constructor <;> linarith

theorem le_roundAway {x : ℚ} {n : ℤ} (hx : 0 ≤ x) (h : (n : ℚ) ≤ x) : n ≤ roundAway x := by
  unfold roundAway
  rw [if_pos hx, Int.le_floor]
  linarith

/-! ## Rounding to 53 bits -/

/-- The exponent of the last place of a number: 52 below the first, or that of the subnormal
numbers. -/
def lastPlace (x : ℚ) : ℤ := max (Int.log 2 |x| - 52) (-1074)

/-- The nearest binary64 number. -/
def fl (x : ℚ) : ℚ := roundEven (x / 2 ^ lastPlace x) * 2 ^ lastPlace x

/-- Half a unit in the last place of 1. -/
def unit : ℚ := 1 / 2 ^ 53

/-- Zero, or of the normal range. -/
def Normal (x : ℚ) : Prop := x = 0 ∨ 2 ^ (-1022 : ℤ) ≤ x

@[simp]
theorem fl_zero : fl 0 = 0 := by
  unfold fl
  have h : roundEven (0 / 2 ^ lastPlace 0) = 0 := by
    rw [zero_div]
    exact_mod_cast roundEven_intCast 0
  rw [h, Int.cast_zero, zero_mul]

/-- The error is half a unit in the last place. -/
theorem fl_error (x : ℚ) : |fl x - x| ≤ 2 ^ lastPlace x / 2 := by
  have hpos : (0 : ℚ) < 2 ^ lastPlace x := by positivity
  have herror := roundEven_error (x / 2 ^ lastPlace x)
  have hdiff : fl x - x = (roundEven (x / 2 ^ lastPlace x) - x / 2 ^ lastPlace x) *
      2 ^ lastPlace x := by
    unfold fl
    rw [sub_mul, div_mul_cancel₀ _ hpos.ne']
  rw [hdiff, abs_mul, abs_of_pos hpos]
  calc |(roundEven (x / 2 ^ lastPlace x) : ℚ) - x / 2 ^ lastPlace x| * 2 ^ lastPlace x
      ≤ 1 / 2 * 2 ^ lastPlace x := by gcongr
    _ = 2 ^ lastPlace x / 2 := by ring

/-- **The relative error** on the normal range. -/
theorem fl_bounds {x : ℚ} (hx : Normal x) : x * (1 - unit) ≤ fl x ∧ fl x ≤ x * (1 + unit) := by
  rcases hx with rfl | hx
  · simp
  · have hpos : (0 : ℚ) < x := lt_of_lt_of_le (by positivity) hx
    have hlog : (-1022 : ℤ) ≤ Int.log 2 x :=
      (Int.zpow_le_iff_le_log one_lt_two hpos).1 (by exact_mod_cast hx)
    have hplace : lastPlace x = Int.log 2 x - 52 := by
      unfold lastPlace
      rw [abs_of_pos hpos]
      omega
    have hfirst : (2 : ℚ) ^ Int.log 2 x ≤ x := by
      exact_mod_cast Int.zpow_log_le_self one_lt_two hpos
    have hlast : (2 : ℚ) ^ lastPlace x / 2 ≤ x * unit := by
      have hsplit : (2 : ℚ) ^ lastPlace x = 2 ^ Int.log 2 x / 2 ^ 52 := by
        rw [hplace, zpow_sub₀ two_ne_zero]
        norm_num
      rw [hsplit]
      unfold unit
      linarith
    obtain ⟨hlow, hhigh⟩ := abs_le.1 ((fl_error x).trans hlast)
    constructor <;> linarith

/-! ## Products and sums -/

/-- The product of two numbers that are rounded first. -/
def product (x y : ℚ) : ℚ := fl (fl x * fl y)

/-- The sum of a list, added up from the left. -/
def flSum (xs : List ℚ) : ℚ := xs.foldl (fun s x => fl (s + x)) 0

/-- Three roundings, one of each factor and one of the product. -/
theorem product_bounds {x y : ℚ} (hx : Normal x) (hy : Normal y) (h : Normal (fl x * fl y))
    (hx0 : 0 ≤ x) (hy0 : 0 ≤ y) :
    x * y * (1 - unit) ^ 3 ≤ product x y ∧ product x y ≤ x * y * (1 + unit) ^ 3 := by
  obtain ⟨hxlow, hxhigh⟩ := fl_bounds hx
  obtain ⟨hylow, hyhigh⟩ := fl_bounds hy
  obtain ⟨hlow, hhigh⟩ := fl_bounds h
  have hunit : (0 : ℚ) ≤ 1 - unit := by unfold unit; norm_num
  have hunit' : (0 : ℚ) ≤ 1 + unit := by unfold unit; norm_num
  have hfx : 0 ≤ fl x := le_trans (mul_nonneg hx0 hunit) hxlow
  have hfy : 0 ≤ fl y := le_trans (mul_nonneg hy0 hunit) hylow
  constructor
  · calc x * y * (1 - unit) ^ 3 = x * (1 - unit) * (y * (1 - unit)) * (1 - unit) := by ring
      _ ≤ fl x * fl y * (1 - unit) := by gcongr
      _ ≤ product x y := hlow
  · calc product x y ≤ fl x * fl y * (1 + unit) := hhigh
      _ ≤ x * (1 + unit) * (y * (1 + unit)) * (1 + unit) := by gcongr
      _ = x * y * (1 + unit) ^ 3 := by ring

/-- No sum of the first numbers is rounded. -/
def Exact (xs : List ℚ) : Prop := ∀ ys, ys <+: xs → fl ys.sum = ys.sum

theorem flSum_eq {xs : List ℚ} (h : Exact xs) : flSum xs = xs.sum := by
  unfold flSum
  induction xs using List.reverseRecOn with
  | nil => rfl
  | append_singleton xs x ih =>
    have hprefix : Exact xs := fun ys hys => h ys (hys.trans (List.prefix_append xs [x]))
    rw [List.foldl_append, ih hprefix]
    have hall := h _ List.prefix_rfl
    rw [List.sum_append, List.sum_singleton] at hall ⊢
    exact hall

end Sams.Binary64
