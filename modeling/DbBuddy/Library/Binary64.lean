import Mathlib.Data.Int.Log
import Mathlib.Data.Rat.Floor
import Mathlib.Tactic.Linarith

/-!
# Rounding to binary64

A sum or a product of floats is the exact one, rounded to 53 binary digits: to the
nearest number that has so many, and of two as near to the one whose last digit is even.
The exponents have no bounds here; nothing underflows and nothing overflows.
-/

namespace DbBuddy.Library.Binary64

/-- The nearest whole number, and of two as near the even one. -/
def nearestEven (value : ℚ) : ℤ :=
  if value - ⌊value⌋ < 1 / 2 then ⌊value⌋
  else if 1 / 2 < value - ⌊value⌋ then ⌊value⌋ + 1
  else if ⌊value⌋ % 2 = 0 then ⌊value⌋
  else ⌊value⌋ + 1

/-- What the last of 53 digits counts. -/
def lastDigit (value : ℚ) : ℚ := 2 ^ (Int.log 2 |value| - 52)

/-- The float that stands for a number. -/
def nearest (value : ℚ) : ℚ := nearestEven (value / lastDigit value) * lastDigit value

section Nearest

variable {value other : ℚ}

theorem abs_nearestEven_sub_le (value : ℚ) : |(nearestEven value : ℚ) - value| ≤ 1 / 2 := by
  have below : (⌊value⌋ : ℚ) ≤ value := Int.floor_le value
  have above : value < ⌊value⌋ + 1 := Int.lt_floor_add_one value
  unfold nearestEven
  rw [abs_le]
  split
  · constructor <;> linarith
  · split
    · push_cast
      constructor <;> linarith
    · split
      · constructor <;> linarith
      · push_cast
        constructor <;> linarith

theorem nearestEven_intCast (whole : ℤ) : nearestEven whole = whole := by
  simp [nearestEven]

/-- Two whole numbers in the wrong order would be half away from one and the same
number, and there the choice is made by the number alone. -/
theorem nearestEven_mono (least : value ≤ other) :
    nearestEven value ≤ nearestEven other := by
  by_contra reversed
  have apart : (nearestEven other : ℚ) + 1 ≤ nearestEven value := by
    exact_mod_cast not_le.mp reversed
  have near := abs_le.mp (abs_nearestEven_sub_le value)
  have nearOther := abs_le.mp (abs_nearestEven_sub_le other)
  have same : value = other := by linarith
  rw [same] at reversed
  exact reversed le_rfl

theorem lastDigit_pos (value : ℚ) : 0 < lastDigit value :=
  zpow_pos (by norm_num) _

/-- The digits of a float are a whole number of 53 binary digits. -/
theorem digits_bounds (isPos : 0 < value) :
    2 ^ 52 ≤ nearestEven (value / lastDigit value) ∧
      nearestEven (value / lastDigit value) ≤ 2 ^ 53 := by
  have least : (2 : ℚ) ^ Int.log 2 value ≤ value := by
    exact_mod_cast Int.zpow_log_le_self (by decide) isPos
  have most : value ≤ (2 : ℚ) ^ (Int.log 2 value + 1) := by
    exact_mod_cast (Int.lt_zpow_succ_log_self (by decide) value).le
  have digit : lastDigit value = 2 ^ (Int.log 2 value - 52) := by
    rw [lastDigit, abs_of_pos isPos]
  have first : ((2 ^ 52 : ℤ) : ℚ) ≤ value / lastDigit value := by
    rw [le_div_iff₀ (lastDigit_pos value), digit]
    calc ((2 ^ 52 : ℤ) : ℚ) * 2 ^ (Int.log 2 value - 52)
        = 2 ^ ((52 : ℤ) + (Int.log 2 value - 52)) := by
          rw [zpow_add₀ (by norm_num)]
          norm_num
      _ = 2 ^ Int.log 2 value := by rw [add_sub_cancel]
      _ ≤ value := least
  have last : value / lastDigit value ≤ ((2 ^ 53 : ℤ) : ℚ) := by
    rw [div_le_iff₀ (lastDigit_pos value), digit]
    calc value ≤ 2 ^ (Int.log 2 value + 1) := most
      _ = 2 ^ ((53 : ℤ) + (Int.log 2 value - 52)) := by
          congr 1
          omega
      _ = ((2 ^ 53 : ℤ) : ℚ) * 2 ^ (Int.log 2 value - 52) := by
          rw [zpow_add₀ (by norm_num)]
          norm_num
  have lower := nearestEven_mono first
  have upper := nearestEven_mono last
  rw [nearestEven_intCast] at lower upper
  exact ⟨lower, upper⟩

theorem nearest_pos (isPos : 0 < value) : 0 < nearest value := by
  have digits : (0 : ℚ) < nearestEven (value / lastDigit value) := by
    exact_mod_cast lt_of_lt_of_le (by norm_num) (digits_bounds isPos).1
  exact mul_pos digits (lastDigit_pos value)

theorem nearest_mono (isPos : 0 < value) (least : value ≤ other) :
    nearest value ≤ nearest other := by
  have otherPos : 0 < other := isPos.trans_le least
  have exponents : Int.log 2 value ≤ Int.log 2 other := Int.log_mono_right isPos least
  rcases exponents.eq_or_lt with same | below
  · have sameDigit : lastDigit value = lastDigit other := by
      rw [lastDigit, lastDigit, abs_of_pos isPos, abs_of_pos otherPos, same]
    have whole : nearestEven (value / lastDigit other) ≤
        nearestEven (other / lastDigit other) :=
      nearestEven_mono (div_le_div_of_nonneg_right least (lastDigit_pos other).le)
    have digits : (nearestEven (value / lastDigit other) : ℚ) ≤
        nearestEven (other / lastDigit other) := by
      exact_mod_cast whole
    rw [nearest, nearest, sameDigit]
    exact mul_le_mul_of_nonneg_right digits (lastDigit_pos other).le
  · -- a power of two is between them
    have valueDigits : (nearestEven (value / lastDigit value) : ℚ) ≤ 2 ^ 53 := by
      exact_mod_cast (digits_bounds isPos).2
    have otherDigits : (2 : ℚ) ^ 52 ≤ nearestEven (other / lastDigit other) := by
      exact_mod_cast (digits_bounds otherPos).1
    calc nearest value ≤ 2 ^ 53 * lastDigit value :=
          mul_le_mul_of_nonneg_right valueDigits (lastDigit_pos value).le
      _ = 2 ^ ((53 : ℤ) + (Int.log 2 value - 52)) := by
          rw [lastDigit, abs_of_pos isPos, zpow_add₀ (by norm_num)]
          norm_num
      _ ≤ 2 ^ ((52 : ℤ) + (Int.log 2 other - 52)) :=
          zpow_le_zpow_right₀ (by norm_num) (by omega)
      _ = 2 ^ 52 * lastDigit other := by
          rw [lastDigit, abs_of_pos otherPos, zpow_add₀ (by norm_num)]
          norm_num
      _ ≤ nearest other :=
          mul_le_mul_of_nonneg_right otherDigits (lastDigit_pos other).le

end Nearest

-- 64.1, times a thousand
example : nearest (nearest (641 / 10) * 1000) < 64100 := by decide +kernel

end DbBuddy.Library.Binary64
