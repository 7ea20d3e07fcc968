import Mathlib.Algebra.Order.Field.Power
import Mathlib.Algebra.Order.Floor.Ring
import Mathlib.Data.Rat.Floor
import Mathlib.Tactic.FieldSimp
import Mathlib.Tactic.Linarith
import Mathlib.Tactic.NormNum
import Mathlib.Tactic.Positivity
import Mathlib.Tactic.Ring
import RestQuery.Number.Binary64

/-!
# Correct rounding

The numbers of the binary format have the values `m * 2 ^ e` with a mantissa below `2 ^ 53` and an
exponent that is not below the least one.  `Binary64.IsNearest` says which of them stands for a
rational number: no other is nearer, and one as near only if the mantissa is even.

* `Binary64.isNearest_nearest`: a quotient of natural numbers is rounded to the nearest number.
* `IsNearest.beyond_iff`: that number is beyond the largest one exactly if the quotient is at least
  half a unit of the last place beyond it.
* `Binary64.ofRatio_eq`: what rounding gives in both cases.
-/

namespace RestQuery.Binary64

/-- The absolute value of a finite number. -/
def value (mantissa : Nat) (exponent : Int) : ℚ := mantissa * 2 ^ exponent

/-- The numbers of the format, if there were no largest exponent. -/
def IsNumber (x : ℚ) : Prop := ∃ m e, m < mantissaBound ∧ minExponent ≤ e ∧ x = value m e

/-- The number `value m e` stands for `q`, a tie going to the even mantissa.  The mantissa is as
long as the exponent allows. -/
structure IsNearest (q : ℚ) (m : Nat) (e : Int) : Prop where
  mantissa : m < mantissaBound
  exponent : minExponent ≤ e
  normal : e = minExponent ∨ leastNormal ≤ m
  nearest : ∀ x, IsNumber x → |q - value m e| ≤ |q - x|
  even : ∀ x, IsNumber x → x ≠ value m e → |q - x| = |q - value m e| → m % 2 = 0

theorem mantissaBound_eq : (mantissaBound : ℚ) = 2 ^ 53 := by norm_num [mantissaBound]

theorem leastNormal_eq : (leastNormal : ℚ) = 2 ^ 52 := by norm_num [leastNormal]

/-! ## Whole numbers -/

section Whole

variable (num : Nat) {den : Nat}

/-- Rounding to a whole number takes or leaves half the divisor at most, and half of it only at an
even number. -/
theorem roundHalfEven_remainder (positive : 0 < den) :
    2 * |(num : Int) - roundHalfEven num den * den| ≤ den ∧
      (2 * |(num : Int) - roundHalfEven num den * den| = den → roundHalfEven num den % 2 = 0) := by
  have parts : (num : Int) = (num / den : Nat) * den + (num % den : Nat) := by
    exact_mod_cast (Nat.div_add_mod' num den).symm
  have small : num % den < den := Nat.mod_lt num positive
  have below : |(num : Int) - (num / den : Nat) * den| = (num % den : Nat) := by
    rw [parts, add_sub_cancel_left, Nat.abs_cast]
  have above : |(num : Int) - (num / den + 1 : Nat) * den| = den - (num % den : Nat) := by
    have short : (num : Int) - (num / den + 1 : Nat) * den = -(den - (num % den : Nat)) := by
      push_cast at parts ⊢
      linarith
    rw [short, abs_neg, abs_of_nonneg (by omega)]
  unfold roundHalfEven
  simp only
  split_ifs with low high
  · rw [below]
    omega
  · rw [above]
    omega
  · rcases Nat.mod_two_eq_zero_or_one (num / den) with even | odd
    · rw [even, Nat.add_zero, below]
      omega
    · rw [odd, above]
      omega

theorem roundHalfEven_near (positive : 0 < den) :
    |(num : ℚ) / den - roundHalfEven num den| ≤ 1 / 2 ∧
      (|(num : ℚ) / den - roundHalfEven num den| = 1 / 2 → roundHalfEven num den % 2 = 0) := by
  have den' : (0 : ℚ) < den := by exact_mod_cast positive
  obtain ⟨bound, tie⟩ := roundHalfEven_remainder num positive
  have distance : |(num : ℚ) / den - roundHalfEven num den| =
      (|(num : Int) - roundHalfEven num den * den| : Int) / den := by
    rw [div_sub' den'.ne', abs_div, abs_of_pos den']
    push_cast
    rw [mul_comm]
  rw [distance]
  refine ⟨?_, fun half => tie ?_⟩
  · rw [div_le_iff₀ den']
    have : (2 : ℚ) * (|(num : Int) - roundHalfEven num den * den| : Int) ≤ den := by
      exact_mod_cast bound
    linarith
  · rw [div_eq_iff den'.ne'] at half
    have : (2 : ℚ) * (|(num : Int) - roundHalfEven num den * den| : Int) = den := by linarith
    exact_mod_cast this

/-- No whole number is nearer, and another one as near only to an even number. -/
theorem roundHalfEven_nearest (positive : 0 < den) (k : Int) :
    |(num : ℚ) / den - roundHalfEven num den| ≤ |(num : ℚ) / den - k| ∧
      (k ≠ roundHalfEven num den →
        |(num : ℚ) / den - k| = |(num : ℚ) / den - roundHalfEven num den| →
          roundHalfEven num den % 2 = 0) := by
  obtain ⟨bound, tie⟩ := roundHalfEven_near num positive
  by_cases same : k = roundHalfEven num den
  · subst same
    exact ⟨le_of_eq (by push_cast; rfl), fun other => absurd rfl other⟩
  · have apart : (1 : ℚ) ≤ |(k : ℚ) - roundHalfEven num den| := by
      exact_mod_cast Int.one_le_abs (sub_ne_zero.2 same)
    have triangle : |(k : ℚ) - roundHalfEven num den| ≤
        |(num : ℚ) / den - k| + |(num : ℚ) / den - roundHalfEven num den| := by
      rw [abs_sub_comm (_ / _) (k : ℚ)]
      exact abs_sub_le _ _ _
    exact ⟨by linarith, fun _ equal => tie (by linarith)⟩

end Whole

/-! ## The exponent -/

section Exponent

variable {num den : Nat}

theorem power_of_neg {e : Int} (negative : e < 0) : (2 : ℚ) ^ e = (2 ^ e.natAbs)⁻¹ := by
  rw [← zpow_natCast, ← zpow_neg]
  congr 1
  omega

theorem power_of_not_neg {e : Int} (nonnegative : ¬e < 0) : (2 : ℚ) ^ e = 2 ^ e.natAbs := by
  rw [← zpow_natCast]
  congr 1
  omega

theorem scaled_pos (num : Nat) (positive : 0 < den) (e : Int) : 0 < (scaled num den e).2 := by
  rw [scaled]
  split
  · exact positive
  · exact Nat.mul_pos positive (Nat.pow_pos Nat.two_pos)

theorem scaled_ratio (num den : Nat) (e : Int) :
    ((scaled num den e).1 : ℚ) / (scaled num den e).2 = num / den / 2 ^ e := by
  rw [scaled]
  split
  next negative =>
    rw [power_of_neg negative]
    simp only [Nat.pow_eq]
    push_cast
    rw [div_inv_eq_mul]
    ring
  next nonnegative =>
    rw [power_of_not_neg nonnegative]
    simp only [Nat.pow_eq]
    push_cast
    rw [div_div]

/-- The exponent next to the binary length of a quotient, at which its mantissa has 53 bits. -/
theorem guess_bounds (filled : 0 < num) (positive : 0 < den) :
    (2 : ℚ) ^ 51 < num / den / 2 ^ ((num.log2 : Int) - den.log2 - 52) ∧
      (num : ℚ) / den / 2 ^ ((num.log2 : Int) - den.log2 - 52) < 2 ^ 53 := by
  have den' : (0 : ℚ) < den := by exact_mod_cast positive
  have numLow : (2 : ℚ) ^ num.log2 ≤ num := by exact_mod_cast Nat.log2_self_le filled.ne'
  have numHigh : (num : ℚ) < 2 ^ (num.log2 + 1) := by exact_mod_cast Nat.lt_log2_self
  have denLow : (2 : ℚ) ^ den.log2 ≤ den := by exact_mod_cast Nat.log2_self_le positive.ne'
  have denHigh : (den : ℚ) < 2 ^ (den.log2 + 1) := by exact_mod_cast Nat.lt_log2_self
  have unit : (2 : ℚ) ^ ((num.log2 : Int) - den.log2 - 52) =
      2 ^ num.log2 / 2 ^ den.log2 / 2 ^ 52 := by
    rw [zpow_sub₀ two_ne_zero, zpow_sub₀ two_ne_zero, zpow_natCast, zpow_natCast]
    norm_num
  rw [unit]
  constructor
  · rw [lt_div_iff₀ (by positivity), lt_div_iff₀ den']
    calc (2 : ℚ) ^ 51 * (2 ^ num.log2 / 2 ^ den.log2 / 2 ^ 52) * den
        < 2 ^ 51 * (2 ^ num.log2 / 2 ^ den.log2 / 2 ^ 52) * 2 ^ (den.log2 + 1) := by gcongr
      _ = 2 ^ num.log2 := by
        field_simp
        ring
      _ ≤ num := numLow
  · rw [div_lt_iff₀ (by positivity), div_lt_iff₀ den']
    calc (num : ℚ) < 2 ^ (num.log2 + 1) := numHigh
      _ = 2 ^ 53 * (2 ^ num.log2 / 2 ^ den.log2 / 2 ^ 52) * 2 ^ den.log2 := by
        field_simp
        ring
      _ ≤ 2 ^ 53 * (2 ^ num.log2 / 2 ^ den.log2 / 2 ^ 52) * den := by gcongr

/-- If there were no least exponent, every quotient would have a mantissa of exactly 53 bits. -/
theorem exponentOf_eq (filled : 0 < num) (positive : 0 < den) :
    ∃ free : Int, exponentOf num den = max minExponent free ∧
      (leastNormal : ℚ) ≤ num / den / 2 ^ free ∧ (num : ℚ) / den / 2 ^ free < mantissaBound := by
  obtain ⟨low, high⟩ := guess_bounds filled positive
  have scale := scaled_ratio num den ((num.log2 : Int) - den.log2 - 52)
  have size : (0 : ℚ) < (scaled num den ((num.log2 : Int) - den.log2 - 52)).2 := by
    exact_mod_cast scaled_pos num positive _
  have found : exponentOf num den = max minExponent
      (if (scaled num den ((num.log2 : Int) - den.log2 - 52)).1 <
          leastNormal * (scaled num den ((num.log2 : Int) - den.log2 - 52)).2
        then (num.log2 : Int) - den.log2 - 52 - 1 else (num.log2 : Int) - den.log2 - 52) := rfl
  generalize (num.log2 : Int) - den.log2 - 52 = guess at *
  rw [mantissaBound_eq, leastNormal_eq]
  split_ifs at found with short
  · refine ⟨guess - 1, found, ?_⟩
    have short : (num : ℚ) / den / 2 ^ guess < 2 ^ 52 := by
      rw [← scale, ← leastNormal_eq, div_lt_iff₀ size]
      exact_mod_cast short
    have doubled : (num : ℚ) / den / 2 ^ (guess - 1) = 2 * (num / den / 2 ^ guess) := by
      rw [zpow_sub_one₀ two_ne_zero]
      ring
    rw [doubled]
    constructor <;> linarith
  · refine ⟨guess, found, ?_, high⟩
    rw [← scale, ← leastNormal_eq, le_div_iff₀ size]
    exact_mod_cast not_lt.1 short

/-- The exponent of a quotient keeps its mantissa in the bounds of the format. -/
theorem exponentOf_bounds (filled : 0 < num) (positive : 0 < den) :
    minExponent ≤ exponentOf num den ∧
      (num : ℚ) / den / 2 ^ exponentOf num den < mantissaBound ∧
      (exponentOf num den = minExponent ∨
        (leastNormal : ℚ) ≤ num / den / 2 ^ exponentOf num den) := by
  obtain ⟨free, found, long, short⟩ := exponentOf_eq filled positive
  rw [found]
  refine ⟨le_max_left _ _, ?_, ?_⟩
  · refine lt_of_le_of_lt ?_ short
    gcongr
    · norm_num
    · exact le_max_right _ _
  · rcases le_total minExponent free with within | beyond
    · rw [max_eq_right within]
      exact .inr long
    · exact .inl (max_eq_left beyond)

end Exponent

/-! ## The nearest number -/

theorem value_mono {m m' : Nat} {e e' : Int} (mantissa : m ≤ m') (exponent : e ≤ e') :
    value m e ≤ value m' e' := by
  have mantissa' : (m : ℚ) ≤ m' := by exact_mod_cast mantissa
  exact mul_le_mul mantissa' (zpow_le_zpow_right₀ one_le_two exponent) (by positivity)
    (Nat.cast_nonneg m')

theorem value_carry (e : Int) : value mantissaBound e = value leastNormal (e + 1) := by
  rw [value, value, zpow_add_one₀ two_ne_zero, mantissaBound, leastNormal]
  push_cast
  ring

/-- A mantissa may be rounded up to the bound. -/
theorem isNumber_value {m : Nat} {e : Int} (bounded : m ≤ mantissaBound) (least : minExponent ≤ e) :
    IsNumber (value m e) := by
  rcases bounded.lt_or_eq with below | rfl
  · exact ⟨m, e, below, least, rfl⟩
  · exact ⟨leastNormal, e + 1, by decide, by omega, value_carry e⟩

/-- A number is a whole multiple of a unit, unless it is less than all normal numbers in that
unit. -/
theorem IsNumber.in_units {x : ℚ} (number : IsNumber x) (e : Int) :
    (∃ k : Int, x = k * 2 ^ e) ∨ minExponent < e ∧ x < leastNormal * 2 ^ e := by
  obtain ⟨m, e', bounded, least, rfl⟩ := number
  rcases le_or_gt e e' with coarse | fine
  · left
    refine ⟨m * 2 ^ (e' - e).toNat, ?_⟩
    have power : (2 : ℚ) ^ e' = 2 ^ (e' - e).toNat * 2 ^ e := by
      rw [← zpow_natCast, ← zpow_add₀ two_ne_zero]
      congr 1
      omega
    rw [value, power]
    push_cast
    ring
  · right
    refine ⟨by omega, ?_⟩
    have bounded' : (m : ℚ) < mantissaBound := by exact_mod_cast bounded
    have unit : (2 : ℚ) ^ e' ≤ 2 ^ (e - 1) := zpow_le_zpow_right₀ one_le_two (by omega)
    calc (m : ℚ) * 2 ^ e' < mantissaBound * 2 ^ e' := by gcongr
      _ ≤ mantissaBound * 2 ^ (e - 1) := by gcongr
      _ = leastNormal * 2 ^ e := by
        rw [mantissaBound_eq, leastNormal_eq, zpow_sub_one₀ two_ne_zero]
        ring

section Nearest

variable {num den : Nat}

/-- The mantissa of a quotient before the carry. -/
def mantissaOf (num den : Nat) : Nat :=
  roundHalfEven (scaled num den (exponentOf num den)).1 (scaled num den (exponentOf num den)).2

theorem nearest_eq (num den : Nat) :
    nearest num den =
      if mantissaOf num den = mantissaBound then (leastNormal, exponentOf num den + 1)
      else (mantissaOf num den, exponentOf num den) := by
  rw [nearest, mantissaOf]

theorem value_nearest (num den : Nat) :
    value (nearest num den).1 (nearest num den).2 =
      value (mantissaOf num den) (exponentOf num den) := by
  rw [nearest_eq]
  split
  next carry => rw [carry, value_carry]
  next => rfl

theorem mantissaOf_bounds (filled : 0 < num) (positive : 0 < den) :
    mantissaOf num den ≤ mantissaBound ∧
      (exponentOf num den = minExponent ∨ leastNormal ≤ mantissaOf num den) := by
  obtain ⟨_, short, normal⟩ := exponentOf_bounds filled positive
  obtain ⟨near, -⟩ := roundHalfEven_near (scaled num den (exponentOf num den)).1
    (scaled_pos num positive _)
  rw [scaled_ratio] at near
  obtain ⟨low, high⟩ := abs_le.1 near
  constructor
  · have : (mantissaOf num den : ℚ) < mantissaBound + 1 := by
      rw [mantissaOf]
      linarith
    exact Nat.lt_succ_iff.1 (by exact_mod_cast this)
  · refine normal.imp_right fun long => ?_
    have : (leastNormal : ℚ) < mantissaOf num den + 1 := by
      rw [mantissaOf]
      linarith
    exact Nat.lt_succ_iff.1 (by exact_mod_cast this)

/-- No number is nearer than the rounded one, and another one as near only to an even mantissa. -/
theorem mantissaOf_nearest (filled : 0 < num) (positive : 0 < den) {x : ℚ} (number : IsNumber x) :
    |(num : ℚ) / den - value (mantissaOf num den) (exponentOf num den)| ≤ |(num : ℚ) / den - x| ∧
      (x ≠ value (mantissaOf num den) (exponentOf num den) →
        |(num : ℚ) / den - x| =
          |(num : ℚ) / den - value (mantissaOf num den) (exponentOf num den)| →
        mantissaOf num den % 2 = 0) := by
  obtain ⟨_, _, normal⟩ := exponentOf_bounds filled positive
  have whole := roundHalfEven_nearest (scaled num den (exponentOf num den)).1
    (scaled_pos num positive (exponentOf num den))
  rw [scaled_ratio, ← mantissaOf] at whole
  rw [value]
  generalize exponentOf num den = e at *
  generalize mantissaOf num den = m at *
  have unit : (0 : ℚ) < 2 ^ e := by positivity
  have distance (y : ℚ) : |(num : ℚ) / den - y * 2 ^ e| = |num / den / 2 ^ e - y| * 2 ^ e := by
    rw [← abs_of_pos unit, ← abs_mul, abs_of_pos unit, sub_mul, div_mul_cancel₀ _ unit.ne']
  rw [distance]
  rcases number.in_units e with ⟨k, rfl⟩ | ⟨above, small⟩
  · obtain ⟨nearer, tie⟩ := whole k
    rw [distance]
    refine ⟨by gcongr, fun other equal => tie ?_ (mul_right_cancel₀ unit.ne' equal)⟩
    rintro rfl
    exact other (by push_cast; rfl)
  · -- below the normal numbers of this unit, the least of them is nearer
    have long := normal.resolve_left (by omega)
    have farther : |(num : ℚ) / den / 2 ^ e - m| * 2 ^ e < |(num : ℚ) / den - x| := by
      calc |(num : ℚ) / den / 2 ^ e - m| * 2 ^ e
          ≤ |(num : ℚ) / den / 2 ^ e - (leastNormal : Int)| * 2 ^ e := by
            exact mul_le_mul_of_nonneg_right (whole leastNormal).1 unit.le
        _ = |(num : ℚ) / den - leastNormal * 2 ^ e| := by
            rw [distance]
            push_cast
            rfl
        _ = num / den - leastNormal * 2 ^ e := by
            rw [abs_of_nonneg]
            rw [le_div_iff₀ unit] at long
            linarith
        _ < num / den - x := by linarith
        _ ≤ |(num : ℚ) / den - x| := le_abs_self _
    exact ⟨farther.le, fun _ equal => absurd equal farther.ne'⟩

theorem isNearest_nearest (filled : 0 < num) (positive : 0 < den) :
    IsNearest (num / den) (nearest num den).1 (nearest num den).2 := by
  obtain ⟨least, _, _⟩ := exponentOf_bounds filled positive
  obtain ⟨bounded, normal⟩ := mantissaOf_bounds filled positive
  have near (x : ℚ) (number : IsNumber x) := mantissaOf_nearest filled positive number
  rw [← value_nearest] at near
  by_cases carry : mantissaOf num den = mantissaBound
  · have result : nearest num den = (leastNormal, exponentOf num den + 1) := if_pos carry
    rw [result] at near ⊢
    exact ⟨(by decide : leastNormal < mantissaBound), by omega, .inr le_rfl,
      fun x number => (near x number).1, fun _ _ _ _ => (by decide : leastNormal % 2 = 0)⟩
  · have result : nearest num den = (mantissaOf num den, exponentOf num den) := if_neg carry
    rw [result] at near ⊢
    exact ⟨bounded.lt_of_ne carry, least, normal, fun x number => (near x number).1,
      fun x number => (near x number).2⟩

theorem isNearest_zero : IsNearest 0 0 minExponent := by
  have zero : value 0 minExponent = 0 := by rw [value, Nat.cast_zero, zero_mul]
  refine ⟨by decide, le_rfl, .inl rfl, fun x _ => ?_, fun _ _ _ _ => rfl⟩
  rw [zero, sub_self, abs_zero]
  exact abs_nonneg _

end Nearest

/-! ## Beyond the largest number -/

/-- The largest finite number and half a unit of its last place. -/
def overflowBound : ℚ := value (2 * mantissaBound - 1) (maxExponent - 1)

theorem overflowBound_eq :
    overflowBound = (2 * mantissaBound - 1) * 2 ^ (maxExponent - 1) := by
  rw [overflowBound, value, Nat.cast_sub (by decide)]
  push_cast
  rfl

theorem overflowBound_pos : 0 < overflowBound := by
  rw [overflowBound_eq, mantissaBound_eq]
  have unit : (0 : ℚ) < 2 ^ (maxExponent - 1) := by positivity
  exact mul_pos (by norm_num) unit

theorem value_largest :
    value (mantissaBound - 1) maxExponent = (2 * mantissaBound - 2) * 2 ^ (maxExponent - 1) := by
  rw [value, Nat.cast_sub (by decide), zpow_sub_one₀ two_ne_zero]
  push_cast
  ring

theorem value_beyond :
    value leastNormal (maxExponent + 1) = 2 * mantissaBound * 2 ^ (maxExponent - 1) := by
  rw [value, zpow_add_one₀ two_ne_zero, zpow_sub_one₀ two_ne_zero, leastNormal_eq, mantissaBound_eq]
  ring

namespace IsNearest

variable {q : ℚ} {m : Nat} {e : Int}

/-- What is rounded to a number beyond the largest one is no nearer to the largest one. -/
theorem overflowBound_le (rounded : IsNearest q m e) (beyond : maxExponent < e) :
    overflowBound ≤ q := by
  have normal := rounded.normal.resolve_left fun least => by
    rw [least] at beyond
    exact absurd beyond (by decide)
  have high : value leastNormal (maxExponent + 1) ≤ value m e :=
    value_mono normal (Int.add_one_le_of_lt beyond)
  have nearer := rounded.nearest _ (isNumber_value (Nat.sub_le mantissaBound 1)
    (by decide : minExponent ≤ maxExponent))
  have unit : (0 : ℚ) < 2 ^ (maxExponent - 1) := by positivity
  rw [value_beyond] at high
  rw [value_largest] at nearer
  rw [overflowBound_eq]
  generalize (2 : ℚ) ^ (maxExponent - 1) = u at *
  rcases abs_cases (q - value m e) with ⟨left, _⟩ | ⟨left, _⟩ <;>
    rcases abs_cases (q - (2 * mantissaBound - 2) * u) with ⟨right, _⟩ | ⟨right, _⟩ <;>
    rw [left, right] at nearer <;>
    linarith

/-- Of the numbers that are not beyond the largest one, that one alone has its value. -/
theorem mantissa_of_largest (rounded : IsNearest q m e) (within : e ≤ maxExponent)
    (largest : value (mantissaBound - 1) maxExponent ≤ value m e) : m = mantissaBound - 1 := by
  refine le_antisymm (Nat.le_sub_one_of_lt rounded.mantissa) ?_
  have unit : (0 : ℚ) < 2 ^ maxExponent := by positivity
  have : ((mantissaBound - 1 : Nat) : ℚ) ≤ m :=
    le_of_mul_le_mul_right (largest.trans (value_mono le_rfl within)) unit
  exact_mod_cast this

/-- What is as near to the number behind the largest one is rounded to it, whose mantissa is
even. -/
theorem beyond_of_overflowBound_le (rounded : IsNearest q m e) (large : overflowBound ≤ q) :
    maxExponent < e := by
  by_contra within
  have odd (largest : value (mantissaBound - 1) maxExponent ≤ value m e) : m % 2 = 1 := by
    rw [rounded.mantissa_of_largest (not_lt.1 within) largest]
    decide
  have low : value m e ≤ value (mantissaBound - 1) maxExponent :=
    value_mono (Nat.le_sub_one_of_lt rounded.mantissa) (not_lt.1 within)
  have number : IsNumber (value leastNormal (maxExponent + 1)) :=
    isNumber_value (by decide) (by decide)
  have nearer := rounded.nearest _ number
  have tie := rounded.even _ number
  have unit : (0 : ℚ) < 2 ^ (maxExponent - 1) := by positivity
  rw [value_beyond] at nearer tie
  rw [value_largest] at low odd
  rw [overflowBound_eq] at large
  generalize (2 : ℚ) ^ (maxExponent - 1) = u at *
  have left : |q - value m e| = q - value m e := abs_of_nonneg (by linarith)
  rw [left] at nearer tie
  have right : |q - 2 * mantissaBound * u| = 2 * mantissaBound * u - q := by
    rcases abs_cases (q - 2 * mantissaBound * u) with ⟨behind, _⟩ | ⟨before, _⟩ <;> linarith
  rw [right] at nearer tie
  have even := tie (by linarith) (by linarith)
  rw [odd (by linarith)] at even
  exact absurd even (by decide)

theorem beyond_iff (rounded : IsNearest q m e) : maxExponent < e ↔ overflowBound ≤ q :=
  ⟨rounded.overflowBound_le, rounded.beyond_of_overflowBound_le⟩

end IsNearest

/-! ## Rounding a quotient -/

theorem ratio_eq (m : Nat) (e : Int) :
    ((ratio m e).1 : ℚ) / (ratio m e).2 = value m e ∧ 0 < (ratio m e).2 := by
  rw [ratio, value]
  split
  next negative =>
    rw [power_of_neg negative]
    simp only [Nat.pow_eq]
    push_cast
    exact ⟨rfl, by positivity⟩
  next nonnegative =>
    rw [power_of_not_neg nonnegative]
    simp only [Nat.pow_eq]
    push_cast
    exact ⟨div_one _, trivial⟩

theorem ceil_div (n : Nat) {d : Nat} (positive : 0 < d) :
    ⌈(n : ℚ) / d⌉ = ((n + d - 1) / d : Nat) := by
  have positive' : (0 : ℚ) < d := by exact_mod_cast positive
  have low : (n + d - 1) / d * d ≤ n + d - 1 := Nat.div_mul_le_self _ _
  have high : n + d - 1 < (n + d - 1) / d * d + d := Nat.lt_div_mul_add positive
  generalize (n + d - 1) / d = c at *
  rw [Int.ceil_eq_iff, lt_div_iff₀ positive', div_le_iff₀ positive']
  have below : (c * d : ℚ) < n + d := by exact_mod_cast (by omega : c * d < n + d)
  have above : (n : ℚ) ≤ c * d := by exact_mod_cast (by omega : n ≤ c * d)
  push_cast
  exact ⟨by linarith, above⟩

theorem ceiling_eq (m : Nat) (e : Int) : ceiling false m e = ⌈value m e⌉ := by
  obtain ⟨same, positive⟩ := ratio_eq m e
  rw [← same, ceil_div _ positive, ceiling]
  exact if_neg Bool.false_ne_true

/-- A quotient becomes the nearest number, or infinite if that one is beyond the largest. -/
theorem ofRatio_eq (negative : Bool) (num : Nat) {den : Nat} (positive : 0 < den) :
    ∃ m e, IsNearest (num / den) m e ∧
      ofRatio negative num den =
        if overflowBound ≤ num / den then .infinite negative else .finite negative m e := by
  rcases Nat.eq_zero_or_pos num with rfl | filled
  · refine ⟨0, minExponent, ?_, ?_⟩
    · rw [Nat.cast_zero, zero_div]
      exact isNearest_zero
    · rw [Nat.cast_zero, zero_div, if_neg (not_le.2 overflowBound_pos)]
      rfl
  · have rounded := isNearest_nearest filled positive
    refine ⟨_, _, rounded, ?_⟩
    rw [ofRatio, if_neg filled.ne']
    simp only [rounded.beyond_iff]

end RestQuery.Binary64
