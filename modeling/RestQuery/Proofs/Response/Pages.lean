import Mathlib.Data.Nat.Digits.Lemmas
import RestQuery.Call
import RestQuery.Proofs.Response.Count

/-!
# The pages of an announced number of rows

A quotient just above a whole number could be rounded down to it, and then the last page would be
lost.  It is not, as long as the total has a mantissa of its own and the limit is less than
`2 ^ 64`: between a whole number and a quotient above it there is always room for another number of
the binary format that is nearer to the quotient (`Binary64.exists_number_above`).  So the rounded
quotient, rounded up, is the number of pages that the rows fill (`RowCount.pages_exact`).
-/

namespace RestQuery

/-! ## Whole numbers below a quotient -/

namespace Binary64

theorem isNumber_natCast {n : Nat} (exact : n ≤ mantissaBound) : IsNumber n := by
  have whole : value n 0 = n := by rw [value, zpow_zero, mul_one]
  rw [← whole]
  exact isNumber_value exact (by decide)

namespace IsNearest

variable {q x : ℚ} {m : Nat} {e : Int}

/-- A number that is not below a quotient is not below what the quotient is rounded to. -/
theorem value_le (rounded : IsNearest q m e) (number : IsNumber x) (above : q ≤ x) :
    value m e ≤ x := by
  have nearer := rounded.nearest x number
  rw [abs_sub_comm q x, abs_of_nonneg (sub_nonneg.2 above)] at nearer
  have bound := (abs_le.1 nearer).1
  linarith

/-- A quotient is rounded to more than `k` if a number above `k` is nearer to it than `k` is. -/
theorem lt_value {k : ℚ} (rounded : IsNearest q m e) (number : IsNumber x) (above : k < x)
    (near : x + k < 2 * q) : k < value m e := by
  have nearer := rounded.nearest x number
  have bound : |q - x| < q - k := abs_lt.2 ⟨by linarith, by linarith⟩
  have high := (abs_lt.1 (nearer.trans_lt bound)).2
  linarith

end IsNearest

/-- Next to a positive whole number of less than `2 ^ 53` parts there is a number that is above it
by less than two of these parts. -/
theorem exists_number_above_pos {k parts : Nat} (filled : 0 < k) (positive : 0 < parts)
    (few : k * parts < mantissaBound) :
    ∃ x : ℚ, IsNumber x ∧ (k : ℚ) < x ∧ (x - k) * parts < 2 := by
  have low : 2 ^ k.log2 ≤ k := Nat.log2_self_le filled.ne'
  have high : k < 2 ^ (k.log2 + 1) := Nat.lt_log2_self
  have bound : mantissaBound = 2 ^ 53 := by norm_num [mantissaBound]
  have small : 2 ^ k.log2 * parts < 2 ^ 53 := by
    rw [← bound]
    exact (Nat.mul_le_mul_right parts low).trans_lt few
  have short : k.log2 < 53 := by
    refine (Nat.pow_lt_pow_iff_right Nat.one_lt_two).1 (lt_of_le_of_lt ?_ small)
    exact Nat.le_mul_of_pos_right _ positive
  -- `k` fills all places of a mantissa but `s`, so the next number is `k + 1 / 2 ^ s`
  obtain ⟨s, places⟩ : ∃ s, 53 = k.log2 + (s + 1) := ⟨52 - k.log2, by omega⟩
  have fewer : parts < 2 ^ (s + 1) := by
    rw [places, pow_add] at small
    exact Nat.lt_of_mul_lt_mul_left small
  have mantissa : k * 2 ^ s + 1 ≤ mantissaBound := by
    rw [bound, places, show k.log2 + (s + 1) = k.log2 + 1 + s by omega, pow_add]
    exact Nat.mul_lt_mul_of_pos_right high (Nat.two_pow_pos s)
  have unit : (0 : ℚ) < 2 ^ s := by positivity
  have next : value (k * 2 ^ s + 1) (-s) = k + 1 / 2 ^ s := by
    rw [value, zpow_neg, zpow_natCast]
    push_cast
    field_simp
  have number : IsNumber (value (k * 2 ^ s + 1) (-s)) :=
    isNumber_value mantissa (by rw [minExponent]; omega)
  rw [next] at number
  refine ⟨_, number, lt_add_of_pos_right _ (by positivity), ?_⟩
  have fewer' : (parts : ℚ) < 2 ^ s * 2 := by exact_mod_cast pow_succ 2 s ▸ fewer
  rw [add_sub_cancel_left, one_div_mul_eq_div, div_lt_iff₀ unit]
  linarith

theorem exists_number_above {k parts : Nat} (positive : 0 < parts) (bounded : parts < 2 ^ 64)
    (few : k * parts < mantissaBound) :
    ∃ x : ℚ, IsNumber x ∧ (k : ℚ) < x ∧ (x - k) * parts < 2 := by
  rcases Nat.eq_zero_or_pos k with rfl | filled
  · have small : value 1 (-64) = 1 / 2 ^ 64 := by norm_num [value]
    have bounded' : (parts : ℚ) < 2 ^ 64 := by exact_mod_cast bounded
    have number : IsNumber (value 1 (-64)) := isNumber_value (by decide) (by decide)
    rw [small] at number
    refine ⟨_, number, by norm_num, ?_⟩
    rw [Nat.cast_zero, sub_zero, one_div_mul_eq_div, div_lt_iff₀ (by positivity)]
    linarith
  · exact exists_number_above_pos filled positive few

/-- Rounding up gives for a rounded quotient what it gives for the quotient itself. -/
theorem IsNearest.ceil_value {total parts m : Nat} {e : Int} (filled : 0 < total)
    (exact : total ≤ mantissaBound) (positive : 0 < parts) (bounded : parts < 2 ^ 64)
    (rounded : IsNearest (total / parts) m e) : ⌈value m e⌉ = ⌈(total : ℚ) / parts⌉ := by
  have positive' : (0 : ℚ) < parts := by exact_mod_cast positive
  have quotient : 0 < (total : ℚ) / parts := div_pos (by exact_mod_cast filled) positive'
  obtain ⟨k, ceil⟩ : ∃ k : Nat, ⌈(total : ℚ) / parts⌉ = k + 1 := by
    have := Int.ceil_pos.2 quotient
    exact ⟨(⌈(total : ℚ) / parts⌉ - 1).toNat, by omega⟩
  obtain ⟨below, above⟩ := Int.ceil_eq_iff.1 ceil
  rw [ceil, Int.ceil_eq_iff]
  push_cast at below above ⊢
  rw [add_sub_cancel_right] at below ⊢
  have whole : k * parts < total := by
    rw [lt_div_iff₀ positive'] at below
    exact_mod_cast below
  constructor
  · obtain ⟨x, number, beyond, near⟩ :=
      exists_number_above positive bounded (whole.trans_le exact)
    -- the quotient is at least one part above `k`, and `x` is less than two parts above it
    have apart : (1 : ℚ) ≤ (total / parts - k) * parts := by
      rw [sub_mul, div_mul_cancel₀ _ positive'.ne', le_sub_iff_add_le']
      exact_mod_cast whole
    have nearer : x - k < 2 * (total / parts - k) :=
      lt_of_mul_lt_mul_right (by linarith) positive'.le
    exact rounded.lt_value number beyond (by linarith)
  · have fits : k + 1 ≤ mantissaBound :=
      (Nat.lt_of_le_of_lt (Nat.le_mul_of_pos_right k positive) whole).trans_le exact
    exact_mod_cast rounded.value_le (isNumber_natCast fits) (by exact_mod_cast above)

theorem natCast_lt_overflowBound {n : Nat} (exact : n ≤ mantissaBound) : n < overflowBound := by
  have exact' : (n : ℚ) ≤ mantissaBound := by exact_mod_cast exact
  have unit : (1 : ℚ) ≤ 2 ^ (maxExponent - 1) := one_le_zpow₀ one_le_two (by decide)
  rw [overflowBound_eq]
  rw [mantissaBound_eq] at exact' ⊢
  generalize (2 : ℚ) ^ (maxExponent - 1) = u at *
  linarith

end Binary64

/-! ## Digits -/

namespace Text

theorem decimalValue?_of_isDigit {c : Char} (digit : c.isDigit) :
    decimalValue? c = some (c.toNat - '0'.toNat) := by
  have bounds : '0'.val ≤ c.val ∧ c.val ≤ '9'.val := by
    simpa [Char.isDigit, Bool.and_eq_true] using digit
  have ascii : c.toNat < 128 :=
    lt_of_le_of_lt (UInt32.le_iff_toNat_le.1 bounds.2) (by decide)
  revert digit
  exact forall_ascii
    (motive := fun c => c.isDigit → decimalValue? c = some (c.toNat - '0'.toNat)) (by decide) ascii

theorem foldl_nextDigit_of_isDigit {cs : List Char} (digits : ∀ c ∈ cs, c.isDigit) (start : Nat) :
    cs.foldl nextDigit (some start) = some (Nat.ofDigitChars 10 cs start) := by
  induction cs generalizing start with
  | nil => rfl
  | cons c cs ih =>
    obtain ⟨first, rest⟩ := List.forall_mem_cons.1 digits
    have next : nextDigit (some start) c = some (10 * start + (c.toNat - '0'.toNat)) := by
      simp [nextDigit, decimalValue?_of_isDigit first]
    rw [List.foldl_cons, next, ih rest, Nat.ofDigitChars_cons]

/-- A number is written by its ASCII digits, with any number of zeros in front. -/
theorem isNumeral_toDigits (zeros n : Nat) :
    IsNumeral (List.replicate zeros '0' ++ Nat.toDigits 10 n) n := by
  have filled : List.replicate zeros '0' ++ Nat.toDigits 10 n ≠ [] :=
    List.append_ne_nil_of_right_ne_nil _ Nat.toDigits_ne_nil
  have digits : ∀ c ∈ List.replicate zeros '0' ++ Nat.toDigits 10 n, c.isDigit := by
    refine List.forall_mem_append.2 ⟨fun c zero => ?_, fun c member => ?_⟩
    · rw [List.eq_of_mem_replicate zero]
      decide
    · exact Nat.isDigit_of_mem_toDigits (by decide) (by decide) member
  rw [← decimalNumeral?_eq_some_iff filled, decimalNumeral?_eq_foldl,
    foldl_nextDigit_of_isDigit digits, Nat.ofDigitChars_append, Nat.ofDigitChars_replicate_zero,
    Nat.mul_zero, Nat.ofDigitChars_ten_toDigits]

end Text

/-! ## Pages of rows -/

/-- The window shows a row, of which the first is row zero. -/
def Window.Shows (w : Window) (row : Int) : Prop :=
  w.offset ≤ row ∧ ∀ limit, w.limit = some limit → row < w.offset + limit

/-- Every query with the call for the page shows the row. -/
def PageShows (number limit row : Int) : Prop :=
  ∀ write pageSize (q : Query), ∃ page,
    Call.apply write pageSize q (.page (.int number) (.int limit)) = .ok page ∧
      page.window.Shows row

theorem pageShows_of_bounds {number limit row : Int} (low : number * limit ≤ row)
    (high : row < (number + 1) * limit) : PageShows number limit row := by
  intro write pageSize q
  refine ⟨{ q with window := ⟨number * limit, some limit⟩ }, rfl, low, fun _ size => ?_⟩
  cases size
  rwa [add_one_mul] at high

/-- Pages of which the last begins before the end and ends behind it show all rows, and none of them
is empty. -/
theorem pages_cover {limit total pages : Int} (positive : 0 < limit) (filled : 0 < total)
    (begun : (pages - 1) * limit < total) (ended : total ≤ pages * limit) :
    (∀ row, 0 ≤ row → row < total → ∃ i, 0 ≤ i ∧ i < pages ∧ PageShows i limit row) ∧
      ∃ row, 0 ≤ row ∧ row < total ∧ PageShows (pages - 1) limit row := by
  constructor
  · intro row first last
    refine ⟨row / limit, Int.ediv_nonneg first positive.le,
      Int.ediv_lt_of_lt_mul positive (last.trans_le ended), pageShows_of_bounds ?_ ?_⟩
    · exact Int.ediv_mul_le row positive.ne'
    · exact Int.lt_ediv_add_one_mul_self row positive
  · have several : 0 < pages := (mul_pos_iff_of_pos_right positive).1 (filled.trans_le ended)
    refine ⟨(pages - 1) * limit, mul_nonneg (by omega) positive.le, begun,
      pageShows_of_bounds le_rfl ?_⟩
    rw [add_one_mul]
    exact lt_add_of_pos_right _ positive

namespace RowCount

/-- The whole number of pages is neither too small nor too large for the rows. -/
theorem wholePages_exact {total : Nat} {limit : Int} (filled : 0 < total)
    (exact : total ≤ Binary64.mantissaBound) (positive : 0 < limit) (bounded : limit < 2 ^ 64) :
    ∃ (pages : Int) (m : Nat) (e : Int), wholePages total limit = .ok pages ∧
      ((pages - 1) * limit < total ∧ total ≤ pages * limit) ∧
      Binary64.ofRatio false total limit.natAbs = .finite false m e ∧
      Binary64.IsNearest (total / limit) m e ∧ pages = ⌈Binary64.value m e⌉ := by
  obtain ⟨m, e, rounded, quotient, result⟩ := wholePages_eq total positive
  have within : ¬Binary64.overflowBound ≤ total / limit := by
    have large : (1 : ℚ) ≤ limit := by exact_mod_cast positive
    exact not_le.2 ((div_le_self (Nat.cast_nonneg total) large).trans_lt
      (Binary64.natCast_lt_overflowBound exact))
  rw [if_neg within] at quotient result
  obtain ⟨parts, rfl⟩ := Int.eq_ofNat_of_zero_le positive.le
  have positive' : (0 : ℚ) < (parts : Int) := by exact_mod_cast positive
  have ceil : ⌈(total : ℚ) / (parts : Int)⌉ = ⌈Binary64.value m e⌉ := by
    rw [Int.cast_natCast] at rounded ⊢
    exact (rounded.ceil_value filled exact (by omega) (by omega)).symm
  obtain ⟨begun, ended⟩ := Int.ceil_eq_iff.1 ceil
  rw [lt_div_iff₀ positive'] at begun
  rw [div_le_iff₀ positive'] at ended
  exact ⟨_, m, e, result, ⟨by exact_mod_cast begun, by exact_mod_cast ended⟩, quotient, rounded,
    rfl⟩

theorem length_toDigits_le {total : Nat} (exact : total ≤ 2 ^ 53) :
    (Nat.toDigits 10 total).length ≤ 16 :=
  (Nat.length_toDigits_le_iff (by decide) (by decide)).2
    (exact.trans_lt (by decide : 2 ^ 53 < 10 ^ 16))

/-- The number of pages is exact, though it comes from a rounded quotient.  The total stands in the
content range in ASCII digits, with some zeros in front or none. -/
theorem pages_exact {headers : Headers} {zeros total : Nat} {limit : Int}
    (announced : headers.Announces (List.replicate zeros '0' ++ Nat.toDigits 10 total))
    (short : zeros + 16 ≤ maxDigits) (filled : 1 ≤ total) (exact : total ≤ 2 ^ 53)
    (positive : 1 ≤ limit) (bounded : limit ≤ 2 ^ 63 - 1) :
    ∃ (pages : Int) (m : Nat) (e : Int),
      ofHeaders? headers (.int limit) = .ok (some ⟨pages, total⟩) ∧
      ((pages - 1) * limit < total ∧ total ≤ pages * limit) ∧
      (Binary64.ofRatio false total limit.natAbs = .finite false m e ∧
        Binary64.IsNearest (total / limit) m e ∧ pages = ⌈Binary64.value m e⌉) ∧
      (∀ row : Int, 0 ≤ row → row < total → ∃ i, 0 ≤ i ∧ i < pages ∧ PageShows i limit row) ∧
      ∃ row : Int, 0 ≤ row ∧ row < total ∧ PageShows (pages - 1) limit row := by
  have digits : (List.replicate zeros '0' ++ Nat.toDigits 10 total).length ≤ maxDigits := by
    have few := length_toDigits_le exact
    rw [List.length_append, List.length_replicate]
    omega
  obtain ⟨pages, m, e, result, bounds, rounded⟩ := wholePages_exact filled
    (exact.trans_eq (by norm_num [Binary64.mantissaBound])) positive (by omega)
  refine ⟨pages, m, e, ?_, bounds, rounded, ?_⟩
  · rw [ofHeaders?_of_isNumeral announced (Text.isNumeral_toDigits zeros total) digits,
      pagesOf_eq total positive, if_neg (by omega), result]
    rfl
  · exact pages_cover positive (by exact_mod_cast filled) bounds.1 bounds.2

/-- The quotient is a third above a whole number, and the next number a half above it. -/
theorem pages_exact_thirds :
    ofHeaders? (rangeFields (Text.encode "0-2/ 009007199254740991")) (.int 3) =
      .ok (some ⟨3002399751580331, 9007199254740991⟩) := by
  have announced : (rangeFields (Text.encode "0-2/ 009007199254740991")).Announces
      (List.replicate 2 '0' ++ Nat.toDigits 10 9007199254740991) :=
    Headers.announces_iff.2 (by decide)
  obtain ⟨pages, _, _, result, ⟨begun, ended⟩, _⟩ :=
    pages_exact announced (by decide) (by decide) (by decide) (by decide : (1 : Int) ≤ 3)
      (by decide)
  have exact : pages = 3002399751580331 := by omega
  rw [result, exact]

end RowCount

end RestQuery
