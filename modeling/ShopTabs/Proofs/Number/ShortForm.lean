import ShopTabs.Number.Decimal
import ShopTabs.Proofs.Number.Rounding
/-!
The short form of a decimal.  Trailing zeros go without a change of value.  Rounding, where it takes part,
moves a number by half of its last place at the most, and not at all if it has no more digits than decimal
arithmetic keeps.
-/

namespace ShopTabs

open Text

namespace Decimal

/-! ### Digits -/

/-- How many zeros stand at the end of a number. -/
def endZeros (n : Nat) : Nat := ((natDigits n).reverse.takeWhile (· == '0')).length

theorem endZeros_of_lt {n : Nat} (hpos : n ≠ 0) (hlt : n < 10) : endZeros n = 0 := by
  rw [endZeros, natDigits, Nat.toDigits_of_lt_base hlt]
  simp [hpos]

theorem endZeros_of_le {n : Nat} (hle : 10 ≤ n) :
    endZeros n = if n % 10 = 0 then endZeros (n / 10) + 1 else 0 := by
  rw [endZeros, natDigits, Nat.toDigits_of_base_le (by decide) hle, List.reverse_append,
    List.reverse_singleton, List.singleton_append, List.takeWhile_cons]
  by_cases hzero : n % 10 = 0
  · simp [hzero, endZeros, natDigits]
  · simp [hzero]

/-- A number is divisible by as many tens as zeros stand at its end. -/
theorem pow_endZeros_dvd {n : Nat} (hpos : n ≠ 0) : 10 ^ endZeros n ∣ n := by
  induction n using Nat.strong_induction_on with
  | h n ih =>
      by_cases hlt : n < 10
      · rw [endZeros_of_lt hpos hlt]
        exact Nat.one_dvd n
      · rw [endZeros_of_le (by omega)]
        by_cases hzero : n % 10 = 0
        · rw [if_pos hzero, Nat.pow_succ]
          have htenth : 10 ^ endZeros (n / 10) ∣ n / 10 := ih (n / 10) (by omega) (by omega)
          have hmul : n / 10 * 10 = n := by omega
          rw [← hmul]
          simpa [hmul] using Nat.mul_dvd_mul_right htenth 10
        · rw [if_neg hzero]
          exact Nat.one_dvd n

theorem digitCount_pos (n : Nat) : 0 < digitCount n := Nat.length_toDigits_pos

theorem digitCount_le_iff {n k : Nat} (h : 0 < k) : digitCount n ≤ k ↔ n < 10 ^ k :=
  Nat.length_toDigits_le_iff (by decide) h

theorem lt_pow_digitCount (n : Nat) : n < 10 ^ digitCount n :=
  (digitCount_le_iff (digitCount_pos n)).mp (Nat.le_refl _)

theorem pow_digitCount_le {n : Nat} (h : n ≠ 0) : 10 ^ (digitCount n - 1) ≤ n := by
  by_cases hone : digitCount n = 1
  · rw [hone]
    exact Nat.pos_of_ne_zero h
  · have hpos := digitCount_pos n
    by_contra hlt
    have hle : digitCount n ≤ digitCount n - 1 := (digitCount_le_iff (by omega)).mpr (by omega)
    omega

/-- To drop digits is to divide by a power of ten; a number with fewer digits is rounded to zero. -/
theorem dropDigits_eq (n count : Nat) : dropDigits n count = roundDiv n (10 ^ count) := by
  rw [dropDigits]
  split
  · next hshort =>
      have hpow : 10 ^ count = 10 ^ (count - 1) * 10 := (Nat.pow_pred_mul (by omega)).symm
      have hlt : n < 10 ^ (count - 1) :=
        Nat.lt_of_lt_of_le (lt_pow_digitCount n) (Nat.pow_le_pow_right (by decide) (by omega))
      simp only [roundDiv, hpow, Nat.div_eq_of_lt (show n < 10 ^ (count - 1) * 10 by omega),
        Nat.mod_eq_of_lt (show n < 10 ^ (count - 1) * 10 by omega)]
      rw [if_pos (by omega)]
  · rfl

theorem dropDigits_zero (n : Nat) : dropDigits n 0 = n := by
  rw [dropDigits_eq, Nat.pow_zero]
  simpa using roundDiv_mul_self n Nat.one_pos

/-! ### Values -/

/-- The number that a decimal writes, without its sign. -/
def size (d : Decimal) : ℚ := d.coefficient * (10 : ℚ) ^ d.exponent

/-- The number that a decimal writes. -/
def value (d : Decimal) : ℚ := if d.negative then -d.size else d.size

/-- Zeros behind the digits count as powers of ten. -/
theorem size_shift (negative : Bool) (m count : Nat) (e : Int) :
    (Decimal.mk negative m (e + count)).size = (Decimal.mk negative (m * 10 ^ count) e).size := by
  simp only [size]
  push_cast
  rw [zpow_add₀ (by norm_num), zpow_natCast]
  ring

theorem size_eq_zero {d : Decimal} (h : d.coefficient = 0) : d.size = 0 := by simp [size, h]

/-- A number that is not below zero is as large as it is written. -/
theorem value_eq_size {d : Decimal} (h : d.isBelowZero = false) : d.value = d.size := by
  rw [value]
  split
  · next hnegative =>
      have hzero : d.coefficient = 0 := by simpa [isBelowZero, hnegative] using h
      rw [size_eq_zero hzero, neg_zero]
  · rfl

theorem pow_firstPlace_le {d : Decimal} (h : d.coefficient ≠ 0) : (10 : ℚ) ^ d.firstPlace ≤ d.size := by
  have hpos := digitCount_pos d.coefficient
  have hplace : d.firstPlace = ((digitCount d.coefficient - 1 : Nat) : Int) + d.exponent := by
    rw [firstPlace]
    omega
  have hdigits : ((10 ^ (digitCount d.coefficient - 1) : Nat) : ℚ) ≤ d.coefficient :=
    Nat.cast_le.mpr (pow_digitCount_le h)
  rw [hplace, zpow_add₀ (by norm_num), zpow_natCast, size]
  exact mul_le_mul_of_nonneg_right (by exact_mod_cast hdigits) (zpow_nonneg (by norm_num) _)

/-- A decimal is below the power of ten behind its first place. -/
theorem size_lt_pow (d : Decimal) : d.size < (10 : ℚ) ^ (d.firstPlace + 1) := by
  have hplace : d.firstPlace + 1 = (digitCount d.coefficient : Int) + d.exponent := by
    rw [firstPlace]
    omega
  have hdigits : (d.coefficient : ℚ) < ((10 ^ digitCount d.coefficient : Nat) : ℚ) :=
    Nat.cast_lt.mpr (lt_pow_digitCount _)
  rw [hplace, zpow_add₀ (by norm_num), zpow_natCast, size]
  exact mul_lt_mul_of_pos_right (by exact_mod_cast hdigits) (zpow_pos (by norm_num) _)

theorem firstPlace_lt {d : Decimal} (h : d.coefficient ≠ 0) {n : Int} (hlt : d.size < (10 : ℚ) ^ n) :
    d.firstPlace < n :=
  (zpow_lt_zpow_iff_right₀ (by norm_num)).mp (lt_of_le_of_lt (pow_firstPlace_le h) hlt)

theorem extent_places (d : Decimal) : -(d.extent.places : Int) ≤ d.exponent := by
  rw [extent]
  split
  · next hpos =>
      simpa using hpos
  · show -(d.exponent.natAbs : Int) ≤ d.exponent
    omega

theorem extent_digits (d : Decimal) :
    digitCount d.coefficient ≤ d.extent.digits ∧ -(d.extent.digits : Int) ≤ d.exponent := by
  rw [extent]
  split
  · dsimp only
    omega
  · dsimp only
    omega

/-- The digits before the point are those up to the first place. -/
theorem firstPlace_lt_whole (d : Decimal) : d.firstPlace < d.extent.whole := by
  have hpos := digitCount_pos d.coefficient
  rw [firstPlace, Extent.whole, extent]
  split
  · show d.exponent + digitCount d.coefficient - 1 <
      ((digitCount d.coefficient + d.exponent.toNat - 0 : Nat) : Int)
    omega
  · show d.exponent + digitCount d.coefficient - 1 <
      ((max (digitCount d.coefficient) d.exponent.natAbs - d.exponent.natAbs : Nat) : Int)
    omega

/-- A decimal is below the power of ten that its digits before the point count. -/
theorem size_lt (d : Decimal) : d.size < 10 ^ d.extent.whole := by
  have hplace := d.firstPlace_lt_whole
  rw [← zpow_natCast]
  exact lt_of_lt_of_le d.size_lt_pow (zpow_le_zpow_right₀ (by norm_num) (by omega))

/-! ### Without trailing zeros -/

theorem trimmed_eq {d : Decimal} (h : d.coefficient ≠ 0) :
    d.trimmed = ⟨d.negative, d.coefficient / 10 ^ endZeros d.coefficient,
      d.exponent + endZeros d.coefficient⟩ := if_neg h

theorem size_trimmed (d : Decimal) : d.trimmed.size = d.size := by
  by_cases hzero : d.coefficient = 0
  · rw [size_eq_zero hzero, trimmed, if_pos hzero, size_eq_zero rfl]
  · rw [trimmed_eq hzero, size_shift, Nat.div_mul_cancel (pow_endZeros_dvd hzero)]

theorem min_exponent_le_trimmed (d : Decimal) : min d.exponent 0 ≤ d.trimmed.exponent := by
  by_cases hzero : d.coefficient = 0
  · rw [trimmed, if_pos hzero]
    exact min_le_right _ _
  · rw [trimmed_eq hzero]
    show min d.exponent 0 ≤ d.exponent + endZeros d.coefficient
    omega

theorem trimmed_coefficient_ne_zero {d : Decimal} (h : d.coefficient ≠ 0) :
    d.trimmed.coefficient ≠ 0 := by
  rw [trimmed_eq h]
  have hle := Nat.le_of_dvd (Nat.pos_of_ne_zero h) (pow_endZeros_dvd h)
  exact (Nat.div_pos hle (Nat.pow_pos (by decide))).ne'

/-- The first digit stands where it stood. -/
theorem firstPlace_trimmed {d : Decimal} (h : d.coefficient ≠ 0) : d.trimmed.firstPlace = d.firstPlace := by
  have hlow : d.firstPlace < d.trimmed.firstPlace + 1 :=
    firstPlace_lt h (d.size_trimmed ▸ d.trimmed.size_lt_pow)
  have hhigh : d.trimmed.firstPlace < d.firstPlace + 1 :=
    firstPlace_lt (trimmed_coefficient_ne_zero h) (d.size_trimmed.symm ▸ d.size_lt_pow)
  omega

/-! ### Rounded -/

theorem exponent_le_lastPlace (d : Decimal) : d.exponent ≤ d.lastPlace := le_max_left _ _

theorem rounded?_eq_some {d r : Decimal} (h : d.rounded? = some r) :
    r = ⟨d.negative, dropDigits d.coefficient (d.lastPlace - d.exponent).toNat, d.lastPlace⟩ := by
  simp only [rounded?] at h
  split at h
  · exact (Option.some.inj h).symm
  · cases h

/-- Rounding moves a number by half of its last place at the most. -/
theorem rounded?_near {d r : Decimal} (h : d.rounded? = some r) :
    |r.size - d.size| ≤ (10 : ℚ) ^ d.lastPlace / 2 := by
  have hle := d.exponent_le_lastPlace
  have hten : (0 : ℚ) < 10 ^ d.lastPlace := zpow_pos (by norm_num) _
  rw [rounded?_eq_some h]
  simp only [size, dropDigits_eq]
  generalize hcount : (d.lastPlace - d.exponent).toNat = count
  have hplace : d.lastPlace = d.exponent + count := by omega
  have hwritten : (d.coefficient : ℚ) * 10 ^ d.exponent =
      d.coefficient / ((10 ^ count : Nat) : ℚ) * 10 ^ d.lastPlace := by
    rw [hplace, zpow_add₀ (by norm_num), zpow_natCast]
    push_cast
    field_simp
  have hnear := abs_roundDiv_sub_le d.coefficient (Nat.pow_pos (n := count) (show 0 < 10 by decide))
  calc |(roundDiv d.coefficient (10 ^ count) : ℚ) * 10 ^ d.lastPlace - d.coefficient * 10 ^ d.exponent|
      = |(roundDiv d.coefficient (10 ^ count) : ℚ) - d.coefficient / ((10 ^ count : Nat) : ℚ)| *
          10 ^ d.lastPlace := by
        rw [hwritten, ← sub_mul, abs_mul, abs_of_pos hten]
    _ ≤ 1 / 2 * 10 ^ d.lastPlace := mul_le_mul_of_nonneg_right hnear hten.le
    _ = 10 ^ d.lastPlace / 2 := by ring

/-- A number whose last place may stay is its own rounding. -/
theorem rounded?_eq_self {d r : Decimal} (h : d.rounded? = some r) (hplace : d.lastPlace = d.exponent) :
    r = d := by
  rw [rounded?_eq_some h, hplace, sub_self, Int.toNat_zero, dropDigits_zero]

/-- Rounding drops nothing but zeros of a number with as few digits as decimal arithmetic keeps. -/
theorem size_rounded? {d r : Decimal} (h : d.rounded? = some r)
    (hdigits : d.trimmed.extent.digits ≤ precision) : r.size = d.size := by
  rw [rounded?_eq_some h]
  by_cases hzero : d.coefficient = 0
  · have hnone : dropDigits 0 (d.lastPlace - d.exponent).toNat = 0 := by
      simp [dropDigits_eq, roundDiv]
    rw [size_eq_zero hzero, hzero, hnone, size_eq_zero rfl]
  · have hplace : d.lastPlace ≤ d.exponent + endZeros d.coefficient := by
      have hprecision : precision = 28 := rfl
      have hlowest : lowestPlace = -1000026 := rfl
      have hexponent : d.trimmed.exponent = d.exponent + endZeros d.coefficient :=
        congrArg exponent (trimmed_eq hzero)
      have hfirst := firstPlace_trimmed hzero
      have hbounds := d.trimmed.extent_digits
      rw [firstPlace] at hfirst
      rw [lastPlace]
      omega
    obtain ⟨q, hq⟩ : 10 ^ (d.lastPlace - d.exponent).toNat ∣ d.coefficient :=
      Nat.dvd_trans (Nat.pow_dvd_pow 10 (by omega)) (pow_endZeros_dvd hzero)
    have hle := d.exponent_le_lastPlace
    generalize hcount : (d.lastPlace - d.exponent).toNat = count at hq ⊢
    have hlast : d.lastPlace = d.exponent + count := by omega
    have hdropped : dropDigits d.coefficient count = q := by
      rw [dropDigits_eq, hq, Nat.mul_comm]
      exact roundDiv_mul_self q (Nat.pow_pos (by decide))
    rw [hdropped, hlast, size_shift, Nat.mul_comm, ← hq]

/-! ### Short forms -/

section ShortForm

variable (how : Shortening) (d : Decimal)

/-- The short form has no places but those that were written. -/
theorem min_exponent_le_shortForm : min d.exponent 0 ≤ (d.shortForm how).exponent := by
  cases how with
  | exact => exact d.min_exponent_le_trimmed
  | rounded =>
      rw [shortForm]
      cases hr : d.rounded? with
      | none => exact min_le_left _ _
      | some r =>
          have hplace : r.exponent = d.lastPlace := congrArg exponent (rounded?_eq_some hr)
          have hle : d.exponent ≤ r.exponent := le_of_le_of_eq d.exponent_le_lastPlace hplace.symm
          exact le_trans (min_le_min_right 0 hle) r.min_exponent_le_trimmed

/-- The short form is the number itself, or the number rounded at a last place that may not stay. -/
theorem size_shortForm : (d.shortForm how).size = d.size ∨
    d.exponent < d.lastPlace ∧ |(d.shortForm how).size - d.size| ≤ (10 : ℚ) ^ d.lastPlace / 2 := by
  cases how with
  | exact => exact Or.inl d.size_trimmed
  | rounded =>
      rw [shortForm]
      cases hr : d.rounded? with
      | none => exact Or.inl rfl
      | some r =>
          rw [Option.map_some, Option.getD_some, size_trimmed]
          by_cases hplace : d.lastPlace = d.exponent
          · exact Or.inl (by rw [rounded?_eq_self hr hplace])
          · exact Or.inr ⟨lt_of_le_of_ne d.exponent_le_lastPlace (Ne.symm hplace), rounded?_near hr⟩

variable {d}

/-- A number with no more digits than decimal arithmetic keeps, zeros at its end apart, is not changed. -/
theorem size_shortForm_of_digits (h : d.trimmed.extent.digits ≤ precision) :
    (d.shortForm how).size = d.size := by
  cases how with
  | exact => exact d.size_trimmed
  | rounded =>
      rw [shortForm]
      cases hr : d.rounded? with
      | none => rfl
      | some r => rw [Option.map_some, Option.getD_some, size_trimmed, size_rounded? hr h]

variable {how}

/-- The last place of a number below a power of ten stands 27 places behind its first, or further. -/
theorem lastPlace_le {n : Int} (hn : lowestPlace ≤ n) (h : d.size < (10 : ℚ) ^ (n + precision))
    (hlast : d.exponent < d.lastPlace) : d.lastPlace ≤ n := by
  have hprecision : precision = 28 := rfl
  by_cases hzero : d.coefficient = 0
  · have hfirst : d.firstPlace = d.exponent := by
      rw [firstPlace, hzero, show digitCount 0 = 1 from rfl]
      omega
    rw [lastPlace] at hlast ⊢
    omega
  · have hfirst := firstPlace_lt hzero h
    rw [lastPlace] at hlast ⊢
    omega

/-- The short form of a number below a power of ten is next to it. -/
theorem shortForm_near {n : Int} (hn : lowestPlace ≤ n) (h : d.size < (10 : ℚ) ^ (n + precision)) :
    |(d.shortForm how).size - d.size| ≤ (10 : ℚ) ^ n / 2 := by
  have hten : (0 : ℚ) < 10 ^ n := zpow_pos (by norm_num) _
  rcases d.size_shortForm how with hsame | ⟨hlast, hnear⟩
  · rw [hsame, sub_self, abs_zero]
    linarith
  · have hpow : (10 : ℚ) ^ d.lastPlace ≤ 10 ^ n :=
      zpow_le_zpow_right₀ (by norm_num) (lastPlace_le hn h hlast)
    linarith

/-- A number with a small short form is small. -/
theorem size_lt_of_shortForm {n : Int} (hn : lowestPlace ≤ n)
    (h : (d.shortForm how).size < (10 : ℚ) ^ n) : d.size < (10 : ℚ) ^ (n + 1) := by
  have hten : (0 : ℚ) < 10 ^ n := zpow_pos (by norm_num) _
  have hnext : (10 : ℚ) ^ (n + 1) = 10 * 10 ^ n := by
    rw [zpow_add₀ (by norm_num), zpow_one, mul_comm]
  by_contra hlarge
  rw [not_lt, hnext] at hlarge
  rcases d.size_shortForm how with hsame | ⟨hlast, hnear⟩
  · rw [hsame] at h
    linarith
  · -- The last place weighs no more than the number, so rounding leaves half of it.
    have hzero : d.coefficient ≠ 0 := fun hzero => by
      rw [size_eq_zero hzero] at hlarge
      linarith
    have hweight : (10 : ℚ) ^ d.lastPlace ≤ d.size := by
      by_cases hfirst : d.lastPlace ≤ d.firstPlace
      · exact le_trans (zpow_le_zpow_right₀ (by norm_num) hfirst) (pow_firstPlace_le hzero)
      · have hprecision : precision = 28 := rfl
        have hlowest : d.lastPlace ≤ n := by
          rw [lastPlace] at hlast hfirst ⊢
          omega
        have hpow : (10 : ℚ) ^ d.lastPlace ≤ 10 ^ n := zpow_le_zpow_right₀ (by norm_num) hlowest
        linarith
    have hbelow := (abs_le.mp hnear).1
    linarith

end ShortForm

end Decimal

end ShopTabs
