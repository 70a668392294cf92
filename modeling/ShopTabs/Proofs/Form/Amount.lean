import ShopTabs.Form.Tab
import ShopTabs.Proofs.Number.ShortForm
/-!
Amounts of money that a form accepts.  The bounds on digits and places are passed as the amount is written
or in its short form; either way its short form is a moderate number of whole cents, next to the amount, and
that number of cents is kept.
-/

namespace ShopTabs

open Text

/-- A number of at most two places in hundredths. -/
theorem Decimal.scaled_eq (m : Nat) {e : Int} (h : -2 ≤ e) :
    ((m * 10 ^ (e + 2).toNat : Nat) : ℚ) = 100 * (m * (10 : ℚ) ^ e) := by
  have hpow : (10 : ℚ) ^ (e + 2).toNat = (10 : ℚ) ^ (e + 2) := by
    rw [← zpow_natCast, Int.toNat_of_nonneg (by omega)]
  push_cast
  rw [hpow, zpow_add₀ (by norm_num)]
  norm_num
  ring

/-- The cents of a decimal are a hundred times what it writes. -/
theorem Decimal.cents?_eq_some {d : Decimal} {cents : Nat} (h : d.cents? = some cents) :
    (cents : ℚ) = 100 * d.size := by
  rw [← size_trimmed]
  simp only [cents?] at h
  split at h
  · next hzero =>
      rw [size_eq_zero hzero, ← Option.some.inj h]
      norm_num
  · split at h
    · next hplaces =>
        rw [← Option.some.inj h]
        exact scaled_eq d.trimmed.coefficient hplaces.1
    · cases h

theorem Decimal.coefficient_ne_zero_of_cents? {d : Decimal} (h : d.cents? = none) : d.coefficient ≠ 0 := by
  intro hzero
  simp [cents?, trimmed, hzero] at h

namespace Money

variable {d : Decimal} {cents : Nat}

/-- An amount of money is whole cents: the nearest to a number, less than a tiny fraction away from it, and
just that number if decimal arithmetic keeps all of its digits but zeros at its end. -/
def IsCentsOf (m : Money) (d : Decimal) : Prop :=
  ∃ cents : Nat, m = .amount false cents ∧ |(cents / 100 : ℚ) - d.value| < 1 / 10 ^ 19 ∧
    (d.trimmed.extent.digits ≤ Decimal.precision → (cents / 100 : ℚ) = d.value)

theorem ofBinary64_of_near {significand : Nat} {power : Int}
    (h : |100 * (significand * (2 : ℚ) ^ power) - cents| < 1 / 2) :
    ofBinary64 (.finite false significand power) = .amount false cents := by
  obtain ⟨hden, hquotient⟩ := Binary64.quotient_eq significand power
  have hround : roundDiv (100 * (Binary64.quotient significand power).1)
      (Binary64.quotient significand power).2 = cents := by
    refine roundDiv_eq_of_near hden ?_
    rw [Nat.cast_mul, mul_div_assoc, hquotient]
    exact_mod_cast h
  rw [ofBinary64]
  simp only [hround, Bool.false_and]

/-- Of the binary number of a quotient that is next to moderate whole cents these are seen. -/
theorem ofQuotient_of_near {num den : Nat} (hden : 0 < den) (hnum : num ≠ 0) (hsmall : cents ≤ 10 ^ 10)
    (h : |100 * (num / den : ℚ) - cents| ≤ 1 / 4) :
    ofBinary64 (.ofQuotient false num den) = .amount false cents := by
  have hpos : (0 : ℚ) < den := Nat.cast_pos.mpr hden
  have hcents : (cents : ℚ) ≤ 10 ^ 10 := by exact_mod_cast hsmall
  have hbound : (num / den : ℚ) < 2 ^ 27 := by
    have hle := (abs_le.mp h).2
    linarith
  have hlt : num < den * 2 ^ 27 := by
    rw [div_lt_iff₀ hpos, mul_comm] at hbound
    exact_mod_cast hbound
  obtain ⟨significand, power, hfinite, hnear⟩ := Binary64.ofQuotient_near false hden hnum (by decide) hlt
  rw [hfinite]
  apply ofBinary64_of_near
  rw [show (2 : ℚ) ^ ((27 : Nat) - 52 : Int) = 1 / 2 ^ 25 by norm_num] at hnear
  rw [abs_le] at h hnear
  rw [abs_lt]
  constructor <;> linarith

/-- Of the binary number of a decimal that is next to moderate whole cents these are seen. -/
theorem ofScientific_of_near (hsmall : cents ≤ 10 ^ 10) (h : |100 * d.size - cents| ≤ 1 / 4) :
    ofBinary64 (.ofScientific false d.coefficient d.exponent) = .amount false cents := by
  have hcents : (cents : ℚ) ≤ 10 ^ 10 := by exact_mod_cast hsmall
  have hplace : d.exponent + ((natDigits d.coefficient).length : Int) = d.firstPlace + 1 :=
    (sub_add_cancel (d.exponent + (Decimal.digitCount d.coefficient : Int)) 1).symm
  simp only [Binary64.ofScientific, hplace]
  split
  · next htiny =>
      have hsize : d.size < 1 / 400 := by
        rcases htiny with hzero | htiny
        · rw [Decimal.size_eq_zero hzero]
          norm_num
        · calc d.size < (10 : ℚ) ^ (d.firstPlace + 1) := d.size_lt_pow
            _ ≤ (10 : ℚ) ^ (-3 : Int) := zpow_le_zpow_right₀ (by norm_num) (by omega)
            _ < 1 / 400 := by norm_num
      have hlt : (cents : ℚ) < 1 := by
        have hle := (abs_le.mp h).1
        linarith
      have hnone : cents = 0 := by
        have : cents < 1 := by exact_mod_cast hlt
        omega
      rw [hnone]
      apply ofBinary64_of_near
      norm_num
  · next hnot =>
      have hnonzero : d.coefficient ≠ 0 := fun hzero => hnot (Or.inl hzero)
      have hbound : d.size < 10 ^ 9 := by
        have hle := (abs_le.mp h).2
        linarith
      have hfirst : d.firstPlace < 9 := Decimal.firstPlace_lt hnonzero (by exact_mod_cast hbound)
      rw [if_neg (by omega)]
      split
      · next hwhole =>
          obtain ⟨n, hn⟩ := Int.eq_ofNat_of_zero_le hwhole
          have hsize : d.size = ((d.coefficient * pow10 n : Nat) : ℚ) / (1 : Nat) := by
            simp [Decimal.size, hn, pow10]
          rw [hn, Int.toNat_natCast]
          exact ofQuotient_of_near Nat.one_pos
            (Nat.mul_ne_zero hnonzero (Nat.pow_pos (by decide)).ne') hsmall (hsize ▸ h)
      · next hfraction =>
          obtain ⟨n, hn⟩ : ∃ n : Nat, d.exponent = -n := ⟨d.exponent.natAbs, by omega⟩
          have hsize : d.size = (d.coefficient : ℚ) / (pow10 n : Nat) := by
            simp [Decimal.size, hn, pow10, div_eq_mul_inv]
          rw [hn, Int.natAbs_neg, Int.natAbs_natCast]
          exact ofQuotient_of_near (Nat.pow_pos (by decide)) hnonzero hsmall (hsize ▸ h)

/-- A decimal that is next to moderate whole cents, and not below zero, is seen as these. -/
theorem ofDecimal_of_near (hsign : d.isBelowZero = false) (hsmall : cents ≤ 10 ^ 10)
    (h : |100 * d.size - cents| ≤ 1 / 4) : ofDecimal d = .amount false cents := by
  have hbinary : d.coefficient ≠ 0 →
      ofBinary64 (.ofScientific d.negative d.coefficient d.exponent) = .amount false cents := by
    intro hnonzero
    have hplus : d.negative = false := by simpa [Decimal.isBelowZero, hnonzero] using hsign
    rw [hplus]
    exact ofScientific_of_near hsmall h
  rw [ofDecimal]
  cases hwhole : d.cents? with
  | none => exact hbinary (Decimal.coefficient_ne_zero_of_cents? hwhole)
  | some kept =>
      have hexact := Decimal.cents?_eq_some hwhole
      have hsame : kept = cents := by
        rw [← hexact] at h
        have hlt : |(kept : Int) - cents| < 1 := by
          have hone : |(kept : ℚ) - cents| < 1 := lt_of_le_of_lt h (by norm_num)
          exact_mod_cast hone
        have hzero := Int.abs_lt_one_iff.mp hlt
        omega
      subst hsame
      have hexactCents : kept < exactCents := Nat.lt_of_le_of_lt hsmall (by decide)
      simp only [hexactCents, if_true]
      by_cases hzero : d.coefficient = 0
      · have hnone : kept = 0 := by
          rw [Decimal.size_eq_zero hzero, mul_zero] at hexact
          exact_mod_cast hexact
        simp [hnone]
      · have hplus : d.negative = false := by simpa [Decimal.isBelowZero, hzero] using hsign
        simp [hplus]

end Money

namespace Form

open Decimal

variable {how : Shortening} {d : Decimal}

theorem exceeds_eq_false {count : Extent → Nat} {most : Nat} :
    exceeds how d count most = false ↔
      count d.extent ≤ most ∨ count (d.shortForm how).extent ≤ most := by
  simp only [exceeds, Bool.and_eq_false_iff, decide_eq_false_iff_not, not_lt]

/-- An amount is within all bounds, each as it is written or in its short form. -/
theorem amountProblem?_eq_none :
    amountProblem? how d = none ↔
      exceeds how d (·.digits) amountDigits = false ∧ exceeds how d (·.places) amountPlaces = false ∧
        exceeds how d (·.whole) (amountDigits - amountPlaces) = false ∧ d.isBelowZero = false := by
  rw [amountProblem?]
  split
  · simp [*]
  split
  · simp [*]
  split
  · simp [*]
  split
  · simp [*]
  · simp [*]

/-- Of an accepted amount the short form is a number of whole cents. -/
theorem shortForm_cents (h : amountProblem? how d = none) :
    ∃ cents : Nat, (cents : ℚ) = 100 * (d.shortForm how).size := by
  obtain ⟨_, hplaces, _, _⟩ := amountProblem?_eq_none.mp h
  have hmost : amountPlaces = 2 := rfl
  have htwo : -2 ≤ (d.shortForm how).exponent := by
    rcases exceeds_eq_false.mp hplaces with hwritten | hshort
    · have hdepth := d.extent_places
      have hle := d.min_exponent_le_shortForm how
      omega
    · have hdepth := (d.shortForm how).extent_places
      omega
  exact ⟨_, scaled_eq (d.shortForm how).coefficient htwo⟩

/-- An accepted amount, or its short form, has at most eight digits before the point. -/
theorem size_or_shortForm_lt (h : amountProblem? how d = none) :
    d.size < 10 ^ 8 ∨ (d.shortForm how).size < 10 ^ 8 := by
  obtain ⟨_, _, hwhole, _⟩ := amountProblem?_eq_none.mp h
  have hpow {n : Nat} (hn : n ≤ 8) : (10 : ℚ) ^ n ≤ 10 ^ 8 := pow_le_pow_right₀ (by norm_num) hn
  rcases exceeds_eq_false.mp hwhole with hwritten | hshort
  · exact Or.inl (lt_of_lt_of_le d.size_lt (hpow hwritten))
  · exact Or.inr (lt_of_lt_of_le (d.shortForm how).size_lt (hpow hshort))

/-- The short form of an accepted amount is next to it. -/
theorem shortForm_near_of_accepted (h : amountProblem? how d = none) :
    |(d.shortForm how).size - d.size| < 1 / 10 ^ 19 := by
  have hlt : d.size < (10 : ℚ) ^ (-19 + precision : Int) := by
    have hpow : (10 : ℚ) ^ (-19 + precision : Int) = 10 ^ 9 := by
      rw [precision]
      norm_num
    rw [hpow]
    rcases size_or_shortForm_lt h with hwritten | hshort
    · linarith
    · have hnext := size_lt_of_shortForm (n := 8) (by decide) (by exact_mod_cast hshort)
      exact_mod_cast hnext
  calc |(d.shortForm how).size - d.size|
      ≤ (10 : ℚ) ^ (-19 : Int) / 2 := shortForm_near (by decide) hlt
    _ < 1 / 10 ^ 19 := by norm_num

/-- Of an amount that a form accepts the cents of its short form are kept. -/
theorem kept_cents (h : amountProblem? how d = none) :
    ∃ cents : Nat, Money.ofDecimal d = .amount false cents ∧
      (cents / 100 : ℚ) = (d.shortForm how).size ∧ cents ≤ 10 ^ 10 := by
  obtain ⟨_, _, _, hsign⟩ := amountProblem?_eq_none.mp h
  obtain ⟨cents, hcents⟩ := shortForm_cents h
  have hnear := abs_lt.mp (shortForm_near_of_accepted h)
  have hsmall : cents ≤ 10 ^ 10 := by
    have hlt : (cents : ℚ) < 10 ^ 10 + 1 := by
      rcases size_or_shortForm_lt h with hwritten | hshort <;> linarith
    have hsucc : cents < 10 ^ 10 + 1 := by exact_mod_cast hlt
    omega
  refine ⟨cents, Money.ofDecimal_of_near hsign hsmall ?_, by linarith, hsmall⟩
  rw [abs_le]
  constructor <;> linarith

/-- An amount that a form accepts is kept to the cent. -/
theorem kept_isCentsOf (h : amountProblem? how d = none) : (Money.ofDecimal d).IsCentsOf d := by
  obtain ⟨_, _, _, hsign⟩ := amountProblem?_eq_none.mp h
  obtain ⟨cents, hkept, hvalue, _⟩ := kept_cents h
  refine ⟨cents, hkept, ?_, fun hdigits => ?_⟩
  · rw [hvalue, value_eq_size hsign]
    exact shortForm_near_of_accepted h
  · rw [hvalue, value_eq_size hsign, size_shortForm_of_digits how hdigits]

/-- Unless it is rounded, what is kept of an amount has at most eight digits before the point. -/
theorem kept_cents_lt (h : amountProblem? how d = none) (hdigits : d.trimmed.extent.digits ≤ precision) :
    ∃ cents, Money.ofDecimal d = .amount false cents ∧ cents < 10 ^ 10 := by
  obtain ⟨cents, hkept, hvalue, _⟩ := kept_cents h
  have hbound := size_or_shortForm_lt h
  rw [size_shortForm_of_digits how hdigits] at hvalue hbound
  have hlt : (cents : ℚ) < 10 ^ 10 := by
    rcases hbound with hlt | hlt <;> linarith
  exact ⟨cents, hkept, by exact_mod_cast hlt⟩

end Form

end ShopTabs
