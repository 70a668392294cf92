import Mathlib.Algebra.Order.Ring.Abs
import Mathlib.Algebra.Order.Ring.Rat
import Mathlib.Tactic.FieldSimp
import Mathlib.Tactic.Linarith
import Mathlib.Tactic.Ring
import ShopTabs.Number.Binary64
/-!
How far rounding goes.  A quotient is moved by at most one half, so a binary number is at most half of its
last place away from the number that it stands for.
-/

namespace ShopTabs

section Quotient

variable {num den : Nat}

theorem abs_roundDiv_sub_le (num : Nat) (h : 0 < den) :
    |(roundDiv num den : ℚ) - num / den| ≤ 1 / 2 := by
  have hden : (0 : ℚ) < den := Nat.cast_pos.mpr h
  obtain ⟨hlow, hhigh⟩ := roundDiv_mul_near num h
  have hlow : (2 * num : ℚ) ≤ 2 * (roundDiv num den * den) + den := by exact_mod_cast hlow
  have hhigh : (2 * (roundDiv num den * den) : ℚ) ≤ 2 * num + den := by exact_mod_cast hhigh
  have hquotient : (num / den : ℚ) * den = num := div_mul_cancel₀ _ hden.ne'
  rw [← hquotient] at hlow hhigh
  generalize (num / den : ℚ) = q at hlow hhigh ⊢
  have hbelow : 2 * q ≤ 2 * roundDiv num den + 1 := le_of_mul_le_mul_right (by linarith) hden
  have habove : (2 : ℚ) * roundDiv num den ≤ 2 * q + 1 := le_of_mul_le_mul_right (by linarith) hden
  rw [abs_le]
  constructor <;> linarith

/-- A quotient less than one half away from a whole number is rounded to it. -/
theorem roundDiv_eq_of_near {n : Nat} (h : 0 < den) (hnear : |(num / den : ℚ) - n| < 1 / 2) :
    roundDiv num den = n := by
  have hone : |(roundDiv num den : ℚ) - n| < 1 :=
    calc |(roundDiv num den : ℚ) - n|
        ≤ |(roundDiv num den : ℚ) - num / den| + |(num / den : ℚ) - n| := abs_sub_le _ _ _
      _ < 1 / 2 + 1 / 2 := add_lt_add_of_le_of_lt (abs_roundDiv_sub_le num h) hnear
      _ = 1 := by norm_num
  have hint : |(roundDiv num den : Int) - n| < 1 := by exact_mod_cast hone
  have hzero := Int.abs_lt_one_iff.mp hint
  omega

end Quotient

namespace Binary64

variable {num den : Nat}

theorem pow2_pos (n : Nat) : 0 < pow2 n := Nat.pow_pos (by decide)

/-- A binary number's magnitude as a quotient is its significand times its power of two. -/
theorem quotient_eq (significand : Nat) (power : Int) :
    0 < (quotient significand power).2 ∧
      ((quotient significand power).1 / (quotient significand power).2 : ℚ) =
        significand * (2 : ℚ) ^ power := by
  rw [quotient]
  split
  · next hpos =>
      obtain ⟨n, rfl⟩ := Int.eq_ofNat_of_zero_le hpos
      exact ⟨Nat.one_pos, by simp [pow2]⟩
  · next hneg =>
      obtain ⟨n, rfl⟩ : ∃ n : Nat, power = -n := ⟨power.natAbs, by omega⟩
      exact ⟨pow2_pos _, by simp [pow2, div_eq_mul_inv]⟩

theorem abs_roundAt_sub_le (num : Nat) (h : 0 < den) (power : Int) :
    |(roundAt num den power : ℚ) * 2 ^ power - num / den| ≤ 2 ^ power / 2 := by
  have hpow : (0 : ℚ) < 2 ^ power := zpow_pos (by norm_num) _
  have hscaled : |(roundAt num den power : ℚ) - num / den / 2 ^ power| ≤ 1 / 2 := by
    rw [roundAt]
    split
    · next hpos =>
        obtain ⟨n, rfl⟩ := Int.eq_ofNat_of_zero_le hpos
        have hnear := abs_roundDiv_sub_le num (Nat.mul_pos h (pow2_pos n))
        simpa [pow2, div_div] using hnear
    · next hneg =>
        obtain ⟨n, rfl⟩ : ∃ n : Nat, power = -n := ⟨power.natAbs, by omega⟩
        have hnear := abs_roundDiv_sub_le (num * pow2 n) h
        simpa [pow2, mul_div_right_comm] using hnear
  calc |(roundAt num den power : ℚ) * 2 ^ power - num / den|
      = |(roundAt num den power : ℚ) - num / den / 2 ^ power| * 2 ^ power := by
        rw [← abs_of_pos hpow, ← abs_mul, abs_of_pos hpow, sub_mul, div_mul_cancel₀ _ hpow.ne']
    _ ≤ 1 / 2 * 2 ^ power := mul_le_mul_of_nonneg_right hscaled hpow.le
    _ = 2 ^ power / 2 := by ring

/-- The last place of a number below a power of two stands 52 places behind its first, or further. -/
theorem lastPlace_le {n : Nat} (hnum : num ≠ 0) (hn : n ≤ 52) (h : num < den * 2 ^ n) :
    lastPlace num den ≤ (n : Int) - 52 := by
  have hlog : Nat.log2 num ≤ Nat.log2 den + n := by
    have hpow : 2 ^ Nat.log2 num < 2 ^ (Nat.log2 den + 1 + n) :=
      calc 2 ^ Nat.log2 num ≤ num := Nat.log2_self_le hnum
        _ < den * 2 ^ n := h
        _ ≤ 2 ^ (Nat.log2 den + 1) * 2 ^ n := Nat.mul_le_mul_right _ Nat.lt_log2_self.le
        _ = 2 ^ (Nat.log2 den + 1 + n) := (Nat.pow_add _ _ _).symm
    have hlt := (Nat.pow_lt_pow_iff_right (by decide)).mp hpow
    omega
  simp only [lastPlace]
  split <;> omega

/-- The binary number of a quotient below a power of two is nearer to it than half of a last place. -/
theorem ofQuotient_near (negative : Bool) {n : Nat} (hden : 0 < den) (hnum : num ≠ 0) (hn : n ≤ 52)
    (h : num < den * 2 ^ n) :
    ∃ significand power, ofQuotient negative num den = .finite negative significand power ∧
      |(significand * (2 : ℚ) ^ power) - num / den| ≤ 2 ^ ((n : Int) - 52) / 2 := by
  have hplace := lastPlace_le hnum hn h
  have hnear : |(roundAt num den (lastPlace num den) : ℚ) * 2 ^ lastPlace num den - num / den| ≤
      2 ^ ((n : Int) - 52) / 2 :=
    calc _ ≤ (2 : ℚ) ^ lastPlace num den / 2 := abs_roundAt_sub_le num hden _
      _ ≤ 2 ^ ((n : Int) - 52) / 2 :=
        div_le_div_of_nonneg_right (zpow_le_zpow_right₀ (by norm_num) hplace) (by norm_num)
  rw [ofQuotient, if_neg hnum]
  dsimp only
  generalize lastPlace num den = place at *
  generalize roundAt num den place = m at *
  by_cases hcarry : m = pow2 53
  · -- A carry leaves the value as it is.
    have hsame : ((pow2 52 : Nat) : ℚ) * 2 ^ (place + 1) = m * 2 ^ place := by
      rw [hcarry, zpow_add₀ (by norm_num), pow2, pow2]
      norm_num
      ring
    refine ⟨pow2 52, place + 1, ?_, hsame ▸ hnear⟩
    rw [if_pos hcarry, if_neg (by dsimp only; omega)]
  · refine ⟨m, place, ?_, hnear⟩
    rw [if_neg hcarry, if_neg (by dsimp only; omega)]

end Binary64

end ShopTabs
