import ShopTabs.Number.Power
/-!
Rounding of an exact quotient to a whole number, half to even or half up.
-/

namespace ShopTabs

/-- The whole number nearest to `num / den`; of two equally near ones the even one. -/
def roundDiv (num den : Nat) : Nat :=
  let q := num / den
  let r := num % den
  if 2 * r < den then q
  else if den < 2 * r then q + 1
  else if q % 2 = 0 then q else q + 1

/-- The whole number nearest to `num / den`; of two equally near ones the larger one. -/
def roundHalfUp (num den : Nat) : Nat := (2 * num + den) / (2 * den)

/-- A whole quotient is its own rounding. -/
theorem roundDiv_mul_self (q : Nat) {den : Nat} (h : 0 < den) : roundDiv (q * den) den = q := by
  simp [roundDiv, Nat.mul_div_cancel _ h, h]

/-- Rounding moves a quotient by at most one half, up or down. -/
theorem roundDiv_mul_near (num : Nat) {den : Nat} (h : 0 < den) :
    2 * num ≤ 2 * (roundDiv num den * den) + den ∧ 2 * (roundDiv num den * den) ≤ 2 * num + den := by
  have hdm := Nat.div_add_mod num den
  rw [Nat.mul_comm] at hdm
  have hlt := Nat.mod_lt num h
  have hup : (num / den + 1) * den = num / den * den + den := Nat.succ_mul _ _
  simp only [roundDiv]
  split
  · omega
  · split
    · omega
    · split
      · omega
      · omega

example : [roundHalfUp 5 10, roundHalfUp 15 10, roundHalfUp 14 10] = [1, 2, 1] := by decide
example : [roundDiv 5 10, roundDiv 15 10, roundDiv 16 10] = [0, 2, 2] := by decide

end ShopTabs
