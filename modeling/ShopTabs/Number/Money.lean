import ShopTabs.Number.Binary64
import ShopTabs.Number.Decimal
/-!
Money as it is kept: the binary number nearest to a written amount, of which the two places that a
price has are seen.
-/

namespace ShopTabs

open Text

/-- An amount of money as it is seen. -/
inductive Money where
  /-- A number of cents; an amount that is below zero by less than half a cent keeps its sign. -/
  | amount (negative : Bool) (cents : Nat)
  /-- An amount beyond all binary numbers. -/
  | boundless (negative : Bool)
deriving DecidableEq, Repr

namespace Money

/-- A whole number of cents. -/
def ofCents (cents : Nat) : Money := .amount false cents

/-- Below this number of cents the binary number nearest to an amount is less than a tenth of a cent away
from it, so a whole number of cents is seen as it was written. -/
def exactCents : Nat := pow10 15

/-- The cents nearest to a binary number, half cents to the even cent; zero has no sign. -/
def ofBinary64 : Binary64 → Money
  | .finite negative significand power =>
    let (num, den) := Binary64.quotient significand power
    .amount (negative && significand ≠ 0) (roundDiv (100 * num) den)
  | .infinite negative => .boundless negative
  | .nan => .amount false 0

/-- The amount that is seen of a written number: a moderate number of cents as it stands, and of any other
number the cents nearest to the binary number as which it is kept. -/
def ofDecimal (d : Decimal) : Money :=
  match d.cents? with
  | some cents =>
    if cents < exactCents then .amount (d.negative && cents ≠ 0) cents
    else ofBinary64 (.ofScientific d.negative d.coefficient d.exponent)
  | none => ofBinary64 (.ofScientific d.negative d.coefficient d.exponent)

/-- The text with two places. -/
def text : Money → String
  | amount negative cents => (Decimal.mk negative cents (-2)).text
  | boundless negative => if negative then "-Infinity" else "Infinity"

/-- The amount as a binary number. -/
def toBinary64 : Money → Binary64
  | amount negative cents => .ofScientific negative cents (-2)
  | boundless negative => .infinite negative

example : (ofDecimal ⟨false, 1, 1⟩).text = "10.00" := by decide +kernel
example : (ofDecimal ⟨false, 1015, -3⟩).text = "1.01" := by decide +kernel
example : (ofDecimal ⟨false, 1015, -2⟩).text = "10.15" := by decide +kernel
example : (ofDecimal ⟨true, 1, -3⟩).text = "-0.00" := by decide +kernel
example : (ofDecimal ⟨true, 0, 0⟩).text = "0.00" := by decide +kernel
example : (ofCents 2550).toBinary64.text = "25.5" := by decide +kernel
example : ofBinary64 (.ofScientific false 99999999999999 (-2)) = ofCents 99999999999999 := by
  decide +kernel

end Money

end ShopTabs
