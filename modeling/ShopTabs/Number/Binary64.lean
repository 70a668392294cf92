import ShopTabs.Number.Rounding
import ShopTabs.Text.Digit
/-!
Binary floating-point numbers of 64 bits as exact values: a whole significand times a power of two.
`Binary64.ofScientific` rounds a decimal to the nearest such number, `Binary64.text` writes the shortest
decimal that is rounded back to it, and arithmetic rounds the exact result to the nearest number.
-/

namespace ShopTabs

open Text

/-- A number of the 64-bit format.  A finite one is `± significand · 2 ^ power`, with the significand
below `2 ^ 53` and the power at least `-1074`. -/
inductive Binary64 where
  | nan
  | infinite (negative : Bool)
  | finite (negative : Bool) (significand : Nat) (power : Int)
deriving DecidableEq, Repr

namespace Binary64

/-- The exact quotient `num · 2 ^ (-power) / den`, rounded to a whole number. -/
def roundAt (num den : Nat) (power : Int) : Nat :=
  if 0 ≤ power then roundDiv num (den * pow2 power.toNat)
  else roundDiv (num * pow2 power.natAbs) den

/-- The power of two of the last place of the number nearest to `num / den`. -/
def lastPlace (num den : Nat) : Int :=
  let guess := max ((Nat.log2 num : Int) - Nat.log2 den - 53) (-1074)
  let quotient :=
    if 0 ≤ guess then num / (den * pow2 guess.toNat) else num * pow2 guess.natAbs / den
  if pow2 53 ≤ quotient then guess + 1 else guess

/-- The number nearest to `± num / den`, ties to the even significand. -/
def ofQuotient (negative : Bool) (num den : Nat) : Binary64 :=
  if num = 0 then .finite negative 0 (-1074)
  else
    let place := lastPlace num den
    let m := roundAt num den place
    let (m, place) := if m = pow2 53 then (pow2 52, place + 1) else (m, place)
    if 971 < place then .infinite negative else .finite negative m place

/-- The number nearest to `± coefficient · 10 ^ exponent`. -/
def ofScientific (negative : Bool) (coefficient : Nat) (exponent : Int) : Binary64 :=
  let magnitude : Int := exponent + (natDigits coefficient).length
  if coefficient = 0 ∨ magnitude < -400 then .finite negative 0 (-1074)
  else if 400 < magnitude then .infinite negative
  else if 0 ≤ exponent then ofQuotient negative (coefficient * pow10 exponent.toNat) 1
  else ofQuotient negative coefficient (pow10 exponent.natAbs)

/-- A finite number's magnitude as a quotient. -/
def quotient (significand : Nat) (power : Int) : Nat × Nat :=
  if 0 ≤ power then (significand * pow2 power.toNat, 1) else (significand, pow2 power.natAbs)

/-- The power of ten just above a positive quotient: the least `p` with `num / den < 10 ^ p`. -/
def decimalPoint (num den : Nat) : Int :=
  if den ≤ num then (natDigits (num / den)).length
  else
    let zeros := ((List.range 400).find? fun k => den ≤ num * pow10 (k + 1)).getD 400
    Int.negOfNat zeros

/-- The two decimals of `count` digits next to a positive quotient, given where its point stands, the
nearer one first. -/
def neighbours (num den : Nat) (point : Int) (count : Nat) : List (Nat × Int) :=
  let exponent := point - count
  let (n, d) :=
    if 0 ≤ exponent then (num, den * pow10 exponent.toNat) else (num * pow10 exponent.natAbs, den)
  let below := n / d
  let nearest := roundDiv n d
  let other := if nearest = below then below + 1 else below
  [(nearest, exponent), (other, exponent)]

/-- The digits and the power of ten of the shortest decimal that is rounded back to a positive number;
of several, the nearest. -/
def shortest (significand : Nat) (power : Int) : Nat × Int :=
  let (num, den) := quotient significand power
  let point := decimalPoint num den
  let candidates := (List.range 17).flatMap fun k => neighbours num den point (k + 1)
  (candidates.find? fun c => ofScientific false c.1 c.2 = .finite false significand power).getD (0, 0)

/-- The shortest text: positional between `0.0001` and `10 ^ 16`, always with a fraction there, and
otherwise one digit before the point and the power of ten in at least two digits. -/
def text : Binary64 → String
  | .nan => "nan"
  | .infinite negative => if negative then "-inf" else "inf"
  | .finite negative significand power =>
    let sign := if negative then ['-'] else []
    if significand = 0 then String.ofList (sign ++ ['0', '.', '0'])
    else
      let (coefficient, exponent) := shortest significand power
      let all := natDigits coefficient
      let digits := (all.reverse.dropWhile (· == '0')).reverse
      let point : Int := exponent + all.length
      if -4 < point ∧ point ≤ 16 then
        if point ≤ 0 then
          String.ofList (sign ++ '0' :: '.' :: (List.replicate point.natAbs '0' ++ digits))
        else if digits.length ≤ point.toNat then
          String.ofList
            (sign ++ digits ++ List.replicate (point.toNat - digits.length) '0' ++ ['.', '0'])
        else String.ofList (sign ++ digits.take point.toNat ++ '.' :: digits.drop point.toNat)
      else
        let fraction := match digits.drop 1 with
          | [] => []
          | ds => '.' :: ds
        let p := point - 1
        String.ofList (sign ++ digits.take 1 ++ fraction ++ 'e' :: (if p < 0 then '-' else '+')
          :: paddedDigits 2 p.natAbs)

/-- The number nearest to `num / den`. -/
def ofRatio (num : Int) (den : Nat) : Binary64 := ofQuotient (num < 0) num.natAbs den

/-- The number nearest to a whole number. -/
def ofInt (n : Int) : Binary64 := ofRatio n 1

/-- The exact value of a finite number as a quotient. -/
def ratio? : Binary64 → Option (Int × Nat)
  | .finite negative significand power =>
    let (num, den) := quotient significand power
    some (if negative then -(num : Int) else num, den)
  | _ => none

/-- The number as an exact whole number, when it is one. -/
def toInt? (x : Binary64) : Option Int :=
  match x.ratio? with
  | some (num, den) => if num % den = 0 then some (num / den) else none
  | none => none

def isBelowZero : Binary64 → Bool
  | .nan => false
  | .infinite negative => negative
  | .finite negative significand _ => negative && significand ≠ 0

/-- The number nearest to a sum. -/
def add (x y : Binary64) : Binary64 :=
  match x.ratio?, y.ratio? with
  | some (a, b), some (c, d) => ofRatio (a * d + c * b) (b * d)
  | some _, none => y
  | none, some _ => x
  | none, none => if x = y then x else .nan

example : (ofScientific false 1 (-1)).text = "0.1" := by decide +kernel
example : (ofScientific false 505 (-1)).text = "50.5" := by decide +kernel
example : (ofScientific true 5 (-324)).text = "-5e-324" := by decide +kernel
example : (ofScientific false 1 23).text = "1e+23" := by decide +kernel
example : ((ofScientific false 1 (-1)).add (ofScientific false 2 (-1))).text
    = "0.30000000000000004" := by decide +kernel
example : ((ofInt (-wordBound)).add (ofInt 5)).text = "-9.223372036854776e+18" := by decide +kernel

end Binary64

end ShopTabs
