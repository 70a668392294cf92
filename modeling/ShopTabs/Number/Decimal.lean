import ShopTabs.Number.Rounding
import ShopTabs.Text.Blank
import ShopTabs.Text.Digit
/-!
Decimal numbers as they are written: a coefficient and a power of ten, so that `5`, `5.0` and `0.5E+1`
are three different numbers of one value.  A decimal keeps its trailing zeros when it is read and
printed; `Decimal.text` is its canonical form.
-/

namespace ShopTabs

open Text

/-- The number `± coefficient · 10 ^ exponent`. -/
structure Decimal where
  negative : Bool
  coefficient : Nat
  exponent : Int
deriving DecidableEq, Repr

namespace Decimal

/-- The number of decimal digits of a coefficient; zero has one. -/
def digitCount (n : Nat) : Nat := (natDigits n).length

/-- What a text says as a decimal number. -/
inductive Reading where
  | number (d : Decimal)
  /-- An infinity or a not-a-number. -/
  | notFinite
  | malformed
deriving DecidableEq, Repr

/-- The largest power of ten that a decimal's first digit may stand for. -/
def largestPower : Int := 999999999999999999

/-- The smallest power of ten that a decimal's last digit may stand for. -/
def smallestPower : Int := -1999999999999999997

/-- A decimal whose digits all stand for powers of ten in the permitted range. -/
def inRange (d : Decimal) : Bool :=
  d.exponent + digitCount d.coefficient - 1 ≤ largestPower && smallestPower ≤ d.exponent

/-- The power of ten written behind an exponent letter. -/
def readPower : List Char → Option Int
  | '+' :: ds => if ds ≠ [] && ds.all isAsciiDigit then some (digitsToNat ds) else none
  | '-' :: ds => if ds ≠ [] && ds.all isAsciiDigit then some (-(digitsToNat ds : Int)) else none
  | ds => if ds ≠ [] && ds.all isAsciiDigit then some (digitsToNat ds) else none

/-- What follows the digits: nothing, or an exponent letter and a power. -/
def readExponent : List Char → Option Int
  | [] => some 0
  | c :: rest => if c = 'e' ∨ c = 'E' then readPower rest else none

/-- Digits with at most one point among them, at least one digit, and an optional exponent. -/
def readUnsigned (negative : Bool) (cs : List Char) : Reading :=
  let whole := cs.takeWhile isAsciiDigit
  let rest := cs.dropWhile isAsciiDigit
  let (fraction, rest) := match rest with
    | '.' :: r => (r.takeWhile isAsciiDigit, r.dropWhile isAsciiDigit)
    | r => ([], r)
  if whole.isEmpty && fraction.isEmpty then .malformed
  else match readExponent rest with
    | none => .malformed
    | some power =>
      let d : Decimal := ⟨negative, digitsToNat (whole ++ fraction), power - fraction.length⟩
      if d.inRange then .number d else .malformed

/-- The spellings of an infinity and of a not-a-number, in lower case; the latter may carry digits. -/
def spellsNotFinite (cs : List Char) : Bool :=
  cs == "inf".toList || cs == "infinity".toList
    || (cs.take 3 == "nan".toList && (cs.drop 3).all isAsciiDigit)
    || (cs.take 4 == "snan".toList && (cs.drop 4).all isAsciiDigit)

/-- A text with digits of any script written in ASCII and without underscores and blanks at its ends. -/
def plainText (cs : List Char) : List Char :=
  ((trim isBlank cs).filter (· ≠ '_')).map fun c =>
    match digitValue? c with
    | some v => Char.ofNat (0x30 + v)
    | none => c

/-- Reads an optional sign and a number. -/
def read (cs : List Char) : Reading :=
  let (negative, body) := match plainText cs with
    | '-' :: r => (true, r)
    | '+' :: r => (false, r)
    | r => (false, r)
  if spellsNotFinite (body.map Char.toLower) then .notFinite
  else readUnsigned negative body

/-- A whole number as a decimal. -/
def ofInt (n : Int) : Decimal := ⟨n < 0, n.natAbs, 0⟩

/-- The canonical text.  A point is set when no power stands behind the digits and at most five zeros
come between the point and the first digit; otherwise one digit stands before the point and the power
of ten follows as `E±n`. -/
def text (d : Decimal) : String :=
  let digits := natDigits d.coefficient
  let left : Int := d.exponent + digits.length
  let point : Int := if d.exponent ≤ 0 ∧ -6 < left then left else 1
  let mantissa :=
    if point ≤ 0 then '0' :: '.' :: (List.replicate (-point).toNat '0' ++ digits)
    else if digits.length ≤ point.toNat then
      digits ++ List.replicate (point.toNat - digits.length) '0'
    else digits.take point.toNat ++ '.' :: digits.drop point.toNat
  let power := left - point
  let tail :=
    if power = 0 then []
    else if power < 0 then 'E' :: '-' :: natDigits power.natAbs
    else 'E' :: '+' :: natDigits power.natAbs
  String.ofList ((if d.negative then ['-'] else []) ++ mantissa ++ tail)

/-- How many digits a number has in all, and how many of them stand behind the point. -/
structure Extent where
  digits : Nat
  places : Nat
deriving DecidableEq, Repr

/-- A positive power counts as that many digits; places beyond the coefficient count as digits too. -/
def extent (d : Decimal) : Extent :=
  if 0 ≤ d.exponent then ⟨digitCount d.coefficient + d.exponent.toNat, 0⟩
  else ⟨max (digitCount d.coefficient) d.exponent.natAbs, d.exponent.natAbs⟩

/-- Digits before the point. -/
def Extent.whole (e : Extent) : Nat := e.digits - e.places

/-- The number without trailing zeros. -/
def trimmed (d : Decimal) : Decimal :=
  if d.coefficient = 0 then ⟨d.negative, 0, 0⟩
  else
    let zeros := ((natDigits d.coefficient).reverse.takeWhile (· == '0')).length
    ⟨d.negative, d.coefficient / pow10 zeros, d.exponent + zeros⟩

/-! ### Short forms

The bounds of an amount are passed in its short form as well.  That form has no trailing zeros; whether it
has all other digits depends on how the reader of forms finds it.  Decimal arithmetic keeps 28 digits, and
nothing below a smallest power of ten. -/

/-- How the short form of a number is found. -/
inductive Shortening where
  /-- All digits stay. -/
  | exact
  /-- The number is rounded as a result of decimal arithmetic is. -/
  | rounded
deriving DecidableEq, Repr

/-- The most digits of a number in decimal arithmetic. -/
def precision : Nat := 28

/-- The largest power of ten that the first digit stands for in decimal arithmetic. -/
def highestPlace : Int := 999999

/-- The smallest power of ten that the last digit stands for in decimal arithmetic. -/
def lowestPlace : Int := -1000026

/-- The power of ten that the first digit stands for. -/
def firstPlace (d : Decimal) : Int := d.exponent + digitCount d.coefficient - 1

/-- The power of ten that the last digit stands for once the number is rounded. -/
def lastPlace (d : Decimal) : Int := max d.exponent (max (d.firstPlace + 1 - precision) lowestPlace)

/-- A whole number without its last digits, rounded half to even; nothing is left when there are more to
drop than it has. -/
def dropDigits (n count : Nat) : Nat := if digitCount n < count then 0 else roundDiv n (pow10 count)

/-- The number in decimal arithmetic, if it is not beyond its largest numbers. -/
def rounded? (d : Decimal) : Option Decimal :=
  let place := d.lastPlace
  let r : Decimal := ⟨d.negative, dropDigits d.coefficient (place - d.exponent).toNat, place⟩
  if r.coefficient = 0 ∨ r.firstPlace ≤ highestPlace then some r else none

/-- The short form of a number; one beyond decimal arithmetic stays as it is written. -/
def shortForm (how : Shortening) (d : Decimal) : Decimal :=
  match how with
  | .exact => d.trimmed
  | .rounded => (d.rounded?.map trimmed).getD d

/-- The number of cents, without its sign, where it is whole and its power of ten is small. -/
def cents? (d : Decimal) : Option Nat :=
  let n := d.trimmed
  if n.coefficient = 0 then some 0
  else if -2 ≤ n.exponent ∧ n.exponent ≤ 15 then
    some (n.coefficient * pow10 (n.exponent + 2).toNat)
  else none

/-- The number is below zero; a negative zero is not. -/
def isBelowZero (d : Decimal) : Bool := d.negative && d.coefficient ≠ 0

example : read " 007.50 ".toList = .number ⟨false, 750, -2⟩ := by decide
example : (match read "1e1".toList with | .number d => d.text | _ => "") = "1E+1" := by decide
example : read "-Infinity".toList = .notFinite := by decide
example : (⟨false, 5, -3⟩ : Decimal).text = "0.005" := by decide
example : (⟨false, 7000, -3⟩ : Decimal).trimmed = ⟨false, 7, 0⟩ := by decide
example : (⟨false, 20 * pow10 30 + 1, -30⟩ : Decimal).shortForm .rounded = ⟨false, 2, 1⟩ := by decide
example : (⟨false, pow10 29 - 1, -29⟩ : Decimal).shortForm .rounded = ⟨false, 1, 0⟩ := by decide
example : (⟨true, 7000, -3⟩ : Decimal).cents? = some 700 := by decide
example : (⟨false, 7001, -3⟩ : Decimal).cents? = none := by decide

end Decimal

end ShopTabs
