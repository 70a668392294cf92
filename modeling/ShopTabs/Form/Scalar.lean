import ShopTabs.Form.Finding
import ShopTabs.Number.Decimal
import ShopTabs.Text.LowerCase
/-!
Readers of simple values.  A value is taken in any form that stands for one of its kind without loss:
a whole number may be written as text or with an empty fraction, a day as a timestamp at midnight.
-/

namespace ShopTabs.Form

open Text

/-! ### Text -/

def readText : Json → Except Problem String
  | .str s => .ok s
  | .garbled => .error .garbledText
  | _ => .error .notText

/-- A text's number of characters is within bounds. -/
def lengthProblem? (least most : Nat) (s : String) : Option Problem :=
  if s.length < least then some (.shortText least)
  else if most < s.length then some (.longText most)
  else none

/-- Reads a text with bounds on its number of characters. -/
def text (least most : Nat) : Reader String := fun input =>
  (scalar readText input).test input (lengthProblem? least most)

/-! ### Email addresses -/

/-- The most characters of an email address. -/
def emailLimit : Nat := 320

/-- A text in front of the first `@` and the text behind it. -/
def splitAt (cs : List Char) : List Char × List Char :=
  (cs.takeWhile (· ≠ '@'), cs.dropWhile (· ≠ '@') |>.drop 1)

/-- A point stands somewhere between the first and the last character. -/
def hasInnerPoint (cs : List Char) : Bool := (cs.drop 1).dropLast.contains '.'

/-- A text without white space that has one `@`, something before it, and behind it a point with
something on both sides. -/
def isEmail (cs : List Char) : Bool :=
  let (user, host) := splitAt cs
  cs.all (fun c => !isWhiteSpace c) && cs.count '@' == 1 && !user.isEmpty && hasInnerPoint host

/-- An email address in its normal form: trimmed, then tested for length and shape, then in lower
case. -/
def normalizeEmail (s : String) : Except Problem String :=
  let cs := trim isWhiteSpace s.toList
  if emailLimit < cs.length then .error (.longText emailLimit)
  else if !isEmail cs then .error .notEmail
  else .ok (String.ofList (lower cs))

/-- Reads an email address into its normal form. -/
def email : Reader String := scalar fun input => do normalizeEmail (← readText input)

/-! ### Whole numbers -/

/-- A text of digits without a leading zero, or a lone zero, behind an optional minus sign. -/
def plainInteger (cs : List Char) : Option Int :=
  let (negative, ds) := match cs with
    | '-' :: r => (true, r)
    | r => (false, r)
  let n : Int := digitsToNat ds
  if ds.isEmpty || !ds.all isAsciiDigit then none
  else if ds.head? = some '0' && 1 < ds.length then none
  else some (if negative then -n else n)

/-- Behind a leading zero: the text from the first digit that counts, or from a minus sign; a zero stays
in front of a point or of nothing. -/
def dropZeros (last : Char) : List Char → Option (List Char)
  | [] => some [last]
  | c :: rest =>
    if c = '0' ∨ c = '_' then dropZeros c rest
    else if isAsciiDigit c ∨ c = '-' then some (c :: rest)
    else if c = '.' then some (last :: c :: rest)
    else none

/-- A text without its leading zeros; it has to begin with a digit. -/
def withoutLeadingZeros : List Char → Option (List Char)
  | [] => none
  | c :: rest =>
    if c = '0' then dropZeros c rest
    else if isAsciiDigit c then some (c :: rest)
    else none

/-- A text without a point and zeros at its end. -/
def withoutEmptyFraction (cs : List Char) : List Char :=
  match cs.dropWhile (· ≠ '.') with
  | _ :: zeros => if zeros ≠ [] ∧ zeros.all (· = '0') then cs.takeWhile (· ≠ '.') else cs
  | [] => cs

/-- Two underscores stand side by side. -/
def doubledUnderscore : List Char → Bool
  | '_' :: '_' :: _ => true
  | _ :: rest => doubledUnderscore rest
  | [] => false

/-- A text without the single underscores inside it. -/
def withoutUnderscores (cs : List Char) : List Char :=
  if cs.head? = some '_' ∨ cs.getLast? = some '_' ∨ doubledUnderscore cs then cs
  else cs.filter (· ≠ '_')

/-- The plain form of a text that may have a plus sign, leading zeros, underscores between digits and an
empty fraction.  A minus sign stands in front of the zeros or behind them. -/
def cleanedInteger (cs : List Char) : Option (List Char) :=
  let cleaned := fun body =>
    (withoutLeadingZeros body).map fun counting => withoutUnderscores (withoutEmptyFraction counting)
  match cs with
  | '-' :: body => (cleaned body).map ('-' :: ·)
  | '+' :: body => cleaned body
  | body => cleaned body

/-- The most digits of a whole number written as text. -/
def integerDigitLimit : Nat := 4300

/-- A text begins, behind an optional minus sign, with more digits than a whole number may have; leading
zeros are none of them. -/
def isOversized (cs : List Char) : Bool :=
  let body := match cs with
    | '-' :: r => r
    | r => r
  body.head? ≠ some '0' && integerDigitLimit < (body.takeWhile isAsciiDigit).length

/-- The whole number that a text writes: in plain form as the text stands, or in a form that can be
cleaned.  Only in the former too many digits are a fault of their own. -/
def integerOfText (s : String) : Except Problem Int :=
  let cs := s.toList
  if isOversized cs then .error .integerSize
  else match plainInteger cs with
    | some n => .ok n
    | none => match cleanedInteger (trim isWhiteSpace cs) with
      | none => .error .integerText
      | some plain =>
        if isOversized plain then .error .integerText
        else match plainInteger plain with
          | some n => .ok n
          | none => .error .integerText

/-- The whole number that a binary number is; one of 64 bits or more is refused. -/
def integerOfReal (x : Binary64) : Except Problem Int :=
  match x with
  | .nan | .infinite _ => .error .notFinite
  | .finite .. => match x.toInt? with
    | none => .error .fractionalInteger
    | some n => if -wordBound < n ∧ n < wordBound then .ok n else .error .integerSize

/-- The whole number that a value stands for; truth values count as 1 and 0. -/
def readInteger : Json → Except Problem Int
  | .int n => .ok n
  | .bool b => .ok (if b then 1 else 0)
  | .real x => integerOfReal x
  | .str s => integerOfText s
  | .garbled => .error .garbledText
  | _ => .error .notInteger

def integer : Reader Int := scalar readInteger

/-- Reads a whole number with bounds on both sides. -/
def integerBetween (least most : Int) : Reader Int := fun input =>
  (integer input).test input fun n =>
    if most < n then some (.above most) else if n < least then some (.below least) else none

/-- Reads a whole number above zero with an upper bound. -/
def positiveUpTo (most : Int) : Reader Int := fun input =>
  (integer input).test input fun n =>
    if most < n then some (.above most) else if n ≤ 0 then some (.notAbove 0) else none

/-- Reads a whole number above zero. -/
def positive : Reader Int := fun input =>
  (integer input).test input fun n => if n ≤ 0 then some (.notAbove 0) else none

/-- Reads a whole number that is not below zero. -/
def nonNegative : Reader Int := fun input =>
  (integer input).test input fun n => if n < 0 then some (.below 0) else none

/-! ### Truth values -/

/-- The truth value that a word stands for, in any case. -/
def readFlag (s : String) : Except Problem Bool :=
  let word := String.ofList (s.toList.map Char.toLower)
  if ["1", "t", "true", "y", "yes", "on"].contains word then .ok true
  else if ["0", "f", "false", "n", "no", "off"].contains word then .ok false
  else .error .notBoolean

/-! ### Names -/

/-- Reads exactly one of the given names. -/
def oneOf {α : Type} (all : List α) (name : α → String) : Reader α := scalar fun input =>
  let refusal := .error (.notOneOf (all.map name))
  match input with
  | .str s => match all.find? fun a => name a = s with
    | some a => .ok a
    | none => refusal
  | _ => refusal

/-! ### Amounts -/

/-- The most digits of an amount, and how many of them stand behind the point. -/
def amountDigits : Nat := 10

/-- The most places of an amount. -/
def amountPlaces : Nat := 2

/-- The decimal that a value stands for. -/
def readDecimal : Json → Except Problem Decimal
  | .int n => .ok (.ofInt n)
  | .real x => ofText x.text
  | .str s => ofText s
  | .garbled => .error .decimalText
  | _ => .error .notDecimal
where
  /-- The decimal that a text writes. -/
  ofText (s : String) : Except Problem Decimal :=
    match Decimal.read s.toList with
    | .number d => .ok d
    | .notFinite => .error .notFinite
    | .malformed => .error .decimalText

/-- A bound on digits is passed both as the number is written and in its short form. -/
def exceeds (how : Decimal.Shortening) (d : Decimal) (count : Decimal.Extent → Nat) (most : Nat) :
    Bool :=
  most < count d.extent && most < count (d.shortForm how).extent

/-- The first thing that keeps a decimal from being an amount: digits in all, places, digits before the
point, sign. -/
def amountProblem? (how : Decimal.Shortening) (d : Decimal) : Option Problem :=
  if exceeds how d (·.digits) amountDigits then some (.totalDigits amountDigits)
  else if exceeds how d (·.places) amountPlaces then some (.decimalPlaces amountPlaces)
  else if exceeds how d (·.whole) (amountDigits - amountPlaces) then
    some (.wholeDigits (amountDigits - amountPlaces))
  else if d.isBelowZero then some (.below 0)
  else none

/-- Reads an amount of money that is not below zero. -/
def amount (how : Decimal.Shortening) : Reader Decimal := fun input =>
  (scalar readDecimal input).test input (amountProblem? how)

/-! ### Days and times -/

/-- The day of a timestamp at midnight. -/
def dayOfTimestamp (t : Calendar.Timestamp) : Except Problem Day :=
  if t.micros ≠ 0 then .error .dateWithTime
  else match Day.ofCivil? t.date with
    | some d => .ok d
    | none => .error .yearZero

/-- The day of a timestamp that was read. -/
def dayOfReading (reading : Except Calendar.Fault Calendar.Timestamp) : Except Problem Day :=
  match reading with
  | .ok t => dayOfTimestamp t
  | .error fault => .error (.dateText fault)

/-- The day that a text names: as a date, as a timestamp, or as a count of seconds. -/
def dayOfText (s : String) : Except Problem Day :=
  let cs := s.toList
  match Calendar.readDate cs with
  | .ok (date, []) => dayOfTimestamp ⟨date, 0, none⟩
  | _ => match Calendar.readTimestamp cs with
    | .ok t => dayOfTimestamp t
    | .error fault => match Calendar.readCount cs with
      | some (.whole n) => dayOfReading (Calendar.ofSeconds n)
      | some (.real x) => dayOfReading (Calendar.ofRealSeconds x)
      | none => .error (.dateText fault)

/-- The day that a value stands for.  A whole number beyond 64 bits counts as the nearest binary number,
if there is one. -/
def readDay : Json → Except Problem Day
  | .str s => dayOfText s
  | .int n =>
    if isWord n then dayOfReading (Calendar.ofSeconds n)
    else match Binary64.ofInt n with
      | .infinite _ => .error .notDate
      | x => dayOfReading (Calendar.ofRealSeconds x)
  | .real x => dayOfReading (Calendar.ofRealSeconds x)
  | .garbled => .error .garbledText
  | _ => .error .notDate

def day : Reader Day := scalar readDay

/-- The time that stands so many seconds and microseconds after midnight of universal time. -/
def timeOfSeconds (count : Int) (micros : Nat) : Except Problem OffsetTime :=
  if count < 0 then .error (.timeText .timeNegative)
  else match TimeOfDay.ofMicros? (count.toNat * 1000000 + micros) with
    | some t => .ok ⟨t, some 0⟩
    | none => .error (.timeText .timeTooLarge)

/-- The time that a value stands for; a number counts seconds of universal time. -/
def readTime : Json → Except Problem OffsetTime
  | .str s => match Calendar.readTime s.toList with
    | .ok (micros, offset) => match TimeOfDay.ofMicros? micros with
      | some t => .ok ⟨t, offset⟩
      | none => .error (.timeText .timeTooLarge)
    | .error fault => .error (.timeText fault)
  | .int n => match Binary64.ofInt n with
    | .infinite _ => .error .notTime
    | _ => timeOfSeconds n 0
  | .real x => match Calendar.splitSeconds x with
    | .ok (count, micros) => timeOfSeconds count micros
    | .error fault => .error (.timeText fault)
  | .garbled => .error .garbledText
  | _ => .error .notTime

/-- Reads a time of the day. -/
def time : Reader OffsetTime := scalar readTime

example : (integerOfText " 7.0 ").toOption = some 7 := by decide
example : (integerOfText "-007").toOption = some (-7) := by decide
example : (integerOfText "0_0-_7").toOption = some (-7) := by decide
example : (integerOfText "-_7").toOption = none := by decide
example : (normalizeEmail " A@B.Cc ").toOption = some "a@b.cc" := by decide +kernel
example : isEmail "a@..b".toList = true ∧ isEmail ".@..".toList = false := by decide

end ShopTabs.Form
