import ShopTabs.Calendar.Instant
import ShopTabs.Number.Binary64
import ShopTabs.Number.Decimal
/-!
Reading dates, times and timestamps from text and from numbers of seconds.  Text is read from left to
right at fixed positions, and the first thing that does not fit is the fault that is reported; a text
that is too short for its format is refused before its characters are looked at.
-/

namespace ShopTabs.Calendar

open Text

/-- What does not fit in a date, a time or a timestamp. -/
inductive Fault where
  | tooShort
  | extraCharacters
  | dateTimeSeparator
  | dateSeparator
  | timeSeparator
  | yearCharacter
  | monthCharacter
  | dayCharacter
  | hourCharacter
  | minuteCharacter
  | secondCharacter
  | zoneSign
  | zoneHour
  | zoneMinute
  | zoneMinuteRange
  | zoneRange
  | monthRange
  | dayRange
  | hourRange
  | minuteRange
  | secondRange
  | fractionMissing
  | timeNegative
  | timeTooLarge
  | dayTooEarly
  | dayTooLate
  | notANumber
deriving DecidableEq, Repr

def Fault.message : Fault → String
  | tooShort => "input is too short"
  | extraCharacters => "unexpected extra characters at the end of the input"
  | dateTimeSeparator => "invalid datetime separator, expected `T`, `t`, `_` or space"
  | dateSeparator => "invalid date separator, expected `-`"
  | timeSeparator => "invalid time separator, expected `:`"
  | yearCharacter => "invalid character in year"
  | monthCharacter => "invalid character in month"
  | dayCharacter => "invalid character in day"
  | hourCharacter => "invalid character in hour"
  | minuteCharacter => "invalid character in minute"
  | secondCharacter => "invalid character in second"
  | zoneSign => "invalid timezone sign"
  | zoneHour => "invalid timezone hour"
  | zoneMinute => "invalid timezone minute"
  | zoneMinuteRange => "timezone minute value is outside expected range of 0-59"
  | zoneRange => "timezone offset must be less than 24 hours"
  | monthRange => "month value is outside expected range of 1-12"
  | dayRange => "day value is outside expected range"
  | hourRange => "hour value is outside expected range of 0-23"
  | minuteRange => "minute value is outside expected range of 0-59"
  | secondRange => "second value is outside expected range of 0-59"
  | fractionMissing => "second fraction digits missing after `.`"
  | timeNegative => "time in seconds should be positive"
  | timeTooLarge => "numeric times may not exceed 86,399 seconds"
  | dayTooEarly => "dates before 0000 are not supported as unix timestamps"
  | dayTooLate => "dates after 9999 are not supported as unix timestamps"
  | notANumber => "NaN values not permitted"

/-- The bytes that a text takes in UTF-8. -/
def byteLength (cs : List Char) : Nat := cs.foldl (fun n c => n + c.utf8Size) 0

/-- Reads exactly so many digits onto a number. -/
def readDigits (fault : Fault) : Nat → Nat → List Char → Except Fault (Nat × List Char)
  | 0, n, cs => .ok (n, cs)
  | count + 1, n, c :: cs =>
    if isAsciiDigit c then readDigits fault count (10 * n + (c.toNat - 0x30)) cs else .error fault
  | _ + 1, _, [] => .error fault

/-- Reads one given character. -/
def readMark (fault : Fault) (mark : Char) : List Char → Except Fault (List Char)
  | c :: cs => if c = mark then .ok cs else .error fault
  | [] => .error fault

/-- Fails with a fault unless a condition holds. -/
def require (condition : Bool) (fault : Fault) : Except Fault Unit :=
  if condition then .ok () else .error fault

/-- Reads `YYYY-MM-DD` in front of a text; the year 0 is read too. -/
def readDate (cs : List Char) : Except Fault (Civil × List Char) := do
  require (10 ≤ byteLength cs) .tooShort
  let (year, cs) ← readDigits .yearCharacter 4 0 cs
  let cs ← readMark .dateSeparator '-' cs
  let (month, cs) ← readDigits .monthCharacter 2 0 cs
  let cs ← readMark .dateSeparator '-' cs
  let (day, cs) ← readDigits .dayCharacter 2 0 cs
  require (1 ≤ month && month ≤ 12) .monthRange
  require (1 ≤ day && day ≤ Civil.monthLength year month) .dayRange
  return (⟨year, month, day⟩, cs)

/-- The microseconds that the digits behind a second's point write; digits beyond the sixth are cut. -/
def fractionMicros (ds : List Char) : Nat :=
  let kept := ds.take 6
  digitsToNat kept * pow10 (6 - kept.length)

/-- Reads seconds and their fraction where they follow. -/
def readSeconds (cs : List Char) : Except Fault (Nat × List Char) :=
  match cs with
  | ':' :: rest => do
    let (second, rest) ← readDigits .secondCharacter 2 0 rest
    require (second ≤ 59) .secondRange
    match rest with
    | c :: digits =>
      if c = '.' ∨ c = ',' then
        let ds := digits.takeWhile isAsciiDigit
        require (!ds.isEmpty) .fractionMissing
        return (second * 1000000 + fractionMicros ds, digits.dropWhile isAsciiDigit)
      else return (second * 1000000, rest)
    | [] => return (second * 1000000, [])
  | _ => .ok (0, cs)

/-- Reads hours and minutes of an offset behind its sign; a colon may stand between them. -/
def readOffset (sign : Int) (cs : List Char) : Except Fault (Int × List Char) := do
  let (hour, cs) ← readDigits .zoneHour 2 0 cs
  let digits := match cs with
    | ':' :: rest => rest
    | rest => rest
  let (minute, rest) ← readDigits .zoneMinute 2 0 digits
  require (minute ≤ 59) .zoneMinuteRange
  require (hour ≤ 23) .zoneRange
  return (sign * ((hour * 3600 + minute * 60 : Nat) : Int), rest)

/-- Reads what may stand behind a time: an offset, or `Z` for none, up to the end of the text. -/
def readZone (cs : List Char) : Except Fault (Option Int) :=
  match cs with
  | [] => .ok none
  | c :: rest => do
    let (offset, rest) ←
      if c = 'Z' ∨ c = 'z' then pure (0, rest)
      else if c = '+' then readOffset 1 rest
      else if c = '-' ∨ c = '\u2212' then readOffset (-1) rest
      else throw .zoneSign
    require rest.isEmpty .extraCharacters
    return some offset

/-- The microseconds since midnight and the offset of a text `HH:MM[:SS[.f]]` with an optional offset. -/
def readTime (cs : List Char) : Except Fault (Nat × Option Int) := do
  require (5 ≤ byteLength cs) .tooShort
  let (hour, cs) ← readDigits .hourCharacter 2 0 cs
  let cs ← readMark .timeSeparator ':' cs
  let (minute, cs) ← readDigits .minuteCharacter 2 0 cs
  require (hour ≤ 23) .hourRange
  require (minute ≤ 59) .minuteRange
  let (micros, cs) ← readSeconds cs
  let offset ← readZone cs
  return ((hour * 3600 + minute * 60) * 1000000 + micros, offset)

/-- A date and a time with `T`, `_` or a blank between them. -/
structure Timestamp where
  date : Civil
  micros : Nat
  offset : Option Int
deriving DecidableEq, Repr

/-- Reads a date, a separator and a time. -/
def readTimestamp (cs : List Char) : Except Fault Timestamp := do
  let (date, cs) ← readDate cs
  match cs with
  | c :: rest =>
    require (c = 'T' || c = 't' || c = ' ' || c = '_') .dateTimeSeparator
    let (micros, offset) ← readTime rest
    return ⟨date, micros, offset⟩
  | [] => throw .dateTimeSeparator

/-- The day on which counts of seconds begin. -/
def epochDay : Int := 719163

/-- The largest count that is taken as seconds; beyond it counts are milliseconds. -/
def secondsLimit : Int := 20000000000

/-- The triple that a number of a day stands for, also in the year 0. -/
def civilOfNumber? (n : Int) : Option Civil :=
  match Day.ofNumber? n with
  | some d => some d.civil
  | none => (Day.ofNumber? (n + 146097)).map fun d => { d.civil with year := d.civil.year - 400 }

/-- The timestamp so many seconds and microseconds after the beginning of 1970. -/
def ofSecondsMicros (seconds : Int) (micros : Nat) : Except Fault Timestamp := do
  let seconds := seconds + micros / 1000000
  require (-62167219200 ≤ seconds) .dayTooEarly
  require (seconds ≤ 253402300799) .dayTooLate
  match civilOfNumber? (seconds / 86400 + epochDay) with
  | some c => return ⟨c, (seconds % 86400).toNat * 1000000 + micros % 1000000, none⟩
  | none => throw .dayTooEarly

/-- The timestamp of a count of seconds since 1970; large counts are milliseconds. -/
def ofSeconds (count : Int) : Except Fault Timestamp :=
  if -secondsLimit ≤ count ∧ count ≤ secondsLimit then ofSecondsMicros count 0
  else ofSecondsMicros (count / 1000) ((count % 1000).toNat * 1000)

/-- The microseconds nearest to a part of a second, as the arithmetic of binary numbers has them. -/
def microsOfPart (num den : Nat) : Nat :=
  let part := Binary64.ofQuotient false num den
  let scaled := part.ratio?.map fun (a, b) => Binary64.ofRatio (1000000 * a) b
  match scaled.bind Binary64.ratio? with
  | some (a, b) => roundHalfUp a.toNat b
  | none => 0

/-- The whole seconds of a binary number of seconds, rounded down, and the microseconds of the rest,
which may be a full second. -/
def splitSeconds (x : Binary64) : Except Fault (Int × Nat) :=
  match x, x.ratio? with
  | .infinite negative, _ => .ok (if negative then -wordBound else wordBound - 1, 0)
  | _, some (num, den) => .ok (num / den, microsOfPart (num % den).toNat den)
  | _, none => .error .notANumber

/-- A binary number of milliseconds in seconds. -/
def inSeconds (x : Binary64) : Binary64 :=
  match x.ratio? with
  | some (num, den) =>
    if num.natAbs ≤ secondsLimit.toNat * den then x else Binary64.ofRatio num (1000 * den)
  | none => x

/-- The timestamp of a binary number of seconds since 1970; large numbers count milliseconds. -/
def ofRealSeconds (x : Binary64) : Except Fault Timestamp := do
  let (seconds, micros) ← splitSeconds (inSeconds x)
  ofSecondsMicros seconds micros

/-- A count of seconds as a text writes it. -/
inductive Count where
  | whole (n : Int)
  | real (x : Binary64)
deriving DecidableEq, Repr

/-- A count of seconds: digits with a sign, if any, that write a number of 64 bits, or a number with a
point among its digits and perhaps a power of ten behind them. -/
def readCount (cs : List Char) : Option Count :=
  let (negative, body) := match cs with
    | '-' :: r => (true, r)
    | '+' :: r => (false, r)
    | r => (false, r)
  let whole := body.takeWhile isAsciiDigit
  match body.dropWhile isAsciiDigit with
  | [] =>
    let size : Int := digitsToNat whole
    let n := if negative then -size else size
    if whole.isEmpty || !isWord n then none else some (.whole n)
  | '.' :: rest =>
    let fraction := rest.takeWhile isAsciiDigit
    if whole.isEmpty && fraction.isEmpty then none
    else (Decimal.readExponent (rest.dropWhile isAsciiDigit)).map fun power =>
      .real (.ofScientific negative (digitsToNat (whole ++ fraction)) (power - fraction.length))
  | _ => none

/-- The moment that a timestamp names; its offset counts, and without one it is universal time. -/
def Timestamp.instant? (t : Timestamp) : Option Instant :=
  (Day.ofCivil? t.date).map fun d => .ofDayTime d ((t.micros : Int) - t.offset.getD 0 * 1000000)

/-- The moment that a text names as a timestamp. -/
def readInstant? (text : String) : Option Instant :=
  match readTimestamp text.toList with
  | .ok t => t.instant?
  | .error _ => none

/-- The day that a text names as `YYYY-MM-DD`. -/
def readDay? (text : String) : Option Day :=
  match readDate text.toList with
  | .ok (c, []) => Day.ofCivil? c
  | _ => none

example : (readTime "08:00:00.1234567+05:30".toList).toOption = some (28800123456, some 19800) := by
  decide
example : (readTime "8:00".toList).toOption = none := by decide
example : (readDate "2026/01/05".toList).toOption = none := by decide

end ShopTabs.Calendar
