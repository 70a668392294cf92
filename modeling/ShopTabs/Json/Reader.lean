import ShopTabs.Json.Value
/-!
Reading JSON text.  Beyond the standard grammar the reader takes `NaN`, `Infinity` and `-Infinity`; of
fields with one name the last one counts.  A whole number of more than 4300 digits, and values that
stand too deep within each other, are refused on grounds of their own.
-/

namespace ShopTabs.Json

open Text

/-- Why a text cannot be read. -/
inductive Fault where
  | malformed
  /-- A whole number has more digits than can be read. -/
  | oversized
  /-- Arrays and objects stand deeper within each other than can be read. -/
  | nested
  /-- The bytes are those of no text. -/
  | undecodable
deriving DecidableEq, Repr

/-- The most digits that a whole number may have. -/
def digitLimit : Nat := 4300

/-- The most arrays and objects that may stand within each other. -/
def nestingLimit : Nat := 960

/-- A text without the blanks that JSON allows in front of it. -/
def skipBlanks (cs : List Char) : List Char :=
  cs.dropWhile fun c => c = ' ' ∨ c = '\t' ∨ c = '\n' ∨ c = '\r'

/-- A string literal read so far: its characters in reverse, a first half of a surrogate pair that
waits for the second, and whether a half was left alone. -/
structure Literal where
  chars : List Char
  half : Option Nat
  garbled : Bool

namespace Literal

/-- The code point that two halves of a surrogate pair write together. -/
def pairPoint (high low : Nat) : Nat := 0x10000 + (high - 0xD800) * 0x400 + (low - 0xDC00)

def empty : Literal := ⟨[], none, false⟩

/-- Adds a character; a half that waited stays alone. -/
def push (l : Literal) (c : Char) : Literal := ⟨c :: l.chars, none, l.garbled || l.half.isSome⟩

/-- Adds a code unit of an escape, which may be half of a pair. -/
def pushUnit (l : Literal) (u : Nat) : Literal :=
  if 0xD800 ≤ u ∧ u < 0xDC00 then ⟨l.chars, some u, l.garbled || l.half.isSome⟩
  else if 0xDC00 ≤ u ∧ u < 0xE000 then
    match l.half with
    | some h => ⟨Char.ofNat (pairPoint h u) :: l.chars, none, l.garbled⟩
    | none => ⟨l.chars, none, true⟩
  else l.push (Char.ofNat u)

/-- The text of a finished literal, if it is a sequence of characters. -/
def text? (l : Literal) : Option String :=
  if l.garbled || l.half.isSome then none else some (String.ofList l.chars.reverse)

end Literal

/-- The code unit that four hexadecimal digits write. -/
def hexUnit? (a b c d : Char) : Option Nat := do
  let a ← hexValue? a
  let b ← hexValue? b
  let c ← hexValue? c
  let d ← hexValue? d
  return ((a * 16 + b) * 16 + c) * 16 + d

/-- The character that a letter stands for behind a backslash. -/
def escape? : Char → Option Char
  | '"' => some '"'
  | '\\' => some '\\'
  | '/' => some '/'
  | 'b' => some '\x08'
  | 'f' => some '\x0c'
  | 'n' => some '\n'
  | 'r' => some '\r'
  | 't' => some '\t'
  | _ => none

/-- The rest of a string literal, behind its opening quote, and what follows it. -/
def readLiteral (l : Literal) : List Char → Option (Literal × List Char)
  | [] => none
  | '"' :: rest => some (l, rest)
  | '\\' :: 'u' :: a :: b :: c :: d :: rest =>
    match hexUnit? a b c d with
    | some u => readLiteral (l.pushUnit u) rest
    | none => none
  | '\\' :: e :: rest =>
    match escape? e with
    | some c => readLiteral (l.push c) rest
    | none => none
  | c :: rest => if c.toNat < 0x20 then none else readLiteral (l.push c) rest

/-- The fraction in front of a text: a point and at least one digit; nothing otherwise. -/
def splitFraction : List Char → List Char × List Char
  | '.' :: rest =>
    let ds := rest.takeWhile isAsciiDigit
    if ds.isEmpty then ([], '.' :: rest) else (ds, rest.dropWhile isAsciiDigit)
  | cs => ([], cs)

/-- The power of ten in front of a text: a letter, a sign if any and at least one digit. -/
def splitPower (cs : List Char) : Option (Int × List Char) :=
  match cs with
  | c :: rest =>
    if c = 'e' ∨ c = 'E' then
      let (negative, rest) := match rest with
        | '-' :: r => (true, r)
        | '+' :: r => (false, r)
        | r => (false, r)
      let ds := rest.takeWhile isAsciiDigit
      if ds.isEmpty then none
      else
        let n : Int := digitsToNat ds
        some (if negative then -n else n, rest.dropWhile isAsciiDigit)
    else none
  | [] => none

/-- The number in front of a text, behind its sign: no digit stands behind a leading zero. -/
def readNumber (negative : Bool) (cs : List Char) : Except Fault (Json × List Char) :=
  let (whole, rest) := match cs with
    | '0' :: r => (['0'], r)
    | r => (r.takeWhile isAsciiDigit, r.dropWhile isAsciiDigit)
  if whole.isEmpty then .error .malformed
  else
    let (fraction, rest) := splitFraction rest
    match splitPower rest with
    | some (power, rest) =>
      .ok (.real (.ofScientific negative (digitsToNat (whole ++ fraction)) (power - fraction.length)),
        rest)
    | none =>
      if fraction.isEmpty then
        if digitLimit < whole.length then .error .oversized
        else
          let n : Int := digitsToNat whole
          .ok (.int (if negative then -n else n), rest)
      else
        .ok (.real (.ofScientific negative (digitsToNat (whole ++ fraction)) (-fraction.length)), rest)

/-- The words that stand for a value. -/
def words : List (List Char × Json) := [
  ("null".toList, .null), ("true".toList, .bool true), ("false".toList, .bool false),
  ("NaN".toList, .real .nan), ("Infinity".toList, .real (.infinite false)),
  ("-Infinity".toList, .real (.infinite true))]

/-- The word or number in front of a text. -/
def readScalar (cs : List Char) : Except Fault (Json × List Char) :=
  match words.find? fun w => w.1.isPrefixOf cs with
  | some (word, value) => .ok (value, cs.drop word.length)
  | none => match cs with
    | '-' :: rest => readNumber true rest
    | _ => readNumber false cs

/-- The value of a finished literal. -/
def ofLiteral (l : Literal) : Json :=
  match l.text? with
  | some s => .str s
  | none => .garbled

/-- The name that a finished literal gives to a field. -/
def keyOfLiteral (l : Literal) : String := l.text?.getD "\uFFFD"

mutual

/-- The value in front of a text, and what follows it.  Arrays and objects may stand within each other as
deep as there is room. -/
def readValue : Nat → Nat → List Char → Except Fault (Json × List Char)
  | 0, _, _ => .error .malformed
  | fuel + 1, room, cs => match cs with
    | '"' :: rest => match readLiteral .empty rest with
      | some (l, rest) => .ok (ofLiteral l, rest)
      | none => .error .malformed
    | '[' :: rest => match room with
      | 0 => .error .nested
      | room + 1 => match skipBlanks rest with
        | ']' :: rest => .ok (.arr [], rest)
        | rest => readItems fuel room [] rest
    | '\x7b' :: rest => match room with
      | 0 => .error .nested
      | room + 1 => match skipBlanks rest with
        | '\x7d' :: rest => .ok (.obj [], rest)
        | rest => readFields fuel room [] rest
    | cs => readScalar cs

/-- The items of an array behind those already read, in reverse, up to its closing bracket. -/
def readItems : Nat → Nat → List Json → List Char → Except Fault (Json × List Char)
  | 0, _, _, _ => .error .malformed
  | fuel + 1, room, before, cs => do
    let (item, rest) ← readValue fuel room cs
    match skipBlanks rest with
    | ',' :: rest => readItems fuel room (item :: before) (skipBlanks rest)
    | ']' :: rest => .ok (.arr (item :: before).reverse, rest)
    | _ => .error .malformed

/-- The fields of an object behind those already read, up to its closing brace. -/
def readFields : Nat → Nat → List (String × Json) → List Char → Except Fault (Json × List Char)
  | 0, _, _, _ => .error .malformed
  | fuel + 1, room, before, cs => match cs with
    | '"' :: rest => match readLiteral .empty rest with
      | none => .error .malformed
      | some (l, rest) => match skipBlanks rest with
        | ':' :: rest => do
          let (value, rest) ← readValue fuel room (skipBlanks rest)
          let fields := setField (keyOfLiteral l) value before
          match skipBlanks rest with
          | ',' :: rest => readFields fuel room fields (skipBlanks rest)
          | '\x7d' :: rest => .ok (.obj fields, rest)
          | _ => .error .malformed
        | _ => .error .malformed
    | _ => .error .malformed

end

/-- Reads a whole text as one value. -/
def read (text : String) : Except Fault Json :=
  let cs := text.toList
  match readValue (2 * cs.length + 2) nestingLimit (skipBlanks cs) with
  | .error e => .error e
  | .ok (value, rest) => if (skipBlanks rest).isEmpty then .ok value else .error .malformed

end ShopTabs.Json
