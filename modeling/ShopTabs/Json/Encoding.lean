import ShopTabs.Json.Reader
/-!
The bytes that hold a JSON text.  Such a text begins with two characters of ASCII, or is one character
alone, so the zeros among its first four bytes tell how wide its units are and which of their bytes comes
first.
-/

namespace ShopTabs.Json

open Text

/-- Which byte of a unit comes first. -/
inductive ByteOrder where
  | highFirst
  | lowFirst
deriving DecidableEq, Repr

/-- How characters are laid out in bytes. -/
inductive Encoding where
  | utf8
  | utf16 (order : ByteOrder)
  | utf32 (order : ByteOrder)
deriving DecidableEq, Repr

/-- The number that the bytes of a unit write. -/
def ByteOrder.unit : ByteOrder → List UInt8 → Nat
  | highFirst, bytes => bytes.foldl (fun n b => 256 * n + b.toNat) 0
  | lowFirst, bytes => bytes.reverse.foldl (fun n b => 256 * n + b.toNat) 0

/-- The units of two bytes each, if the bytes are that many. -/
def ByteOrder.pairs? (order : ByteOrder) : List UInt8 → Option (List Nat)
  | [] => some []
  | a :: b :: rest => (order.pairs? rest).map (order.unit [a, b] :: ·)
  | _ => none

/-- The units of four bytes each, if the bytes are that many. -/
def ByteOrder.quads? (order : ByteOrder) : List UInt8 → Option (List Nat)
  | [] => some []
  | a :: b :: c :: d :: rest => (order.quads? rest).map (order.unit [a, b, c, d] :: ·)
  | _ => none

/-- The first half of a surrogate pair. -/
def isHighHalf (n : Nat) : Bool := 0xD800 ≤ n && n < 0xDC00

/-- The second half of a surrogate pair. -/
def isLowHalf (n : Nat) : Bool := 0xDC00 ≤ n && n < 0xE000

/-- Code units of sixteen bits with the surrogate pairs taken together. -/
def joinHalves : List Nat → List Nat
  | high :: low :: rest =>
    if isHighHalf high && isLowHalf low then Literal.pairPoint high low :: joinHalves rest
    else high :: joinHalves (low :: rest)
  | units => units
termination_by units => units.length

/-- A code point as the reader takes it: half of a surrogate pair is written as an escape. -/
def pointText (n : Nat) : List Char :=
  if isHighHalf n || isLowHalf n then ['\\', 'u'] ++ Nat.toDigits 16 n else [Char.ofNat n]

/-- The bytes in front of a text that only say how it is laid out. -/
def byteOrderMark : List UInt8 := [0xEF, 0xBB, 0xBF]

namespace Encoding

/-- The encoding that the first bytes of a text tell. -/
def ofBytes : List UInt8 → Encoding
  | [a, b] => if a = 0 then utf16 .highFirst else if b = 0 then utf16 .lowFirst else utf8
  | a :: b :: c :: d :: _ =>
    if a = 0 then (if b = 0 then utf32 .highFirst else utf16 .highFirst)
    else if b = 0 then (if c = 0 ∧ d = 0 then utf32 .lowFirst else utf16 .lowFirst)
    else utf8
  | _ => utf8

/-- The text that bytes hold in an encoding. -/
def decode? : Encoding → List UInt8 → Option String
  | utf8, bytes =>
    String.fromUTF8? ⟨(if byteOrderMark.isPrefixOf bytes then bytes.drop 3 else bytes).toArray⟩
  | utf16 order, bytes => do
    let units ← order.pairs? bytes
    return String.ofList ((joinHalves units).flatMap pointText)
  | utf32 order, bytes => do
    let points ← order.quads? bytes
    if points.all (· ≤ 0x10FFFF) then some (String.ofList (points.flatMap pointText)) else none

end Encoding

/-- Reads bytes that hold a whole text as one value. -/
def readBytes (bytes : List UInt8) : Except Fault Json :=
  match (Encoding.ofBytes bytes).decode? bytes with
  | some text => read text
  | none => .error .undecodable

example : Encoding.ofBytes [0, 0x5B, 0, 0x5D] = .utf16 .highFirst := by decide
example : (Encoding.utf16 .lowFirst).decode? [0x5B, 0, 0x5D, 0] = some "[]" := by decide +kernel

end ShopTabs.Json
