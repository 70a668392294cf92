import ShopTabs.Text.CaseTable
/-!
Lower-casing of a text by the rules of Unicode: each character by its simple mapping, with the two
special cases that need no language: `İ` becomes `i` with a dot above, and a capital sigma that ends a
word becomes the final sigma.
-/

namespace ShopTabs.Text

/-- A code point lies in one of the ranges. -/
def inRanges (ranges : List (Nat × Nat)) (n : Nat) : Bool :=
  ranges.any fun r => r.1 ≤ n && n ≤ r.2

/-- A range maps a code point. -/
def LowerRange.covers (r : LowerRange) (n : Nat) : Bool :=
  r.first ≤ n && n ≤ r.last && (n - r.first) % r.stride == 0

/-- The simple lower-case form of a character; a character without one is its own. -/
def lowerSimple (c : Char) : Char :=
  match lowerRanges.find? (·.covers c.toNat) with
  | some r => Char.ofNat (c.toNat + r.shift).toNat
  | none => c

/-- Behind any case-ignorable characters the text goes on with a cased letter. -/
def continuesCased (cs : List Char) : Bool :=
  match cs.dropWhile fun c => inRanges ignorableRanges c.toNat with
  | [] => false
  | c :: _ => inRanges casedRanges c.toNat

/-- The lower-case form of one character, given the characters before it (nearest first) and after it. -/
def lowerIn (before : List Char) (c : Char) (after : List Char) : List Char :=
  if c = 'İ' then ['i', '\u0307']
  else if c = 'Σ' then
    if continuesCased before && !continuesCased after then ['ς'] else ['σ']
  else [lowerSimple c]

/-- Lower-casing of what stands behind `before`. -/
def lowerFrom (before : List Char) : List Char → List Char
  | [] => []
  | c :: after => lowerIn before c after ++ lowerFrom (c :: before) after

/-- The lower-case form of a text. -/
def lower (cs : List Char) : List Char := lowerFrom [] cs

example : lower "ODΟΣ".toList = "odος".toList := by decide +kernel
example : lower "İ".toList = ['i', '\u0307'] := by decide +kernel

end ShopTabs.Text
