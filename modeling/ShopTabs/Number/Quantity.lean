import ShopTabs.Number.Binary64
/-!
Quantities as they are kept.  A quantity is a whole number of at most 64 bits; a sum that leaves those
goes on as a binary number, and comes back once it is a whole number within them.
-/

namespace ShopTabs

/-- A quantity. -/
inductive Quantity where
  | whole (n : Int)
  /-- A number that has no place among the whole numbers of 64 bits. -/
  | beyond (x : Binary64)
deriving DecidableEq, Repr

namespace Quantity

/-- A binary number as a quantity: a whole number strictly between the bounds of 64 bits becomes one. -/
def ofBinary64 (x : Binary64) : Quantity :=
  match x.toInt? with
  | some n => if -wordBound < n ∧ n < wordBound then whole n else beyond x
  | none => beyond x

def add : Quantity → Int → Quantity
  | whole n, change =>
    if isWord (n + change) then whole (n + change)
    else ofBinary64 ((Binary64.ofInt n).add (Binary64.ofInt change))
  | beyond x, change => ofBinary64 (x.add (Binary64.ofInt change))

def isBelowZero : Quantity → Bool
  | whole n => n < 0
  | beyond x => x.isBelowZero

/-- Within 64 bits a change is added exactly. -/
theorem add_whole {n change : Int} (h : isWord (n + change) = true) :
    (whole n).add change = whole (n + change) := by
  simp [add, h]

example : (whole 5).add (-7) = whole (-2) := by decide +kernel
example : (whole (wordBound - 1)).add 1 = beyond (.ofInt wordBound) := by decide +kernel
example : (beyond (.ofInt wordBound)).add (-1024) = whole 9223372036854774784 := by decide +kernel
example : (beyond (.ofInt wordBound)).add (-512) = beyond (.ofInt wordBound) := by decide +kernel

end Quantity

end ShopTabs
