/-!
Powers of two and of ten, and the bound of numbers of 64 bits.
-/

namespace ShopTabs

def pow2 (n : Nat) : Nat := Nat.pow 2 n

def pow10 (n : Nat) : Nat := Nat.pow 10 n

/-- The bound of numbers of 64 bits with a sign: the 63rd power of two. -/
def wordBound : Int := 9223372036854775808

/-- A number of 64 bits with its sign; only such numbers can be stored or looked up. -/
def isWord (n : Int) : Bool := -wordBound ≤ n && n < wordBound

end ShopTabs
