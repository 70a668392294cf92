/-!
Blanks at the ends of a text.  Two classes are in use: white space, by which submitted emails and
numbers are trimmed, and the wider class of blanks, by which amounts, addresses and settings are.
The wider class holds the narrower one.
-/

namespace ShopTabs.Text

/-- White space: the code points with the Unicode property White_Space. -/
def isWhiteSpace (c : Char) : Bool :=
  let n := c.toNat
  (9 ≤ n && n ≤ 13) || n == 0x20 || n == 0x85 || n == 0xA0 || n == 0x1680
    || (0x2000 ≤ n && n ≤ 0x200A) || n == 0x2028 || n == 0x2029 || n == 0x202F
    || n == 0x205F || n == 0x3000

/-- Blanks: white space and the four information separators U+001C to U+001F. -/
def isBlank (c : Char) : Bool :=
  isWhiteSpace c || (0x1C ≤ c.toNat && c.toNat ≤ 0x1F)

/-- A text without the characters of a class at its two ends. -/
def trim (p : Char → Bool) (cs : List Char) : List Char :=
  ((cs.dropWhile p).reverse.dropWhile p).reverse

example : trim isWhiteSpace "  a b\t".toList = "a b".toList := by decide
example : trim isWhiteSpace "\x1ca".toList ≠ trim isBlank "\x1ca".toList := by decide

end ShopTabs.Text
