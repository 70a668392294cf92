import ShopTabs.Text.Digit
import ShopTabs.Text.Pieces
/-!
The path that a request's target names.  A target is a path, perhaps with a scheme and a host in front
and a query or a fragment behind it; single points name the place itself and double points the place
above it, and a percent sign with two hexadecimal digits stands for one byte of a character.
-/

namespace ShopTabs.Http

open Text

/-- The bytes of a text, with those written behind percent signs. -/
def percentBytes : List Char → List UInt8
  | [] => []
  | '%' :: a :: b :: rest =>
    match hexValue? a, hexValue? b with
    | some x, some y => UInt8.ofNat (16 * x + y) :: percentBytes rest
    | _, _ => String.utf8EncodeChar '%' ++ percentBytes (a :: b :: rest)
  | c :: rest => String.utf8EncodeChar c ++ percentBytes rest
termination_by cs => cs.length

/-- The character in the place of a byte that is no part of one. -/
def replacement : Char := '\uFFFD'

/-- The characters that bytes encode.  Where they encode none, every byte beyond ASCII is replaced. -/
def decoded (bytes : List UInt8) : List Char :=
  match String.fromUTF8? ⟨bytes.toArray⟩ with
  | some s => s.toList
  | none => bytes.map fun b => if b < 128 then Char.ofNat b.toNat else replacement

/-- A text in which percent signs with two digits were taken for the bytes they stand for. -/
def percentDecoded (cs : List Char) : List Char := decoded (percentBytes cs)

/-- The path in front of a query or a fragment. -/
def beforeQuery (cs : List Char) : List Char := cs.takeWhile fun c => c ≠ '?' && c ≠ '#'

/-- A character of the name of a scheme. -/
def isSchemeChar (c : Char) : Bool :=
  c.isAlphanum || c = '+' || c = '.' || c = '-'

/-- The scheme in front of a colon, which begins with a letter, and what follows.  It may be empty or
missing altogether. -/
def splitScheme (cs : List Char) : List Char × List Char :=
  let scheme := cs.takeWhile isSchemeChar
  match cs.dropWhile isSchemeChar with
  | ':' :: rest => if scheme.head?.all Char.isAlpha then (scheme, rest) else ([], cs)
  | _ => ([], cs)

/-- The authority, which stands behind two slashes, and the path that follows. -/
def splitAuthority : List Char → List Char × List Char
  | '/' :: '/' :: rest => (rest.takeWhile (· ≠ '/'), rest.dropWhile (· ≠ '/'))
  | cs => ([], cs)

/-- The host of an authority, behind the name of a user and in front of the first colon. -/
def hostOf (authority : List Char) : List Char :=
  (authority.reverse.takeWhile (· ≠ '@')).reverse.takeWhile (· ≠ ':')

/-- A path with exactly one slash in front. -/
def rooted (cs : List Char) : List Char := '/' :: cs.dropWhile (· = '/')

/-- The place that a target names.  With a scheme and a host it is written in full and taken as it is;
otherwise it is looked for from the root. -/
def placeOf (target : List Char) : List Char :=
  let (scheme, rest) := splitScheme (beforeQuery target)
  let (authority, path) := splitAuthority rest
  if scheme.isEmpty || (hostOf authority).isEmpty || path.isEmpty then rooted path else path

/-- One more place on the way down a path; the places passed so far stand in reverse. -/
def descend (passed : List (List Char)) (place : List Char) : List (List Char) :=
  if place = ['.'] then passed
  else if place = ['.', '.'] then (if passed = [[]] then passed else passed.drop 1)
  else place :: passed

/-- A path without single and double points. -/
def withoutPoints (cs : List Char) : List Char :=
  joined '/' ((pieces '/' cs).foldl descend []).reverse

def pathOf (target : String) : List Char :=
  percentDecoded (percentDecoded (withoutPoints (placeOf target.toList)))

example : pathOf "/shops/%31/tabs?page=2" = "/shops/1/tabs".toList := by decide +kernel
example : pathOf "/shops/1/./x/../tabs" = "/shops/1/tabs".toList := by decide +kernel
example : pathOf "http://other//health" = "//health".toList := by decide +kernel
example : pathOf "//other//health" = "/health".toList := by decide +kernel

end ShopTabs.Http
