/-!
Texts cut into pieces at a mark.
-/

namespace ShopTabs.Text

/-- The pieces of a text between the places where a mark stands; there is one more of them than marks. -/
def pieces (mark : Char) : List Char → List (List Char)
  | [] => [[]]
  | c :: rest =>
    if c = mark then [] :: pieces mark rest
    else match pieces mark rest with
      | [] => [[c]]
      | first :: others => (c :: first) :: others

/-- Pieces with a mark between each two. -/
def joined (mark : Char) : List (List Char) → List Char
  | [] => []
  | [piece] => piece
  | piece :: rest => piece ++ mark :: joined mark rest

end ShopTabs.Text
