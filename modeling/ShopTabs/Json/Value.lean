import ShopTabs.Number.Binary64
/-!
JSON values.  Whole numbers are unbounded and apart from binary ones, and the fields of an object keep
the order in which they were first written.
-/

namespace ShopTabs

open Text

/-- A JSON value. -/
inductive Json where
  | null
  | bool (b : Bool)
  | int (n : Int)
  | real (x : Binary64)
  | str (s : String)
  /-- A text that holds one half of a surrogate pair and so is no sequence of characters. -/
  | garbled
  | arr (items : List Json)
  | obj (fields : List (String × Json))
deriving Inhabited, BEq, Repr

namespace Json

/-- The value of a field of an object. -/
def get? (key : String) : Json → Option Json
  | obj fields => (fields.find? (·.1 = key)).map (·.2)
  | _ => none

/-- Sets a field: a new one stands last, a repeated one keeps its place and takes the new value. -/
def setField (key : String) (value : Json) : List (String × Json) → List (String × Json)
  | [] => [(key, value)]
  | (k, v) :: rest => if k = key then (k, value) :: rest else (k, v) :: setField key value rest

mutual

/-- The value can be written out again: it holds no garbled text and no infinity or not-a-number. -/
def printable : Json → Bool
  | garbled => false
  | real .nan => false
  | real (.infinite _) => false
  | arr items => printableItems items
  | obj fields => printableFields fields
  | _ => true

/-- Every item can be written out again. -/
def printableItems : List Json → Bool
  | [] => true
  | v :: rest => printable v && printableItems rest

/-- The value of every field can be written out again. -/
def printableFields : List (String × Json) → Bool
  | [] => true
  | (_, v) :: rest => printable v && printableFields rest

end

/-- A field that was just set is found with its value. -/
theorem get?_setField (key : String) (value : Json) (fields : List (String × Json)) :
    (obj (setField key value fields)).get? key = some value := by
  induction fields with
  | nil => simp [setField, get?]
  | cons f rest ih =>
    obtain ⟨k, v⟩ := f
    by_cases h : k = key
    · simp [setField, get?, h]
    · simpa [setField, get?, h] using ih

/-- Setting a field leaves every other field as it was. -/
theorem get?_setField_of_ne {key other : String} (h : other ≠ key) (value : Json)
    (fields : List (String × Json)) :
    (obj (setField key value fields)).get? other = (obj fields).get? other := by
  induction fields with
  | nil => simp [setField, get?, Ne.symm h]
  | cons f rest ih =>
    obtain ⟨k, v⟩ := f
    by_cases hk : k = key
    · subst hk
      simp [setField, get?, Ne.symm h]
    · by_cases ho : k = other
      · simp [setField, get?, ho, h]
      · simpa [setField, get?, hk, ho] using ih

end Json

end ShopTabs
