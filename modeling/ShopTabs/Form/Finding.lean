import ShopTabs.Calendar.Reading
import ShopTabs.Json.Value
/-!
Findings on submitted data: what is wrong, and where.
-/

namespace ShopTabs.Form

open Text

/-- What is wrong with a submitted value. -/
inductive Problem where
  | required
  | notText
  | garbledText
  | shortText (least : Nat)
  | longText (most : Nat)
  | notEmail
  | notList
  | shortList (least found : Nat)
  /-- An object with the fields of the named form was expected. -/
  | notRecord (form : String)
  | notInteger
  | integerText
  | integerSize
  | fractionalInteger
  | notFinite
  | notAbove (bound : Int)
  | below (bound : Int)
  | above (bound : Int)
  | notBoolean
  | notOneOf (names : List String)
  | notDecimal
  | decimalText
  | totalDigits (most : Nat)
  | decimalPlaces (most : Nat)
  | wholeDigits (most : Nat)
  | notDate
  | dateText (fault : Calendar.Fault)
  | dateWithTime
  | yearZero
  | notTime
  | timeText (fault : Calendar.Fault)
  | endDateBeforeStart
  | endTimeNotAfterStart
deriving DecidableEq, Repr

/-- Names in quotes, with commas between them and `or` before the last. -/
def alternatives : List String → String
  | [] => ""
  | [a] => "'" ++ a ++ "'"
  | [a, b] => "'" ++ a ++ "' or '" ++ b ++ "'"
  | a :: rest => "'" ++ a ++ "', " ++ alternatives rest

/-- A count with its noun, in the plural unless it is one. -/
def counted (n : Nat) (noun : String) : String :=
  intText n ++ " " ++ noun ++ (if n = 1 then "" else "s")

/-- The shape that an email address has to have. -/
def emailPattern : String := "^[^@\\s]+@[^@\\s]+\\.[^@\\s]+$"

def Problem.message : Problem → String
  | required => "Field required"
  | notText => "Input should be a valid string"
  | garbledText => "Input should be a valid string, unable to parse raw data as a unicode string"
  | shortText n => "String should have at least " ++ counted n "character"
  | longText n => "String should have at most " ++ counted n "character"
  | notEmail => "String should match pattern '" ++ emailPattern ++ "'"
  | notList => "Input should be a valid list"
  | shortList n k =>
    "List should have at least " ++ counted n "item" ++ " after validation, not " ++ intText k
  | notRecord form => "Input should be a valid dictionary or instance of " ++ form
  | notInteger => "Input should be a valid integer"
  | integerText => "Input should be a valid integer, unable to parse string as an integer"
  | integerSize => "Unable to parse input string as an integer, exceeded maximum size"
  | fractionalInteger => "Input should be a valid integer, got a number with a fractional part"
  | notFinite => "Input should be a finite number"
  | notAbove n => "Input should be greater than " ++ intText n
  | below n => "Input should be greater than or equal to " ++ intText n
  | above n => "Input should be less than or equal to " ++ intText n
  | notBoolean => "Input should be a valid boolean, unable to interpret input"
  | notOneOf names => "Input should be " ++ alternatives names
  | notDecimal => "Decimal input should be an integer, float, string or Decimal object"
  | decimalText => "Input should be a valid decimal"
  | totalDigits n => "Decimal input should have no more than " ++ counted n "digit" ++ " in total"
  | decimalPlaces n => "Decimal input should have no more than " ++ counted n "decimal place"
  | wholeDigits n =>
    "Decimal input should have no more than " ++ counted n "digit" ++ " before the decimal point"
  | notDate => "Input should be a valid date"
  | dateText fault => "Input should be a valid date or datetime, " ++ fault.message
  | dateWithTime => "Datetimes provided to dates should have zero time - e.g. be exact dates"
  | yearZero => "Input should be a valid date in the format YYYY-MM-DD, year 0 is out of range"
  | notTime => "Input should be a valid time"
  | timeText fault => "Input should be in a valid time format, " ++ fault.message
  | endDateBeforeStart => "Value error, end_date must not be before start_date"
  | endTimeNotAfterStart => "Value error, daily_end_time must be after daily_start_time"

/-- One step into a value: to a field of an object or to an item of a list. -/
inductive Step where
  | field (name : String)
  | item (index : Nat)
deriving DecidableEq, Repr

def Step.text : Step → String
  | field name => name
  | item index => intText index

/-- A problem, the way to the value that has it, and that value. -/
structure Finding where
  path : List Step
  problem : Problem
  input : Json

/-- The way to the value, its steps joined by points; empty for the whole. -/
def Finding.place (f : Finding) : String := ".".intercalate (f.path.map Step.text)

/-- The result of checking a value: what it stands for, or at least one finding. -/
inductive Verdict (α : Type) where
  | accepted (value : α)
  | refused (first : Finding) (others : List Finding)

namespace Verdict

/-- Two checks are made side by side and the findings of both are kept. -/
def seq {α β : Type} : Verdict (α → β) → Verdict α → Verdict β
  | accepted f, accepted a => accepted (f a)
  | accepted _, refused p ps => refused p ps
  | refused p ps, accepted _ => refused p ps
  | refused p ps, refused q qs => refused p (ps ++ q :: qs)

instance : Applicative Verdict where
  pure := accepted
  seq f x := seq f (x ())

/-- The findings of a check one step deeper. -/
def under {α : Type} (step : Step) : Verdict α → Verdict α
  | accepted a => accepted a
  | refused p ps =>
    let deeper := fun f : Finding => { f with path := step :: f.path }
    refused (deeper p) (ps.map deeper)

/-- A single finding on a whole value. -/
def finding {α : Type} (problem : Problem) (input : Json) : Verdict α := refused ⟨[], problem, input⟩ []

/-- Goes on with a further test of an accepted value; its finding is on the same input. -/
def test {α : Type} (input : Json) (problem? : α → Option Problem) : Verdict α → Verdict α
  | accepted a => match problem? a with
    | none => accepted a
    | some problem => finding problem input
  | refused p ps => refused p ps

end Verdict

/-- Reads a value of a kind. -/
abbrev Reader (α : Type) := Json → Verdict α

/-- The reader of a simple value, whose only finding is on the value itself. -/
def scalar {α : Type} (read : Json → Except Problem α) : Reader α := fun input =>
  match read input with
  | .ok a => .accepted a
  | .error problem => .finding problem input

/-- Reads null as nothing and all else as a value. -/
def nullable {α : Type} (read : Reader α) : Reader (Option α) := fun input =>
  match input with
  | .null => .accepted none
  | _ => some <$> read input

/-- Reads the items of a list from an index on; every item is looked at. -/
def readItems {α : Type} (read : Reader α) : Nat → List Json → Verdict (List α)
  | _, [] => pure []
  | index, v :: rest =>
    List.cons <$> (read v).under (.item index) <*> readItems read (index + 1) rest

def listOf {α : Type} (read : Reader α) : Reader (List α) := fun input =>
  match input with
  | .arr items => readItems read 0 items
  | _ => .finding .notList input

/-- Reads a field that has to be there. -/
def field {α : Type} (name : String) (read : Reader α) : Reader α := fun record =>
  (match record.get? name with
    | some v => read v
    | none => .finding .required record).under (.field name)

/-- Reads a field that may be missing and then has a standing value. -/
def fieldOr {α : Type} (name : String) (standing : α) (read : Reader α) : Reader α := fun record =>
  match record.get? name with
  | some v => (read v).under (.field name)
  | none => .accepted standing

/-- Reads an object by its fields; other fields do not matter. -/
def recordOf {α : Type} (form : String) (read : Reader α) : Reader α := fun input =>
  match input with
  | .obj _ => read input
  | _ => .finding (.notRecord form) input

end ShopTabs.Form
