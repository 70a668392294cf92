import ShopTabs.Text.Digit
/-!
Times of the day, to the microsecond, with or without an offset from universal time.
-/

namespace ShopTabs

open Text

/-- The microseconds of a day. -/
def microsPerDay : Nat := 86400000000

/-- A time of the day: the microseconds since midnight. -/
structure TimeOfDay where
  micros : Nat
  inDay : micros < microsPerDay
deriving DecidableEq

namespace TimeOfDay

/-- The time so many microseconds after midnight, if that is still the same day. -/
def ofMicros? (n : Nat) : Option TimeOfDay :=
  if h : n < microsPerDay then some ⟨n, h⟩ else none

/-- The text `HH:MM:SS`, with six digits of a second behind a point when there is a fraction. -/
def text (t : TimeOfDay) : List Char :=
  let seconds := t.micros / 1000000
  let fraction := t.micros % 1000000
  paddedDigits 2 (seconds / 3600) ++ ':' :: paddedDigits 2 (seconds / 60 % 60) ++ ':' ::
    paddedDigits 2 (seconds % 60) ++ (if fraction = 0 then [] else '.' :: paddedDigits 6 fraction)

instance : Repr TimeOfDay := ⟨fun t _ => String.ofList t.text⟩

end TimeOfDay

/-- A time of the day that may say how many seconds it is ahead of universal time. -/
structure OffsetTime where
  time : TimeOfDay
  offset : Option Int
deriving DecidableEq, Repr

namespace OffsetTime

/-- An offset as `+HH:MM` or `-HH:MM`. -/
def offsetText (seconds : Int) : List Char :=
  let minutes := seconds.natAbs / 60
  (if seconds < 0 then '-' else '+') :: paddedDigits 2 (minutes / 60) ++ ':' ::
    paddedDigits 2 (minutes % 60)

/-- The time with its offset, if it has one. -/
def text (t : OffsetTime) : String :=
  String.ofList (t.time.text ++ (match t.offset with
    | none => []
    | some s => offsetText s))

/-- The first time is later than the second.  Two times without offset are compared as they stand, two
with offsets as moments of universal time; times of different kinds cannot be compared. -/
def isAfter? (a b : OffsetTime) : Option Bool :=
  match a.offset, b.offset with
  | none, none => some (b.time.micros < a.time.micros)
  | some x, some y =>
    some ((b.time.micros : Int) - y * 1000000 < (a.time.micros : Int) - x * 1000000)
  | _, _ => none

end OffsetTime

end ShopTabs
