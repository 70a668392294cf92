import ShopTabs.Calendar.Day
import ShopTabs.Calendar.TimeOfDay
/-!
Moments of universal time, to the microsecond.
-/

namespace ShopTabs

/-- A moment: the microseconds since 0001-01-01T00:00:00 of universal time. -/
structure Instant where
  micros : Int
deriving DecidableEq, Repr

namespace Instant

instance : LE Instant := ⟨fun a b => a.micros ≤ b.micros⟩
instance : LT Instant := ⟨fun a b => a.micros < b.micros⟩
instance (a b : Instant) : Decidable (a ≤ b) := inferInstanceAs (Decidable (a.micros ≤ b.micros))
instance (a b : Instant) : Decidable (a < b) := inferInstanceAs (Decidable (a.micros < b.micros))

/-- The moment at which a day shows a time. -/
def ofDayTime (d : Day) (micros : Int) : Instant := ⟨(d.number - 1) * microsPerDay + micros⟩

/-- The number of the day on which a clock that is so many seconds ahead shows this moment. -/
def dayNumberAt (t : Instant) (offset : Int) : Int :=
  (t.micros + offset * 1000000) / microsPerDay + 1

/-- The day on which a clock that is so many seconds ahead shows this moment. -/
def dayAt? (t : Instant) (offset : Int) : Option Day := Day.ofNumber? (t.dayNumberAt offset)

/-- The text `YYYY-MM-DDTHH:MM:SS` with six digits of a second when there is a fraction. -/
def text (t : Instant) : String :=
  let rest := (t.micros % microsPerDay).toNat
  match t.dayAt? 0, TimeOfDay.ofMicros? rest with
  | some d, some time => String.ofList (d.civil.text ++ 'T' :: time.text)
  | _, _ => ""

/-- The moment so many minutes later, or the reason why there is none. -/
def addMinutes (t : Instant) (minutes : Int) : Except Day.SpanFault Instant :=
  let moved : Instant := ⟨t.micros + minutes * 60000000⟩
  match Day.checkSpan (minutes / 1440), moved.dayAt? 0 with
  | .error fault, _ => .error fault
  | .ok (), some _ => .ok moved
  | .ok (), none => .error .outsideCalendar

end Instant

end ShopTabs
