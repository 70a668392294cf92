import ShopTabs.Text.Digit
/-!
Days of the Gregorian calendar, carried back without a break to the year 1.  A day is its number
counted from 0001-01-01, so that windows of days are plain arithmetic; `Day.civil` gives year, month
and day of the month.
-/

namespace ShopTabs

open Text

/-- Year, month and day of the month as they are written; not every such triple is a day. -/
structure Civil where
  year : Nat
  month : Nat
  day : Nat
deriving DecidableEq, Repr

namespace Civil

/-- A year with a 29th of February. -/
def isLeap (year : Nat) : Bool :=
  year % 4 == 0 && (year % 100 != 0 || year % 400 == 0)

/-- The lengths of the months of a year. -/
def monthLengths (year : Nat) : List Nat :=
  [31, if isLeap year then 29 else 28, 31, 30, 31, 30, 31, 31, 30, 31, 30, 31]

/-- The length of a month; 0 for a number that is no month. -/
def monthLength (year month : Nat) : Nat :=
  if month = 0 then 0 else ((monthLengths year)[month - 1]?).getD 0

/-- The days before the first of January of a year, from the year 1 on. -/
def daysBeforeYear (year : Nat) : Nat :=
  (year - 1) * 365 + (year - 1) / 4 - (year - 1) / 100 + (year - 1) / 400

/-- The days of a year before the first of a month. -/
def daysBeforeMonth (year month : Nat) : Nat :=
  ((monthLengths year).take (month - 1)).foldl (· + ·) 0

/-- The triple is a day of the years 1 to 9999. -/
def isValid (c : Civil) : Bool :=
  1 ≤ c.year && c.year ≤ 9999 && 1 ≤ c.day && c.day ≤ monthLength c.year c.month

/-- The number of the day that a valid triple names. -/
def number (c : Civil) : Nat :=
  daysBeforeYear c.year + daysBeforeMonth c.year c.month + c.day

/-- The text `YYYY-MM-DD`. -/
def text (c : Civil) : List Char :=
  paddedDigits 4 c.year ++ '-' :: paddedDigits 2 c.month ++ '-' :: paddedDigits 2 c.day

end Civil

/-- A day from 0001-01-01, number 1, to 9999-12-31. -/
structure Day where
  number : Int
  inCalendar : 1 ≤ number ∧ number ≤ 3652059
deriving DecidableEq

namespace Day

instance : LE Day := ⟨fun a b => a.number ≤ b.number⟩
instance : LT Day := ⟨fun a b => a.number < b.number⟩
instance (a b : Day) : Decidable (a ≤ b) := inferInstanceAs (Decidable (a.number ≤ b.number))
instance (a b : Day) : Decidable (a < b) := inferInstanceAs (Decidable (a.number < b.number))
instance : Min Day := ⟨fun a b => if a ≤ b then a else b⟩

theorem le_def {a b : Day} : a ≤ b ↔ a.number ≤ b.number := Iff.rfl

theorem lt_def {a b : Day} : a < b ↔ a.number < b.number := Iff.rfl

theorem ext_number {a b : Day} (h : a.number = b.number) : a = b := by
  cases a; cases b; simp_all

/-- The earlier of two days has the smaller number. -/
theorem number_min (a b : Day) : (min a b).number = min a.number b.number := by
  show (if a ≤ b then a else b).number = _
  by_cases h : a ≤ b
  · rw [if_pos h, Int.min_eq_left (le_def.1 h)]
  · have : ¬ a.number ≤ b.number := h
    rw [if_neg h, Int.min_eq_right (by omega)]

/-- The day of a number, if it lies in the calendar. -/
def ofNumber? (n : Int) : Option Day :=
  if h : 1 ≤ n ∧ n ≤ 3652059 then some ⟨n, h⟩ else none

/-- The day a number of days later, or earlier for a negative number. -/
def addDays? (d : Day) (n : Int) : Option Day := ofNumber? (d.number + n)

/-- Why a day or a moment cannot be moved by a span of days. -/
inductive SpanFault where
  /-- The span is longer than the longest span. -/
  | tooLong (days : Int)
  /-- The span's number of days is beyond a machine word of 32 bits. -/
  | tooWide
  /-- The calendar would be left. -/
  | outsideCalendar
deriving DecidableEq, Repr

/-- The most days of a span. -/
def longestSpan : Int := 999999999

/-- A span of so many days exists. -/
def checkSpan (days : Int) : Except SpanFault Unit :=
  if days < -2147483648 ∨ 2147483647 < days then .error .tooWide
  else if days < -longestSpan ∨ longestSpan < days then .error (.tooLong days)
  else .ok ()

/-- The day so many days later, or the reason why there is none. -/
def shift (d : Day) (days : Int) : Except SpanFault Day :=
  match checkSpan days with
  | .error fault => .error fault
  | .ok () => match d.addDays? days with
    | some e => .ok e
    | none => .error .outsideCalendar

theorem ofNumber?_eq_some {n : Int} {d : Day} : ofNumber? n = some d ↔ d.number = n := by
  unfold ofNumber?
  constructor
  · intro h
    split at h
    · injection h with h
      rw [← h]
    · cases h
  · rintro rfl
    rw [dif_pos d.inCalendar]

theorem addDays?_eq_some {d e : Day} {n : Int} :
    d.addDays? n = some e ↔ e.number = d.number + n := ofNumber?_eq_some

/-- The day that a triple names, if it is one. -/
def ofCivil? (c : Civil) : Option Day :=
  if c.isValid then ofNumber? c.number else none

/-- The year that holds the day with `n` days before it. -/
def yearOf (n : Nat) : Nat :=
  let guess := n * 400 / 146097 + 1
  if Civil.daysBeforeYear (guess + 1) ≤ n then guess + 1
  else if n < Civil.daysBeforeYear guess then guess - 1
  else guess

/-- Month and day for a day of the year, counted from 0, given the lengths of the months from one on. -/
def monthAndDay : List Nat → Nat → Nat → Nat × Nat
  | [], month, n => (month, n + 1)
  | length :: rest, month, n =>
    if n < length then (month, n + 1) else monthAndDay rest (month + 1) (n - length)

/-- Year, month and day of the month. -/
def civil (d : Day) : Civil :=
  let n := (d.number - 1).toNat
  let year := yearOf n
  let (month, day) := monthAndDay (Civil.monthLengths year) 1 (n - Civil.daysBeforeYear year)
  ⟨year, month, day⟩

/-- The text `YYYY-MM-DD`. -/
def text (d : Day) : String := String.ofList d.civil.text

instance : Repr Day := ⟨fun d _ => d.text⟩

/-- The first Sunday that is not before a day of the given number. -/
def sundayFrom (n : Int) : Int := n + (-n) % 7

example : (ofCivil? ⟨2024, 2, 29⟩).map civil = some ⟨2024, 2, 29⟩ := by decide
example : ofCivil? ⟨2023, 2, 29⟩ = none := by decide
example : (ofCivil? ⟨9999, 12, 31⟩).map (·.number) = some 3652059 := by decide

end Day

end ShopTabs
