import ShopTabs.Calendar.Instant
import ShopTabs.Text.Digit
import ShopTabs.Text.Pieces
/-!
Time zones: how far local clocks are ahead of universal time, now and in the past.  Most zones are a list
of changes; in the eastern United States clocks are moreover one hour ahead in summer, from a day in
spring until a day in autumn that a rule names for each year.
-/

namespace ShopTabs

/-- From a second of a day of universal time on, local clocks are so many seconds ahead. -/
structure ClockChange where
  day : Civil
  second : Nat
  offset : Int
deriving DecidableEq, Repr

/-- A rule that says how far local clocks are ahead of universal time. -/
inductive Zone where
  /-- Ahead by a first number of seconds, and by others from changes on, which are in order. -/
  | changing (first : Int) (changes : List ClockChange)
  /-- Local mean time of New York until November 1883, then five hours behind, four in summer. -/
  | easternUS
deriving DecidableEq, Repr

namespace ClockChange

def instant (c : ClockChange) : Instant :=
  ⟨((c.day.number : Int) - 1) * microsPerDay + c.second * 1000000⟩

end ClockChange

namespace Zone

/-- Nine hours ahead, ten in the summers of 1948 to 1951. -/
def tokyo : Zone := changing 33539 [
  ⟨⟨1887, 12, 31⟩, 54000, 32400⟩, ⟨⟨1948, 5, 1⟩, 54000, 36000⟩, ⟨⟨1948, 9, 11⟩, 54000, 32400⟩,
  ⟨⟨1949, 4, 2⟩, 54000, 36000⟩, ⟨⟨1949, 9, 10⟩, 54000, 32400⟩, ⟨⟨1950, 5, 6⟩, 54000, 36000⟩,
  ⟨⟨1950, 9, 9⟩, 54000, 32400⟩, ⟨⟨1951, 5, 5⟩, 54000, 36000⟩, ⟨⟨1951, 9, 8⟩, 54000, 32400⟩]

/-- Five hours and a half ahead since 1906, one more during the war. -/
def kolkata : Zone := changing 21208 [
  ⟨⟨1854, 6, 27⟩, 65192, 21200⟩, ⟨⟨1869, 12, 31⟩, 65200, 19270⟩, ⟨⟨1905, 12, 31⟩, 67130, 19800⟩,
  ⟨⟨1941, 9, 30⟩, 66600, 23400⟩, ⟨⟨1942, 5, 14⟩, 63000, 19800⟩, ⟨⟨1942, 8, 31⟩, 66600, 23400⟩,
  ⟨⟨1945, 10, 14⟩, 63000, 19800⟩]

/-- Fourteen hours ahead since the last day of 1994, which was left out. -/
def kiritimati : Zone := changing (-37760) [
  ⟨⟨1901, 1, 1⟩, 37760, -38400⟩, ⟨⟨1979, 10, 1⟩, 38400, -36000⟩, ⟨⟨1994, 12, 31⟩, 36000, 50400⟩]

/-- Ten hours behind since 1947, half an hour more before. -/
def honolulu : Zone := changing (-37886) [
  ⟨⟨1896, 1, 13⟩, 81086, -37800⟩, ⟨⟨1933, 4, 30⟩, 45000, -34200⟩, ⟨⟨1933, 5, 21⟩, 77400, -37800⟩,
  ⟨⟨1942, 2, 9⟩, 45000, -34200⟩, ⟨⟨1945, 9, 30⟩, 41400, -37800⟩, ⟨⟨1947, 6, 8⟩, 45000, -36000⟩]

/-! ### Names -/

/-- A zone that has always been so many hours ahead of universal time. -/
def fixed (hours : Int) : Zone := changing (hours * 3600) []

/-- The name of such a zone.  The sign in it is that of the hours that the zone is behind. -/
def fixedName (hours : Int) : String :=
  "Etc/GMT" ++ (if hours < 0 then "+" else "-") ++ Text.intText hours.natAbs

/-- From twelve hours behind to fourteen hours ahead. -/
def fixedHours : List Int := (List.range 27).map fun n : Nat => (n : Int) - 12

/-- The names of universal time. -/
def universalNames : List String := [
  "UTC", "Etc/UTC", "Etc/UCT", "Etc/Universal", "Etc/Zulu", "Etc/GMT", "Etc/GMT0", "Etc/GMT+0",
  "Etc/Greenwich", "UCT", "Universal", "Zulu", "GMT", "GMT0", "GMT+0", "GMT-0", "Greenwich"]

/-- The zones that are known by name: all with one offset for ever, and those places of the world whose
changes are listed here. -/
def table : List (String × Zone) :=
  universalNames.map (fun name => (name, fixed 0)) ++
    fixedHours.map (fun hours => (fixedName hours, fixed hours)) ++ [
  ("Asia/Tokyo", tokyo),
  ("Asia/Kolkata", kolkata),
  ("Pacific/Kiritimati", kiritimati),
  ("Pacific/Honolulu", honolulu),
  ("America/New_York", easternUS)]

/-- Why a name is that of no zone. -/
inductive NameFault where
  /-- The name begins with a slash. -/
  | absolute
  /-- The name has parts that lead nowhere or back. -/
  | roundabout
  /-- The name leads out of the place where zones are kept. -/
  | outside
  | unknown
deriving DecidableEq, Repr

/-- One more part on a way of names; the parts passed so far stand in reverse. -/
def goOn (passed : List (List Char)) (part : List Char) : List (List Char) :=
  if part = [] ∨ part = ['.'] then passed
  else if part = ['.', '.'] ∧ passed ≠ [] ∧ passed.head? ≠ some ['.', '.'] then passed.drop 1
  else part :: passed

/-- The shortest way to where a name leads; a single point stands for no way at all. -/
def shortestWay (name : List Char) : List Char :=
  match (Text.pieces '/' name).foldl goOn [] with
  | [] => ['.']
  | passed => Text.joined '/' passed.reverse

/-- What is wrong with the form of a name. -/
def formFault? (name : List Char) : Option NameFault :=
  if name.head? = some '/' then some .absolute
  else if (shortestWay name).length ≠ name.length then some .roundabout
  else if !("_/".toList.isPrefixOf (shortestWay ("_/".toList ++ shortestWay name))) then some .outside
  else none

/-- The zone of a name, or the reason why there is none. -/
def ofName (name : String) : Except NameFault Zone :=
  match formFault? name.toList with
  | some fault => .error fault
  | none => match table.find? (·.1 = name) with
    | some (_, zone) => .ok zone
    | none => .error .unknown

/-! ### Clocks -/

/-- The number of the day that a month and day name in a year. -/
def dayNumber (year month day : Nat) : Int := (Civil.mk year month day).number

/-- The days on which summer time begins and ends; that of the war went on for more than three years.
Before 1967 the rules are those of New York. -/
def summerDays (year : Nat) : Option (Int × Int) :=
  let sunday := fun month day => Day.sundayFrom (dayNumber year month day)
  if 2007 ≤ year then some (sunday 3 8, sunday 11 1)
  else if 1987 ≤ year then some (sunday 4 1, sunday 10 25)
  else if year = 1975 then some (dayNumber year 2 23, sunday 10 25)
  else if year = 1974 then some (dayNumber year 1 6, sunday 10 25)
  else if 1955 ≤ year then some (sunday 4 24, sunday 10 25)
  else if 1946 ≤ year then some (sunday 4 24, sunday 9 24)
  else if 1942 ≤ year then some (dayNumber 1942 2 9, dayNumber 1945 9 30)
  else if 1921 ≤ year then some (sunday 4 24, sunday 9 24)
  else if 1918 ≤ year then some (sunday 3 25, sunday 10 25)
  else none

/-- Summer time holds at a moment: from two o'clock standard time on its first day until two o'clock
summer time on its last. -/
def isSummer (t : Instant) : Bool :=
  match t.dayAt? (-5 * 3600) with
  | none => false
  | some d => match summerDays d.civil.year with
    | none => false
    | some (first, last) =>
      let begins := (first - 1) * microsPerDay + 7 * 3600 * 1000000
      let ends := (last - 1) * microsPerDay + 6 * 3600 * 1000000
      begins ≤ t.micros && t.micros < ends

/-- The moment at which New York gave up its local mean time. -/
def standardTimeBegins : Instant := ClockChange.instant ⟨⟨1883, 11, 18⟩, 61200, -5 * 3600⟩

/-- How many seconds local clocks are ahead at a moment. -/
def offsetAt (z : Zone) (t : Instant) : Int :=
  match z with
  | changing first changes =>
    changes.foldl (fun offset c => if c.instant ≤ t then c.offset else offset) first
  | easternUS =>
    if t < standardTimeBegins then -17762 else if isSummer t then -4 * 3600 else -5 * 3600

/-- The local day at a moment, if it lies in the calendar. -/
def dayAt? (z : Zone) (t : Instant) : Option Day := t.dayAt? (z.offsetAt t)

example : formFault? "../UTC".toList = some .outside := by decide +kernel
example : (ofName "Etc/GMT-14").toOption = some (fixed 14) := by decide +kernel
example : formFault? "Asia//Tokyo".toList = some .roundabout := by decide +kernel

end Zone

end ShopTabs
