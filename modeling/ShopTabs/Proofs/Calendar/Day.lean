import Mathlib.Algebra.Ring.Nat
import Mathlib.Order.Monotone.Basic
import ShopTabs.Calendar.Day
/-!
Days and the triples that name them.  The year, the month and the day of the month that are computed from
the number of a day name that day, for all days of the calendar.
-/

namespace ShopTabs

namespace Civil

theorem daysBeforeYear_succ (m : Nat) :
    daysBeforeYear (m + 1) = m * 365 + m / 4 - m / 100 + m / 400 := rfl

/-- Between the first days of two years lie the days of a common year or of a leap year. -/
theorem daysBeforeYear_add (m : Nat) :
    daysBeforeYear (m + 2) = daysBeforeYear (m + 1) + if isLeap (m + 1) then 366 else 365 := by
  have hquarters : m / 100 ≤ m / 4 := Nat.div_le_div_left (by decide) (by decide)
  have hfour : (m + 1) / 4 = m / 4 + if (m + 1) % 4 = 0 then 1 else 0 := by
    rw [Nat.succ_div]
    simp only [Nat.dvd_iff_mod_eq_zero]
  have hhundred : (m + 1) / 100 = m / 100 + if (m + 1) % 100 = 0 then 1 else 0 := by
    rw [Nat.succ_div]
    simp only [Nat.dvd_iff_mod_eq_zero]
  have hcycle : (m + 1) / 400 = m / 400 + if (m + 1) % 400 = 0 then 1 else 0 := by
    rw [Nat.succ_div]
    simp only [Nat.dvd_iff_mod_eq_zero]
  have hcentury : (m + 1) % 100 = 0 → (m + 1) % 4 = 0 := by omega
  have hera : (m + 1) % 400 = 0 → (m + 1) % 100 = 0 := by omega
  rw [daysBeforeYear_succ, daysBeforeYear_succ, hfour, hhundred, hcycle]
  generalize m / 4 = quarters at *
  generalize m / 100 = hundreds at *
  by_cases h4 : (m + 1) % 4 = 0
  · by_cases h100 : (m + 1) % 100 = 0
    · by_cases h400 : (m + 1) % 400 = 0
      · simp [isLeap, h4, h100, h400]
        omega
      · simp [isLeap, h4, h100, h400]
        omega
    · have h400 : (m + 1) % 400 ≠ 0 := fun h => h100 (hera h)
      simp [isLeap, h4, h100, h400]
      omega
  · have h100 : (m + 1) % 100 ≠ 0 := fun h => h4 (hcentury h)
    have h400 : (m + 1) % 400 ≠ 0 := fun h => h100 (hera h)
    simp [isLeap, h4, h100, h400]
    omega

theorem daysBeforeYear_mono {m n : Nat} (h : m ≤ n) : daysBeforeYear m ≤ daysBeforeYear n := by
  refine monotone_nat_of_le_succ (f := daysBeforeYear) (fun k => ?_) h
  cases k with
  | zero => decide
  | succ k =>
      rw [daysBeforeYear_add]
      exact Nat.le_add_right _ _

theorem sum_monthLengths (year : Nat) :
    (monthLengths year).sum = if isLeap year then 366 else 365 := by
  unfold monthLengths
  cases isLeap year <;> decide

/-- No month is longer than 31 days, and only the twelve months have any. -/
theorem monthLength_bounds (year month : Nat) :
    monthLength year month ≤ 31 ∧ (0 < monthLength year month → 1 ≤ month ∧ month ≤ 12) := by
  have hlengths : ∀ length ∈ monthLengths year, length ≤ 31 := by
    unfold monthLengths
    cases isLeap year <;> decide
  rw [monthLength]
  split
  · simp
  · next hmonth =>
      cases hfound : (monthLengths year)[month - 1]? with
      | none => simp
      | some length =>
          obtain ⟨hbefore, _⟩ := List.getElem?_eq_some_iff.mp hfound
          have htwelve : (monthLengths year).length = 12 := rfl
          exact ⟨hlengths length (List.mem_of_getElem? hfound), fun _ => by omega⟩

end Civil

namespace Day

open Civil

/-- The year of a day begins by that day and ends after it. -/
theorem daysBeforeYear_yearOf (n : Nat) :
    ∃ m, yearOf n = m + 1 ∧ daysBeforeYear (m + 1) ≤ n ∧ n < daysBeforeYear (m + 2) := by
  have hguess : n * 400 / 146097 * 146097 ≤ n * 400 ∧ n * 400 < (n * 400 / 146097 + 1) * 146097 := by
    omega
  rw [yearOf]
  generalize n * 400 / 146097 = m at hguess
  obtain ⟨hlow, hhigh⟩ := hguess
  by_cases hlater : daysBeforeYear (m + 1 + 1) ≤ n
  · refine ⟨m + 1, if_pos hlater, hlater, ?_⟩
    rw [daysBeforeYear_succ]
    omega
  · rw [if_neg hlater]
    by_cases hearlier : n < daysBeforeYear (m + 1)
    · cases m with
      | zero => simp [daysBeforeYear] at hearlier
      | succ k =>
          refine ⟨k, if_pos hearlier, ?_, hearlier⟩
          rw [daysBeforeYear_succ]
          omega
    · exact ⟨m, if_neg hearlier, Nat.not_lt.mp hearlier, Nat.not_le.mp hlater⟩

/-- Month and day of the month count the days of the months before it and those of its own. -/
theorem monthAndDay_eq {lengths : List Nat} {n : Nat} (h : n < lengths.sum) (first : Nat) :
    ∃ i day, i < lengths.length ∧ monthAndDay lengths first n = (first + i, day) ∧ 1 ≤ day ∧
      day ≤ (lengths[i]?).getD 0 ∧ (lengths.take i).sum + day = n + 1 := by
  induction lengths generalizing first n with
  | nil => simp at h
  | cons length rest ih =>
      rw [List.sum_cons] at h
      by_cases hin : n < length
      · refine ⟨0, n + 1, by simp, ?_, by omega, hin, ?_⟩
        · rw [monthAndDay, if_pos hin]
          rfl
        · simp
      · have hrest : n - length < rest.sum := by omega
        obtain ⟨i, day, hi, hfound, hpos, hle, hcount⟩ := ih hrest (first + 1)
        refine ⟨i + 1, day, by simpa using hi, ?_, hpos, by simpa using hle, ?_⟩
        · rw [monthAndDay, if_neg hin, hfound, Nat.add_right_comm, Nat.add_assoc]
        · rw [List.take_succ_cons, List.sum_cons]
          omega

theorem daysBeforeMonth_succ (year i : Nat) :
    daysBeforeMonth year (1 + i) = ((monthLengths year).take i).sum := by
  rw [daysBeforeMonth, Nat.add_sub_cancel_left, List.sum_eq_foldl]

/-- The triple of a day names it. -/
theorem civil_names (d : Day) : d.civil.isValid = true ∧ (d.civil.number : Int) = d.number := by
  obtain ⟨hlow, hhigh⟩ := d.inCalendar
  obtain ⟨m, hyear, hbegun, hends⟩ := daysBeforeYear_yearOf (d.number - 1).toNat
  have hshort : (d.number - 1).toNat - daysBeforeYear (m + 1) < (monthLengths (m + 1)).sum := by
    rw [daysBeforeYear_add] at hends
    rw [sum_monthLengths]
    omega
  obtain ⟨i, day, hi, hmonth, hpos, hle, hcount⟩ := monthAndDay_eq hshort 1
  have hcivil : d.civil = ⟨m + 1, 1 + i, day⟩ := by
    simp only [civil, hyear, hmonth]
  have hlast : m + 1 ≤ 9999 := by
    rw [daysBeforeYear_succ] at hbegun
    omega
  have hmonthLength : monthLength (m + 1) (1 + i) = ((monthLengths (m + 1))[i]?).getD 0 := by
    rw [monthLength, if_neg (by omega), Nat.add_sub_cancel_left]
  rw [hcivil]
  constructor
  · simp only [isValid, hmonthLength, Bool.and_eq_true, decide_eq_true_eq]
    omega
  · have hnumber : Civil.number ⟨m + 1, 1 + i, day⟩ =
        daysBeforeYear (m + 1) + daysBeforeMonth (m + 1) (1 + i) + day := rfl
    rw [hnumber, daysBeforeMonth_succ]
    omega

theorem ofCivil?_civil (d : Day) : ofCivil? d.civil = some d := by
  obtain ⟨hvalid, hnumber⟩ := civil_names d
  rw [ofCivil?, if_pos hvalid, hnumber, ofNumber?_eq_some]

/-- A day comes after the last one of the year before its own, and not after the last one of its own. -/
theorem year_bounds (d : Day) :
    (daysBeforeYear d.civil.year : Int) < d.number ∧ d.number ≤ daysBeforeYear (d.civil.year + 1) := by
  have hcalendar := d.inCalendar
  obtain ⟨m, hyear, hbegun, hends⟩ := daysBeforeYear_yearOf (d.number - 1).toNat
  have hcivil : d.civil.year = m + 1 := hyear
  have hafter : d.number ≤ daysBeforeYear (m + 2) := by omega
  rw [hcivil]
  exact ⟨by omega, hafter⟩

theorem year_le_of_lt {d : Day} {year : Nat} (h : d.number ≤ daysBeforeYear (year + 1)) :
    d.civil.year ≤ year := by
  by_contra hnot
  have hlater : daysBeforeYear (year + 1) ≤ daysBeforeYear d.civil.year :=
    daysBeforeYear_mono (Nat.not_le.mp hnot)
  have hbegun := d.year_bounds.1
  omega

theorem le_year_of_lt {d : Day} {year : Nat} (h : (daysBeforeYear year : Int) < d.number) :
    year ≤ d.civil.year := by
  by_contra hnot
  have hearlier : daysBeforeYear (d.civil.year + 1) ≤ daysBeforeYear year :=
    daysBeforeYear_mono (Nat.not_le.mp hnot)
  have hends := d.year_bounds.2
  omega

theorem year_mono {d e : Day} (h : d ≤ e) : d.civil.year ≤ e.civil.year :=
  le_year_of_lt (Int.lt_of_lt_of_le d.year_bounds.1 h)

theorem sundayFrom_bounds (n : Int) : n ≤ sundayFrom n ∧ sundayFrom n ≤ n + 6 := by
  unfold sundayFrom
  omega

end Day

end ShopTabs
