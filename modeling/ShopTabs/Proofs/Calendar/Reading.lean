import Mathlib.Algebra.Ring.Nat
import Mathlib.Data.List.TakeWhile
import ShopTabs.Proofs.Calendar.Day
import ShopTabs.Proofs.Text.Digit
/-!
Days and times that are written out and read again.  The text of a day is read as that day, and the text
of a time of the day as that time without an offset, to the microsecond.
-/

namespace ShopTabs.Calendar

open Text

theorem ok_bind {α β : Type} (a : α) (next : α → Except Fault β) :
    ((Except.ok a : Except Fault α) >>= next) = next a := rfl

theorem readMark_cons {fault : Fault} {mark : Char} (rest : List Char) :
    readMark fault mark (mark :: rest) = .ok rest := if_pos rfl

theorem readDate_text {c : Civil} (h : c.isValid = true) : readDate c.text = .ok (c, []) := by
  simp only [Civil.isValid, Bool.and_eq_true, decide_eq_true_eq] at h
  obtain ⟨⟨⟨_, hlastYear⟩, hday⟩, hlastDay⟩ := h
  obtain ⟨hlong, hmonths⟩ := Civil.monthLength_bounds c.year c.month
  obtain ⟨hmonth, hlastMonth⟩ := hmonths (by omega)
  have hyear : c.year < 10 ^ 4 := by omega
  have htwoMonth : c.month < 10 ^ 2 := by omega
  have htwoDay : c.day < 10 ^ 2 := by omega
  have hlength : 10 ≤ byteLength c.text := by
    refine Nat.le_trans (Nat.le_of_eq ?_) (length_le_byteLength c.text)
    simp only [Civil.text, List.length_append, List.length_cons, length_paddedDigits (by decide) hyear,
      length_paddedDigits (by decide) htwoMonth, length_paddedDigits (by decide) htwoDay]
  have htext : c.text = paddedDigits 4 c.year ++ ('-' :: (paddedDigits 2 c.month ++
      ('-' :: (paddedDigits 2 c.day ++ [])))) := by
    rw [Civil.text, List.append_nil, List.append_assoc, List.cons_append]
  rw [readDate, require_of_true (decide_eq_true hlength), htext]
  simp only [ok_bind, readDigits_paddedDigits (by decide) hyear,
    readDigits_paddedDigits (by decide) htwoMonth, readDigits_paddedDigits (by decide) htwoDay, readMark_cons,
    hmonth, hlastMonth, hday, hlastDay, decide_true, Bool.and_self, require, if_true]
  rfl

/-- Six digits behind the point write microseconds. -/
theorem fractionMicros_paddedDigits {n : Nat} (hn : n < 10 ^ 6) : fractionMicros (paddedDigits 6 n) = n := by
  have hlength : (paddedDigits 6 n).length = 6 := length_paddedDigits (by decide) hn
  have hall : (paddedDigits 6 n).take 6 = paddedDigits 6 n :=
    List.take_of_length_le (Nat.le_of_eq hlength)
  simp only [fractionMicros, hall, hlength, digitsToNat_paddedDigits, Nat.sub_self]
  exact Nat.mul_one n

theorem readSeconds_text {second fraction : Nat} (hsecond : second ≤ 59) (hfraction : fraction < 10 ^ 6) :
    readSeconds (':' :: (paddedDigits 2 second ++
      if fraction = 0 then [] else '.' :: paddedDigits 6 fraction)) =
      .ok (second * 1000000 + fraction, []) := by
  have htwo : second < 10 ^ 2 := by omega
  have hrange : require (decide (second ≤ 59)) .secondRange = .ok () :=
    require_of_true (decide_eq_true hsecond)
  by_cases hzero : fraction = 0
  · rw [if_pos hzero, readSeconds, readDigits_paddedDigits (by decide) htwo]
    simp only [ok_bind, hrange, hzero, Nat.add_zero]
    rfl
  · have hdigits : ∀ c ∈ paddedDigits 6 fraction, isAsciiDigit c = true :=
      fun _ => isAsciiDigit_of_mem_paddedDigits
    have hlength : (paddedDigits 6 fraction).length = 6 := length_paddedDigits (by decide) hfraction
    have hsome : (!(paddedDigits 6 fraction).isEmpty) = true := by
      cases hempty : paddedDigits 6 fraction with
      | nil => simp [hempty] at hlength
      | cons c cs => rfl
    rw [if_neg hzero, readSeconds, readDigits_paddedDigits (by decide) htwo]
    simp only [ok_bind, hrange, true_or, if_true, List.takeWhile_eq_self_iff.mpr hdigits,
      List.dropWhile_eq_nil_iff.mpr hdigits, require_of_true hsome,
      fractionMicros_paddedDigits hfraction]
    rfl

/-- The text of a time of the day is read as that time, without an offset. -/
theorem readTime_text (t : TimeOfDay) : readTime t.text = .ok (t.micros, none) := by
  have hday : t.micros < 86400000000 := t.inDay
  have hhour : t.micros / 1000000 / 3600 < 10 ^ 2 := by omega
  have hminute : t.micros / 1000000 / 60 % 60 < 10 ^ 2 := by omega
  have hlength : 5 ≤ byteLength t.text := by
    refine Nat.le_trans ?_ (length_le_byteLength t.text)
    simp only [TimeOfDay.text, List.length_append, List.length_cons,
      length_paddedDigits (by decide) hhour, length_paddedDigits (by decide) hminute]
    omega
  have htext : t.text = paddedDigits 2 (t.micros / 1000000 / 3600) ++
      (':' :: (paddedDigits 2 (t.micros / 1000000 / 60 % 60) ++
        (':' :: (paddedDigits 2 (t.micros / 1000000 % 60) ++
          if t.micros % 1000000 = 0 then [] else '.' :: paddedDigits 6 (t.micros % 1000000))))) := by
    simp only [TimeOfDay.text, List.append_assoc, List.cons_append]
  have hparts : (t.micros / 1000000 / 3600 * 3600 + t.micros / 1000000 / 60 % 60 * 60) * 1000000 +
      (t.micros / 1000000 % 60 * 1000000 + t.micros % 1000000) = t.micros := by
    omega
  have hhours : decide (t.micros / 1000000 / 3600 ≤ 23) = true := decide_eq_true (by omega)
  have hminutes : decide (t.micros / 1000000 / 60 % 60 ≤ 59) = true := decide_eq_true (by omega)
  rw [readTime, require_of_true (decide_eq_true hlength), htext]
  simp only [ok_bind, readDigits_paddedDigits (by decide) hhour, readMark_cons,
    readDigits_paddedDigits (by decide) hminute, require_of_true hhours, require_of_true hminutes,
    readSeconds_text (show t.micros / 1000000 % 60 ≤ 59 by omega)
      (show t.micros % 1000000 < 10 ^ 6 by omega), readZone, hparts]
  rfl

end ShopTabs.Calendar
