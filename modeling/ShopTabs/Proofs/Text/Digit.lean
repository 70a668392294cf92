import Mathlib.Algebra.Ring.Nat
import ShopTabs.Calendar.Reading
/-!
Numbers that are written in digits and read again.  The digits of a number, filled up with zeros or not,
write that number, and a reader that takes so many digits off a text takes exactly them.
-/

namespace ShopTabs

namespace Text

theorem isAsciiDigit_of_isDigit {c : Char} (h : c.isDigit = true) : isAsciiDigit c = true := by
  simp only [Char.isDigit, Bool.and_eq_true, decide_eq_true_eq, UInt32.le_iff_toNat_le] at h
  simp only [isAsciiDigit, Bool.and_eq_true, decide_eq_true_eq]
  exact h

theorem isAsciiDigit_of_mem_natDigits {n : Nat} {c : Char} (h : c ∈ natDigits n) :
    isAsciiDigit c = true :=
  isAsciiDigit_of_isDigit (Nat.isDigit_of_mem_toDigits (by decide) (by decide) h)

theorem natDigits_ne_nil (n : Nat) : natDigits n ≠ [] :=
  List.ne_nil_of_length_pos Nat.length_toDigits_pos

/-- The digits of a number write it. -/
theorem digitsToNat_natDigits (n : Nat) : digitsToNat (natDigits n) = n :=
  Nat.ofDigitChars_toDigits (by decide) (by decide)

/-- Zeros in front of digits do not count. -/
theorem digitsToNat_replicate_append (k : Nat) (ds : List Char) :
    digitsToNat (List.replicate k '0' ++ ds) = digitsToNat ds := by
  induction k with
  | zero => rfl
  | succ k ih =>
      rw [List.replicate_succ, List.cons_append]
      exact ih

section Padded

variable {width n : Nat}

theorem isAsciiDigit_of_mem_paddedDigits {c : Char} (h : c ∈ paddedDigits width n) :
    isAsciiDigit c = true := by
  rcases List.mem_append.mp h with hzero | hdigit
  · rw [(List.mem_replicate.mp hzero).2]
    decide
  · exact isAsciiDigit_of_mem_natDigits hdigit

theorem digitsToNat_paddedDigits : digitsToNat (paddedDigits width n) = n := by
  rw [paddedDigits, digitsToNat_replicate_append, digitsToNat_natDigits]

/-- A number that is small enough fills exactly the width. -/
theorem length_paddedDigits (hwidth : 0 < width) (hn : n < 10 ^ width) :
    (paddedDigits width n).length = width := by
  have hlength : (natDigits n).length ≤ width :=
    (Nat.length_toDigits_le_iff (by decide) hwidth).mpr hn
  rw [paddedDigits, List.length_append, List.length_replicate]
  omega

end Padded

end Text

namespace Calendar

open Text

/-- Every character takes at least one byte. -/
theorem length_le_byteLength (cs : List Char) : cs.length ≤ byteLength cs := by
  have hfrom : ∀ (cs : List Char) (n : Nat),
      n + cs.length ≤ cs.foldl (fun n c => n + c.utf8Size) n := by
    intro cs
    induction cs with
    | nil =>
        intro n
        exact Nat.le_refl n
    | cons c rest ih =>
        intro n
        have hrest := ih (n + c.utf8Size)
        have hpos := c.utf8Size_pos
        rw [List.length_cons, List.foldl_cons]
        omega
  have hcs := hfrom cs 0
  rw [Nat.zero_add] at hcs
  exact hcs

theorem require_of_true {condition : Bool} {fault : Fault} (h : condition = true) :
    require condition fault = .ok () := if_pos h

/-- Digits are read onto a number, and what stands behind them is left. -/
theorem readDigits_append (fault : Fault) {ds : List Char} (hds : ∀ c ∈ ds, isAsciiDigit c = true)
    (n : Nat) (rest : List Char) :
    readDigits fault ds.length n (ds ++ rest) =
      .ok (ds.foldl (fun n c => 10 * n + (c.toNat - 0x30)) n, rest) := by
  induction ds generalizing n with
  | nil => rfl
  | cons c ds ih =>
      have hc := hds c List.mem_cons_self
      rw [List.length_cons, List.cons_append, readDigits, if_pos hc, List.foldl_cons]
      exact ih (fun d hd => hds d (List.mem_cons_of_mem c hd)) _

theorem readDigits_paddedDigits {fault : Fault} {width n : Nat} (hwidth : 0 < width)
    (hn : n < 10 ^ width) (rest : List Char) :
    readDigits fault width 0 (paddedDigits width n ++ rest) = .ok (n, rest) := by
  have hdigits : ∀ c ∈ paddedDigits width n, isAsciiDigit c = true :=
    fun _ => isAsciiDigit_of_mem_paddedDigits
  have hread := readDigits_append fault hdigits 0 rest
  rw [length_paddedDigits hwidth hn] at hread
  rw [hread]
  exact congrArg (fun m => Except.ok (m, rest)) digitsToNat_paddedDigits

end Calendar

end ShopTabs
