import Mathlib.Data.List.TakeWhile
import Mathlib.Tactic.IntervalCases
import Mathlib.Tactic.Linarith
import ShopTabs.Proofs.Form.Amount
import ShopTabs.Proofs.Text.Digit
/-!
Amounts of money that are written out and read again.  A number of cents is written with two places, and
its text is read as the same number of hundredths.
-/

namespace ShopTabs

open Text

namespace Text

/-- The ten digits of ASCII. -/
theorem mem_of_isAsciiDigit {c : Char} (h : isAsciiDigit c = true) :
    c ∈ ['0', '1', '2', '3', '4', '5', '6', '7', '8', '9'] := by
  simp only [isAsciiDigit, Bool.and_eq_true, decide_eq_true_eq] at h
  have hchar : c = Char.ofNat c.toNat := (Char.ofNat_toNat c).symm
  rw [hchar]
  obtain ⟨hlow, hhigh⟩ := h
  generalize c.toNat = n at hlow hhigh
  interval_cases n <;> decide

theorem trim_eq_self {p : Char → Bool} {cs : List Char} (h : ∀ c ∈ cs, p c = false) : trim p cs = cs := by
  have hkeep : ∀ ds : List Char, (∀ c ∈ ds, p c = false) → ds.dropWhile p = ds := by
    intro ds hds
    cases ds with
    | nil => rfl
    | cons d rest => exact List.dropWhile_cons_of_neg (by simp [hds d List.mem_cons_self])
  rw [trim, hkeep cs h, hkeep cs.reverse fun c hc => h c (List.mem_reverse.mp hc), List.reverse_reverse]

end Text

namespace Decimal

/-- A character of a number that is written with a point. -/
def IsPlain (c : Char) : Prop := isAsciiDigit c = true ∨ c = '.'

/-- What holds of the ten digits and the point holds of every such character. -/
theorem IsPlain.of_all {c : Char} (h : IsPlain c) {p : Char → Bool}
    (hall : ['0', '1', '2', '3', '4', '5', '6', '7', '8', '9', '.'].all p = true) : p c = true := by
  refine List.all_eq_true.mp hall c ?_
  rcases h with hdigit | rfl
  · exact List.mem_append_left ['.'] (mem_of_isAsciiDigit hdigit)
  · decide

/-- A text of digits and a point is plain already. -/
theorem plainText_eq_self {cs : List Char} (h : ∀ c ∈ cs, IsPlain c) : plainText cs = cs := by
  have hblank : ∀ c ∈ cs, isBlank c = false := by
    intro c hc
    simpa using (h c hc).of_all (p := fun c => !isBlank c) (by decide)
  have hmark : ∀ c ∈ cs, decide (c ≠ '_') = true :=
    fun c hc => (h c hc).of_all (p := fun c => c ≠ '_') (by decide)
  have hfilter : cs.filter (· ≠ '_') = cs := by
    rw [List.filter_eq_self]
    exact hmark
  rw [plainText, trim_eq_self hblank, hfilter]
  conv_rhs => rw [← List.map_id cs]
  apply List.map_congr_left
  intro c hc
  have hdigit := (h c hc).of_all (p := fun c => (digitValue? c).all fun v => Char.ofNat (0x30 + v) = c)
    (by decide)
  cases hvalue : digitValue? c with
  | none => rfl
  | some v => simpa [hvalue] using hdigit

/-- A text that begins with a digit spells no infinity. -/
theorem spellsNotFinite_cons {c : Char} (h : isAsciiDigit c = true) (cs : List Char) :
    spellsNotFinite ((c :: cs).map Char.toLower) = false := by
  have hplain : IsPlain c := .inl h
  obtain ⟨hi, hn, hs⟩ : c.toLower ≠ 'i' ∧ c.toLower ≠ 'n' ∧ c.toLower ≠ 's' :=
    of_decide_eq_true (hplain.of_all (p := fun c => c.toLower ≠ 'i' ∧ c.toLower ≠ 'n' ∧
      c.toLower ≠ 's') (by decide))
  rw [List.map_cons]
  generalize c.toLower = d at hi hn hs
  simp [spellsNotFinite, hi, hn, hs]

/-- Cents are written in digits, of which two stand behind the point. -/
theorem text_cents (cents : Nat) : ∃ whole fraction : List Char,
    (Decimal.mk false cents (-2)).text.toList = whole ++ '.' :: fraction ∧ whole ≠ [] ∧
      fraction.length = 2 ∧ (∀ c ∈ whole ++ fraction, isAsciiDigit c = true) ∧
      digitsToNat (whole ++ fraction) = cents := by
  have hpos : 0 < (natDigits cents).length := List.length_pos_of_ne_nil (natDigits_ne_nil cents)
  have hleft : (-2 : Int) ≤ 0 ∧ -6 < -2 + ((natDigits cents).length : Int) := by omega
  simp only [text, if_pos hleft, sub_self, if_true, Bool.false_eq_true, if_false, List.nil_append,
    List.append_nil, String.toList_ofList]
  by_cases hshort : (natDigits cents).length ≤ 2
  · refine ⟨['0'], List.replicate (2 - (natDigits cents).length) '0' ++ natDigits cents, ?_, by simp, ?_,
      ?_, ?_⟩
    · rw [if_pos (by omega), show (-(-2 + ((natDigits cents).length : Int))).toNat =
        2 - (natDigits cents).length by omega]
      rfl
    · rw [List.length_append, List.length_replicate]
      omega
    · intro c hc
      rcases List.mem_cons.mp hc with rfl | hc
      · decide
      · exact isAsciiDigit_of_mem_paddedDigits hc
    · rw [← List.replicate_one, digitsToNat_replicate_append, digitsToNat_replicate_append,
        digitsToNat_natDigits]
  · have hpoint : (-2 + ((natDigits cents).length : Int)).toNat = (natDigits cents).length - 2 := by omega
    refine ⟨(natDigits cents).take ((natDigits cents).length - 2),
      (natDigits cents).drop ((natDigits cents).length - 2), ?_, ?_, ?_, ?_, ?_⟩
    · rw [if_neg (by omega), hpoint, if_neg (by omega)]
    · apply List.ne_nil_of_length_pos
      rw [List.length_take]
      omega
    · rw [List.length_drop]
      omega
    · rw [List.take_append_drop]
      exact fun _ => isAsciiDigit_of_mem_natDigits
    · rw [List.take_append_drop, digitsToNat_natDigits]

/-- Digits with a point among them are read as the number that they write. -/
theorem read_digits {whole fraction : List Char} (hwhole : whole ≠ [])
    (hdigits : ∀ c ∈ whole ++ fraction, isAsciiDigit c = true)
    (hrange : (Decimal.mk false (digitsToNat (whole ++ fraction)) (0 - fraction.length)).inRange = true) :
    read (whole ++ '.' :: fraction) =
      .number ⟨false, digitsToNat (whole ++ fraction), 0 - fraction.length⟩ := by
  have hplain : plainText (whole ++ '.' :: fraction) = whole ++ '.' :: fraction := by
    apply plainText_eq_self
    intro c hc
    rcases List.mem_append.mp hc with hc | hc
    · exact Or.inl (hdigits c (List.mem_append_left _ hc))
    · rcases List.mem_cons.mp hc with rfl | hc
      · exact Or.inr rfl
      · exact Or.inl (hdigits c (List.mem_append_right _ hc))
  have hleft : ∀ c ∈ whole, isAsciiDigit c = true := fun c hc => hdigits c (List.mem_append_left _ hc)
  have hright : ∀ c ∈ fraction, isAsciiDigit c = true := fun c hc => hdigits c (List.mem_append_right _ hc)
  have hunsigned : readUnsigned false (whole ++ '.' :: fraction) =
      .number ⟨false, digitsToNat (whole ++ fraction), 0 - fraction.length⟩ := by
    have hempty : whole.isEmpty = false := by simpa using hwhole
    have hpoint : isAsciiDigit '.' = false := by decide
    simp only [readUnsigned, List.takeWhile_append_of_pos hleft, List.dropWhile_append_of_pos hleft,
      List.takeWhile_cons, List.dropWhile_cons, hpoint, Bool.false_eq_true, if_false, List.append_nil,
      List.takeWhile_eq_self_iff.mpr hright, List.dropWhile_eq_nil_iff.mpr hright, hempty, Bool.false_and,
      readExponent, hrange, if_true]
  cases whole with
  | nil => exact absurd rfl hwhole
  | cons c rest =>
      have hc := hleft c List.mem_cons_self
      have hsign : c ≠ '-' ∧ c ≠ '+' := by
        constructor <;> rintro rfl <;> exact absurd hc (by decide)
      rw [read, hplain]
      split
      next negative body hbody =>
        split at hbody
        · next heq => exact absurd (List.cons.inj heq).1 hsign.1
        · next heq => exact absurd (List.cons.inj heq).1 hsign.2
        · cases hbody
          rw [List.cons_append, spellsNotFinite_cons hc, ← List.cons_append]
          exact hunsigned

/-- A moderate number of cents that is written out is read as the same number of hundredths. -/
theorem read_text_cents {cents : Nat} (h : cents ≤ 10 ^ 10) :
    read (Decimal.mk false cents (-2)).text.toList = .number ⟨false, cents, -2⟩ := by
  obtain ⟨whole, fraction, htext, hwhole, htwo, hdigits, hvalue⟩ := text_cents cents
  have hrange : (Decimal.mk false cents (-2)).inRange = true := by
    have hcount : digitCount cents ≤ 11 := (digitCount_le_iff (by decide)).mpr (by omega)
    have hlargest : largestPower = 999999999999999999 := rfl
    have hsmallest : smallestPower = -1999999999999999997 := rfl
    simp only [inRange, Bool.and_eq_true, decide_eq_true_eq]
    omega
  have hpower : (0 : Int) - fraction.length = -2 := by omega
  have hread := read_digits hwhole hdigits (by rw [hvalue, hpower]; exact hrange)
  rw [htext, hread, hvalue, hpower]

end Decimal

namespace Form

open Decimal

section Cents

variable {cents : Nat}

/-- A moderate number of hundredths is an amount, but for a digit too many before the point at the bound. -/
theorem amountProblem?_cents (how : Shortening) (h : cents ≤ 10 ^ 10) :
    amountProblem? how ⟨false, cents, -2⟩ =
      if cents < 10 ^ 10 then none else some (.wholeDigits (amountDigits - amountPlaces)) := by
  have hextent : (Decimal.mk false cents (-2)).extent = ⟨max (digitCount cents) 2, 2⟩ := rfl
  by_cases hsmall : cents < 10 ^ 10
  · have hcount : digitCount cents ≤ 10 := (digitCount_le_iff (by decide)).mpr hsmall
    rw [if_pos hsmall, amountProblem?_eq_none]
    refine ⟨exceeds_eq_false.mpr (Or.inl ?_), exceeds_eq_false.mpr (Or.inl ?_),
      exceeds_eq_false.mpr (Or.inl ?_), rfl⟩
    · exact hextent ▸ max_le hcount (by decide)
    · exact hextent ▸ Nat.le_refl 2
    · show max (digitCount cents) 2 - 2 ≤ 8
      omega
  · have hbound : cents = 10 ^ 10 := by omega
    have hshort : (Decimal.mk false (10 ^ 10) (-2)).shortForm how = ⟨false, 1, 8⟩ := by
      cases how <;> decide
    rw [if_neg hsmall, hbound]
    simp only [amountProblem?, exceeds, hshort]
    decide

/-- A moderate number of hundredths is kept as so many cents. -/
theorem ofDecimal_cents (h : cents ≤ 10 ^ 10) : Money.ofDecimal ⟨false, cents, -2⟩ = .amount false cents := by
  refine Money.ofDecimal_of_near rfl h ?_
  have hsame : 100 * (Decimal.mk false cents (-2)).size = cents := by
    rw [size]
    norm_num
    ring
  rw [hsame, sub_self, abs_zero]
  norm_num

end Cents

end Form

end ShopTabs
