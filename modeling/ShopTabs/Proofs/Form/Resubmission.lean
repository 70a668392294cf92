import ShopTabs.Overview
import ShopTabs.Proofs.Calendar.Reading
import ShopTabs.Proofs.Form.Settings
import ShopTabs.Proofs.Number.Decimal
/-!
Kept settings that are shown and submitted again.  Every rule of the form holds of what is kept but two.
Daily times are compared as moments, with their offsets, and kept without; and an amount of many digits just
below the bound may be kept as the bound itself.  So a revision with the settings that are shown is accepted,
and gives the same settings, exactly when the kept daily end is after the kept daily start and the kept amount
has no digit too many.
-/

namespace ShopTabs

namespace TabConfig

/-- The bounds of a form's single fields, and the order of the days. -/
structure InBounds (c : KeptConfig) : Prop where
  organization : 1 ≤ c.organization.length ∧ c.organization.length ≤ 64
  displayName : 1 ≤ c.displayName.length ∧ c.displayName.length ≤ 64
  days : c.startDate ≤ c.endDate
  activeDays : 1 ≤ c.activeDays ∧ c.activeDays ≤ 127
  orderLimit : ∃ cents, c.orderLimit = .amount false cents ∧ cents ≤ 10 ^ 10
  paymentDetails : c.paymentDetails.length ≤ 512
  billingInterval : 1 ≤ c.billingInterval ∧ c.billingInterval ≤ 365

/-- The daily end is after the daily start. -/
def DailyInOrder (c : KeptConfig) : Prop := c.dailyStart.micros < c.dailyEnd.micros

instance (c : KeptConfig) : Decidable c.DailyInOrder :=
  inferInstanceAs (Decidable (c.dailyStart.micros < c.dailyEnd.micros))

/-- The amount has no more digits before the point than a form accepts. -/
def LimitFits (c : KeptConfig) : Prop := ∃ cents, c.orderLimit = .amount false cents ∧ cents < 10 ^ 10

/-- Kept settings as a submission: times without an offset, the amount with two places. -/
def written (c : KeptConfig) : SubmittedConfig :=
  { c with
    dailyStart := ⟨c.dailyStart, none⟩
    dailyEnd := ⟨c.dailyEnd, none⟩
    orderLimit := match c.orderLimit with
      | .amount negative cents => ⟨negative, cents, -2⟩
      | .boundless negative => ⟨negative, 0, 0⟩ }

/-- A revision with the settings that are shown, and nothing else. -/
def shown (c : KeptConfig) : Json := .obj (c.keptFields Money.textJson)

/-- What is submitted as it is kept is kept again. -/
theorem kept_written {c : KeptConfig} (h : c.InBounds) : c.written.kept = c := by
  obtain ⟨cents, hlimit, hsmall⟩ := h.orderLimit
  have hwritten : c.written.orderLimit = ⟨false, cents, -2⟩ := by rw [written, hlimit]
  rw [kept, hwritten, Form.ofDecimal_cents hsmall, ← hlimit]
  rfl

end TabConfig

namespace Form

open Verdict

variable {α : Type}

/-! ### Values that are written out and read -/

theorem lengthProblem?_eq_none {least most : Nat} {s : String} :
    lengthProblem? least most s = none ↔ least ≤ s.length ∧ s.length ≤ most := by
  rw [lengthProblem?]
  split
  · simp; omega
  · split
    · simp; omega
    · simp; omega

theorem text_str {least most : Nat} {s : String} (h : least ≤ s.length ∧ s.length ≤ most) :
    text least most (.str s) = .accepted s :=
  test_eq_accepted.mpr ⟨rfl, lengthProblem?_eq_none.mpr h⟩

theorem text_accepted {least most : Nat} {input : Json} {s : String}
    (h : text least most input = .accepted s) : least ≤ s.length ∧ s.length ≤ most :=
  lengthProblem?_eq_none.mp (test_eq_accepted.mp h).2

theorem oneOf_name {all : List α} {name : α → String} {a : α}
    (h : (all.find? fun b => name b = name a) = some a) : oneOf all name (.str (name a)) = .accepted a := by
  simp only [oneOf, scalar, h]

theorem integerBetween_accepted {least most n : Int} {input : Json}
    (h : integerBetween least most input = .accepted n) : least ≤ n ∧ n ≤ most := by
  have htest := (test_eq_accepted.mp h).2
  split at htest
  · cases htest
  · split at htest
    · cases htest
    · omega

theorem integerBetween_int {least most n : Int} (h : least ≤ n ∧ n ≤ most) :
    integerBetween least most (.int n) = .accepted n := by
  refine test_eq_accepted.mpr ⟨rfl, ?_⟩
  rw [if_neg (by omega), if_neg (by omega)]

theorem positiveUpTo_int {most n : Int} (h : 1 ≤ n ∧ n ≤ most) :
    positiveUpTo most (.int n) = .accepted n := by
  refine test_eq_accepted.mpr ⟨rfl, ?_⟩
  rw [if_neg (by omega), if_neg (by omega)]

/-- The text of a day is read as that day. -/
theorem day_text (d : Day) : day (.str d.text) = .accepted d := by
  have hread : readDay (.str d.text) = .ok d := by
    rw [readDay, dayOfText, Day.text, String.toList_ofList, Calendar.readDate_text d.civil_names.1]
    simp only [dayOfTimestamp, Day.ofCivil?_civil, ne_eq, not_true_eq_false, if_false]
  rw [day, scalar, hread]

/-- The text of a time of the day is read as that time without an offset. -/
theorem time_text (t : TimeOfDay) : time (.str (String.ofList t.text)) = .accepted ⟨t, none⟩ := by
  have hday : TimeOfDay.ofMicros? t.micros = some t := dif_pos t.inDay
  have hread : readTime (.str (String.ofList t.text)) = .ok ⟨t, none⟩ := by
    rw [readTime, String.toList_ofList, Calendar.readTime_text]
    simp only [hday]
  rw [time, scalar, hread]

/-- The text of a moderate amount is read as so many hundredths, unless it has a digit too many. -/
theorem amount_text (how : Decimal.Shortening) {cents : Nat} (h : cents ≤ 10 ^ 10) :
    amount how (.str (Money.amount false cents).text) =
      if cents < 10 ^ 10 then .accepted ⟨false, cents, -2⟩
      else .finding (.wholeDigits (amountDigits - amountPlaces)) (.str (Money.amount false cents).text) := by
  have hread : readDecimal (.str (Money.amount false cents).text) = .ok ⟨false, cents, -2⟩ := by
    rw [readDecimal, readDecimal.ofText, Money.text, Decimal.read_text_cents h]
  simp only [amount, scalar, hread, Verdict.test, amountProblem?_cents how h]
  by_cases hsmall : cents < 10 ^ 10
  · simp only [if_pos hsmall]
  · simp only [if_neg hsmall]

theorem field_of_get? {name : String} {read : Reader α} {record v : Json} {a : α}
    (hget : record.get? name = some v) (hread : read v = .accepted a) :
    field name read record = .accepted a := by
  rw [field, hget]
  exact under_eq_accepted.mpr hread

theorem fieldOr_of_get? {name : String} {standing : α} {read : Reader α} {record v : Json} {a : α}
    (hget : record.get? name = some v) (hread : read v = .accepted a) :
    fieldOr name standing read record = .accepted a := by
  rw [fieldOr, hget]
  exact under_eq_accepted.mpr hread

/-! ### Settings that are shown -/

section Shown

variable {c : KeptConfig}

variable (how : Decimal.Shortening)

/-- Of the twelve settings that are shown each is in order but perhaps the amount. -/
theorem config_shown (h : c.InBounds) :
    config how c.shown =
      (fun limit => { c.written with orderLimit := limit }) <$>
        field "dollar_limit_per_order" (amount how) c.shown := by
  have hpayment : (PaymentMethod.all.find? fun m => m.name = c.paymentMethod.name) =
      some c.paymentMethod := by cases c.paymentMethod <;> decide
  have hverification : (VerificationMethod.all.find? fun m => m.name = c.verificationMethod.name) =
      some c.verificationMethod := by cases c.verificationMethod <;> decide
  unfold config
  rw [field_of_get? rfl (oneOf_name hpayment), field_of_get? rfl (text_str h.organization),
    field_of_get? rfl (text_str h.displayName), field_of_get? rfl (day_text c.startDate),
    field_of_get? rfl (day_text c.endDate), field_of_get? rfl (time_text c.dailyStart),
    field_of_get? rfl (time_text c.dailyEnd), field_of_get? rfl (integerBetween_int h.activeDays),
    field_of_get? rfl (oneOf_name hverification),
    fieldOr_of_get? rfl (text_str ⟨Nat.zero_le _, h.paymentDetails⟩),
    field_of_get? rfl (positiveUpTo_int h.billingInterval)]
  cases field "dollar_limit_per_order" (amount how) c.shown <;> rfl

/-- The amount that is shown is in order if it has no digit too many. -/
theorem limit_shown (h : c.LimitFits) :
    field "dollar_limit_per_order" (amount how) c.shown = .accepted c.written.orderLimit := by
  obtain ⟨cents, hlimit, hsmall⟩ := h
  have hread := amount_text how (Nat.le_of_lt hsmall)
  rw [if_pos hsmall, ← hlimit] at hread
  rw [field_of_get? rfl hread, TabConfig.written, hlimit]

/-- Otherwise it is refused, on account of that digit. -/
theorem limit_refused (h : c.InBounds) (hnot : ¬ c.LimitFits) :
    field "dollar_limit_per_order" (amount how) c.shown =
      .refused ⟨[.field "dollar_limit_per_order"], .wholeDigits (amountDigits - amountPlaces),
        .str c.orderLimit.text⟩ [] := by
  obtain ⟨cents, hlimit, hbound⟩ := h.orderLimit
  have hlarge : ¬ cents < 10 ^ 10 := fun hsmall => hnot ⟨cents, hlimit, hsmall⟩
  have hread := amount_text how hbound
  rw [if_neg hlarge, ← hlimit] at hread
  show (amount how (.str c.orderLimit.text)).under (.field "dollar_limit_per_order") = _
  rw [hread]
  rfl

/-- Of settings that are written out again the order of the daily times is all that may be amiss. -/
theorem checkRanges_written (h : c.InBounds) (input : Json) :
    checkRanges c.written input =
      if c.DailyInOrder then .ok () else .error (.findings ⟨[], .endTimeNotAfterStart, input⟩ []) := by
  have hdays : ¬ c.written.endDate < c.written.startDate := by
    rw [← Day.not_le, not_not]
    exact h.days
  have hafter : OffsetTime.isAfter? c.written.dailyEnd c.written.dailyStart =
      some (decide c.DailyInOrder) := rfl
  rw [checkRanges, if_neg hdays, hafter]
  by_cases horder : c.DailyInOrder
  · rw [if_pos horder, decide_eq_true horder]
  · rw [if_neg horder, decide_eq_false horder]

/-- The fields of a revision with the settings that are shown, and nothing else, are these settings. -/
theorem Revision.fields_shown (h : c.InBounds) :
    Revision.fields how c.shown =
      (fun limit => Revision.mk { c.written with orderLimit := limit } none none) <$>
        field "dollar_limit_per_order" (amount how) c.shown := by
  show Revision.mk <$> Form.config how c.shown
    <*> fieldOr "verification_list" none (nullable (listOf email)) c.shown
    <*> fieldOr "location_ids" none (nullable (listOf integer)) c.shown = _
  rw [config_shown how h]
  cases field "dollar_limit_per_order" (amount how) c.shown <;> rfl

/-- A revision with the settings that are shown, whose amount has no digit too many, is accepted, with these
settings, where the daily times are in order, and refused on their account where they are not. -/
theorem Revision.read_shown (h : c.InBounds) (hfits : c.LimitFits) :
    Revision.read how c.shown =
      if c.DailyInOrder then .ok ⟨c.written, none, none⟩
      else .error (.findings ⟨[], .endTimeNotAfterStart, c.shown⟩ []) := by
  have hform := Revision.fields_shown how h
  rw [limit_shown how hfits] at hform
  rw [Revision.read, hform]
  by_cases horder : c.DailyInOrder
  · rw [if_pos horder]
    exact congrArg (fun ranges => ranges >>= fun _ => pure (Revision.mk c.written none none))
      ((checkRanges_written h c.shown).trans (if_pos horder))
  · rw [if_neg horder]
    exact congrArg (fun ranges => ranges >>= fun _ => pure (Revision.mk c.written none none))
      ((checkRanges_written h c.shown).trans (if_neg horder))

/-- One whose amount has a digit too many is refused on its account alone. -/
theorem Revision.read_shown_refused (h : c.InBounds) (hnot : ¬ c.LimitFits) :
    Revision.read how c.shown =
      .error (.findings ⟨[.field "dollar_limit_per_order"], .wholeDigits (amountDigits - amountPlaces),
        .str c.orderLimit.text⟩ []) := by
  have hform := Revision.fields_shown how h
  rw [limit_refused how h hnot] at hform
  rw [Revision.read, hform]
  rfl

end Shown

/-! ### Settings that were submitted -/

namespace IsSubmitted

variable {c : SubmittedConfig}

/-- What is kept of submitted settings is within the bounds of the form. -/
theorem inBounds (h : IsSubmitted c) : c.kept.InBounds := by
  obtain ⟨_, _, hconfig, hranges⟩ := h
  obtain ⟨_, horganization, hname, _, _, _, _, hactive, hlimit, _, hdetails, hinterval⟩ :=
    config_eq_accepted.mp hconfig
  obtain ⟨_, horganization⟩ := field_accepted horganization
  obtain ⟨_, hname⟩ := field_accepted hname
  obtain ⟨_, hactive⟩ := field_accepted hactive
  obtain ⟨_, hlimit⟩ := field_accepted hlimit
  obtain ⟨cents, hkept, _, hcents⟩ := kept_cents (test_eq_accepted.mp hlimit).2
  obtain ⟨_, hinterval⟩ := field_accepted hinterval
  refine ⟨text_accepted horganization, text_accepted hname, checkRanges_days hranges,
    integerBetween_accepted hactive, ⟨cents, hkept, hcents⟩, ?_,
    positiveUpTo_accepted hinterval⟩
  show c.paymentDetails.length ≤ 512
  rcases fieldOr_accepted hdetails with hnone | ⟨_, hread⟩
  · rw [hnone]
    decide
  · exact (text_accepted hread).2

/-- The kept amount has a digit too many only if decimal arithmetic may have rounded it. -/
theorem limitFits (h : IsSubmitted c) (hdigits : c.orderLimit.trimmed.extent.digits ≤ Decimal.precision) :
    c.kept.LimitFits := by
  obtain ⟨_, _, hconfig, _⟩ := h
  obtain ⟨_, _, _, _, _, _, _, _, hlimit, _⟩ := config_eq_accepted.mp hconfig
  obtain ⟨_, hread⟩ := field_accepted hlimit
  exact kept_cents_lt (test_eq_accepted.mp hread).2 hdigits

/-- Without their offsets the daily times stay in order, unless the start is further ahead of universal time
than the end. -/
theorem dailyInOrder (h : IsSubmitted c)
    (hoffsets : ∀ x ∈ c.dailyStart.offset, ∀ y ∈ c.dailyEnd.offset, x ≤ y) : c.kept.DailyInOrder := by
  obtain ⟨_, _, _, hranges⟩ := h
  have hafter : OffsetTime.isAfter? c.dailyEnd c.dailyStart = some true := by
    rw [checkRanges] at hranges
    split at hranges
    · cases hranges
    split at hranges
    · cases hranges
    · cases hranges
    · assumption
  show c.dailyStart.time.micros < c.dailyEnd.time.micros
  rw [OffsetTime.isAfter?] at hafter
  split at hafter
  · simpa using hafter
  · next y x hend hstart =>
      have hle := hoffsets x hstart y hend
      simp only [Option.some.injEq, decide_eq_true_eq] at hafter
      omega
  · cases hafter

end IsSubmitted

end Form

end ShopTabs
