import ShopTabs.Form.Tab
/-!
What accepted forms are like.  A verdict accepts exactly when every part of it does, so the rules of
single fields are read off the form as a whole.
-/

namespace ShopTabs.Form

namespace Verdict

variable {α β : Type}

theorem seq_eq_accepted {f : Verdict (α → β)} {x : Verdict α} {b : β} :
    f <*> x = .accepted b ↔ ∃ g a, f = .accepted g ∧ x = .accepted a ∧ g a = b := by
  change Verdict.seq f x = .accepted b ↔ _
  cases f with
  | refused p ps => cases x <;> simp [Verdict.seq]
  | accepted g => cases x <;> simp [Verdict.seq]

theorem map_eq_accepted {g : α → β} {x : Verdict α} {b : β} :
    g <$> x = .accepted b ↔ ∃ a, x = .accepted a ∧ g a = b := by
  change Verdict.seq (.accepted g) x = .accepted b ↔ _
  cases x <;> simp [Verdict.seq]

theorem under_eq_accepted {v : Verdict α} {step : Step} {a : α} :
    v.under step = .accepted a ↔ v = .accepted a := by
  cases v <;> simp [Verdict.under]

theorem test_eq_accepted {v : Verdict α} {input : Json} {problem? : α → Option Problem} {a : α} :
    v.test input problem? = .accepted a ↔ v = .accepted a ∧ problem? a = none := by
  cases v with
  | refused p ps => simp [Verdict.test]
  | accepted b =>
      cases hproblem : problem? b with
      | none =>
          simp only [Verdict.test, hproblem, accepted.injEq]
          constructor
          · rintro rfl
            exact ⟨rfl, hproblem⟩
          · exact And.left
      | some problem =>
          simp only [Verdict.test, hproblem, Verdict.finding, accepted.injEq, reduceCtorEq,
            false_iff, not_and]
          rintro rfl
          simp [hproblem]

end Verdict

open Verdict

variable {α : Type}

theorem settle_eq_ok {v : Verdict α} {a : α} : settle v = .ok a ↔ v = .accepted a := by
  cases v <;> simp [settle]

theorem recordOf_accepted {form : String} {read : Reader α} {input : Json} {a : α}
    (h : recordOf form read input = .accepted a) : read input = .accepted a := by
  unfold recordOf at h
  split at h
  · exact h
  · cases h

theorem field_accepted {name : String} {read : Reader α} {record : Json} {a : α}
    (h : field name read record = .accepted a) : ∃ v, read v = .accepted a := by
  unfold field at h
  rw [under_eq_accepted] at h
  split at h
  · next v _ => exact ⟨v, h⟩
  · cases h

theorem readItems_accepted {read : Reader α} {items : List Json} {index : Nat} {as : List α}
    (h : readItems read index items = .accepted as) : ∀ a ∈ as, ∃ v, read v = .accepted a := by
  induction items generalizing index as with
  | nil =>
      cases h
      simp
  | cons item rest ih =>
      simp only [readItems, seq_eq_accepted, map_eq_accepted, under_eq_accepted] at h
      obtain ⟨_, tail, ⟨head, hhead, rfl⟩, htail, rfl⟩ := h
      intro a ha
      rcases List.mem_cons.mp ha with rfl | ha
      · exact ⟨item, hhead⟩
      · exact ih htail a ha

theorem listOf_accepted {read : Reader α} {input : Json} {as : List α}
    (h : listOf read input = .accepted as) : ∀ a ∈ as, ∃ v, read v = .accepted a := by
  unfold listOf at h
  split at h
  · exact readItems_accepted h
  · cases h

theorem fieldOr_accepted {name : String} {standing : α} {read : Reader α} {record : Json} {a : α}
    (h : fieldOr name standing read record = .accepted a) :
    a = standing ∨ ∃ v, read v = .accepted a := by
  unfold fieldOr at h
  split at h
  · next v _ => exact Or.inr ⟨v, under_eq_accepted.mp h⟩
  · cases h
    exact Or.inl rfl

theorem positiveUpTo_accepted {most n : Int} {input : Json}
    (h : positiveUpTo most input = .accepted n) : 0 < n ∧ n ≤ most := by
  have htest := (test_eq_accepted.mp h).2
  split at htest
  · cases htest
  · split at htest
    · cases htest
    · omega

theorem nonNegative_accepted {n : Int} {input : Json} (h : nonNegative input = .accepted n) :
    0 ≤ n := by
  have htest := (test_eq_accepted.mp h).2
  split at htest
  · cases htest
  · omega

theorem positive_accepted {n : Int} {input : Json} (h : positive input = .accepted n) : 0 < n := by
  have htest := (test_eq_accepted.mp h).2
  split at htest
  · cases htest
  · omega

/-! ### Settings -/

section Settings

variable {how : Decimal.Shortening}

/-- Settings are accepted exactly when each of the twelve fields is. -/
theorem config_eq_accepted {record : Json} {c : SubmittedConfig} :
    config how record = .accepted c ↔
      field "payment_method" (oneOf PaymentMethod.all PaymentMethod.name) record =
        .accepted c.paymentMethod ∧
      field "organization" (text 1 64) record = .accepted c.organization ∧
      field "display_name" (text 1 64) record = .accepted c.displayName ∧
      field "start_date" day record = .accepted c.startDate ∧
      field "end_date" day record = .accepted c.endDate ∧
      field "daily_start_time" time record = .accepted c.dailyStart ∧
      field "daily_end_time" time record = .accepted c.dailyEnd ∧
      field "active_days_of_wk" (integerBetween 1 127) record = .accepted c.activeDays ∧
      field "dollar_limit_per_order" (amount how) record = .accepted c.orderLimit ∧
      field "verification_method" (oneOf VerificationMethod.all VerificationMethod.name) record =
        .accepted c.verificationMethod ∧
      fieldOr "payment_details" "" (text 0 512) record = .accepted c.paymentDetails ∧
      field "billing_interval_days" (positiveUpTo 365) record = .accepted c.billingInterval := by
  constructor
  · intro h
    simp only [config, seq_eq_accepted, map_eq_accepted] at h
    iterate 11 obtain ⟨_, _, h, _, rfl⟩ := h
    obtain ⟨_, h, rfl⟩ := h
    refine ⟨h, ?_⟩
    repeat' constructor
    all_goals assumption
  · rintro ⟨h₁, h₂, h₃, h₄, h₅, h₆, h₇, h₈, h₉, h₁₀, h₁₁, h₁₂⟩
    unfold config
    rw [h₁, h₂, h₃, h₄, h₅, h₆, h₇, h₈, h₉, h₁₀, h₁₁, h₁₂]
    rfl

theorem config_interval_pos {record : Json} {c : SubmittedConfig}
    (h : config how record = .accepted c) : 0 < c.billingInterval := by
  obtain ⟨_, _, _, _, _, _, _, _, _, _, _, hinterval⟩ := config_eq_accepted.mp h
  obtain ⟨v, hv⟩ := field_accepted hinterval
  exact (positiveUpTo_accepted hv).1

/-- A form that is read has its fields in order, and passes the check of the whole. -/
theorem checked_of_read {name : String} {read : Reader α} {check : α → Except Refusal Unit}
    {input : Json} {a : α}
    (h : (settle (recordOf name read input) >>= fun form => check form >>= fun _ => pure form) =
      .ok a) : read input = .accepted a ∧ check a = .ok () := by
  simp only [bind, Except.bind] at h
  split at h
  · cases h
  · next form hform =>
      split at h
      · cases h
      · next hcheck =>
          cases h
          exact ⟨recordOf_accepted (settle_eq_ok.mp hform), hcheck⟩

/-- The parts of the form by which a tab is opened. -/
theorem NewTab.parts_of_read {input : Json} {form : NewTab} (h : NewTab.read how input = .ok form) :
    Form.config how input = .accepted form.config ∧
      fieldOr "verification_list" [] (listOf email) input = .accepted form.emails ∧
      checkRanges form.config input = .ok () := by
  obtain ⟨hrecord, hranges⟩ := checked_of_read h
  simp only [seq_eq_accepted, map_eq_accepted] at hrecord
  obtain ⟨_, _, ⟨_, _, ⟨_, _, ⟨_, hconfig, rfl⟩, hemails, rfl⟩, _, rfl⟩, _, rfl⟩ := hrecord
  exact ⟨hconfig, hemails, hranges⟩

/-- The parts of the form by which settings are revised. -/
theorem Revision.parts_of_read {input : Json} {form : Revision} (h : Revision.read how input = .ok form) :
    Form.config how input = .accepted form.config ∧
      fieldOr "verification_list" none (nullable (listOf email)) input = .accepted form.emails ∧
      checkRanges form.config input = .ok () := by
  obtain ⟨hrecord, hranges⟩ := checked_of_read h
  simp only [seq_eq_accepted, map_eq_accepted] at hrecord
  obtain ⟨_, _, ⟨_, _, ⟨_, hconfig, rfl⟩, hemails, rfl⟩, _, rfl⟩ := hrecord
  exact ⟨hconfig, hemails, hranges⟩

/-- The form by which a tab is opened gives it a positive billing interval. -/
theorem NewTab.read_interval_pos {input : Json} {form : NewTab} (h : NewTab.read how input = .ok form) :
    0 < form.config.billingInterval :=
  config_interval_pos (parts_of_read h).1

/-- So does the form by which its settings are revised. -/
theorem Revision.read_interval_pos {input : Json} {form : Revision}
    (h : Revision.read how input = .ok form) : 0 < form.config.billingInterval :=
  config_interval_pos (parts_of_read h).1

end Settings

/-! ### Orders -/

theorem orderVariant_accepted {input : Json} {v : OrderVariant}
    (h : orderVariant input = .accepted v) : 0 < v.quantity := by
  have hrecord := recordOf_accepted h
  simp only [seq_eq_accepted, map_eq_accepted] at hrecord
  obtain ⟨_, quantity, ⟨_, _, rfl⟩, hquantity, rfl⟩ := hrecord
  obtain ⟨_, hread⟩ := field_accepted hquantity
  exact positive_accepted hread

theorem orderItem_accepted {input : Json} {i : OrderItem} (h : orderItem input = .accepted i) :
    0 ≤ i.quantity ∧ ∀ v ∈ i.variants, 0 < v.quantity := by
  have hrecord := recordOf_accepted h
  simp only [seq_eq_accepted, map_eq_accepted] at hrecord
  obtain ⟨_, variants, ⟨_, quantity, ⟨_, _, rfl⟩, hquantity, rfl⟩, hvariants, rfl⟩ := hrecord
  obtain ⟨_, hread⟩ := field_accepted hquantity
  refine ⟨nonNegative_accepted hread, fun v hv => ?_⟩
  rcases fieldOr_accepted hvariants with rfl | ⟨_, hlist⟩
  · cases hv
  · obtain ⟨_, hvariant⟩ := listOf_accepted hlist v hv
    exact orderVariant_accepted hvariant

/-- No quantity of a read order is below zero. -/
theorem Order.read_quantities {input : Json} {o : Order} (h : Order.read input = .ok o) :
    ∀ i ∈ o.items, 0 ≤ i.quantity ∧ ∀ v ∈ i.variants, 0 < v.quantity := by
  have hrecord := recordOf_accepted (settle_eq_ok.mp h)
  obtain ⟨items, hitems, rfl⟩ := map_eq_accepted.mp hrecord
  obtain ⟨_, hlist⟩ := field_accepted hitems
  intro i hi
  obtain ⟨_, hitem⟩ := listOf_accepted (test_eq_accepted.mp hlist).1 i hi
  exact orderItem_accepted hitem

end ShopTabs.Form
