import Mathlib.Data.List.Induction
import ShopTabs.Failure
import ShopTabs.Proofs.Form.Resubmission
import ShopTabs.Proofs.Ledger.Catalog
/-!
How submitted data is turned away.  A form is read, or there are findings and the failure tells at the place
of each what is wrong there.  A third outcome is left to the two forms with daily times: if one of these has
an offset and the other has none, they cannot be compared, and that is no finding.
-/

namespace ShopTabs

namespace Failure

/-- Of several findings at one place the last is told. -/
theorem get?_findingMap (found : List Form.Finding) (place : String) :
    (findingMap found).get? place =
      (found.reverse.find? (·.place = place)).map fun f => .str f.problem.message := by
  induction found using List.reverseRecOn with
  | nil => rfl
  | append_singleton rest f ih =>
      have hmap : findingMap (rest ++ [f]) = .obj (Json.setField f.place (.str f.problem.message)
          (rest.foldl (fun fields f => Json.setField f.place (.str f.problem.message) fields) [])) := by
        rw [findingMap, List.foldl_append]
        rfl
      rw [hmap, List.reverse_append, List.reverse_singleton, List.singleton_append, List.find?_cons]
      by_cases hplace : f.place = place
      · rw [decide_eq_true hplace, ← hplace, Json.get?_setField]
        rfl
      · rw [decide_eq_false hplace, Json.get?_setField_of_ne (Ne.symm hplace)]
        exact ih

/-- A failure is reported as invalid data, with particulars that are not empty and tell of findings. -/
structure TellsOf (failure : Failure) (found : List Form.Finding) : Prop where
  report : failure.report? = some .validation
  message : failure.message = "Invalid request data"
  details : ∃ fields, failure.details? = some (.obj fields) ∧ fields ≠ [] ∧
    ∀ place, (Json.obj fields).get? place =
      (found.reverse.find? (·.place = place)).map fun f => .str f.problem.message

theorem tellsOf_invalidForm (first : Form.Finding) (others : List Form.Finding) :
    (invalidForm first others).TellsOf (first :: others) := by
  refine ⟨rfl, rfl, _, rfl, ?_, get?_findingMap (first :: others)⟩
  intro hnone
  have htold := get?_findingMap (first :: others) first.place
  rw [findingMap, hnone] at htold
  have hfound : ((first :: others).reverse.find? (·.place = first.place)).isSome = true := by
    rw [List.find?_isSome]
    exact ⟨first, by simp, decide_eq_true rfl⟩
  rw [Option.isSome_iff_exists] at hfound
  obtain ⟨f, hf⟩ := hfound
  rw [hf] at htold
  cases htold

end Failure

theorem OffsetTime.isAfter?_eq_none {a b : OffsetTime} :
    isAfter? a b = none ↔ a.offset.isSome ≠ b.offset.isSome := by
  obtain ⟨_, x⟩ := a
  obtain ⟨_, y⟩ := b
  cases x <;> cases y <;> simp [isAfter?]

namespace Form

open Verdict

/-! ### Ranges -/

/-- The days are in order, but one daily time has an offset and the other has none. -/
def MixesOffsets (c : SubmittedConfig) : Prop :=
  c.startDate ≤ c.endDate ∧ c.dailyEnd.offset.isSome ≠ c.dailyStart.offset.isSome

/-- The rules of settings: the bounds of the single fields, and the order of days and of daily times. -/
structure KeepsRules (c : SubmittedConfig) : Prop where
  inBounds : c.kept.InBounds
  keeps : c.kept.Keeps c
  dailyOrder : OffsetTime.isAfter? c.dailyEnd c.dailyStart = some true

theorem checkRanges_mixed {c : SubmittedConfig} {input : Json} :
    checkRanges c input = .error .mixedOffsets ↔ MixesOffsets c := by
  rw [MixesOffsets, ← OffsetTime.isAfter?_eq_none, checkRanges]
  split
  · next hdays =>
      rw [← Day.not_le] at hdays
      simp [hdays]
  · next hdays =>
      rw [← Day.not_le, not_not] at hdays
      split
      · next hafter => simp [hdays, hafter]
      · next hafter => simp [hafter]
      · next hafter => simp [hafter]

theorem checkRanges_dailyOrder {c : SubmittedConfig} {input : Json}
    (h : checkRanges c input = .ok ()) : OffsetTime.isAfter? c.dailyEnd c.dailyStart = some true := by
  rw [checkRanges] at h
  split at h
  · cases h
  · split at h
    · cases h
    · cases h
    · assumption

theorem IsSubmitted.keepsRules {c : SubmittedConfig} (h : IsSubmitted c) : KeepsRules c := by
  obtain ⟨_, _, _, hranges⟩ := id h
  exact ⟨h.inBounds, h.keeps, checkRanges_dailyOrder hranges⟩

/-! ### Forms -/

/-- The three things that reading can come to: a form that keeps its rules; findings that are told of; and
daily times that cannot be compared, for data of just one kind. -/
structure Settles {α : Type} (keeps : α → Prop) (mixed : Prop) (result : Except Refusal α) : Prop where
  accepted : ∀ form, result = .ok form → keeps form
  refused : ∀ refusal, result = .error refusal → refusal = .mixedOffsets ∨
    ∃ first others, refusal = .findings first others ∧
      (Failure.ofRefusal refusal).TellsOf (first :: others)
  mixed_iff : result = .error .mixedOffsets ↔ mixed

variable {α : Type} {keeps : α → Prop}

theorem settles_of_tells {mixed : Prop} {result : Except Refusal α}
    (haccepted : ∀ form, result = .ok form → keeps form)
    (hmixed : result = .error .mixedOffsets ↔ mixed) : Settles keeps mixed result := by
  refine ⟨haccepted, ?_, hmixed⟩
  intro refusal _
  cases refusal with
  | mixedOffsets => exact Or.inl rfl
  | findings first others => exact Or.inr ⟨first, others, rfl, Failure.tellsOf_invalidForm first others⟩

/-- A form whose parts are only looked at one by one is read, or there are findings. -/
theorem settles_settle {v : Verdict α} (h : ∀ form, v = .accepted form → keeps form) :
    Settles keeps False (settle v) := by
  refine settles_of_tells (fun form hform => h form (settle_eq_ok.mp hform)) ?_
  cases v <;> simp [settle]

/-- Reads fields, and then looks at the ranges of the settings among them. -/
def readRanged (fields : Reader α) (config : α → SubmittedConfig) (input : Json) : Except Refusal α := do
  let form ← settle (fields input)
  checkRanges (config form) input
  return form

theorem settles_readRanged (fields : Reader α) (config : α → SubmittedConfig) {input : Json}
    (h : ∀ form, readRanged fields config input = .ok form → keeps form) :
    Settles keeps (∃ form, fields input = .accepted form ∧ MixesOffsets (config form))
      (readRanged fields config input) := by
  refine settles_of_tells h ?_
  unfold readRanged
  cases hfields : fields input with
  | refused first others => simp [settle, bind, Except.bind]
  | accepted form =>
      have hranges := @checkRanges_mixed (config form) input
      simp only [settle, bind, Except.bind, accepted.injEq, exists_eq_left', ← hranges]
      cases checkRanges (config form) input with
      | error refusal => simp
      | ok u => simp [pure, Except.pure]

theorem NewTab.read_eq (how : Decimal.Shortening) :
    NewTab.read how = readRanged (NewTab.fields how) (·.config) := rfl

theorem Revision.read_eq (how : Decimal.Shortening) :
    Revision.read how = readRanged (Revision.fields how) (·.config) := rfl

theorem Order.items_ne_nil {input : Json} {o : Order} (h : Order.read input = .ok o) :
    o.items ≠ [] := by
  have hrecord := recordOf_accepted (settle_eq_ok.mp h)
  obtain ⟨items, hitems, rfl⟩ := map_eq_accepted.mp hrecord
  obtain ⟨_, hlist⟩ := field_accepted hitems
  have htest := (test_eq_accepted.mp hlist).2
  rintro rfl
  cases htest

end Form

open Form

/-- Whatever data is submitted for one of the four forms, it is read as a form that keeps the rules, or it is
turned away as invalid, with particulars that tell of at least one finding; but for one slip.  Data for a new
tab or a revision whose fields are all in order, and the days too, but with one daily time that has an offset
and one that has none, fails in another way, and nothing else does. -/
theorem submitted_data_settled (how : Decimal.Shortening) (data : Json) :
    Settles (fun form : NewTab => KeepsRules form.config ∧ ∀ a ∈ form.emails, IsNormalEmail a)
      (∃ form, NewTab.fields how data = .accepted form ∧ MixesOffsets form.config) (NewTab.read how data) ∧
    Settles (fun form : Revision =>
        KeepsRules form.config ∧ ∀ emails ∈ form.emails, ∀ a ∈ emails, IsNormalEmail a)
      (∃ form, Revision.fields how data = .accepted form ∧ MixesOffsets form.config)
      (Revision.read how data) ∧
    Settles (fun o : Form.Order => o.items ≠ [] ∧ o.Counts) False (Order.read data) ∧
    Settles (fun form : EmailList => ∀ a ∈ form.emails, IsNormalEmail a) False (EmailList.read data) := by
  refine ⟨?_, ?_, ?_, ?_⟩
  · rw [NewTab.read_eq]
    refine settles_readRanged (NewTab.fields how) (·.config) fun form hread => ?_
    exact ⟨(NewTab.isSubmitted hread).keepsRules, NewTab.emails_normal hread⟩
  · rw [Revision.read_eq]
    refine settles_readRanged (Revision.fields how) (·.config) fun form hread => ?_
    exact ⟨(Revision.isSubmitted hread).keepsRules, Revision.emails_normal hread⟩
  · refine settles_settle fun o haccepted => ?_
    have hread : Order.read data = .ok o := settle_eq_ok.mpr haccepted
    exact ⟨Order.items_ne_nil hread, Order.read_quantities hread⟩
  · refine settles_settle fun form haccepted => ?_
    exact EmailList.emails_normal (settle_eq_ok.mpr haccepted)

/-- One daily time has an offset here and the other has none. -/
example : (match NewTab.read .rounded (.obj [
      ("payment_method", .str "IN_PERSON"), ("organization", .str "Chess club"),
      ("display_name", .str "Chess evenings"), ("start_date", .str "2026-01-05"),
      ("end_date", .str "2026-12-31"), ("daily_start_time", .str "17:00:00"),
      ("daily_end_time", .str "08:00:00Z"), ("active_days_of_wk", .int 31),
      ("dollar_limit_per_order", .str "20.00"), ("verification_method", .str "VOUCHER"),
      ("billing_interval_days", .int 7)]) with
    | .error .mixedOffsets => true
    | _ => false) = true := by
  decide +kernel

end ShopTabs
