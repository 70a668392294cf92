import ShopTabs.Proofs.Billing.Window
import ShopTabs.Proofs.Form.Accepted
import ShopTabs.Proofs.Form.Amount
/-!
What is kept of the settings that a form submits: each as it was submitted, the amount to the cent, the
daily times without the offsets that they may have had.  Such settings can always be those of a tab.  And
the addresses that a form submits are in their normal form.
-/

namespace ShopTabs

/-- Kept settings are those that were submitted.  Of the daily times an offset is not kept, and of the amount
the nearest cents are. -/
structure TabConfig.Keeps (k : KeptConfig) (c : SubmittedConfig) : Prop where
  paymentMethod : k.paymentMethod = c.paymentMethod
  organization : k.organization = c.organization
  displayName : k.displayName = c.displayName
  startDate : k.startDate = c.startDate
  endDate : k.endDate = c.endDate
  dailyStart : k.dailyStart = c.dailyStart.time
  dailyEnd : k.dailyEnd = c.dailyEnd.time
  activeDays : k.activeDays = c.activeDays
  orderLimit : k.orderLimit.IsCentsOf c.orderLimit
  verificationMethod : k.verificationMethod = c.verificationMethod
  paymentDetails : k.paymentDetails = c.paymentDetails
  billingInterval : k.billingInterval = c.billingInterval

namespace Form

open Verdict

/-- Settings that come with a form, however the short forms of amounts are found. -/
def IsSubmitted (c : SubmittedConfig) : Prop :=
  ∃ how input, config how input = .accepted c ∧ checkRanges c input = .ok ()

/-- An address is the normal form of a text. -/
def IsNormalEmail (a : String) : Prop := ∃ text, normalizeEmail text = .ok a

theorem checkRanges_days {c : SubmittedConfig} {input : Json} (h : checkRanges c input = .ok ()) :
    c.startDate ≤ c.endDate := by
  rw [checkRanges] at h
  split at h
  · cases h
  · next hnot =>
      rw [← Day.not_le, not_not] at hnot
      exact hnot

namespace IsSubmitted

variable {c : SubmittedConfig}

theorem keeps (h : IsSubmitted c) : c.kept.Keeps c := by
  obtain ⟨_, _, hconfig, _⟩ := h
  obtain ⟨_, _, _, _, _, _, _, _, hlimit, _⟩ := config_eq_accepted.mp hconfig
  obtain ⟨_, hread⟩ := field_accepted hlimit
  have hcents := kept_isCentsOf (test_eq_accepted.mp hread).2
  exact ⟨rfl, rfl, rfl, rfl, rfl, rfl, rfl, rfl, hcents, rfl, rfl, rfl⟩

/-- Submitted settings can be those of a tab. -/
theorem fitsTab (h : IsSubmitted c) : c.kept.fitsTab = true := by
  obtain ⟨_, _, hconfig, hranges⟩ := h
  have hinterval := config_interval_pos hconfig
  have hdays := checkRanges_days hranges
  rw [TabConfig.fitsTab, Bool.and_eq_true]
  exact ⟨decide_eq_true hinterval, decide_eq_true hdays⟩

end IsSubmitted

theorem nullable_accepted {α : Type} {read : Reader α} {input : Json} {o : Option α}
    (h : nullable read input = .accepted o) : ∀ a ∈ o, read input = .accepted a := by
  unfold nullable at h
  split at h
  · cases h
    simp
  · obtain ⟨a, hread, rfl⟩ := map_eq_accepted.mp h
    intro b hb
    cases hb
    exact hread

theorem email_accepted {input : Json} {a : String} (h : email input = .accepted a) :
    IsNormalEmail a := by
  simp only [email, scalar, bind, Except.bind] at h
  cases htext : readText input with
  | error problem =>
      rw [htext] at h
      cases h
  | ok text =>
      rw [htext] at h
      cases hnormal : normalizeEmail text with
      | error problem => simp [hnormal, Verdict.finding] at h
      | ok b =>
          simp only [hnormal, accepted.injEq] at h
          exact ⟨text, h ▸ hnormal⟩

theorem emails_accepted {input : Json} {emails : List String}
    (h : listOf email input = .accepted emails) : ∀ a ∈ emails, IsNormalEmail a := by
  intro a ha
  obtain ⟨_, hread⟩ := listOf_accepted h a ha
  exact email_accepted hread

namespace NewTab

variable {how : Decimal.Shortening} {input : Json} {form : NewTab}

theorem isSubmitted (h : NewTab.read how input = .ok form) : IsSubmitted form.config :=
  ⟨how, input, (parts_of_read h).1, (parts_of_read h).2.2⟩

theorem emails_normal (h : NewTab.read how input = .ok form) : ∀ a ∈ form.emails, IsNormalEmail a := by
  rcases fieldOr_accepted (parts_of_read h).2.1 with hnone | ⟨_, hlist⟩
  · simp [hnone]
  · exact emails_accepted hlist

end NewTab

namespace Revision

variable {how : Decimal.Shortening} {input : Json} {form : Revision}

theorem isSubmitted (h : Revision.read how input = .ok form) : IsSubmitted form.config :=
  ⟨how, input, (parts_of_read h).1, (parts_of_read h).2.2⟩

theorem emails_normal (h : Revision.read how input = .ok form) :
    ∀ emails ∈ form.emails, ∀ a ∈ emails, IsNormalEmail a := by
  intro emails hemails
  rcases fieldOr_accepted (parts_of_read h).2.1 with hnone | ⟨_, hlist⟩
  · rw [hnone] at hemails
    cases hemails
  · exact emails_accepted (nullable_accepted hlist emails hemails)

end Revision

theorem EmailList.emails_normal {input : Json} {form : EmailList} (h : EmailList.read input = .ok form) :
    ∀ a ∈ form.emails, IsNormalEmail a := by
  have hrecord := recordOf_accepted (settle_eq_ok.mp h)
  obtain ⟨emails, hemails, rfl⟩ := map_eq_accepted.mp hrecord
  obtain ⟨_, hlist⟩ := field_accepted hemails
  exact emails_accepted hlist

end Form

end ShopTabs
