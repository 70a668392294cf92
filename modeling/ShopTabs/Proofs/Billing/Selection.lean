import Mathlib.Data.List.Induction
import ShopTabs.Billing.Selection
import ShopTabs.Proofs.Billing.Window
import ShopTabs.Proofs.Guard
/-!
Which bill is selected.  The latest bill is one that no bill of the tab stands before; a selection
keeps it where it takes the order and opens the next window otherwise.  A second attempt sees what the
first one saw, so only a conflict with an open bill of the same first day leaves nothing to select.
-/

namespace ShopTabs

theorem Bill.isLater_iff {a b : Bill} :
    a.isLater b = true ↔
      (a.isPaid = false ∧ b.isPaid = true) ∨ (a.isPaid = b.isPaid ∧ b.endDate < a.endDate) := by
  simp [Bill.isLater]

theorem Bill.isLater_irrefl (b : Bill) : b.isLater b = false := by
  rw [← Bool.not_eq_true, Bill.isLater_iff, Day.lt_def]
  cases b.isPaid <;> simp

/-- What is not later than a bill is not later than one that is later than that bill. -/
theorem Bill.isLater_eq_false_trans {a b c : Bill} (hca : c.isLater a = false)
    (hba : b.isLater a = true) : c.isLater b = false := by
  rw [← Bool.not_eq_true, Bill.isLater_iff] at hca ⊢
  rw [Bill.isLater_iff] at hba
  simp only [Day.lt_def] at *
  cases hc : c.isPaid <;> cases hb : b.isPaid <;> cases ha : a.isPaid <;>
    simp only [hc, hb, ha, reduceCtorEq, true_and, false_and, and_false, and_true, false_or,
      or_false, not_true_eq_false, not_false_eq_true] at * <;> omega

theorem latestBill_append_singleton (bills : List Bill) (b : Bill) :
    latestBill (bills ++ [b]) = match latestBill bills with
      | none => some b
      | some a => if b.isLater a then some b else some a := by
  rw [latestBill, List.foldl_append, List.foldl_cons, List.foldl_nil]
  rfl

theorem latestBill_eq_none_iff {bills : List Bill} : latestBill bills = none ↔ bills = [] := by
  constructor
  · intro h
    cases bills using List.reverseRecOn with
    | nil => rfl
    | append_singleton rest last =>
        rw [latestBill_append_singleton] at h
        split at h
        · cases h
        · split at h <;> cases h
  · rintro rfl
    rfl

/-- The latest bill is one of the bills, and none is later. -/
theorem latestBill_spec {bills : List Bill} {b : Bill} (h : latestBill bills = some b) :
    b ∈ bills ∧ ∀ c ∈ bills, c.isLater b = false := by
  induction bills using List.reverseRecOn generalizing b with
  | nil => simp [latestBill] at h
  | append_singleton rest last ih =>
      rw [latestBill_append_singleton] at h
      cases hrest : latestBill rest with
      | none =>
          simp only [hrest, Option.some.injEq] at h
          subst h
          have hnil : rest = [] := latestBill_eq_none_iff.mp hrest
          subst hnil
          simp [Bill.isLater_irrefl]
      | some a =>
          obtain ⟨hmem, hnone⟩ := ih hrest
          simp only [hrest] at h
          by_cases hlater : last.isLater a = true
          · rw [if_pos hlater] at h
            cases h
            refine ⟨by simp, fun c hc => ?_⟩
            rcases List.mem_append.mp hc with hc | hc
            · exact Bill.isLater_eq_false_trans (hnone c hc) hlater
            · rw [List.mem_singleton.mp hc]
              exact Bill.isLater_irrefl last
          · rw [if_neg hlater] at h
            cases h
            refine ⟨List.mem_append_left _ hmem, fun c hc => ?_⟩
            rcases List.mem_append.mp hc with hc | hc
            · exact hnone c hc
            · rw [List.mem_singleton.mp hc]
              simpa using hlater

/-- Where a bill is unpaid, the latest bill is unpaid and ends no earlier. -/
theorem latestBill_of_unpaid {bills : List Bill} {b c : Bill} (h : latestBill bills = some b)
    (hc : c ∈ bills) (hopen : c.isPaid = false) : b.isPaid = false ∧ c.endDate ≤ b.endDate := by
  have hnot := (latestBill_spec h).2 c hc
  rw [← Bool.not_eq_true, Bill.isLater_iff, hopen] at hnot
  cases hb : b.isPaid with
  | true => simp [hb] at hnot
  | false =>
      refine ⟨rfl, ?_⟩
      rw [← Classical.not_not (a := c.endDate ≤ b.endDate), Day.not_le]
      simpa [hb] using hnot

/-- Where the latest bill is paid, all are, and none ends later. -/
theorem latestBill_of_paid {bills : List Bill} {b c : Bill} (h : latestBill bills = some b)
    (hpaid : b.isPaid = true) (hc : c ∈ bills) : c.isPaid = true ∧ c.endDate ≤ b.endDate := by
  have hnot := (latestBill_spec h).2 c hc
  rw [← Bool.not_eq_true, Bill.isLater_iff, hpaid] at hnot
  cases hcPaid : c.isPaid with
  | false => simp [hcPaid] at hnot
  | true =>
      refine ⟨rfl, ?_⟩
      rw [← Classical.not_not (a := c.endDate ≤ b.endDate), Day.not_le]
      simpa [hcPaid] using hnot

namespace Store

variable {s s' : Store} {key : TabKey} {w : Window}

/-- The bill that a window of a tab would get. -/
def newBill (s : Store) (key : TabKey) (w : Window) (isPaid : Bool) : Bill :=
  ⟨nextId (s.bills.map (·.id)), key, w.first, w.last, isPaid⟩

/-- The store with a further bill. -/
def withBill (s : Store) (b : Bill) : Store := { s with bills := s.bills ++ [b] }

@[simp] theorem withBill_bills {b : Bill} : (s.withBill b).bills = s.bills ++ [b] := rfl

@[simp] theorem withBill_tabs {b : Bill} : (s.withBill b).tabs = s.tabs := rfl

@[simp] theorem withBill_pending {b : Bill} : (s.withBill b).pending = s.pending := rfl

@[simp] theorem withBill_itemLines {b : Bill} : (s.withBill b).itemLines = s.itemLines := rfl

@[simp] theorem withBill_variantLines {b : Bill} :
    (s.withBill b).variantLines = s.variantLines := rfl

theorem addBill_eq_ok {isPaid : Bool} {id : Int} :
    s.addBill key w isPaid = .ok (id, s') ↔
      isWord key.shopId = true ∧ isWord key.tabId = true ∧
        (isPaid = true ∨ s.hasOpenStart key w.first = false) ∧ s.hasTab key = true ∧
        id = (s.newBill key w isPaid).id ∧ s' = s.withBill (s.newBill key w isPaid) := by
  simp only [addBill, bind_eq_ok, requireWords_eq_ok, ensure_eq_ok, pure_eq_ok, exists_const,
    Prod.mk.injEq, Bool.or_eq_true, Bool.not_eq_eq_eq_not, Bool.not_true]
  constructor
  · rintro ⟨⟨hshop, htab⟩, hfree, hhas, rfl, rfl⟩
    exact ⟨hshop, htab, hfree, hhas, rfl, rfl⟩
  · rintro ⟨hshop, htab, hfree, hhas, rfl, rfl⟩
    exact ⟨⟨hshop, htab⟩, hfree, hhas, rfl, rfl⟩

/-- An open bill that starts on the same day keeps a further one out. -/
theorem addBill_of_hasOpenStart (hshop : isWord key.shopId = true)
    (htab : isWord key.tabId = true) (hstart : s.hasOpenStart key w.first = true) :
    s.addBill key w false = .error .constraint := by
  have hwords : requireWords key = .ok () := requireWords_eq_ok.mpr ⟨hshop, htab⟩
  simp [addBill, hwords, hstart, ensure, bind, Except.bind]

theorem hasOpenStart_iff {start : Day} :
    s.hasOpenStart key start = true ↔
      ∃ b ∈ s.billsOf key, b.startDate = start ∧ b.isPaid = false := by
  simp [hasOpenStart, billsOf, and_assoc]

end Store

/-- What a selection may come to, whichever reads are blind: an open bill of the tab that is there, or a
new one for the next window, as seen by the read. -/
inductive Selectable (terms : BillingTerms) (key : TabKey) (s : Store) : Selection → Prop where
  | kept {b : Bill} {blindReads : Nat} (found : b ∈ s.billsOf key) (unpaid : b.isPaid = false) :
    Selectable terms key s ⟨b.id, s, blindReads⟩
  | opened {w : Window} {latest : Option Bill} {blindReads : Nat}
      (seen : latest = latestBill (s.billsOf key) ∨ latest = none)
      (window : terms.nextWindow latest = .ok w) (free : s.hasOpenStart key w.first = false) :
    Selectable terms key s
      ⟨(s.newBill key w false).id, s.withBill (s.newBill key w false), blindReads⟩

namespace Selectable

variable {terms : BillingTerms} {key : TabKey} {s : Store} {selection : Selection}

/-- Selecting a bill writes to the bills only. -/
theorem frame (h : Selectable terms key s selection) :
    ∃ bills, selection.store = { s with bills := bills } := by
  cases h with
  | kept found unpaid => exact ⟨s.bills, rfl⟩
  | opened seen window free => exact ⟨_, rfl⟩

/-- The bill that is selected is there. -/
theorem hasBill (h : Selectable terms key s selection) :
    selection.store.hasBill key selection.billId = true := by
  rw [Store.hasBill, List.any_eq_true]
  cases h with
  | @kept b _ found unpaid =>
      obtain ⟨hb, htab⟩ := List.mem_filter.mp found
      exact ⟨b, hb, by simpa using htab⟩
  | @opened w _ _ seen window free => exact ⟨s.newBill key w false, by simp, by simp [Store.newBill]⟩

end Selectable

theorem selectBill_selectable {terms : BillingTerms} {key : TabKey} {day : Day} {s : Store}
    {attempts blindReads : Nat} {selection : Selection}
    (h : selectBill terms key day attempts blindReads s = .ok selection) :
    Selectable terms key s selection := by
  induction attempts generalizing blindReads with
  | zero => cases h
  | succ n ih =>
      simp only [selectBill] at h
      have hseen : (if blindReads = 0 then latestBill (s.billsOf key) else none) =
          latestBill (s.billsOf key) ∨
          (if blindReads = 0 then latestBill (s.billsOf key) else none) = none := by
        split
        · exact Or.inl rfl
        · exact Or.inr rfl
      generalize (if blindReads = 0 then latestBill (s.billsOf key) else none) = latest at h hseen
      split at h
      · cases h
      · next b hchoice =>
          cases h
          obtain ⟨rfl, htakes⟩ := BillChoice.after_eq_keep.mp hchoice
          rcases hseen with hlatest | hnone
          · exact .kept (latestBill_spec hlatest.symm).1 (Bill.takes_iff.mp htakes).1
          · cases hnone
      · next w hchoice =>
          split at h
          · next id s' hadd =>
              cases h
              obtain ⟨_, _, hfree, _, rfl, rfl⟩ := Store.addBill_eq_ok.mp hadd
              simp only [Bool.false_eq_true, false_or] at hfree
              exact .opened hseen (BillChoice.after_eq_openWindow.mp hchoice).2 hfree
          · exact ih h
          · cases h

/-- What a selection comes to where no read is blind. -/
inductive Selected (terms : BillingTerms) (key : TabKey) (day : Day) (s : Store) :
    Selection → Prop where
  /-- The latest bill takes the order. -/
  | kept {b : Bill} (latest : latestBill (s.billsOf key) = some b) (takes : b.takes day = true) :
    Selected terms key day s ⟨b.id, s, 0⟩
  /-- It does not, and the next window is opened. -/
  | opened {w : Window} (passed : ∀ b, latestBill (s.billsOf key) = some b → b.takes day = false)
      (window : terms.nextWindow (latestBill (s.billsOf key)) = .ok w)
      (words : isWord key.shopId = true ∧ isWord key.tabId = true)
      (free : s.hasOpenStart key w.first = false) (tab : s.hasTab key = true) :
    Selected terms key day s
      ⟨(s.newBill key w false).id, s.withBill (s.newBill key w false), 0⟩

section Select

variable {terms : BillingTerms} {key : TabKey} {day : Day} {s : Store} {attempts : Nat}

theorem selectBill_selected {selection : Selection}
    (h : selectBill terms key day attempts 0 s = .ok selection) :
    Selected terms key day s selection := by
  induction attempts with
  | zero => cases h
  | succ n ih =>
      simp only [selectBill, ↓reduceIte, Nat.zero_sub] at h
      split at h
      · cases h
      · next b hchoice =>
          cases h
          obtain ⟨hlatest, htakes⟩ := BillChoice.after_eq_keep.mp hchoice
          exact .kept hlatest htakes
      · next w hchoice =>
          obtain ⟨hpassed, hwindow⟩ := BillChoice.after_eq_openWindow.mp hchoice
          split at h
          · next id s' hadd =>
              cases h
              obtain ⟨hshop, htab, hfree, hhas, rfl, rfl⟩ := Store.addBill_eq_ok.mp hadd
              simp only [Bool.false_eq_true, false_or] at hfree
              exact .opened hpassed hwindow ⟨hshop, htab⟩ hfree hhas
          · exact ih h
          · cases h

/-- A selection succeeds exactly as described, however many attempts it has. -/
theorem selectBill_eq_ok (hattempts : 0 < attempts) {selection : Selection} :
    selectBill terms key day attempts 0 s = .ok selection ↔
      Selected terms key day s selection := by
  refine ⟨selectBill_selected, fun h => ?_⟩
  obtain ⟨n, rfl⟩ := Nat.exists_eq_succ_of_ne_zero (Nat.ne_of_gt hattempts)
  cases h with
  | @kept b latest takes =>
      have hchoice : BillChoice.after terms (latestBill (s.billsOf key)) day = .ok (.keep b) :=
        BillChoice.after_eq_keep.mpr ⟨latest, takes⟩
      simp [selectBill, hchoice]
  | @opened w passed window words free tab =>
      have hchoice := BillChoice.after_eq_openWindow.mpr ⟨passed, window⟩
      have hadd : s.addBill key w false =
          .ok ((s.newBill key w false).id, s.withBill (s.newBill key w false)) :=
        Store.addBill_eq_ok.mpr ⟨words.1, words.2, Or.inr free, tab, rfl, rfl⟩
      simp [selectBill, hchoice, hadd]

/-- A conflict is found again by every attempt, and no bill is selected. -/
theorem selectBill_of_conflict {w : Window}
    (hpassed : ∀ b, latestBill (s.billsOf key) = some b → b.takes day = false)
    (hwindow : terms.nextWindow (latestBill (s.billsOf key)) = .ok w)
    (hwords : isWord key.shopId = true ∧ isWord key.tabId = true)
    (hstart : s.hasOpenStart key w.first = true) :
    selectBill terms key day attempts 0 s = .error .noBill := by
  have hchoice := BillChoice.after_eq_openWindow.mpr ⟨hpassed, hwindow⟩
  have hadd := Store.addBill_of_hasOpenStart hwords.1 hwords.2 hstart
  induction attempts with
  | zero => rfl
  | succ n ih => simp [selectBill, hchoice, hadd, ih]

theorem attemptCount_pos (setting : Int) : 0 < attemptCount setting := by
  unfold attemptCount
  omega

end Select

end ShopTabs
