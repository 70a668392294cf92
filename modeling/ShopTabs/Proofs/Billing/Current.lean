import ShopTabs.Proofs.Billing.Terms
/-!
The bill that a tab's orders go to.  As long as orders and payments come in the order of their days, no
two open bills of a tab reach the last of those days: at most one is current, and every order that it
covers goes to it.
-/

namespace ShopTabs

/-- An unpaid bill that does not end before a day. -/
def Bill.isCurrent (b : Bill) (day : Day) : Bool := !b.isPaid && day ≤ b.endDate

theorem Bill.isCurrent_iff {b : Bill} {day : Day} :
    b.isCurrent day = true ↔ b.isPaid = false ∧ day ≤ b.endDate := by
  simp [Bill.isCurrent]

theorem Bill.isCurrent_of_takes {b : Bill} {day : Day} (h : b.takes day = true) :
    b.isCurrent day = true := by
  obtain ⟨hopen, _, hend⟩ := Bill.takes_iff.mp h
  exact Bill.isCurrent_iff.mpr ⟨hopen, hend⟩

/-- How the bills of a tab stand on a day that no posting comes after. -/
structure InOrder (bills : List Bill) (day : Day) : Prop where
  window : ∀ b ∈ bills, b.startDate ≤ b.endDate
  begun : ∀ b ∈ bills, b.startDate ≤ day
  settled : ∀ b ∈ bills, b.isPaid = true → b.endDate ≤ day
  current : bills.countP (·.isCurrent day) ≤ 1

namespace InOrder

variable {bills : List Bill} {day later : Day}

theorem nil (day : Day) : InOrder [] day := by
  refine ⟨?_, ?_, ?_, ?_⟩ <;> simp

/-- What stands so on a day stands so on any later day. -/
theorem mono (h : InOrder bills day) (hle : day ≤ later) : InOrder bills later := by
  refine ⟨h.window, ?_, ?_, ?_⟩
  · intro b hb
    exact Day.le_trans (h.begun b hb) hle
  · intro b hb hpaid
    exact Day.le_trans (h.settled b hb hpaid) hle
  · have hfewer : bills.countP (·.isCurrent later) ≤ bills.countP (·.isCurrent day) := by
      apply List.countP_mono_left
      intro b _ hb
      obtain ⟨hopen, hend⟩ := Bill.isCurrent_iff.mp hb
      exact Bill.isCurrent_iff.mpr ⟨hopen, Day.le_trans hle hend⟩
    exact Nat.le_trans hfewer h.current

/-- There are no two bills that are current. -/
theorem current_unique (h : InOrder bills day) {a b : Bill} (ha : a ∈ bills) (hb : b ∈ bills)
    (hacurrent : a.isCurrent day = true) (hbcurrent : b.isCurrent day = true) : a = b := by
  have hcount := h.current
  rw [List.countP_eq_length_filter] at hcount
  have hain : a ∈ bills.filter (·.isCurrent day) := List.mem_filter.mpr ⟨ha, hacurrent⟩
  have hbin : b ∈ bills.filter (·.isCurrent day) := List.mem_filter.mpr ⟨hb, hbcurrent⟩
  obtain ⟨c, hc⟩ := List.length_eq_one_iff.mp
    (Nat.le_antisymm hcount (List.length_pos_of_mem hain))
  rw [hc, List.mem_singleton] at hain hbin
  rw [hain, hbin]

/-- An open bill takes orders on every day on which it is current. -/
theorem takes_of_isCurrent (h : InOrder bills day) {b : Bill} (hb : b ∈ bills)
    (hcurrent : b.isCurrent day = true) : b.takes day = true := by
  obtain ⟨hopen, hend⟩ := Bill.isCurrent_iff.mp hcurrent
  exact Bill.takes_iff.mpr ⟨hopen, h.begun b hb, hend⟩

/-- Where a bill is current, it is the latest. -/
theorem latest_of_isCurrent (h : InOrder bills day) {b : Bill} (hb : b ∈ bills)
    (hcurrent : b.isCurrent day = true) : latestBill bills = some b := by
  cases hlatest : latestBill bills with
  | none =>
      rw [latestBill_eq_none_iff.mp hlatest] at hb
      cases hb
  | some a =>
      obtain ⟨hopen, hend⟩ := Bill.isCurrent_iff.mp hcurrent
      obtain ⟨haopen, hle⟩ := latestBill_of_unpaid hlatest hb hopen
      have hacurrent := Bill.isCurrent_iff.mpr ⟨haopen, Day.le_trans hend hle⟩
      rw [h.current_unique (latestBill_spec hlatest).1 hb hacurrent hcurrent]

/-- Where the latest bill takes no orders on the day, it ended by then, and no bill is current. -/
theorem latest_endDate_le (h : InOrder bills day) {b : Bill} (hlatest : latestBill bills = some b)
    (hpassed : b.takes day = false) : b.endDate ≤ day := by
  have hb := (latestBill_spec hlatest).1
  cases hpaid : b.isPaid with
  | true => exact h.settled b hb hpaid
  | false =>
      by_cases hend : day ≤ b.endDate
      · have htakes := h.takes_of_isCurrent hb (Bill.isCurrent_iff.mpr ⟨hpaid, hend⟩)
        rw [hpassed] at htakes
        cases htakes
      · exact Day.le_of_lt (Day.not_le.mp hend)

/-- Where the latest bill takes no orders on the day, no bill does. -/
theorem not_takes_of_passed (h : InOrder bills day)
    (hpassed : ∀ b, latestBill bills = some b → b.takes day = false) {b : Bill} (hb : b ∈ bills) :
    b.takes day = false := by
  rw [← Bool.not_eq_true]
  intro htakes
  have hlatest := h.latest_of_isCurrent hb (Bill.isCurrent_of_takes htakes)
  rw [hpassed b hlatest] at htakes
  cases htakes

theorem countP_eq_zero (h : InOrder bills day)
    (hpassed : ∀ b, latestBill bills = some b → b.takes day = false) :
    bills.countP (·.isCurrent day) = 0 := by
  rw [List.countP_eq_zero]
  intro b hb hcurrent
  have htakes := h.takes_of_isCurrent hb hcurrent
  rw [h.not_takes_of_passed hpassed hb] at htakes
  cases htakes

/-- The next window starts by the day of the order. -/
theorem nextStart_le (h : InOrder bills day) {terms : BillingTerms} (hbegun : terms.startDate ≤ day)
    (hpassed : ∀ b, latestBill bills = some b → b.takes day = false) :
    terms.nextStart (latestBill bills) ≤ day := by
  cases hlatest : latestBill bills with
  | none => exact hbegun
  | some b => exact h.latest_endDate_le hlatest (hpassed b hlatest)

/-- And it does not end before it starts. -/
theorem nextWindow_ordered {t : Tab} {w : Window} (h : InOrder bills day)
    (hinterval : 0 < t.config.billingInterval) (horderable : t.IsOrderable day)
    (hpassed : ∀ b, latestBill bills = some b → b.takes day = false)
    (hwindow : t.config.billingTerms.nextWindow (latestBill bills) = .ok w) :
    w.first ≤ day ∧ w.first ≤ w.last := by
  obtain ⟨hfirst, hlast⟩ := Window.opening_number hwindow
  have hbegun : t.config.billingTerms.nextStart (latestBill bills) ≤ day :=
    h.nextStart_le horderable.2.1 hpassed
  have hend : day ≤ t.config.endDate := horderable.2.2
  rw [hfirst]
  refine ⟨hbegun, ?_⟩
  rw [Day.le_def] at *
  simp only [TabConfig.billingTerms] at *
  omega

theorem opened (h : InOrder bills day) {b : Bill} (hopen : b.isPaid = false)
    (hbegun : b.startDate ≤ day) (hends : b.startDate ≤ b.endDate)
    (hnone : bills.countP (·.isCurrent day) = 0) : InOrder (bills ++ [b]) day := by
  refine ⟨?_, ?_, ?_, ?_⟩
  · intro c hc
    rcases List.mem_append.mp hc with hc | hc
    · exact h.window c hc
    · rw [List.mem_singleton.mp hc]
      exact hends
  · intro c hc
    rcases List.mem_append.mp hc with hc | hc
    · exact h.begun c hc
    · rw [List.mem_singleton.mp hc]
      exact hbegun
  · intro c hc hpaid
    rcases List.mem_append.mp hc with hc | hc
    · exact h.settled c hc hpaid
    · rw [List.mem_singleton.mp hc, hopen] at hpaid
      cases hpaid
  · rw [List.countP_append, hnone, Nat.zero_add]
    exact List.countP_le_length

theorem closed (h : InOrder bills day) (id : Int) : InOrder (closeBill bills id day) day := by
  refine ⟨?_, ?_, ?_, ?_⟩
  · intro b hb
    rcases mem_closeBill hb with ⟨a, ha, _, rfl⟩ | ⟨hb, _⟩
    · exact h.begun a ha
    · exact h.window b hb
  · intro b hb
    rcases mem_closeBill hb with ⟨a, ha, _, rfl⟩ | ⟨hb, _⟩
    · exact h.begun a ha
    · exact h.begun b hb
  · intro b hb hpaid
    rcases mem_closeBill hb with ⟨a, ha, _, rfl⟩ | ⟨hb, _⟩
    · exact Day.le_refl day
    · exact h.settled b hb hpaid
  · -- A closed bill is current no longer, and no other bill becomes so.
    have hfewer : (closeBill bills id day).countP (·.isCurrent day) ≤
        bills.countP (·.isCurrent day) := by
      rw [closeBill, List.countP_map]
      apply List.countP_mono_left
      intro b _ hb
      rw [Function.comp_apply] at hb
      split at hb
      · simp [Bill.isCurrent] at hb
      · exact hb
    exact Nat.le_trans hfewer h.current

/-- One request: on the day that it posts, the bills that it leaves stand as they should. -/
theorem after {key : TabKey} {s : Store} {posting : Option Posting}
    (h : InOrder (s.billsOf key) day) (hterms : s.Billable key)
    (hday : ∀ p, posting = some p → p.day = day) (hafter : BillsAfter key s posting bills) :
    InOrder bills day := by
  cases hafter with
  | untouched => exact h
  | kept tab orderable latest takes => exact h
  | opened tab orderable passed window free =>
      cases hday _ rfl
      obtain ⟨hbegun, hends⟩ := h.nextWindow_ordered (hterms.of_tab? tab) orderable passed window
      exact h.opened rfl hbegun hends (h.countP_eq_zero passed)
  | @closed billId day' found =>
      cases hday _ rfl
      exact h.closed billId

/-- An order goes to the bill that takes it, and no bill is opened. -/
theorem posted_of_takes {key : TabKey} {s : Store} (h : InOrder (s.billsOf key) day)
    {r : Service.Request} {billId : Int} (hposting : r.posting? key s = some (.order billId day))
    {b : Bill} (hb : b ∈ s.billsOf key) (htakes : b.takes day = true) :
    billId = b.id ∧ (r.after s).bills = s.bills := by
  have hlatest := h.latest_of_isCurrent hb (Bill.isCurrent_of_takes htakes)
  obtain ⟨t, selection, _, _, hselected, hid, hbills⟩ :=
    Service.Request.selected_of_posting hposting
  cases hselected with
  | kept latest takes =>
      rw [hlatest] at latest
      cases latest
      exact ⟨hid, hbills⟩
  | opened passed window words free tab =>
      rw [passed b hlatest] at htakes
      cases htakes

end InOrder

/-! ### All requests of a history -/

section History

variable {key : TabKey} {s : Store} {history : List Service.Request} {day : Day}

/-- The days of the postings to a tab's account never decrease. -/
def DaysAscend (key : TabKey) (s : Store) (history : List Service.Request) : Prop :=
  (postings key s history).Pairwise fun p q => p.day ≤ q.day

instance : Decidable (DaysAscend key s history) :=
  inferInstanceAs (Decidable ((postings key s history).Pairwise _))

theorem DaysAscend.of_append {r : Service.Request} (h : DaysAscend key s (history ++ [r])) :
    DaysAscend key s history := by
  rw [DaysAscend, postings_append_singleton, List.pairwise_append] at h
  exact h.1

theorem inOrder_run (hnew : s.billsOf key = []) (hterms : s.Billable key)
    (hascend : DaysAscend key s history) (hlast : ∀ p ∈ postings key s history, p.day ≤ day) :
    InOrder ((s.run history).billsOf key) day := by
  induction history using List.reverseRecOn generalizing day with
  | nil =>
      rw [Store.run_nil, hnew]
      exact InOrder.nil day
  | append_singleton rest r ih =>
      have hreached := run_billable hterms rest
      have hafter := r.billsAfter (s.run rest) key
      rw [Store.run_append_singleton]
      rw [DaysAscend, postings_append_singleton, List.pairwise_append] at hascend
      rw [postings_append_singleton] at hlast
      obtain ⟨hrest, _, hle⟩ := hascend
      cases hposting : r.posting? key (s.run rest) with
      | none =>
          rw [hposting] at hafter
          have hinOrder : InOrder ((s.run rest).billsOf key) day :=
            ih hrest fun p hp => hlast p (List.mem_append_left _ hp)
          exact hinOrder.after hreached (by simp) hafter
      | some p =>
          rw [hposting] at hafter hle hlast
          have hinOrder : InOrder ((s.run rest).billsOf key) p.day :=
            ih hrest fun q hq => hle q hq p (by simp)
          have hstep := hinOrder.after hreached (by simp) hafter
          exact hstep.mono (hlast p (by simp))

/-- No bill ends before it starts. -/
theorem run_windows (hnew : s.billsOf key = []) (hterms : s.Billable key)
    (hascend : DaysAscend key s history) :
    ∀ b ∈ (s.run history).billsOf key, b.startDate ≤ b.endDate := by
  -- The last day of the calendar comes after all postings.
  have hlast : ∀ p ∈ postings key s history, p.day ≤ ⟨3652059, by decide⟩ :=
    fun p _ => p.day.inCalendar.2
  exact (inOrder_run hnew hterms hascend hlast).window

/-- Let `day` be the last day on which an order or a payment was posted to a tab's account, or any later
one.  Then every bill of the tab has a window that began by that day, at most one open bill reaches it,
and whichever open bill covers a further order receives it, with no bill opened. -/
theorem current_bill_unique (hnew : s.billsOf key = []) (hterms : s.Billable key)
    (hascend : DaysAscend key s history) (hlast : ∀ p ∈ postings key s history, p.day ≤ day) :
    (∀ b ∈ (s.run history).billsOf key, b.startDate ≤ b.endDate ∧ b.startDate ≤ day) ∧
    ((s.run history).billsOf key).countP (fun b => !b.isPaid && day ≤ b.endDate) ≤ 1 ∧
    ∀ (r : Service.Request) (later : Day) (billId : Int), day ≤ later →
      r.posting? key (s.run history) = some (.order billId later) →
      ∀ b ∈ (s.run history).billsOf key, b.isPaid = false → b.covers later = true →
        billId = b.id ∧ (r.after (s.run history)).bills = (s.run history).bills := by
  have hinOrder := inOrder_run hnew hterms hascend hlast
  refine ⟨fun b hb => ⟨hinOrder.window b hb, hinOrder.begun b hb⟩, hinOrder.current, ?_⟩
  intro r later billId hle hposting b hb hopen hcovers
  have htakes : b.takes later = true := by
    rw [Bill.takes, hopen, hcovers]
    rfl
  exact (hinOrder.mono hle).posted_of_takes hposting hb htakes

/-- A tab with weekly bills: two orders that are eight days apart, and the payment of the first bill.
The second bill is the one that is open, and an order of the next day joins it. -/
theorem current_bill_unique_sample :
    let history := [Sample.openTab 7, Sample.order 5, Sample.order 13, Sample.pay 1 14]
    let reached := Sample.store.run history
    ((Sample.order 15).after reached).bills = reached.bills := by
  intro history reached
  have hposted : postings Sample.tab Sample.store history =
      [.order 1 (Sample.january 5), .order 2 (Sample.january 13),
        .payment 1 (Sample.january 14)] := by decide +kernel
  have hascend : DaysAscend Sample.tab Sample.store history := by decide +kernel
  have hlast : ∀ p ∈ postings Sample.tab Sample.store history, p.day ≤ Sample.january 14 := by
    rw [hposted]
    decide +kernel
  have hopen : (⟨2, Sample.tab, Sample.january 11, Sample.january 17, false⟩ : Bill) ∈
      reached.billsOf Sample.tab := by decide +kernel
  have hnext : (Sample.order 15).posting? Sample.tab reached =
      some (.order 2 (Sample.january 15)) := by decide +kernel
  have hunique := current_bill_unique (by decide +kernel) (Sample.store_billable Sample.tab)
    hascend hlast
  exact (hunique.2.2 (Sample.order 15) (Sample.january 15) 2 (by decide +kernel) hnext _ hopen rfl
    (by decide +kernel)).2

end History

end ShopTabs
