import Mathlib.Data.List.Chain
import ShopTabs.Proofs.Billing.Current
/-!
Bills that follow one another.  The bills of a tab, in the order of their first days, share no more than
boundary days as long as only that bill is paid which alone is open.  A bill that is paid after the next
one was opened ends after that one started.
-/

namespace ShopTabs

/-- A bill is listed before another one: by its first day, then by its number. -/
def Bill.precedes (a b : Bill) : Bool :=
  rankLe [a.startDate.number, a.id] [b.startDate.number, b.id]

theorem Bill.precedes_iff {a b : Bill} :
    a.precedes b = true ↔ a.startDate < b.startDate ∨ (a.startDate ≤ b.startDate ∧ a.id ≤ b.id) := by
  simp only [Bill.precedes, rankLe, Bool.and_true, Bool.or_eq_true, Bool.and_eq_true, decide_eq_true_eq,
    Day.lt_def, Day.le_def]
  omega

/-- The bills of a tab as they are listed. -/
def Store.listedBills (s : Store) (key : TabKey) : List Bill :=
  (s.billsOf key).mergeSort Bill.precedes

/-- Bills that stand in this order already are listed as they stand. -/
theorem Store.listedBills_eq {s : Store} {key : TabKey}
    (h : (s.billsOf key).Pairwise fun a b => a.precedes b = true) :
    s.listedBills key = s.billsOf key := List.mergeSort_of_pairwise h

/-- The open bills are just the one of a number. -/
def isOnlyOpen (bills : List Bill) (id : Int) : Bool :=
  (bills.filter fun b => !b.isPaid).map (·.id) = [id]

/-- The bill of a number is open. -/
def isOpen (bills : List Bill) (id : Int) : Bool := bills.any fun b => b.id = id && !b.isPaid

/-- Each payment in a history is made on a bill that is in order for it at that moment. -/
def paysOnly (inOrder : List Bill → Int → Bool) (key : TabKey) : Store → List Service.Request → Bool
  | _, [] => true
  | s, r :: rest =>
    (match r.posting? key s with
      | some (.payment id _) => inOrder (s.billsOf key) id
      | _ => true) && paysOnly inOrder key (r.after s) rest

theorem paysOnly_append_singleton {inOrder : List Bill → Int → Bool} {key : TabKey} {s : Store}
    {history : List Service.Request} {r : Service.Request} :
    paysOnly inOrder key s (history ++ [r]) = true ↔
      paysOnly inOrder key s history = true ∧
        ∀ id day, r.posting? key (s.run history) = some (.payment id day) →
          inOrder ((s.run history).billsOf key) id = true := by
  induction history generalizing s with
  | nil =>
      simp only [List.nil_append, paysOnly, Bool.and_true, true_and, Store.run_nil]
      cases r.posting? key s with
      | none => simp
      | some p => cases p <;> simp
  | cons first rest ih =>
      rw [List.cons_append, paysOnly, paysOnly, Bool.and_eq_true, Bool.and_eq_true, ih, and_assoc]
      rfl

/-- Bills that follow one another: each starts on the day on which the one before it ends, and the paid
ones stand before the open ones. -/
structure Consecutive (bills : List Bill) : Prop where
  ordered : bills.Pairwise fun a b =>
    a.endDate ≤ b.startDate ∧ a.id < b.id ∧ (b.isPaid = true → a.isPaid = true)
  contiguous : bills.IsChain fun a b => a.endDate = b.startDate

namespace Consecutive

variable {bills front : List Bill} {last : Bill}

theorem nil : Consecutive [] := ⟨List.Pairwise.nil, List.IsChain.nil⟩

/-- Every bill before the last one ends by its start, and is paid if it is. -/
theorem before_last (h : Consecutive (front ++ [last])) {a : Bill} (ha : a ∈ front) :
    a.endDate ≤ last.startDate ∧ a.id < last.id ∧ (last.isPaid = true → a.isPaid = true) := by
  obtain ⟨_, _, hlast⟩ := List.pairwise_append.mp h.ordered
  exact hlast a ha last (List.mem_singleton_self last)

/-- The latest bill ends when the last one does. -/
theorem latest_endDate (h : Consecutive (front ++ [last])) (hwindow : last.startDate ≤ last.endDate)
    {b : Bill} (hlatest : latestBill (front ++ [last]) = some b) : b.endDate = last.endDate := by
  have hlast : last ∈ front ++ [last] := by simp
  have hle : b.endDate ≤ last.endDate := by
    rcases List.mem_append.mp (latestBill_spec hlatest).1 with hb | hb
    · exact Day.le_trans (h.before_last hb).1 hwindow
    · rw [List.mem_singleton.mp hb]
      exact Day.le_refl last.endDate
  have hge : last.endDate ≤ b.endDate := by
    cases hpaid : last.isPaid with
    | false => exact (latestBill_of_unpaid hlatest hlast hpaid).2
    | true =>
        have hbpaid : b.isPaid = true := by
          rcases List.mem_append.mp (latestBill_spec hlatest).1 with hb | hb
          · exact (h.before_last hb).2.2 hpaid
          · rw [List.mem_singleton.mp hb]
            exact hpaid
        exact (latestBill_of_paid hlatest hbpaid hlast).2
  exact Day.le_antisymm hle hge

theorem append (h : Consecutive (front ++ [last])) (hwindow : last.startDate ≤ last.endDate)
    {b : Bill} (hopen : b.isPaid = false) (hid : ∀ a ∈ front ++ [last], a.id < b.id)
    (hstart : b.startDate = last.endDate) : Consecutive (front ++ [last] ++ [b]) := by
  refine ⟨?_, ?_⟩
  · rw [List.pairwise_append]
    refine ⟨h.ordered, List.pairwise_singleton _ b, ?_⟩
    intro a ha c hc
    rw [List.mem_singleton.mp hc, hopen, hstart]
    refine ⟨?_, hid a ha, nofun⟩
    rcases List.mem_append.mp ha with ha | ha
    · exact Day.le_trans (h.before_last ha).1 hwindow
    · rw [List.mem_singleton.mp ha]
      exact Day.le_refl last.endDate
  · rw [List.isChain_append]
    refine ⟨h.contiguous, List.isChain_singleton b, ?_⟩
    simp [hstart]

theorem opened (h : Consecutive bills) (hwindows : ∀ a ∈ bills, a.startDate ≤ a.endDate) {b : Bill}
    (hopen : b.isPaid = false) (hid : ∀ a ∈ bills, a.id < b.id)
    (hstart : ∀ a, latestBill bills = some a → b.startDate = a.endDate) :
    Consecutive (bills ++ [b]) := by
  cases bills using List.reverseRecOn with
  | nil => exact ⟨List.pairwise_singleton _ b, List.isChain_singleton b⟩
  | append_singleton front last =>
      cases hlatest : latestBill (front ++ [last]) with
      | none => simp [latestBill_eq_none_iff] at hlatest
      | some a =>
          have hwindow := hwindows last (by simp)
          have hends := h.latest_endDate hwindow hlatest
          exact h.append hwindow hopen hid ((hstart a hlatest).trans hends)

/-- The only open bill is the last one, and all before it are paid. -/
theorem last_of_isOnlyOpen (h : Consecutive (front ++ [last])) {id : Int}
    (honly : isOnlyOpen (front ++ [last]) id = true) :
    last.id = id ∧ ∀ a ∈ front, a.isPaid = true := by
  rw [isOnlyOpen, decide_eq_true_eq, List.filter_append, List.map_append] at honly
  cases hpaid : last.isPaid with
  | true =>
      have hnone : front.filter (fun b => !b.isPaid) = [] := by
        rw [List.filter_eq_nil_iff]
        intro a ha
        simp [(h.before_last ha).2.2 hpaid]
      simp [hnone, hpaid] at honly
  | false =>
      have hlast : ([last].filter fun b => !b.isPaid).map (·.id) = [last.id] := by simp [hpaid]
      rw [hlast, ← List.nil_append [id]] at honly
      obtain ⟨hfront, hid⟩ := List.append_inj' honly rfl
      refine ⟨List.singleton_injective hid, ?_⟩
      intro a ha
      have hnot := List.filter_eq_nil_iff.mp (List.map_eq_nil_iff.mp hfront) a ha
      simpa using hnot

theorem closeBill_last (h : Consecutive (front ++ [last])) (day : Day) :
    closeBill (front ++ [last]) last.id day = front ++ [last.closedOn day] := by
  have hfront : closeBill front last.id day = front := by
    apply closeBill_of_ne
    intro a ha
    have hlt := (h.before_last ha).2.1
    omega
  rw [closeBill] at hfront ⊢
  rw [List.map_append, hfront, List.map_singleton, if_pos rfl]

theorem closed (h : Consecutive bills) {id : Int} (honly : isOnlyOpen bills id = true) (day : Day) :
    Consecutive (closeBill bills id day) := by
  cases bills using List.reverseRecOn with
  | nil => cases honly
  | append_singleton front last =>
      obtain ⟨rfl, hpaid⟩ := h.last_of_isOnlyOpen honly
      obtain ⟨hordered, _, hlast⟩ := List.pairwise_append.mp h.ordered
      obtain ⟨hchain, _, hends⟩ := List.isChain_append.mp h.contiguous
      rw [h.closeBill_last]
      refine ⟨?_, ?_⟩
      · rw [List.pairwise_append]
        refine ⟨hordered, List.pairwise_singleton _ _, ?_⟩
        intro a ha c hc
        rw [List.mem_singleton.mp hc]
        exact ⟨(h.before_last ha).1, (h.before_last ha).2.1, fun _ => hpaid a ha⟩
      · rw [List.isChain_append]
        refine ⟨hchain, List.isChain_singleton _, ?_⟩
        intro a ha c hc
        simp only [List.head?_cons, Option.mem_def, Option.some.injEq] at hc
        subst hc
        exact hends a ha last rfl

/-- Such bills stand in the order in which they are listed. -/
theorem pairwise_precedes (h : Consecutive bills)
    (hwindows : ∀ a ∈ bills, a.startDate ≤ a.endDate) :
    bills.Pairwise fun a b => a.precedes b = true := by
  apply h.ordered.imp_of_mem
  intro a b ha _ hab
  have hstarts : a.startDate ≤ b.startDate := Day.le_trans (hwindows a ha) hab.1
  exact Bill.precedes_iff.mpr (Or.inr ⟨hstarts, Int.le_of_lt hab.2.1⟩)

/-- One request that pays no bill but the only open one. -/
theorem after {key : TabKey} {s : Store} {posting : Option Posting}
    (h : Consecutive (s.billsOf key)) (hwindows : ∀ a ∈ s.billsOf key, a.startDate ≤ a.endDate)
    (hpays : ∀ id day, posting = some (.payment id day) → isOnlyOpen (s.billsOf key) id = true)
    (hafter : BillsAfter key s posting bills) : Consecutive bills := by
  cases hafter with
  | untouched => exact h
  | kept tab orderable latest takes => exact h
  | opened tab orderable passed window free =>
      refine h.opened hwindows rfl (fun a ha => Store.lt_newBill_id ha) ?_
      intro a hlatest
      rw [hlatest] at window
      exact (Window.opening_number window).1
  | @closed billId day found => exact h.closed (hpays billId day rfl) day

end Consecutive

section History

variable {key : TabKey} {s : Store} {history : List Service.Request}

theorem consecutive_run (hnew : s.billsOf key = []) (hterms : s.Billable key)
    (hascend : DaysAscend key s history) (hpays : paysOnly isOnlyOpen key s history = true) :
    Consecutive ((s.run history).billsOf key) := by
  induction history using List.reverseRecOn with
  | nil =>
      rw [Store.run_nil, hnew]
      exact Consecutive.nil
  | append_singleton rest r ih =>
      obtain ⟨hrestPays, hlastPays⟩ := paysOnly_append_singleton.mp hpays
      have hrest := hascend.of_append
      have hwindows := run_windows hnew hterms hrest
      rw [Store.run_append_singleton]
      exact (ih hrest hrestPays).after hwindows hlastPays (r.billsAfter (s.run rest) key)

/-- Where every payment is made on the only open bill of a tab, its bills follow one another without a
gap: each starts on the day on which the one before it ends. -/
theorem bills_consecutive_of_single_payments (hnew : s.billsOf key = []) (hterms : s.Billable key)
    (hascend : DaysAscend key s history) (hpays : paysOnly isOnlyOpen key s history = true) :
    ((s.run history).listedBills key).IsChain fun a b => a.endDate = b.startDate := by
  have hconsecutive := consecutive_run hnew hterms hascend hpays
  have hwindows := run_windows hnew hterms hascend
  rw [Store.listedBills_eq (hconsecutive.pairwise_precedes hwindows)]
  exact hconsecutive.contiguous

/-- A week and a day lie between two orders, so that two bills are open, and then the first is paid: it
ends after the second one started. -/
theorem late_payment_overlaps :
    let opened := Sample.store.run [Sample.openTab 7]
    let history := [Sample.order 5, Sample.order 13, Sample.pay 1 15]
    opened.billsOf Sample.tab = [] ∧ DaysAscend Sample.tab opened history ∧
      paysOnly isOpen Sample.tab opened history = true ∧
      ¬ ((opened.run history).listedBills Sample.tab).IsChain fun a b => a.endDate ≤ b.startDate := by
  intro opened history
  refine ⟨by decide +kernel, by decide +kernel, by decide +kernel, ?_⟩
  rw [Store.listedBills_eq (by decide +kernel)]
  decide +kernel

/-- Two bills of a week, the first of which is paid before the second is opened. -/
theorem bills_consecutive_of_single_payments_sample :
    let history := [Sample.openTab 7, Sample.order 5, Sample.pay 1 9, Sample.order 13]
    (Sample.store.run history).billsOf Sample.tab =
        [⟨1, Sample.tab, Sample.january 5, Sample.january 9, true⟩,
          ⟨2, Sample.tab, Sample.january 9, Sample.january 15, false⟩] ∧
      ((Sample.store.run history).listedBills Sample.tab).IsChain
        fun a b => a.endDate = b.startDate := by
  intro history
  have hascend : DaysAscend Sample.tab Sample.store history := by
    decide +kernel
  refine ⟨by decide +kernel, ?_⟩
  exact bills_consecutive_of_single_payments (by decide +kernel) (Sample.store_billable Sample.tab)
    hascend (by decide +kernel)

end History

end ShopTabs
