import ShopTabs.Proofs.Billing.Succession
/-!
Bills that overlap.  An open bill of a tab may be paid while another one is open, but its window then ends
after the next bill started; or, where there is no next bill, after the one that the next order opens.
-/

namespace ShopTabs

/-- Closing a bill leaves the first days and the numbers of all bills, and so the order of the list. -/
theorem pairwise_precedes_closeBill {bills : List Bill} {id : Int} {day : Day}
    (h : bills.Pairwise fun a b => a.precedes b = true) :
    (closeBill bills id day).Pairwise fun a b => a.precedes b = true := by
  rw [closeBill, List.pairwise_map]
  apply h.imp
  intro a b hab
  have hstart : ∀ c : Bill, (if c.id = id then c.closedOn day else c).startDate = c.startDate := by
    intro c
    split <;> rfl
  have hid : ∀ c : Bill, (if c.id = id then c.closedOn day else c).id = c.id := by
    intro c
    split <;> rfl
  rw [Bill.precedes, hstart, hstart, hid, hid]
  exact hab

/-- Two neighbours of which the first ends after the second starts. -/
theorem not_isChain_of_neighbours {bills before after : List Bill} {a b : Bill}
    (hbills : bills = before ++ a :: b :: after) (hlate : b.startDate < a.endDate) :
    ¬ bills.IsChain fun a b => a.endDate ≤ b.startDate := by
  intro hchain
  rw [hbills, List.isChain_append] at hchain
  obtain ⟨_, hpair, _⟩ := hchain
  rw [List.isChain_cons_cons] at hpair
  exact Day.not_le.mpr hlate hpair.1

namespace Consecutive

variable {bills front : List Bill} {last : Bill} {day : Day}

/-- An open bill before the last one has ended before the day on which the bills stand in order. -/
theorem endDate_lt_of_open (h : Consecutive (front ++ [last])) (hinOrder : InOrder (front ++ [last]) day)
    {a : Bill} (ha : a ∈ front) (hopen : a.isPaid = false) : a.endDate < day := by
  have hlast : last ∈ front ++ [last] := by simp
  obtain ⟨hends, hid, hpaid⟩ := h.before_last ha
  rw [← Day.not_le]
  intro hcurrent
  have hlastOpen : last.isPaid = false := by
    rw [← Bool.not_eq_true]
    intro hlastPaid
    rw [hpaid hlastPaid] at hopen
    cases hopen
  have hlastEnd : day ≤ last.endDate :=
    Day.le_trans hcurrent (Day.le_trans hends (hinOrder.window last hlast))
  have hsame := hinOrder.current_unique (List.mem_append_left _ ha) hlast
    (Bill.isCurrent_iff.mpr ⟨hopen, hcurrent⟩) (Bill.isCurrent_iff.mpr ⟨hlastOpen, hlastEnd⟩)
  rw [hsame] at hid
  omega

/-- A bill with a successor that is paid ends after that one started. -/
theorem not_isChain_closeBill (h : Consecutive (front ++ [last]))
    (hinOrder : InOrder (front ++ [last]) day) {c : Bill} (hc : c ∈ front) (hopen : c.isPaid = false) :
    ¬ (closeBill (front ++ [last]) c.id day).IsChain fun a b => a.endDate ≤ b.startDate := by
  have hended := h.endDate_lt_of_open hinOrder hc hopen
  obtain ⟨before, rest, rfl⟩ := List.append_of_mem hc
  obtain ⟨n, after, hrest⟩ : ∃ n after, rest ++ [last] = n :: after := by
    cases rest with
    | nil => exact ⟨last, [], rfl⟩
    | cons n rest => exact ⟨n, rest ++ [last], rfl⟩
  have hbills : before ++ c :: rest ++ [last] = before ++ c :: n :: after := by
    rw [List.append_assoc, List.cons_append, hrest]
  rw [hbills] at h ⊢
  have hid : n.id ≠ c.id := by
    have hordered := (List.pairwise_append.mp h.ordered).2.1
    have hlt := ((List.pairwise_cons.mp hordered).1 n List.mem_cons_self).2.1
    omega
  have hstart : c.endDate = n.startDate := by
    have hchain := (List.isChain_append.mp h.contiguous).2.1
    exact (List.isChain_cons_cons.mp hchain).1
  have hclosed : closeBill (before ++ c :: n :: after) c.id day =
      closeBill before c.id day ++ c.closedOn day :: n :: closeBill after c.id day := by
    simp [closeBill, hid]
  refine not_isChain_of_neighbours hclosed ?_
  rw [← hstart]
  exact hended

/-- Of the bills before the last one the last is open, if any is. -/
theorem neighbour_open (h : Consecutive (front ++ [last])) {a : Bill} (ha : a ∈ front)
    (hopen : a.isPaid = false) :
    ∃ p ∈ front, p.isPaid = false ∧ p.endDate = last.startDate := by
  cases front using List.reverseRecOn with
  | nil => cases ha
  | append_singleton before p =>
      obtain ⟨hordered, _, _⟩ := List.pairwise_append.mp h.ordered
      obtain ⟨_, _, hends⟩ := List.isChain_append.mp h.contiguous
      have hfront : Consecutive (before ++ [p]) := ⟨hordered, (List.isChain_append.mp h.contiguous).1⟩
      refine ⟨p, by simp, ?_, hends p (by simp) last rfl⟩
      rw [← Bool.not_eq_true]
      intro hpaid
      rcases List.mem_append.mp ha with ha | ha
      · rw [(hfront.before_last ha).2.2 hpaid] at hopen
        cases hopen
      · rw [List.mem_singleton.mp ha, hpaid] at hopen
        cases hopen

/-- Where the last bill is paid while another one is open, the latest bill is then an open one that ended
when the last one started. -/
theorem latest_after_last (h : Consecutive (front ++ [last])) (hinOrder : InOrder (front ++ [last]) day)
    {a : Bill} (ha : a ∈ front) (hopen : a.isPaid = false) :
    ∃ b, latestBill (front ++ [last.closedOn day]) = some b ∧ b.endDate = last.startDate ∧
      b.endDate < day := by
  obtain ⟨p, hp, hpopen, hpends⟩ := h.neighbour_open ha hopen
  cases hlatest : latestBill (front ++ [last.closedOn day]) with
  | none => simp [latestBill_eq_none_iff] at hlatest
  | some b =>
      obtain ⟨hbopen, hle⟩ := latestBill_of_unpaid hlatest (List.mem_append_left _ hp) hpopen
      have hb : b ∈ front := by
        rcases List.mem_append.mp (latestBill_spec hlatest).1 with hb | hb
        · exact hb
        · rw [List.mem_singleton.mp hb] at hbopen
          cases hbopen
      refine ⟨b, rfl, Day.le_antisymm (h.before_last hb).1 ?_, h.endDate_lt_of_open hinOrder hb hbopen⟩
      rw [← hpends]
      exact hle

end Consecutive

section History

variable {key : TabKey} {s : Store} {day : Day} {pay next : Service.Request} {id : Int}

/-- After a payment of the last bill beside an open one, the next order makes bills overlap. -/
theorem not_isChain_of_order {front : List Bill} {last : Bill}
    (h : Consecutive (front ++ [last])) (hinOrder : InOrder (front ++ [last]) day)
    {a : Bill} (ha : a ∈ front) (hopen : a.isPaid = false)
    (hbills : s.billsOf key = front ++ [last.closedOn day]) {later : Day} (hlater : day ≤ later)
    (hnext : next.posting? key s = some (.order id later)) :
    ¬ ((next.after s).listedBills key).IsChain fun a b => a.endDate ≤ b.startDate := by
  obtain ⟨b, hlatest, hends, hended⟩ := h.latest_after_last hinOrder ha hopen
  have hafter := next.billsAfter s key
  rw [hnext] at hafter
  generalize hbillsAfter : (next.after s).billsOf key = bills at hafter
  rw [← hbills] at hlatest
  cases hafter with
  | kept tab orderable latest takes =>
      rw [hlatest] at latest
      cases latest
      have hend := (Bill.takes_iff.mp takes).2.2
      exact absurd (Day.le_trans hlater hend) (Day.not_le.mpr hended)
  | @opened t w _ tab orderable passed window free =>
      rw [hlatest] at window
      have hfirst : w.first = last.startDate := (Window.opening_number window).1.trans hends
      have hranked : (s.billsOf key).Pairwise fun a b => a.precedes b = true := by
        rw [hbills, ← h.closeBill_last]
        exact pairwise_precedes_closeBill (h.pairwise_precedes hinOrder.window)
      have hstarts : ∀ c ∈ s.billsOf key, c.startDate ≤ w.first := by
        intro c hc
        rw [hbills] at hc
        rw [hfirst]
        rcases List.mem_append.mp hc with hc | hc
        · exact Day.le_trans (hinOrder.window c (List.mem_append_left _ hc)) (h.before_last hc).1
        · rw [List.mem_singleton.mp hc]
          exact Day.le_refl last.startDate
      have hlisted : ((next.after s).billsOf key).Pairwise fun a b => a.precedes b = true := by
        rw [hbillsAfter, List.pairwise_append]
        refine ⟨hranked, List.pairwise_singleton _ _, ?_⟩
        intro c hc d hd
        rw [List.mem_singleton.mp hd]
        exact Bill.precedes_iff.mpr
          (Or.inr ⟨hstarts c hc, Int.le_of_lt (Store.lt_newBill_id hc)⟩)
      rw [Store.listedBills_eq hlisted, hbillsAfter, hbills]
      have hneighbours : front ++ [last.closedOn day] ++ [s.newBill key w false] =
          front ++ last.closedOn day :: s.newBill key w false :: [] := by simp
      refine not_isChain_of_neighbours hneighbours ?_
      show w.first < day
      rw [hfirst, ← hends]
      exact hended

/-- Where an open bill is paid beside another open one, for the first time in a history, its window and
the next one's overlap, at once or with the next order. -/
theorem payment_beside_open_overlaps {history : List Service.Request} (hnew : s.billsOf key = [])
    (hterms : s.Billable key) (hascend : DaysAscend key s history)
    (hpays : paysOnly isOnlyOpen key s history = true)
    (hlast : ∀ p ∈ postings key s history, p.day ≤ day)
    (hpay : pay.posting? key (s.run history) = some (.payment id day))
    (hopen : isOpen ((s.run history).billsOf key) id = true)
    (hbeside : isOnlyOpen ((s.run history).billsOf key) id = false) :
    (¬ ((pay.after (s.run history)).listedBills key).IsChain fun a b => a.endDate ≤ b.startDate) ∨
    ∀ (next : Service.Request) (nextId : Int) (later : Day), day ≤ later →
      next.posting? key (pay.after (s.run history)) = some (.order nextId later) →
      ¬ ((next.after (pay.after (s.run history))).listedBills key).IsChain
        fun a b => a.endDate ≤ b.startDate := by
  have hinOrder := inOrder_run hnew hterms hascend hlast
  have hconsecutive := consecutive_run hnew hterms hascend hpays
  have hafter := pay.billsAfter (s.run history) key
  rw [hpay] at hafter
  generalize hpaid : (pay.after (s.run history)).billsOf key = paid at hafter
  cases hafter
  obtain ⟨c, hc, hcopen⟩ := List.any_eq_true.mp hopen
  simp only [Bool.and_eq_true, decide_eq_true_eq, Bool.not_eq_eq_eq_not, Bool.not_true] at hcopen
  obtain ⟨rfl, hcopen⟩ := hcopen
  generalize hbills : (s.run history).billsOf key = bills at *
  cases bills using List.reverseRecOn with
  | nil => cases hc
  | append_singleton front last =>
      rcases List.mem_append.mp hc with hfront | hsingle
      · left
        have hranked : ((pay.after (s.run history)).billsOf key).Pairwise fun a b =>
            a.precedes b = true := by
          rw [hpaid]
          exact pairwise_precedes_closeBill (hconsecutive.pairwise_precedes hinOrder.window)
        rw [Store.listedBills_eq hranked, hpaid]
        exact hconsecutive.not_isChain_closeBill hinOrder hfront hcopen
      · right
        rw [List.mem_singleton] at hsingle
        subst hsingle
        rw [hconsecutive.closeBill_last] at hpaid
        obtain ⟨a, ha, haopen⟩ : ∃ a ∈ front, a.isPaid = false := by
          by_contra hnone
          have hfront : front.filter (fun b => !b.isPaid) = [] := by
            rw [List.filter_eq_nil_iff]
            intro a ha haopen
            exact hnone ⟨a, ha, by simpa using haopen⟩
          simp [isOnlyOpen, hfront, hcopen] at hbeside
        intro next nextId later hlater hnext
        exact not_isChain_of_order hconsecutive hinOrder ha haopen hpaid hlater hnext

end History

end ShopTabs
