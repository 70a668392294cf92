import ShopTabs.Proofs.Billing.Current
/-!
Orders of one day.  A second order goes to the bill of the first one if that bill covers the day.  The
next window may still end before the day of the order for which it is opened; then the second order opens
yet another one.
-/

namespace ShopTabs

namespace InOrder

variable {s : Store} {key : TabKey} {day : Day} {r : Service.Request} {billId : Int} {b : Bill}

/-- An order that goes to a bill which was there went to one that takes it. -/
theorem exists_takes_of_posted (hposting : r.posting? key s = some (.order billId day))
    (hb : b ∈ s.billsOf key) (hid : billId = b.id) :
    ∃ c ∈ s.billsOf key, c.takes day = true := by
  obtain ⟨t, selection, _, _, hselected, hselection, _⟩ :=
    Service.Request.selected_of_posting hposting
  cases hselected with
  | @kept c latest takes => exact ⟨c, (latestBill_spec latest).1, takes⟩
  | @opened w passed window words free tab =>
      have hlt : b.id < (s.newBill key w false).id := Store.lt_newBill_id hb
      rw [← hid, hselection] at hlt
      exact absurd hlt (Int.lt_irrefl _)

/-- The next window covers the day for which it is opened exactly if it reaches it before it is cut at
the end of the tab. -/
theorem newBill_takes_iff (h : InOrder (s.billsOf key) day) {t : Tab} {w : Window}
    (horderable : t.IsOrderable day)
    (hpassed : ∀ b, latestBill (s.billsOf key) = some b → b.takes day = false)
    (hwindow : t.config.billingTerms.nextWindow (latestBill (s.billsOf key)) = .ok w) :
    (s.newBill key w false).takes day = true ↔
      day.number < (t.config.billingTerms.nextStart (latestBill (s.billsOf key))).number +
        t.config.billingInterval := by
  have hbegun : t.config.billingTerms.nextStart (latestBill (s.billsOf key)) ≤ day :=
    h.nextStart_le horderable.2.1 hpassed
  have hend : day ≤ t.config.endDate := horderable.2.2
  obtain ⟨hfirst, hlast⟩ := Window.opening_number hwindow
  rw [Bill.takes_iff, Store.newBill, Day.le_def, Day.le_def, hfirst]
  rw [Day.le_def] at hbegun hend
  simp only [TabConfig.billingTerms, true_and] at *
  omega

/-- Where a bill was opened for an order, the next order of the day goes to it exactly if it takes it. -/
theorem newBill_posted_iff (h : InOrder (s.billsOf key) day)
    (hpassed : ∀ b, latestBill (s.billsOf key) = some b → b.takes day = false) {w : Window}
    {later : Store} (hlater : InOrder (later.billsOf key) day)
    (hbills : later.billsOf key = s.billsOf key ++ [s.newBill key w false])
    (hposting : r.posting? key later = some (.order billId day)) :
    (s.newBill key w false).id = billId ↔ (s.newBill key w false).takes day = true := by
  have hnew : s.newBill key w false ∈ later.billsOf key := by
    rw [hbills]
    simp
  constructor
  · intro hsame
    obtain ⟨c, hc, htakes⟩ := exists_takes_of_posted hposting hnew hsame.symm
    rw [hbills] at hc
    rcases List.mem_append.mp hc with hc | hc
    · rw [h.not_takes_of_passed hpassed hc] at htakes
      cases htakes
    · rw [← List.mem_singleton.mp hc]
      exact htakes
  · intro htakes
    exact (hlater.posted_of_takes hposting hnew htakes).1.symm

end InOrder

section History

variable {key : TabKey} {s : Store} {history between : List Service.Request} {day : Day}
  {first second : Service.Request} {t : Tab} {firstId secondId : Int}

/-- Two orders are made on one day, and no other request names the tab in between.  They go to the same
bill exactly where an open bill covered the day, or the next window, before it is cut at the end of the
tab, reaches it. -/
theorem same_day_same_bill_iff (hnew : s.billsOf key = []) (hterms : s.Billable key)
    (hascend : DaysAscend key s history) (hlast : ∀ p ∈ postings key s history, p.day ≤ day)
    (ht : (s.run history).tab? key = some t)
    (hfirst : first.posting? key (s.run history) = some (.order firstId day))
    (hbetween : ∀ r ∈ between, r.ask.tab? ≠ some key)
    (hsecond : second.posting? key ((first.after (s.run history)).run between) =
      some (.order secondId day)) :
    firstId = secondId ↔
      (∃ b ∈ (s.run history).billsOf key, b.takes day = true) ∨
      day.number < (t.config.billingTerms.nextStart (latestBill ((s.run history).billsOf key))).number +
        t.config.billingInterval := by
  have hinOrder := inOrder_run hnew hterms hascend hlast
  have hreached := run_billable hterms history
  generalize s.run history = reached at *
  have hafter := first.billsAfter reached key
  have hbetweenBills := Store.billsOf_run_of_others (s := first.after reached) hbetween
  generalize (first.after reached).run between = later at *
  rw [hfirst, ← hbetweenBills] at hafter
  have hlater : InOrder (later.billsOf key) day :=
    hinOrder.after hreached (by simp [Posting.day]) hafter
  generalize hbills : later.billsOf key = bills at hafter
  cases hafter with
  | @kept t' b _ tab orderable latest takes =>
      have hb : b ∈ later.billsOf key := by
        rw [hbills]
        exact (latestBill_spec latest).1
      constructor
      · intro _
        exact Or.inl ⟨b, (latestBill_spec latest).1, takes⟩
      · intro _
        exact (hlater.posted_of_takes hsecond hb takes).1.symm
  | @opened t' w _ tab orderable passed window free =>
      rw [ht] at tab
      cases tab
      rw [hinOrder.newBill_posted_iff passed hlater hbills hsecond,
        hinOrder.newBill_takes_iff orderable passed window]
      constructor
      · intro hreaches
        exact Or.inr hreaches
      · rintro (⟨b, hb, htakes⟩ | hreaches)
        · rw [hinOrder.not_takes_of_passed passed hb] at htakes
          cases htakes
        · exact hreaches

/-- A tab from the fifth of January with weekly bills, on which nothing is ordered until the twentieth.
The first window ends on the eleventh, and the second order of that day opens another bill. -/
theorem same_day_same_bill_iff_lateStart :
    let reached := Sample.store.run [Sample.openTab 7]
    let again := ((Sample.order 20).after reached).run []
    (Sample.order 20).posting? Sample.tab reached = some (.order 1 (Sample.january 20)) ∧
      (Sample.order 20).posting? Sample.tab again = some (.order 2 (Sample.january 20)) ∧
      ¬ ((∃ b ∈ reached.billsOf Sample.tab, b.takes (Sample.january 20) = true) ∨
        (Sample.january 20).number < ((Sample.openedTab 7).config.billingTerms.nextStart
          (latestBill (reached.billsOf Sample.tab))).number + 7) := by
  intro reached again
  have hascend : DaysAscend Sample.tab Sample.store [Sample.openTab 7] := by
    decide +kernel
  have hfirst : (Sample.order 20).posting? Sample.tab reached =
      some (.order 1 (Sample.january 20)) := by decide +kernel
  have hsecond : (Sample.order 20).posting? Sample.tab again =
      some (.order 2 (Sample.january 20)) := by decide +kernel
  have ht : reached.tab? Sample.tab = some (Sample.openedTab 7) := by decide +kernel
  have hiff := same_day_same_bill_iff (by decide +kernel) (Sample.store_billable Sample.tab) hascend
    (by decide +kernel) ht hfirst (by simp) hsecond
  refine ⟨hfirst, hsecond, ?_⟩
  intro hcovered
  have hsame : (1 : Int) = 2 := hiff.mpr hcovered
  omega

end History

end ShopTabs
