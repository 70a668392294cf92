import Mathlib.Data.List.Chain
import Mathlib.Data.List.Infix
import ShopTabs.Proofs.Billing.Terms
import ShopTabs.Proofs.Ledger.Bookings
/-!
The bills of a tab whose settings stay and on which nothing is paid.  They are the first few of one fixed
sequence of windows: each lasts from one boundary to the next, and the boundaries are one day less than
the interval apart until they reach the end of the tab.
-/

namespace ShopTabs

namespace BillingTerms

variable {terms : BillingTerms} {j k : Nat}

/-- The number of the day on which the window before the `k`th ends, and the `k`th one starts; windows
are counted from zero. -/
def boundary (terms : BillingTerms) (k : Nat) : Int :=
  min (terms.startDate.number + k * (terms.interval - 1)) terms.endDate.number

theorem boundary_zero (hrange : terms.startDate ≤ terms.endDate) :
    terms.boundary 0 = terms.startDate.number := by
  rw [Day.le_def] at hrange
  unfold boundary
  omega

theorem boundary_succ (hpos : 0 < terms.interval) :
    terms.boundary (k + 1) =
      min (terms.boundary k + terms.interval - 1) terms.endDate.number := by
  have hnext : ((k + 1 : Nat) : Int) * (terms.interval - 1) =
      k * (terms.interval - 1) + (terms.interval - 1) := by
    rw [Int.natCast_add, Int.add_mul, Int.natCast_one, Int.one_mul]
  unfold boundary
  omega

theorem boundary_mono (hpos : 0 < terms.interval) (h : j ≤ k) :
    terms.boundary j ≤ terms.boundary k := by
  induction h with
  | refl => exact Int.le_refl _
  | @step m _ ih =>
      have hcut : terms.boundary m ≤ terms.endDate.number := by
        unfold boundary
        omega
      rw [boundary_succ hpos]
      omega

end BillingTerms

/-- Bills in the order of their numbers are the first few of the sequence. -/
structure InSequence (terms : BillingTerms) (bills : List Bill) : Prop where
  numbered : bills.Pairwise fun a b => a.id < b.id
  windows : ∀ k b, bills[k]? = some b →
    b.startDate.number = terms.boundary k ∧ b.endDate.number = terms.boundary (k + 1)
  unpaid : ∀ b ∈ bills, b.isPaid = false
  ascending : bills.Pairwise fun a b => a.startDate < b.startDate

namespace InSequence

variable {terms : BillingTerms} {bills : List Bill} {b : Bill}

theorem nil : InSequence terms [] := by
  refine ⟨.nil, ?_, ?_, .nil⟩
  · intro k b hb
    cases hb
  · intro b hb
    cases hb

/-- Every bill has a place in the sequence. -/
theorem exists_index (h : InSequence terms bills) (hb : b ∈ bills) :
    ∃ k < bills.length, b.startDate.number = terms.boundary k ∧
      b.endDate.number = terms.boundary (k + 1) := by
  obtain ⟨k, hk, rfl⟩ := List.mem_iff_getElem.mp hb
  exact ⟨k, hk, h.windows k _ (List.getElem?_eq_getElem hk)⟩

/-- The bill for the next window of the sequence can follow, unless one starts on that day already. -/
theorem append_singleton (h : InSequence terms bills) (hpos : 0 < terms.interval)
    (hid : ∀ a ∈ bills, a.id < b.id) (hopen : b.isPaid = false)
    (hstart : b.startDate.number = terms.boundary bills.length)
    (hend : b.endDate.number = terms.boundary (bills.length + 1))
    (hfree : ∀ a ∈ bills, a.startDate ≠ b.startDate) : InSequence terms (bills ++ [b]) := by
  refine ⟨?_, ?_, ?_, ?_⟩
  · refine List.pairwise_append.mpr ⟨h.numbered, List.pairwise_singleton _ _, ?_⟩
    intro a ha c hc
    rw [List.mem_singleton.mp hc]
    exact hid a ha
  · intro k c hc
    rcases Nat.lt_trichotomy k bills.length with hlt | rfl | hgt
    · rw [List.getElem?_append_left hlt] at hc
      exact h.windows k c hc
    · rw [List.getElem?_concat_length] at hc
      cases hc
      exact ⟨hstart, hend⟩
    · rw [List.getElem?_eq_none (by simp; omega)] at hc
      cases hc
  · intro a ha
    rcases List.mem_append.mp ha with ha | ha
    · exact h.unpaid a ha
    · rw [List.mem_singleton.mp ha]
      exact hopen
  · refine List.pairwise_append.mpr ⟨h.ascending, List.pairwise_singleton _ _, ?_⟩
    intro a ha c hc
    rw [List.mem_singleton.mp hc]
    obtain ⟨k, hk, hfirst, _⟩ := h.exists_index ha
    -- Boundaries do not decrease, and these two are not the same.
    have hle : terms.boundary k ≤ terms.boundary bills.length := terms.boundary_mono hpos hk.le
    have hne : a.startDate.number ≠ b.startDate.number := fun heq => hfree a ha (Day.ext_number heq)
    rw [Day.lt_def]
    omega

/-- The latest bill ends on the last boundary that was reached. -/
theorem endDate_latestBill (h : InSequence terms bills) (hpos : 0 < terms.interval)
    (hlatest : latestBill bills = some b) : b.endDate.number = terms.boundary bills.length := by
  have hmem := (latestBill_spec hlatest).1
  obtain ⟨k, hk, _, hend⟩ := h.exists_index hmem
  have hle : terms.boundary (k + 1) ≤ terms.boundary bills.length := terms.boundary_mono hpos hk
  have hlast : bills[bills.length - 1]? = some bills[bills.length - 1] :=
    List.getElem?_eq_getElem (by omega)
  have hlastEnd := (h.windows _ _ hlast).2
  rw [Nat.sub_add_cancel (by omega)] at hlastEnd
  have hlastOpen := h.unpaid _ (List.mem_of_getElem? hlast)
  have hge := (latestBill_of_unpaid hlatest (List.mem_of_getElem? hlast) hlastOpen).2
  rw [Day.le_def] at hge
  omega

/-- The next window is the next one of the sequence. -/
theorem nextWindow (h : InSequence terms bills) (hpos : 0 < terms.interval)
    (hrange : terms.startDate ≤ terms.endDate) {w : Window}
    (hwindow : terms.nextWindow (latestBill bills) = .ok w) :
    w.first.number = terms.boundary bills.length ∧
      w.last.number = terms.boundary (bills.length + 1) := by
  obtain ⟨hfirst, hlast⟩ := Window.opening_number hwindow
  have hstart : (terms.nextStart (latestBill bills)).number = terms.boundary bills.length := by
    cases hlatest : latestBill bills with
    | none =>
        rw [latestBill_eq_none_iff.mp hlatest]
        exact (terms.boundary_zero hrange).symm
    | some b => exact h.endDate_latestBill hpos hlatest
  rw [BillingTerms.boundary_succ hpos, hfirst, hlast, hstart]
  exact ⟨rfl, rfl⟩

/-- Where the next window starts on the first day of the tab, no bill is there yet. -/
theorem eq_nil_of_free (h : InSequence terms bills) (hrange : terms.startDate ≤ terms.endDate)
    (hfree : ∀ a ∈ bills, a.startDate ≠ terms.startDate) : bills = [] := by
  cases bills with
  | nil => rfl
  | cons a rest =>
      have hfirst := (h.windows 0 a rfl).1
      rw [terms.boundary_zero hrange] at hfirst
      exact absurd (Day.ext_number hfirst) (hfree a List.mem_cons_self)

/-- A selection keeps the bills in sequence, whichever of its reads are blind: a blind read wants the first
window of the tab, and cannot open it a second time. -/
theorem selectable {s : Store} {key : TabKey} {selection : Selection}
    (h : InSequence terms (s.billsOf key)) (hpos : 0 < terms.interval)
    (hrange : terms.startDate ≤ terms.endDate) (hselected : Selectable terms key s selection) :
    InSequence terms (selection.store.billsOf key) := by
  cases hselected with
  | kept found unpaid => exact h
  | @opened w latest blindReads seen window free =>
      have hstarts : ∀ a ∈ s.billsOf key, a.startDate ≠ w.first := by
        intro a ha hsame
        have hopen : s.hasOpenStart key w.first = true :=
          Store.hasOpenStart_iff.mpr ⟨a, ha, hsame, h.unpaid a ha⟩
        rw [free] at hopen
        cases hopen
      have hwindow : terms.nextWindow (latestBill (s.billsOf key)) = .ok w := by
        rcases seen with rfl | rfl
        · exact window
        · have hnil : s.billsOf key = [] := by
            apply h.eq_nil_of_free hrange
            rw [(Window.opening_number window).1] at hstarts
            exact hstarts
          rw [hnil]
          exact window
      obtain ⟨hfirst, hlast⟩ := h.nextWindow hpos hrange hwindow
      have hafter : (s.withBill (s.newBill key w false)).billsOf key =
          s.billsOf key ++ [s.newBill key w false] := Store.billsOf_withBill rfl
      rw [hafter]
      exact h.append_singleton hpos (fun a ha => Store.lt_newBill_id ha) rfl hfirst hlast hstarts

/-- Bills in sequence follow one another without a gap. -/
theorem isChain (h : InSequence terms bills) :
    bills.IsChain fun a b => a.endDate = b.startDate := by
  rw [List.isChain_iff_getElem]
  intro k hk
  have hfirst := (h.windows k _ (List.getElem?_eq_getElem (by omega))).2
  have hsecond := (h.windows (k + 1) _ (List.getElem?_eq_getElem hk)).1
  exact Day.ext_number (hfirst.trans hsecond.symm)

theorem endDate_le (h : InSequence terms bills) : ∀ b ∈ bills, b.endDate ≤ terms.endDate := by
  intro b hb
  obtain ⟨k, _, _, hend⟩ := h.exists_index hb
  rw [Day.le_def, hend, BillingTerms.boundary]
  omega

/-- With an interval of one day all boundaries are one, and only one bill can start there. -/
theorem length_le_one (h : InSequence terms bills) (hinterval : terms.interval = 1) :
    bills.length ≤ 1 := by
  by_contra hlong
  have hfirst := (h.windows 0 _ (List.getElem?_eq_getElem (by omega))).1
  have hsecond := (h.windows 1 _ (List.getElem?_eq_getElem (by omega))).1
  have hless := List.pairwise_iff_getElem.mp h.ascending 0 1 (by omega) (by omega) (by omega)
  rw [Day.lt_def, hfirst, hsecond, BillingTerms.boundary, BillingTerms.boundary, hinterval] at hless
  omega

end InSequence

/-- The settings of a tab, while it is there, are these. -/
def Store.HasTerms (s : Store) (key : TabKey) (terms : BillingTerms) : Prop :=
  ∀ t, s.tab? key = some t → t.config.billingTerms = terms

section Steps

variable {s s' : Store} {key : TabKey} {terms : BillingTerms}

/-- An order on any tab keeps the bills of a tab in sequence. -/
theorem BooksAfter.inSequence {e : Booking} (h : BooksAfter s s' (some e))
    (hbills : InSequence terms (s.billsOf key)) (hbillable : s.Billable key)
    (hterms : s.HasTerms key terms) : InSequence terms (s'.billsOf key) := by
  cases h with
  | @booked e t day selection tab orderable selected billId bills items variants =>
      rw [Store.billsOf_congr bills]
      by_cases hkey : e.tab = key
      · subst hkey
        have hpos := hbillable.of_tab? tab
        have hrange : t.config.startDate ≤ t.config.endDate :=
          Day.le_trans orderable.2.1 orderable.2.2
        rw [← hterms t tab] at hbills ⊢
        exact hbills.selectable hpos hrange selected
      · cases selected with
        | kept found unpaid => exact hbills
        | opened seen window free =>
            rw [Store.billsOf_withBill_of_ne hkey]
            exact hbills

/-- So does every operation but the payment of one of them, whatever surrounds it. -/
theorem Effect.inSequence {env : Surroundings} {caller : Caller} {op : Operation} {reply : Reply}
    (h : Effect env caller s op reply s') (hbills : InSequence terms (s.billsOf key))
    (hbillable : s.Billable key) (hterms : s.HasTerms key terms)
    (hunpaid : ∀ billId day, op.posting? env key reply ≠ some (.payment billId day)) :
    InSequence terms (s'.billsOf key) := by
  have hbooks := h.booksAfter
  cases h with
  | orderAdded allowed applied => exact hbooks.inSequence hbills hbillable hterms
  | orderRemoved allowed applied => exact hbooks.inSequence hbills hbillable hterms
  | @billPaid other billId on day tab dayOr allowed found =>
      have hkey : other ≠ key := by
        rintro rfl
        apply hunpaid billId day
        rw [Operation.posting?, Surroundings.post?_eq_some]
        exact ⟨rfl, day, dayOr, rfl⟩
      rw [Store.billsOf_congr (s := s.updateBill other billId fun b => b.closedOn day) (by simp),
        Store.billsOf_updateBill_of_ne hkey]
      exact hbills
  | _ =>
      rw [Store.billsOf_congr (s := s) (by simp)]
      exact hbills

theorem Service.Request.inSequence (r : Service.Request)
    (hbills : InSequence terms (s.billsOf key)) (hbillable : s.Billable key)
    (hterms : s.HasTerms key terms)
    (hunpaid : ∀ billId day, r.posting? key s ≠ some (.payment billId day)) :
    InSequence terms ((r.after s).billsOf key) := by
  cases hresult : (r.outcome s).result with
  | error failure =>
      rw [after_of_error hresult]
      exact hbills
  | ok reply =>
      obtain ⟨op, hread, heffect⟩ := effect_of_ok hresult
      apply heffect.inSequence hbills hbillable hterms
      intro billId day hposting
      apply hunpaid billId day
      rw [posting?, hread, hresult]
      exact hposting

end Steps

section History

variable {s : Store} {key : TabKey} {terms : BillingTerms} {history : List Service.Request}

theorem inSequence_run (hnew : s.billsOf key = []) (hbillable : s.Billable key)
    (hkept : ∀ first, first <+: history → (s.run first).HasTerms key terms)
    (hunpaid : ∀ p ∈ postings key s history, ∀ billId day, p ≠ .payment billId day) :
    InSequence terms ((s.run history).billsOf key) := by
  induction history using List.reverseRecOn with
  | nil =>
      rw [Store.run_nil, hnew]
      exact .nil
  | append_singleton rest r ih =>
      rw [postings_append_singleton] at hunpaid
      have hrest : InSequence terms ((s.run rest).billsOf key) := by
        apply ih
        · exact fun first hfirst => hkept first (hfirst.trans (List.prefix_append _ _))
        · exact fun p hp => hunpaid p (List.mem_append_left _ hp)
      rw [Store.run_append_singleton]
      apply r.inSequence hrest (run_billable hbillable rest) (hkept rest (List.prefix_append _ _))
      intro billId day hposting
      exact hunpaid (.payment billId day) (by simp [hposting]) billId day rfl

/-- Let the settings of a tab stay as they are and none of its bills be paid.  Then its bills, in the order
of their numbers, are the first few of the sequence that its settings fix, all open and starting later and
later; each starts on the day on which the one before it ends, none ends after the tab, and with an
interval of one day there is at most one.  A further order leaves them in the sequence even when some of
its reads find no bill, as when another writer opens it meanwhile. -/
theorem bills_in_sequence (hnew : s.billsOf key = []) (hbillable : s.Billable key)
    (hkept : ∀ first, first <+: history → (s.run first).HasTerms key terms)
    (hunpaid : ∀ p ∈ postings key s history, ∀ billId day, p ≠ .payment billId day) :
    InSequence terms ((s.run history).billsOf key) ∧
    ((s.run history).billsOf key).IsChain (fun a b => a.endDate = b.startDate) ∧
    (∀ b ∈ (s.run history).billsOf key, b.endDate ≤ terms.endDate) ∧
    (terms.interval = 1 → ((s.run history).billsOf key).length ≤ 1) ∧
    ∀ (env : Surroundings) (caller : Caller) (op : Operation) (result : LedgerResult) (s' : Store),
      op.attempt env caller (s.run history) = .ok (.ordered result, s') →
      InSequence terms (s'.billsOf key) := by
  have hbills := inSequence_run hnew hbillable hkept hunpaid
  refine ⟨hbills, hbills.isChain, hbills.endDate_le, hbills.length_le_one, ?_⟩
  intro env caller op result s' hattempt
  obtain ⟨_, _, _, hbooks⟩ := (Operation.attempt_effect hattempt).booking_of_ordered
  exact hbooks.inSequence hbills (run_billable hbillable history) (hkept history (List.prefix_refl _))

/-- Orders on days that go back and forth, and a removal that is refused after it called for a new bill. -/
theorem bills_in_sequence_sample :
    let history := [Sample.openTab 7, Sample.order 13, Sample.takeBack .reject 30, Sample.order 5,
      Sample.order 13, Sample.order 5]
    let bills := (Sample.store.run history).billsOf Sample.tab
    bills = [⟨1, Sample.tab, Sample.january 5, Sample.january 11, false⟩,
        ⟨2, Sample.tab, Sample.january 11, Sample.january 17, false⟩,
        ⟨3, Sample.tab, Sample.january 17, Sample.january 23, false⟩] ∧
      InSequence (Sample.openedTab 7).config.billingTerms bills := by
  intro history bills
  have hterms : ∀ first ∈ history.inits, ((Sample.store.run first).tab? Sample.tab).all
      fun t => t.config.billingTerms = (Sample.openedTab 7).config.billingTerms := by decide +kernel
  have hkept : ∀ first, first <+: history →
      (Sample.store.run first).HasTerms Sample.tab (Sample.openedTab 7).config.billingTerms := by
    intro first hfirst t ht
    have hall := hterms first ((List.mem_inits first history).mpr hfirst)
    rw [ht] at hall
    simpa using hall
  have hposted : postings Sample.tab Sample.store history =
      [.order 1 (Sample.january 13), .order 1 (Sample.january 5), .order 2 (Sample.january 13),
        .order 3 (Sample.january 5)] := by decide +kernel
  have hunpaid : ∀ p ∈ postings Sample.tab Sample.store history,
      ∀ billId day, p ≠ .payment billId day := by
    rw [hposted]
    intro p hp billId day
    simp only [List.mem_cons, List.not_mem_nil, or_false] at hp
    rcases hp with rfl | rfl | rfl | rfl <;> exact Posting.noConfusion
  refine ⟨by decide +kernel, ?_⟩
  exact (bills_in_sequence (by decide +kernel) (Sample.store_billable Sample.tab) hkept hunpaid).1

end History

end ShopTabs
