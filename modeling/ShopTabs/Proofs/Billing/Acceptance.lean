import ShopTabs.Proofs.Billing.Current
import ShopTabs.Proofs.Service.Ordering
/-!
Which orders are accepted.  An order that fits the tab, the catalogue and its numbers is turned away in
two cases only: it names a lone pair that the catalogue's lookup misses, or the last open bill of the tab
has a window of a single day that has passed, so that the next window would start with an open bill's.
-/

namespace ShopTabs

/-- The last of the open bills has a window of one day, which has passed.  Its successor starts on that
same day. -/
def Stalled (bills : List Bill) (day : Day) : Prop :=
  ∃ c ∈ bills, c.isPaid = false ∧ c.startDate = c.endDate ∧ c.endDate < day ∧
    ∀ b ∈ bills, b.isPaid = false → b.endDate ≤ c.endDate

/-- The latest bill of a tab that is stalled is an open one that ends with the stalled one. -/
theorem Stalled.latest {bills : List Bill} {day : Day} (h : Stalled bills day) :
    ∃ b c, latestBill bills = some b ∧ c ∈ bills ∧ c.isPaid = false ∧ c.startDate = b.endDate ∧
      b.endDate < day := by
  obtain ⟨c, hc, hopen, hsingle, hpassed, hlast⟩ := h
  cases hlatest : latestBill bills with
  | none =>
      rw [latestBill_eq_none_iff.mp hlatest] at hc
      cases hc
  | some b =>
      obtain ⟨hbopen, hle⟩ := latestBill_of_unpaid hlatest hc hopen
      have hge := hlast b (latestBill_spec hlatest).1 hbopen
      have hends : b.endDate = c.endDate := Day.le_antisymm hge hle
      exact ⟨b, c, rfl, hc, hopen, hsingle.trans hends.symm, hends ▸ hpassed⟩

namespace InOrder

variable {s : Store} {key : TabKey} {day : Day} {t : Tab} {terms : BillingTerms} {w : Window}
  {attempts : Nat}

/-- The next window meets an open bill exactly where the tab is stalled. -/
theorem hasOpenStart_iff (h : InOrder (s.billsOf key) day)
    (hpassed : ∀ b, latestBill (s.billsOf key) = some b → b.takes day = false)
    (hwindow : terms.nextWindow (latestBill (s.billsOf key)) = .ok w) :
    s.hasOpenStart key w.first = true ↔ Stalled (s.billsOf key) day := by
  have hfirst := (Window.opening_number hwindow).1
  rw [Store.hasOpenStart_iff]
  constructor
  · rintro ⟨c, hc, hstart, hopen⟩
    cases hlatest : latestBill (s.billsOf key) with
    | none =>
        rw [latestBill_eq_none_iff.mp hlatest] at hc
        cases hc
    | some b =>
        rw [hlatest] at hfirst
        have hmeets : c.startDate = b.endDate := hstart.trans hfirst
        obtain ⟨hbopen, hle⟩ := latestBill_of_unpaid hlatest hc hopen
        have hwindow := h.window c hc
        have hends : c.endDate = b.endDate := Day.le_antisymm hle (hmeets ▸ hwindow)
        have hbefore : b.endDate < day := by
          rw [← Day.not_le]
          intro hcurrent
          have htakes := h.takes_of_isCurrent (latestBill_spec hlatest).1
            (Bill.isCurrent_iff.mpr ⟨hbopen, hcurrent⟩)
          rw [hpassed b hlatest] at htakes
          cases htakes
        refine ⟨c, hc, hopen, hmeets.trans hends.symm, hends ▸ hbefore, ?_⟩
        intro a ha haopen
        rw [hends]
        exact (latestBill_of_unpaid hlatest ha haopen).2
  · intro hstalled
    obtain ⟨b, c, hlatest, hc, hopen, hmeets, _⟩ := hstalled.latest
    rw [hlatest] at hfirst
    exact ⟨c, hc, hmeets.trans hfirst.symm, hopen⟩

/-- A tab that is stalled takes the order on no bill. -/
theorem passed_of_stalled (hstalled : Stalled (s.billsOf key) day) :
    ∀ b, latestBill (s.billsOf key) = some b → b.takes day = false := by
  obtain ⟨b, c, hlatest, _, _, _, hbefore⟩ := hstalled.latest
  intro b' hlatest'
  rw [hlatest] at hlatest'
  cases hlatest'
  rw [← Bool.not_eq_true, Bill.takes_iff]
  rintro ⟨_, _, hend⟩
  exact Day.not_le.mpr hbefore hend

/-- There is a next window, if there is room for it in the calendar. -/
theorem exists_nextWindow (h : InOrder (s.billsOf key) day) (hinterval : 0 < terms.interval)
    (hbegun : terms.startDate ≤ day)
    (hpassed : ∀ b, latestBill (s.billsOf key) = some b → b.takes day = false)
    (hroom : day.number + terms.interval ≤ 3652060) :
    ∃ w, terms.nextWindow (latestBill (s.billsOf key)) = .ok w := by
  have hstart := h.nextStart_le hbegun hpassed
  have hfirst := (terms.nextStart (latestBill (s.billsOf key))).inCalendar
  rw [Day.le_def] at hstart
  let last : Day := ⟨(terms.nextStart (latestBill (s.billsOf key))).number + terms.interval - 1, by omega⟩
  have hlast : last.number = (terms.nextStart (latestBill (s.billsOf key))).number + terms.interval - 1 := rfl
  exact ⟨_, BillingTerms.nextWindow_eq_ok hinterval hlast⟩

/-- Unless the tab is stalled, a bill is selected. -/
theorem exists_selection (h : InOrder (s.billsOf key) day)
    (hinterval : 0 < t.config.billingInterval) (horderable : t.IsOrderable day)
    (hroom : day.number + t.config.billingInterval ≤ 3652060)
    (hwords : isWord key.shopId = true ∧ isWord key.tabId = true) (htab : s.tab? key = some t)
    (hattempts : 0 < attempts) (hfree : ¬ Stalled (s.billsOf key) day) :
    ∃ selection, selectBill t.config.billingTerms key day attempts 0 s = .ok selection := by
  by_cases hkept : ∃ b, latestBill (s.billsOf key) = some b ∧ b.takes day = true
  · obtain ⟨b, hlatest, htakes⟩ := hkept
    exact ⟨_, (selectBill_eq_ok hattempts).mpr (.kept hlatest htakes)⟩
  · have hpassed : ∀ b, latestBill (s.billsOf key) = some b → b.takes day = false := by
      intro b hlatest
      rw [← Bool.not_eq_true]
      exact fun htakes => hkept ⟨b, hlatest, htakes⟩
    obtain ⟨w, hwindow⟩ : ∃ w, t.config.billingTerms.nextWindow (latestBill (s.billsOf key)) = .ok w :=
      h.exists_nextWindow hinterval horderable.2.1 hpassed hroom
    have hnone : s.hasOpenStart key w.first = false := by
      rw [← Bool.not_eq_true, h.hasOpenStart_iff hpassed hwindow]
      exact hfree
    have hhas := Store.hasTab_of_tab? htab
    exact ⟨_, (selectBill_eq_ok hattempts).mpr (.opened hpassed hwindow hwords hnone hhas)⟩

/-- Where the tab is stalled, no bill is. -/
theorem selectBill_of_stalled (h : InOrder (s.billsOf key) day)
    (hinterval : 0 < t.config.billingInterval) (horderable : t.IsOrderable day)
    (hroom : day.number + t.config.billingInterval ≤ 3652060)
    (hwords : isWord key.shopId = true ∧ isWord key.tabId = true)
    (hstalled : Stalled (s.billsOf key) day) :
    selectBill t.config.billingTerms key day attempts 0 s = .error .noBill := by
  have hpassed := passed_of_stalled hstalled
  obtain ⟨w, hwindow⟩ : ∃ w, t.config.billingTerms.nextWindow (latestBill (s.billsOf key)) = .ok w :=
    h.exists_nextWindow hinterval horderable.2.1 hpassed hroom
  exact selectBill_of_conflict hpassed hwindow hwords ((h.hasOpenStart_iff hpassed hwindow).mpr hstalled)

end InOrder

namespace Service.Request

/-- A request puts an order on a tab, and nothing speaks against it: the caller may do so and is known,
the tab takes orders on the day, the shop has all that is ordered, the numbers have at most 64 bits, and
the calendar has room for another window. -/
structure OrdersWell (r : Request) (s : Store) (key : TabKey) (t : Tab) (o : Form.Order) (day : Day) :
    Prop where
  asked : ∃ data on, r.ask = .addOrder key data on ∧ Form.Order.read data = .ok o ∧
    r.env.dayOr on = .ok day
  allowed : authorizeTab r.env r.caller key .order s = .ok t
  known : r.caller.IsKnown s
  orderable : t.IsOrderable day
  offers : s.Offers key.shopId o
  fits : o.FitsWords
  room : day.number + t.config.billingInterval ≤ 3652060

namespace OrdersWell

variable {r : Request} {s : Store} {key : TabKey} {t : Tab} {o : Form.Order} {day : Day}

theorem movesWell (h : r.OrdersWell s key t o day) : r.MovesWell s key t o .add day := by
  obtain ⟨data, on, hask, hread, hday⟩ := h.asked
  refine ⟨⟨on, hday, ?_⟩, h.allowed, h.known, h.orderable, h.offers, h.fits⟩
  rw [hask]
  exact .add hread

theorem tab (h : r.OrdersWell s key t o day) : s.tab? key = some t := h.movesWell.tab

/-- A lone pair is refused as unknown. -/
theorem refused_of_lonePair (h : r.OrdersWell s key t o day) (hlone : o.NamesLonePair) :
    (r.outcome s).result = .error (.unknownReferences
      (Catalog.unknownItems s key.shopId o) (Catalog.unknownPairs s key.shopId o)) := by
  rw [h.movesWell.refused_of_lonePair hlone]

/-- Where the tab is stalled, no bill is found for the order. -/
theorem refused_of_stalled (h : r.OrdersWell s key t o day) (hinOrder : InOrder (s.billsOf key) day)
    (hinterval : 0 < t.config.billingInterval) (hlone : ¬ o.NamesLonePair)
    (hstalled : Stalled (s.billsOf key) day) : (r.outcome s).result = .error .noBill := by
  have hunselected := h.movesWell.refused_of_unselected hlone
    (hinOrder.selectBill_of_stalled hinterval h.orderable h.room h.movesWell.words hstalled)
  rw [hunselected]
  rfl

/-- In every other case the order is accepted. -/
theorem accepted (h : r.OrdersWell s key t o day) (hinOrder : InOrder (s.billsOf key) day)
    (hinterval : 0 < t.config.billingInterval) (hlone : ¬ o.NamesLonePair)
    (hfree : ¬ Stalled (s.billsOf key) day) :
    ∃ result, (r.outcome s).result = .ok (.ordered result) := by
  obtain ⟨selection, hselect⟩ :=
    hinOrder.exists_selection hinterval h.orderable h.room h.movesWell.words h.tab
      (attemptCount_pos r.settings.billSelectionAttempts) hfree
  obtain ⟨_, _, houtcome⟩ := h.movesWell.moved hlone hselect nofun
  rw [houtcome]
  exact ⟨_, rfl⟩

end OrdersWell

end Service.Request

section History

variable {key : TabKey} {s : Store} {history : List Service.Request} {day : Day}
  {r : Service.Request} {t : Tab} {o : Form.Order}

/-- After any history, an order against which nothing else speaks is accepted exactly where the tab is
not stalled and no lone pair is named.  Where only the former fails, no bill is found for the order;
where the latter does, the order is refused as unknown. -/
theorem order_accepted_iff (hnew : s.billsOf key = []) (hterms : s.Billable key)
    (hascend : DaysAscend key s history) (hlast : ∀ p ∈ postings key s history, p.day ≤ day)
    (hwell : r.OrdersWell (s.run history) key t o day) :
    ((∃ result, (r.outcome (s.run history)).result = .ok (.ordered result)) ↔
      ¬ Stalled ((s.run history).billsOf key) day ∧ ¬ o.NamesLonePair) ∧
    (Stalled ((s.run history).billsOf key) day → ¬ o.NamesLonePair →
      (r.outcome (s.run history)).result = .error .noBill) ∧
    (o.NamesLonePair → ∃ items pairs,
      (r.outcome (s.run history)).result = .error (.unknownReferences items pairs)) := by
  have hinOrder := inOrder_run hnew hterms hascend hlast
  have hinterval := (run_billable hterms history).of_tab? hwell.tab
  have hstalled := hwell.refused_of_stalled hinOrder hinterval
  refine ⟨⟨?_, ?_⟩, fun h hlone => hstalled hlone h,
    fun hlone => ⟨_, _, hwell.refused_of_lonePair hlone⟩⟩
  · rintro ⟨result, hresult⟩
    have hlone : ¬ o.NamesLonePair := by
      intro hlone
      rw [hwell.refused_of_lonePair hlone] at hresult
      cases hresult
    refine ⟨?_, hlone⟩
    intro h
    rw [hstalled hlone h] at hresult
    cases hresult
  · rintro ⟨hfree, hlone⟩
    exact hwell.accepted hinOrder hinterval hlone hfree

theorem Sample.coffee_fits : Sample.coffee.FitsWords :=
  .of_named (by decide) (by decide) (by decide) (by decide)

theorem Sample.coffee_not_lonePair : ¬ Sample.coffee.NamesLonePair := by
  rintro ⟨item, variant, hpairs, _⟩
  cases hpairs

/-- A tab with daily bills: the order of the first day is accepted, that of the second is not, as the
second bill would start with the first. -/
theorem order_accepted_iff_dailyTab :
    let reached := Sample.store.run [Sample.openTab 1, Sample.order 5]
    (reached.billsOf Sample.tab).length = 1 ∧
      ((Sample.order 6).outcome reached).result = .error .noBill := by
  intro reached
  refine ⟨by decide +kernel, ?_⟩
  have hascend : DaysAscend Sample.tab Sample.store [Sample.openTab 1, Sample.order 5] := by
    decide +kernel
  have hallowed : Service.authorizeTab (Sample.order 6).env (Sample.order 6).caller Sample.tab .order
      reached = .ok (Sample.openedTab 1) :=
    Service.authorizeTab_eq_ok.mpr ⟨by decide, by decide, by decide +kernel, ⟨1, 2, "Campus Cafe"⟩,
      by decide +kernel, by decide +kernel⟩
  have hwell : (Sample.order 6).OrdersWell reached Sample.tab (Sample.openedTab 1)
      Sample.coffee (Sample.january 6) :=
    { asked := ⟨Sample.orderForm, some (Sample.january 6), rfl, rfl, rfl⟩
      allowed := hallowed
      known := ⟨by decide, by decide +kernel⟩
      orderable := ⟨by decide +kernel, by decide +kernel, by decide +kernel⟩
      offers := ⟨by decide +kernel, by decide +kernel⟩
      fits := Sample.coffee_fits
      room := by decide +kernel }
  have hstalled : Stalled (reached.billsOf Sample.tab) (Sample.january 6) := by
    refine ⟨⟨1, Sample.tab, Sample.january 5, Sample.january 5, false⟩, ?_⟩
    decide +kernel
  exact (order_accepted_iff (by decide +kernel) (Sample.store_billable Sample.tab) hascend
    (by decide +kernel) hwell).2.1 hstalled Sample.coffee_not_lonePair

end History

end ShopTabs
