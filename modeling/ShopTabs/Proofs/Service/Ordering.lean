import ShopTabs.Proofs.Ledger.Settlement
import ShopTabs.Proofs.Service.History
/-!
Requests that put an order on a tab or take it off.  Once the caller is let in and is known, such a request
comes to what the ledger makes of its order.
-/

namespace ShopTabs

/-- What is asked for is to move an order in a direction; a removal without a policy follows the settings. -/
inductive Submission.Asks (settings : Settings) (key : TabKey) (o : Form.Order) (on : Option Day) :
    Submission → Direction → Prop where
  | add {data : Json} (read : Form.Order.read data = .ok o) :
    Asks settings key o on (.addOrder key data on) .add
  | remove {data : Json} {given : Option RemovalPolicy} (read : Form.Order.read data = .ok o) :
    Asks settings key o on (.removeOrder key data on given)
      (.remove (given.getD settings.orderRemovalPolicy))

theorem Submission.Asks.counts {settings : Settings} {key : TabKey} {o : Form.Order} {on : Option Day}
    {ask : Submission} {direction : Direction} (h : ask.Asks settings key o on direction) : o.Counts := by
  cases h with
  | add read => exact Form.Order.read_quantities read
  | remove read => exact Form.Order.read_quantities read

/-- What comes of asking for an order to be moved is what comes of the order. -/
theorem Submission.Asks.perform_eq {env : Surroundings} {key : TabKey} {o : Form.Order}
    {on : Option Day} {ask : Submission} {direction : Direction}
    (h : ask.Asks env.settings key o on direction) (caller : Caller) (s : Store) :
    ask.perform env caller s = .ofAttempt s (((Service.order env caller key o direction on s).map
      fun done => (.ordered done.1, done.2)).mapError Failure.reported) := by
  cases h with
  | add read =>
      simp only [perform, Submission.read, read, Operation.perform, Operation.attempt, bind, Except.bind,
        pure, Except.pure]
      cases Service.order env caller key o .add on s <;> rfl
  | remove read =>
      simp only [perform, Submission.read, read, Operation.perform, Operation.attempt, bind, Except.bind,
        pure, Except.pure]
      cases Service.order env caller key o (.remove _) on s <;> rfl

/-- An order that fails leaves all as it is. -/
theorem Submission.Asks.perform_of_failed {env : Surroundings} {caller : Caller} {key : TabKey}
    {o : Form.Order} {on : Option Day} {ask : Submission} {direction : Direction} {s : Store} {t : Tab}
    (h : ask.Asks env.settings key o on direction)
    (hallowed : Service.authorizeTab env caller key .order s = .ok t) {failure : Failure}
    (hfailed : Ledger.apply env key o direction on s = .error failure) :
    ask.perform env caller s = ⟨.error failure.reported, s⟩ := by
  have hrefused : Service.order env caller key o direction on s = .error failure := by
    simp only [Service.order, hallowed, hfailed, bind, Except.bind]
  rw [h.perform_eq, hrefused]
  rfl

section Ledger

open Ledger

variable {env : Surroundings} {key : TabKey} {o : Form.Order} {direction : Direction} {on : Option Day}
  {s : Store} {day : Day} {t : Tab}

/-- Of an order that is known, the ledger makes what is written onto the bill that is selected. -/
theorem Ledger.apply_of_known (direction : Direction) (hday : env.dayOr on = .ok day)
    (hwords : isWord key.shopId = true ∧ isWord key.tabId = true) (htab : s.tab? key = some t)
    (horderable : t.IsOrderable day) (hknown : Catalog.ensureKnown s key.shopId o = .ok ()) :
    apply env key o direction on s =
      (selectBill t.config.billingTerms key day (attemptCount env.settings.billSelectionAttempts)
        env.blindReads s).bind fun selected =>
          (write selected.store (itemChanges o key selected.billId direction)
            (variantChanges o key selected.billId direction) direction).map fun written =>
              ⟨⟨selected.billId, written.1, written.2.1⟩, written.2.2, selected.blindReads⟩ := by
  have hrequired : s.requireTab key = .ok t := Store.requireTab_eq_ok.mpr ⟨hwords, htab⟩
  have hensured : ensureOrderable t day = .ok () := ensureOrderable_eq_ok.mpr horderable
  simp only [apply, hday, hrequired, hensured, hknown, bind, Except.bind]
  cases selectBill t.config.billingTerms key day (attemptCount env.settings.billSelectionAttempts)
    env.blindReads s with
  | error failure => rfl
  | ok selected =>
      dsimp only
      cases write selected.store (itemChanges o key selected.billId direction)
        (variantChanges o key selected.billId direction) direction <;> rfl

/-- An order that is not known comes to nothing. -/
theorem Ledger.apply_of_unknown (direction : Direction) (hday : env.dayOr on = .ok day)
    (hwords : isWord key.shopId = true ∧ isWord key.tabId = true) (htab : s.tab? key = some t)
    (horderable : t.IsOrderable day) (hnames : o.NamesWords)
    (hunknown : ¬ (s.Offers key.shopId o ∧ ¬ o.NamesLonePair)) :
    apply env key o direction on s = .error (.unknownReferences
      (Catalog.unknownItems s key.shopId o) (Catalog.unknownPairs s key.shopId o)) := by
  have hrequired : s.requireTab key = .ok t := Store.requireTab_eq_ok.mpr ⟨hwords, htab⟩
  have hensured : ensureOrderable t day = .ok () := ensureOrderable_eq_ok.mpr horderable
  have hrefused := Catalog.ensureKnown_of_unknown hwords.1 hnames hunknown
  simp only [apply, hday, hrequired, hensured, hrefused, bind, Except.bind]

/-- Nor does one that names a lone pair. -/
theorem Ledger.apply_of_lonePair (direction : Direction) (hday : env.dayOr on = .ok day)
    (hwords : isWord key.shopId = true ∧ isWord key.tabId = true) (htab : s.tab? key = some t)
    (horderable : t.IsOrderable day) (hfits : o.FitsWords) (hlone : o.NamesLonePair) :
    apply env key o direction on s = .error (.unknownReferences
      (Catalog.unknownItems s key.shopId o) (Catalog.unknownPairs s key.shopId o)) :=
  apply_of_unknown direction hday hwords htab horderable hfits.names fun hknown => hknown.2 hlone

end Ledger

/-- Orders for a day go to the latest bill of a tab, which is open and covers the day. -/
structure Store.OrdersGoTo (s : Store) (key : TabKey) (t : Tab) (day : Day) (b : Bill) : Prop where
  tab : s.tab? key = some t
  latest : latestBill (s.billsOf key) = some b
  takes : b.takes day = true

namespace Store.OrdersGoTo

variable {s : Store} {key : TabKey} {t : Tab} {day : Day} {b : Bill}

theorem selectBill (h : s.OrdersGoTo key t day b) {attempts : Nat} (hattempts : 0 < attempts) :
    selectBill t.config.billingTerms key day attempts 0 s = .ok ⟨b.id, s, 0⟩ :=
  (selectBill_eq_ok hattempts).mpr (.kept h.latest h.takes)

/-- Moving an order leaves bills and tabs alone. -/
theorem moved (h : s.OrdersGoTo key t day b) {s' : Store} {direction : Direction} {billId : Int}
    {o : Form.Order} (hmoved : Ledger.Moved direction key billId o s s') : s'.OrdersGoTo key t day b := by
  obtain ⟨_, _, rfl⟩ := hmoved.frame
  exact ⟨h.tab, h.latest, h.takes⟩

end Store.OrdersGoTo

/-- Without another writer, orders for a day go to the latest bill of a tab, and the tab takes them. -/
structure Ledger.Ready (env : Surroundings) (on : Option Day) (s : Store) (key : TabKey) (t : Tab)
    (day : Day) (b : Bill) : Prop where
  dayOr : env.dayOr on = .ok day
  unblind : env.blindReads = 0
  words : isWord key.shopId = true ∧ isWord key.tabId = true
  orderable : t.IsOrderable day
  goesTo : s.OrdersGoTo key t day b

namespace Ledger.Ready

variable {env : Surroundings} {on : Option Day} {s : Store} {key : TabKey} {t : Tab} {day : Day} {b : Bill}
  {o : Form.Order} (h : Ready env on s key t day b)
include h

theorem hasBill : s.hasBill key b.id = true :=
  (selectBill_selectable (h.goesTo.selectBill Nat.one_pos)).hasBill

theorem moved {s' : Store} {direction : Direction} {billId : Int}
    (hmoved : Moved direction key billId o s s') : Ready env on s' key t day b :=
  ⟨h.dayOr, h.unblind, h.words, h.orderable, h.goesTo.moved hmoved⟩

/-- An order without a lone pair is written onto the latest bill. -/
theorem apply_eq (direction : Direction) (hoffers : s.Offers key.shopId o) (hfits : o.FitsWords)
    (hlone : ¬ o.NamesLonePair) : apply env key o direction on s =
      (write s (itemChanges o key b.id direction) (variantChanges o key b.id direction) direction).map
        fun written => ⟨⟨b.id, written.1, written.2.1⟩, written.2.2, 0⟩ := by
  have hknown := Catalog.ensureKnown_of_offers h.words.1 hfits hoffers hlone
  have hselect := h.goesTo.selectBill (attemptCount_pos env.settings.billSelectionAttempts)
  rw [apply_of_known direction h.dayOr h.words h.goesTo.tab h.orderable hknown, h.unblind, hselect]
  rfl

theorem apply_of_lonePair (direction : Direction) (hfits : o.FitsWords) (hlone : o.NamesLonePair) :
    apply env key o direction on s = .error (.unknownReferences
      (Catalog.unknownItems s key.shopId o) (Catalog.unknownPairs s key.shopId o)) :=
  Ledger.apply_of_lonePair direction h.dayOr h.words h.goesTo.tab h.orderable hfits hlone

end Ledger.Ready

namespace Service.Request

variable {r : Request} {s : Store} {key : TabKey} {o : Form.Order} {on : Option Day}
  {direction : Direction} {t : Tab}

/-- The outcome of a request to move an order is that of the order. -/
theorem outcome_of_asks (h : r.ask.Asks r.settings key o on direction) :
    r.outcome s = .ofAttempt s (((Service.order r.env r.caller key o direction on s).map
      fun done => (.ordered done.1, done.2)).mapError Failure.reported) := h.perform_eq r.caller s

/-- An order that is moved is answered and put on record. -/
theorem outcome_of_applied (h : r.ask.Asks r.settings key o on direction)
    (hallowed : authorizeTab r.env r.caller key .order s = .ok t) {receipt : Receipt}
    (happlied : Ledger.apply r.env key o direction on s = .ok receipt)
    (hknown : r.caller.IsKnown receipt.store) :
    r.outcome s = ⟨.ok (.ordered receipt.result),
      receipt.store.audited r.caller key (orderEvent receipt.result.billId direction)⟩ := by
  have hordered := Operation.service_order_eq_ok.mpr
    ⟨t, receipt, hallowed, Ledger.apply_eq_ok.mp happlied, hknown, rfl, rfl⟩
  rw [outcome_of_asks h, hordered]
  rfl

/-- What is known of a request that moved its order. -/
theorem applied_of_ok (h : r.ask.Asks r.settings key o on direction) {result : LedgerResult}
    (hresult : (r.outcome s).result = .ok (.ordered result)) :
    ∃ t receipt, authorizeTab r.env r.caller key .order s = .ok t ∧
      Ledger.Applied r.env key o direction on s receipt ∧ r.caller.IsKnown receipt.store ∧
      receipt.result = result ∧
      r.after s = receipt.store.audited r.caller key (orderEvent result.billId direction) := by
  have houtcome := outcome_of_asks (s := s) h
  cases hordered : Service.order r.env r.caller key o direction on s with
  | error failure =>
      rw [houtcome, hordered] at hresult
      cases hresult
  | ok done =>
      obtain ⟨result', s'⟩ := done
      rw [houtcome, hordered] at hresult
      cases hresult
      obtain ⟨t, receipt, hallowed, happlied, hknown, rfl, rfl⟩ :=
        Operation.service_order_eq_ok.mp hordered
      refine ⟨t, receipt, hallowed, happlied, hknown, rfl, ?_⟩
      rw [after, houtcome, hordered]
      rfl

/-- An order that fails leaves all as it is. -/
theorem outcome_of_failed (h : r.ask.Asks r.settings key o on direction)
    (hallowed : authorizeTab r.env r.caller key .order s = .ok t) {failure : Failure}
    (hfailed : Ledger.apply r.env key o direction on s = .error failure) :
    r.outcome s = ⟨.error failure.reported, s⟩ := h.perform_of_failed hallowed hfailed

/-- A request moves an order in a direction, and nothing speaks against it: the caller may do so and is known, the
tab takes orders on the day, the shop has all that is named, and the numbers have at most 64 bits. -/
structure MovesWell (r : Request) (s : Store) (key : TabKey) (t : Tab) (o : Form.Order)
    (direction : Direction) (day : Day) : Prop where
  asks : ∃ on, r.env.dayOr on = .ok day ∧ r.ask.Asks r.settings key o on direction
  allowed : authorizeTab r.env r.caller key .order s = .ok t
  known : r.caller.IsKnown s
  orderable : t.IsOrderable day
  offers : s.Offers key.shopId o
  fits : o.FitsWords

namespace MovesWell

variable {day : Day} (h : r.MovesWell s key t o direction day)
include h

theorem words : isWord key.shopId = true ∧ isWord key.tabId = true := by
  obtain ⟨hshop, htab, _⟩ := authorizeTab_eq_ok.mp h.allowed
  exact ⟨hshop, htab⟩

theorem tab : s.tab? key = some t := by
  obtain ⟨_, _, htab, _⟩ := authorizeTab_eq_ok.mp h.allowed
  exact htab

/-- A lone pair is refused as unknown. -/
theorem refused_of_lonePair (hlone : o.NamesLonePair) :
    r.outcome s = ⟨.error (.unknownReferences (Catalog.unknownItems s key.shopId o)
      (Catalog.unknownPairs s key.shopId o)), s⟩ := by
  obtain ⟨on, hday, hasks⟩ := h.asks
  have hfailed := Ledger.apply_of_lonePair direction hday h.words h.tab h.orderable h.fits hlone
  exact outcome_of_failed hasks h.allowed hfailed

variable (hlone : ¬ o.NamesLonePair)
include hlone

/-- Where no bill is selected, the request comes to the failure of that. -/
theorem refused_of_unselected {failure : Failure}
    (hselect : selectBill t.config.billingTerms key day
      (attemptCount r.settings.billSelectionAttempts) 0 s = .error failure) :
    r.outcome s = ⟨.error failure.reported, s⟩ := by
  obtain ⟨on, hday, hasks⟩ := h.asks
  have hknown := Catalog.ensureKnown_of_offers h.words.1 h.fits h.offers hlone
  refine outcome_of_failed hasks h.allowed ?_
  rw [Ledger.apply_of_known direction hday h.words h.tab h.orderable hknown]
  exact congrArg (Except.bind · _) hselect

section Selected

variable {selected : Selection} (hselect : selectBill t.config.billingTerms key day
  (attemptCount r.settings.billSelectionAttempts) 0 s = .ok selected)
include hselect

/-- What is written onto the selected bill decides. -/
theorem apply_eq {on : Option Day} (hday : r.env.dayOr on = .ok day) :
    Ledger.apply r.env key o direction on s =
      (Ledger.write selected.store (Ledger.itemChanges o key selected.billId direction)
        (Ledger.variantChanges o key selected.billId direction) direction).map fun written =>
          ⟨⟨selected.billId, written.1, written.2.1⟩, written.2.2, selected.blindReads⟩ := by
  have hknown := Catalog.ensureKnown_of_offers h.words.1 h.fits h.offers hlone
  rw [Ledger.apply_of_known direction hday h.words h.tab h.orderable hknown]
  exact congrArg (Except.bind · _) hselect

/-- Where enough is there, or need not be, the order is moved on the selected bill. -/
theorem moved
    (hcovers : direction.rejects = true → Ledger.CoversOrder selected.store key selected.billId o) :
    ∃ s', Ledger.write selected.store (Ledger.itemChanges o key selected.billId direction)
        (Ledger.variantChanges o key selected.billId direction) direction =
          .ok ((distinct o.itemIds).length, (distinct o.variantPairs).length, s') ∧
      r.outcome s = ⟨.ok (.ordered ⟨selected.billId, (distinct o.itemIds).length,
          (distinct o.variantPairs).length⟩),
        s'.audited r.caller key (orderEvent selected.billId direction)⟩ := by
  obtain ⟨on, hday, hasks⟩ := h.asks
  have hselectable := selectBill_selectable hselect
  obtain ⟨bills, hbills⟩ := hselectable.frame
  have hoffers : selected.store.Offers key.shopId o := h.offers.congr (by rw [hbills]) (by rw [hbills])
  obtain ⟨s', hwritten⟩ :=
    Ledger.write_order direction h.fits hasks.counts hoffers hselectable.hasBill hcovers
  have happlied := h.apply_eq hlone hselect hday
  rw [hwritten] at happlied
  have hknown : r.caller.IsKnown s' := by
    obtain ⟨_, _, rfl⟩ := Ledger.write_frame hwritten
    exact h.known.congr (by rw [hbills]; rfl)
  exact ⟨s', hwritten, outcome_of_applied hasks h.allowed happlied hknown⟩

/-- Where not enough is there but has to be, the request is refused with the overdrafts, and nothing is
written. -/
theorem refused_of_short (hrejects : direction.rejects = true)
    (hshort : ¬ Ledger.CoversOrder selected.store key selected.billId o) :
    ∃ shortItems shortVariants, r.outcome s = ⟨.error (.overdrawn shortItems shortVariants), s⟩ ∧
      Ledger.ListsOverdrafts selected.store.itemLines (Ledger.itemChanges o key selected.billId .add)
        shortItems ∧
      Ledger.ListsOverdrafts selected.store.variantLines
        (Ledger.variantChanges o key selected.billId .add) shortVariants := by
  obtain ⟨on, hday, hasks⟩ := h.asks
  obtain ⟨shortItems, shortVariants, hwritten, hitems, hvariants⟩ :=
    Ledger.write_order_of_overdrawn hrejects h.fits hasks.counts hshort
  have hfailed := h.apply_eq hlone hselect hday
  rw [hwritten] at hfailed
  exact ⟨shortItems, shortVariants, outcome_of_failed hasks h.allowed hfailed, hitems, hvariants⟩

end Selected

end MovesWell

end Service.Request

end ShopTabs
