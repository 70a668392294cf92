import Mathlib.Data.List.Nodup
import ShopTabs.Proofs.Billing.Account
import ShopTabs.Proofs.Ledger.Catalog
/-!
What requests do to bills and to the lines on them.  The lines follow from what was booked: for each order
that was put on a bill or taken off it, the tab and the bill, the order and its direction.  Everything
else leaves the lines alone, and no request takes a bill away.
-/

namespace ShopTabs

/-- An order that was put on a bill of a tab, or taken off it. -/
structure Booking where
  tab : TabKey
  billId : Int
  order : Form.Order
  direction : Direction
deriving DecidableEq

namespace Booking

variable {e : Booking}

def itemChanges (e : Booking) : List (Change ItemKey) :=
  Ledger.itemChanges e.order e.tab e.billId e.direction

def variantChanges (e : Booking) : List (Change VariantKey) :=
  Ledger.variantChanges e.order e.tab e.billId e.direction

theorem key_of_mem_itemChanges {c : Change ItemKey} (hc : c ∈ e.itemChanges) :
    c.key.tab = e.tab ∧ c.key.billId = e.billId := by
  obtain ⟨i, _, rfl⟩ := List.mem_map.mp hc
  exact ⟨rfl, rfl⟩

theorem key_of_mem_variantChanges {c : Change VariantKey} (hc : c ∈ e.variantChanges) :
    c.key.tab = e.tab ∧ c.key.billId = e.billId := by
  obtain ⟨i, _, hi⟩ := List.mem_flatMap.mp hc
  obtain ⟨v, _, rfl⟩ := List.mem_map.mp hi
  exact ⟨rfl, rfl⟩

end Booking

/-- What an operation books by its reply. -/
def Operation.booking? (env : Surroundings) : Operation → Reply → Option Booking
  | .addOrder tab o _, .ordered result => some ⟨tab, result.billId, o, .add⟩
  | .removeOrder tab o _ policy, .ordered result =>
      some ⟨tab, result.billId, o, .remove (policy.getD env.settings.orderRemovalPolicy)⟩
  | _, _ => none

/-- The order that an operation is about. -/
def Operation.order? : Operation → Option Form.Order
  | addOrder _ o _ => some o
  | removeOrder _ o _ _ => some o
  | _ => none

theorem Operation.order?_of_booking (op : Operation) {env : Surroundings} {reply : Reply}
    {e : Booking} (h : op.booking? env reply = some e) : op.order? = some e.order := by
  unfold booking? at h
  split at h
  · cases h
    rfl
  · cases h
    rfl
  · cases h

/-- No quantity of an order that comes with a form is below zero. -/
theorem Submission.order_quantities {how : Decimal.Shortening} {ask : Submission} {op : Operation}
    {o : Form.Order}
    (hproper : ask.isProper = true) (hread : ask.read how = .ok op) (h : op.order? = some o) :
    o.Counts := by
  cases ask with
  | plain op' =>
      cases hread
      cases op with
      | addOrder => cases hproper
      | removeOrder => cases hproper
      | _ => cases h
  | addOrder | removeOrder =>
      simp only [read, bind, Except.bind] at hread
      split at hread
      · cases hread
      · next form hform =>
          cases hread
          cases h
          exact Form.Order.read_quantities hform
  | _ =>
      simp only [read, bind, Except.bind] at hread
      split at hread
      · cases hread
      · cases hread
        cases h

/-- What a request books; nothing if it is refused. -/
def Service.Request.booking? (r : Service.Request) (s : Store) : Option Booking :=
  match r.ask.read r.env.shortening, (r.outcome s).result with
  | .ok op, .ok reply => op.booking? r.env reply
  | _, _ => none

/-- All that a history books, in its order. -/
def bookings : Store → List Service.Request → List Booking
  | _, [] => []
  | s, r :: rest => (r.booking? s).toList ++ bookings (r.after s) rest

theorem bookings_append_singleton {s : Store} {history : List Service.Request}
    {r : Service.Request} :
    bookings s (history ++ [r]) = bookings s history ++ (r.booking? (s.run history)).toList := by
  induction history generalizing s with
  | nil => simp [bookings]
  | cons first rest ih =>
      rw [List.cons_append, bookings, bookings, ih, List.append_assoc]
      rfl

/-- What an operation may leave of the bills and their lines, by what it books. -/
inductive BooksAfter (s s' : Store) : Option Booking → Prop where
  | untouched (bills : s'.bills = s.bills) (items : s'.itemLines = s.itemLines)
      (variants : s'.variantLines = s.variantLines) : BooksAfter s s' none
  | paid {key : TabKey} {billId : Int} {day : Day}
      (bills : s'.bills = (s.updateBill key billId fun b => b.closedOn day).bills)
      (items : s'.itemLines = s.itemLines) (variants : s'.variantLines = s.variantLines) :
    BooksAfter s s' none
  | booked {e : Booking} {t : Tab} {day : Day} {selection : Selection}
      (tab : s.tab? e.tab = some t) (orderable : t.IsOrderable day)
      (selected : Selectable t.config.billingTerms e.tab s selection)
      (billId : e.billId = selection.billId) (bills : s'.bills = selection.store.bills)
      (items : Ledger.Rewritten e.direction e.itemChanges s.itemLines s'.itemLines)
      (variants : Ledger.Rewritten e.direction e.variantChanges s.variantLines s'.variantLines) :
    BooksAfter s s' (some e)

theorem Selectable.lines_eq {terms : BillingTerms} {key : TabKey} {s : Store}
    {selection : Selection} (h : Selectable terms key s selection) :
    selection.store.itemLines = s.itemLines ∧ selection.store.variantLines = s.variantLines := by
  cases h with
  | kept found unpaid => exact ⟨rfl, rfl⟩
  | opened seen window free => exact ⟨rfl, rfl⟩

theorem Ledger.Applied.booksAfter {env : Surroundings} {key : TabKey} {o : Form.Order}
    {direction : Direction} {on : Option Day} {s s' : Store} {receipt : Receipt}
    (h : Ledger.Applied env key o direction on s receipt) (hbills : s'.bills = receipt.store.bills)
    (hitems : s'.itemLines = receipt.store.itemLines)
    (hvariants : s'.variantLines = receipt.store.variantLines) :
    BooksAfter s s' (some ⟨key, receipt.result.billId, o, direction⟩) := by
  obtain ⟨_, _, htab, horderable, _, hselect, hwritten⟩ := h
  have hselectable := selectBill_selectable hselect
  obtain ⟨hsameItems, hsameVariants⟩ := hselectable.lines_eq
  obtain ⟨itemLines, variantLines, hitemLines, hvariantLines, rfl⟩ := write_rewritten hwritten
  rw [hsameItems] at hitemLines
  rw [hsameVariants] at hvariantLines
  refine .booked htab horderable hselectable rfl hbills ?_ ?_
  · rw [hitems]
    exact hitemLines
  · rw [hvariants]
    exact hvariantLines

/-- The bills and their lines follow from what an operation books, whichever reads are blind. -/
theorem Effect.booksAfter {env : Surroundings} {caller : Caller} {s s' : Store} {op : Operation}
    {reply : Reply} (h : Effect env caller s op reply s') :
    BooksAfter s s' (op.booking? env reply) := by
  cases h with
  | orderAdded allowed applied => exact applied.booksAfter (by simp) (by simp) (by simp)
  | orderRemoved allowed applied => exact applied.booksAfter (by simp) (by simp) (by simp)
  | @billPaid key billId on day tab dayOr allowed found =>
      exact @BooksAfter.paid s _ key billId day (by simp) (by simp) (by simp)
  | _ => exact .untouched (by simp) (by simp) (by simp)

/-- An operation that answers with a bill is an order on a tab, and is booked there. -/
theorem Effect.booking_of_ordered {env : Surroundings} {caller : Caller} {s s' : Store}
    {op : Operation} {result : LedgerResult} (h : Effect env caller s op (.ordered result) s') :
    ∃ e : Booking, op.tab? = some e.tab ∧ e.billId = result.billId ∧ BooksAfter s s' (some e) := by
  have hbooks := h.booksAfter
  cases h with
  | orderAdded allowed applied => exact ⟨_, rfl, rfl, hbooks⟩
  | orderRemoved allowed applied => exact ⟨_, rfl, rfl, hbooks⟩

namespace Service.Request

variable {r : Request} {s : Store}

theorem booksAfter (r : Request) (s : Store) : BooksAfter s (r.after s) (r.booking? s) := by
  cases hresult : (r.outcome s).result with
  | error failure =>
      have hnone : r.booking? s = none := by
        unfold booking?
        rw [hresult]
        split <;> simp_all
      rw [hnone, after_of_error hresult]
      exact .untouched rfl rfl rfl
  | ok reply =>
      obtain ⟨op, hread, heffect⟩ := effect_of_ok hresult
      have hbooking : r.booking? s = op.booking? r.env reply := by
        rw [booking?, hread, hresult]
      rw [hbooking]
      exact heffect.booksAfter

/-- An order that is booked is answered with its bill. -/
theorem ordered_of_booking {e : Booking} (h : r.booking? s = some e) :
    ∃ result, (r.outcome s).result = .ok (.ordered result) ∧ result.billId = e.billId := by
  unfold booking? at h
  split at h
  · next op reply hread hresult =>
      rw [hresult]
      unfold Operation.booking? at h
      split at h
      · cases h
        exact ⟨_, rfl, rfl⟩
      · cases h
        exact ⟨_, rfl, rfl⟩
      · cases h
  · cases h

/-- An order that is booked came in by a form. -/
theorem counts_of_booking {e : Booking} (h : r.booking? s = some e) : e.order.Counts := by
  unfold booking? at h
  split at h
  · next op reply hread hresult =>
      exact Submission.order_quantities r.proper hread (op.order?_of_booking h)
  · cases h

end Service.Request

/-! ### Bills stay -/

/-- A bill goes on as another: it may have been closed since. -/
structure Bill.GoesOn (b b' : Bill) : Prop where
  id : b'.id = b.id
  tab : b'.tab = b.tab
  startDate : b'.startDate = b.startDate
  paid : b.isPaid = true → b'.isPaid = true

theorem Bill.GoesOn.refl (b : Bill) : b.GoesOn b := ⟨rfl, rfl, rfl, fun hpaid => hpaid⟩

theorem Bill.GoesOn.trans {a b c : Bill} (hab : a.GoesOn b) (hbc : b.GoesOn c) : a.GoesOn c := by
  refine ⟨hbc.id.trans hab.id, hbc.tab.trans hab.tab, hbc.startDate.trans hab.startDate, ?_⟩
  exact fun hpaid => hbc.paid (hab.paid hpaid)

namespace Store

variable {s : Store} {key : TabKey}

/-- No bill of a store has the number of its next one. -/
theorem newBill_id_not_mem {w : Window} : (s.newBill key w false).id ∉ s.bills.map (·.id) :=
  fun hmem => Int.lt_irrefl _ (lt_nextId hmem)

theorem map_id_updateBill {billId : Int} {day : Day} :
    ((s.updateBill key billId fun b => b.closedOn day).bills).map (·.id) = s.bills.map (·.id) := by
  rw [updateBill, List.map_map]
  apply List.map_congr_left
  intro b _
  rw [Function.comp_apply]
  split <;> rfl

end Store

namespace BooksAfter

variable {s s' : Store} {booking : Option Booking}

/-- Where nothing is booked, all lines stay. -/
theorem lines_of_none (h : BooksAfter s s' none) :
    s'.itemLines = s.itemLines ∧ s'.variantLines = s.variantLines := by
  cases h with
  | untouched bills items variants => exact ⟨items, variants⟩
  | paid bills items variants => exact ⟨items, variants⟩

/-- Every bill is still there after an operation. -/
theorem exists_goesOn (h : BooksAfter s s' booking) {b : Bill} (hb : b ∈ s.bills) :
    ∃ b' ∈ s'.bills, b.GoesOn b' := by
  cases h with
  | untouched bills items variants =>
      rw [bills]
      exact ⟨b, hb, .refl b⟩
  | @paid key billId day bills items variants =>
      rw [bills]
      refine ⟨_, List.mem_map_of_mem hb, ?_⟩
      split
      · exact ⟨rfl, rfl, rfl, fun _ => rfl⟩
      · exact .refl b
  | booked tab orderable selected billId bills items variants =>
      rw [bills]
      cases selected with
      | kept found unpaid => exact ⟨b, hb, .refl b⟩
      | opened seen window free => exact ⟨b, List.mem_append_left _ hb, .refl b⟩

/-- No two bills have one number. -/
theorem nodup (h : BooksAfter s s' booking) (hids : (s.bills.map (·.id)).Nodup) :
    (s'.bills.map (·.id)).Nodup := by
  cases h with
  | untouched bills items variants =>
      rw [bills]
      exact hids
  | paid bills items variants =>
      rw [bills, Store.map_id_updateBill]
      exact hids
  | booked tab orderable selected billId bills items variants =>
      rw [bills]
      cases selected with
      | kept found unpaid => exact hids
      | opened seen window free =>
          rw [Store.withBill_bills, List.map_append, List.map_singleton, ← List.concat_eq_append]
          exact hids.concat Store.newBill_id_not_mem

/-- What is booked goes to a bill of its tab that is open: one that was there, or the next one. -/
theorem exists_open_bill {e : Booking} (h : BooksAfter s s' (some e)) :
    ∃ b, b.id = e.billId ∧ b.tab = e.tab ∧ b.isPaid = false ∧
      ((b ∈ s.bills ∧ s'.bills = s.bills) ∨
        (b.id ∉ s.bills.map (·.id) ∧ s'.bills = s.bills ++ [b])) := by
  cases h with
  | booked tab orderable selected billId bills items variants =>
      rw [bills, billId]
      cases selected with
      | @kept b _ found unpaid =>
          obtain ⟨hb, htab⟩ := List.mem_filter.mp found
          exact ⟨b, rfl, by simpa using htab, unpaid, Or.inl ⟨hb, rfl⟩⟩
      | @opened w _ _ seen window free =>
          exact ⟨s.newBill e.tab w false, rfl, rfl, rfl, Or.inr ⟨Store.newBill_id_not_mem, rfl⟩⟩

end BooksAfter

namespace Store

variable {s : Store}

theorem nodup_run (hids : (s.bills.map (·.id)).Nodup) (history : List Service.Request) :
    ((s.run history).bills.map (·.id)).Nodup :=
  run_invariant (fun r s hs => (r.booksAfter s).nodup hs) hids history

theorem exists_goesOn_run {b : Bill} (hb : b ∈ s.bills) (history : List Service.Request) :
    ∃ b' ∈ (s.run history).bills, b.GoesOn b' := by
  induction history using List.reverseRecOn with
  | nil => exact ⟨b, hb, .refl b⟩
  | append_singleton rest r ih =>
      obtain ⟨mid, hmid, hgoes⟩ := ih
      obtain ⟨b', hb', hgoes'⟩ := (r.booksAfter (s.run rest)).exists_goesOn hmid
      rw [run_append_singleton]
      exact ⟨b', hb', hgoes.trans hgoes'⟩

/-- Where numbers are not repeated, they tell bills apart. -/
theorem eq_of_id_eq (hids : (s.bills.map (·.id)).Nodup) {a b : Bill} (ha : a ∈ s.bills)
    (hb : b ∈ s.bills) (hid : a.id = b.id) : a = b :=
  List.inj_on_of_nodup_map hids ha hb hid

/-- Nothing was ever ordered: there are no bills, and no lines, which refer to bills. -/
structure IsUnbilled (s : Store) : Prop where
  bills : s.bills = []
  itemLines : s.itemLines = []
  variantLines : s.variantLines = []

end Store

namespace Sample

theorem store_isUnbilled : store.IsUnbilled := by
  refine ⟨?_, ?_, ?_⟩ <;> decide +kernel

/-- Takes a coffee off again on a day of January. -/
def takeBack (policy : RemovalPolicy) (day : Nat) : Service.Request :=
  request (.removeOrder tab orderForm (some (january day)) (some policy))

end Sample

end ShopTabs
