import ShopTabs.Proofs.Billing.Acceptance
import ShopTabs.Proofs.Ledger.NonNegative
import ShopTabs.Proofs.Ledger.Renumber
import ShopTabs.Proofs.Service.Rows
/-!
Taking off what was just added.  The bill that received an order receives its removal too, if it covers the
day; and as what was added is there, every policy takes it off and leaves what was there before.
-/

namespace ShopTabs

/-! ### Lines -/

/-- What was added is left by no policy. -/
theorem Direction.leaves_remove_add (policy : RemovalPolicy) {q : Int} (hq : 0 ≤ q) (n : Int) :
    (Direction.remove policy).leaves (Direction.add.leaves q n) n = q := by
  cases policy with
  | clamp =>
      simp only [leaves]
      omega
  | _ =>
      simp only [leaves]
      omega

namespace Ledger

variable {κ : Type} [DecidableEq κ] {amounts : List (Change κ)} {lines lines' lines'' : List (Line κ)}

/-- Lines hold what others hold: those are there, and any further one is at zero. -/
structure Restored (lines lines' : List (Line κ)) : Prop where
  quantities : ∀ k, quantityOf lines' k = quantityOf lines k
  kept : ∀ l ∈ lines, l ∈ lines'
  zero : ∀ l ∈ lines', l ∈ lines ∨ l.quantity = .whole 0

section Added

variable (hfits : Fits .add amounts lines) (hadded : Settled .add amounts lines lines')
include hfits hadded

theorem Fits.removable (policy : RemovalPolicy) : Fits (.remove policy) amounts lines' := by
  intro k hk
  obtain ⟨q, hq, hword, hsum⟩ := hfits k hk
  obtain ⟨q', hq', hleft⟩ := hadded.moved k hk
  cases hq.symm.trans hq'
  refine ⟨_, hleft, hsum, ?_⟩
  have hback : q + given amounts k + -given amounts k = q := by omega
  simp only [Direction.leaves, Direction.change, hback]
  exact hword

variable (hnonneg : ∀ k ∈ amounts.map (·.key), (quantityOf lines k).isBelowZero = false)
include hnonneg

theorem Fits.covers_added : Covers lines' amounts := by
  intro k hk
  obtain ⟨q, hq, hword, hsum⟩ := hfits k hk
  obtain ⟨q', hq', hleft⟩ := hadded.moved k hk
  cases hq.symm.trans hq'
  have hback : q + given amounts k + -given amounts k = q := by omega
  have hstands := hnonneg k hk
  rw [hleft, Direction.leaves, Quantity.add_whole (by rw [hback]; exact hword), hback, ← hq]
  exact hstands

omit hfits in
/-- Amounts that are added and taken off again leave what they met. -/
theorem Settled.restored {policy : RemovalPolicy}
    (hremoved : Settled (.remove policy) amounts lines' lines'')
    (hnodup : (lines.map (·.key)).Nodup) : Restored lines lines'' := by
  have hnodup'' := hremoved.nodup (hadded.nodup hnodup)
  have hquantities : ∀ k, quantityOf lines'' k = quantityOf lines k := by
    intro k
    by_cases hk : k ∈ amounts.map (·.key)
    · obtain ⟨q, hq, hleft⟩ := hadded.moved k hk
      obtain ⟨q', hq', hback⟩ := hremoved.moved k hk
      cases hleft.symm.trans hq'
      have hstands : 0 ≤ q := by simpa [hq, Quantity.isBelowZero] using hnonneg k hk
      rw [hback, hq, Direction.leaves_remove_add policy hstands]
    · rw [hremoved.others k hk, hadded.others k hk]
  refine ⟨hquantities, ?_, ?_⟩
  · intro l hl
    obtain ⟨hkey, hquantity⟩ := (mem_iff_quantityOf hnodup).mp hl
    rw [mem_iff_quantityOf hnodup'', hquantities, hremoved.mem_keys, hadded.mem_keys]
    exact ⟨Or.inl (Or.inl hkey), hquantity⟩
  · intro l hl
    obtain ⟨_, hquantity⟩ := (mem_iff_quantityOf hnodup'').mp hl
    rw [hquantities] at hquantity
    by_cases hkey : l.key ∈ lines.map (·.key)
    · exact Or.inl ((mem_iff_quantityOf hnodup).mpr ⟨hkey, hquantity⟩)
    · rw [quantityOf_of_not_mem hkey] at hquantity
      exact Or.inr hquantity.symm

end Added

end Ledger

/-! ### Bills -/

/-- An unpaid bill that opens where another ends, and takes orders on a day that the other one does not, is the
later one: if the other were unpaid and ended no earlier, it would end on that day. -/
theorem Bill.isLater_of_takes {a b : Bill} {day : Day} (htakes : b.takes day = true)
    (hpassed : a.takes day = false) (hstart : b.startDate = a.endDate)
    (hwindow : a.isPaid = false → a.startDate ≤ a.endDate) : b.isLater a = true := by
  obtain ⟨hopen, hfirst, hlast⟩ := Bill.takes_iff.mp htakes
  rw [Bill.isLater_iff]
  cases hpaid : a.isPaid with
  | true => exact Or.inl ⟨hopen, rfl⟩
  | false =>
      refine Or.inr ⟨hopen, ?_⟩
      rw [← Day.not_le]
      intro hends
      have hspan := hwindow hpaid
      rw [← Bool.not_eq_true, Bill.takes_iff] at hpassed
      refine hpassed ⟨hpaid, ?_, ?_⟩
      · rw [hstart] at hfirst
        rw [Day.le_def] at *
        omega
      · rw [Day.le_def] at *
        omega

/-- The bill that was selected is selected again, if it covers the day. -/
theorem Selected.again {terms : BillingTerms} {key : TabKey} {day : Day} {s : Store}
    {selected : Selection} (h : Selected terms key day s selected)
    (hwindows : ∀ b ∈ s.billsOf key, b.isPaid = false → b.startDate ≤ b.endDate)
    (hcovers : ∃ b ∈ selected.store.billsOf key, b.id = selected.billId ∧ b.covers day = true) :
    ∃ b, latestBill (selected.store.billsOf key) = some b ∧ b.takes day = true ∧
      b.id = selected.billId := by
  cases h with
  | @kept b latest takes => exact ⟨b, latest, takes, rfl⟩
  | @opened w passed window words free tab =>
      have hbills : (s.withBill (s.newBill key w false)).billsOf key =
          s.billsOf key ++ [s.newBill key w false] := Store.billsOf_withBill rfl
      obtain ⟨b, hb, hid, hday⟩ := hcovers
      simp only [hbills, List.mem_append, List.mem_singleton] at hb
      -- No bill had the number of the new one, so that it is the one that covers the day.
      have hnew : b = s.newBill key w false := by
        rcases hb with hb | hb
        · exact absurd hid (Int.ne_of_lt (Store.lt_newBill_id (w := w) hb))
        · exact hb
      subst hnew
      obtain ⟨hfirst, hlast⟩ := Bill.covers_iff.mp hday
      have htakes : (s.newBill key w false).takes day = true := Bill.takes_iff.mpr ⟨rfl, hfirst, hlast⟩
      refine ⟨s.newBill key w false, ?_, htakes, rfl⟩
      simp only [hbills]
      rw [latestBill_append_singleton]
      cases hlatest : latestBill (s.billsOf key) with
      | none => rfl
      | some a =>
          obtain ⟨hstart, _⟩ := Window.opening_number window
          rw [hlatest] at hstart
          exact if_pos (Bill.isLater_of_takes htakes (passed a hlatest) hstart
            (hwindows a (latestBill_spec hlatest).1))

/-- A selection opens a bill at most, the one that is selected. -/
theorem Selected.bills_eq {terms : BillingTerms} {key : TabKey} {day : Day} {s : Store}
    {selected : Selection} (h : Selected terms key day s selected) : selected.store.bills = s.bills ∨
      ∃ b : Bill, b.tab = key ∧ b.id = selected.billId ∧ selected.store.bills = s.bills ++ [b] := by
  cases h with
  | kept latest takes => exact Or.inl rfl
  | opened passed window words free tab => exact Or.inr ⟨_, rfl, rfl, rfl⟩

/-! ### Orders -/

/-- The books of a tab are kept: no open bill ends before it starts, nothing on its bills is below zero, and no
two lines have one key. -/
structure Store.KeepsBooks (s : Store) (key : TabKey) : Prop where
  windows : ∀ b ∈ s.billsOf key, b.isPaid = false → b.startDate ≤ b.endDate
  items : Ledger.NoneBelowZero (s.rowsOf key).itemLines
  variants : Ledger.NoneBelowZero (s.rowsOf key).variantLines
  itemKeys : (s.itemLines.map (·.key)).Nodup
  variantKeys : (s.variantLines.map (·.key)).Nodup

/-- A store has what another one had, but that a bill may have been opened for a tab, lines may be left at zero,
and the audit log may differ. -/
structure Store.RestoredTo (s s' : Store) (key : TabKey) (billId : Int) : Prop where
  bills : s'.bills = s.bills ∨ ∃ b : Bill, b.tab = key ∧ b.id = billId ∧ s'.bills = s.bills ++ [b]
  itemLines : Ledger.Restored s.itemLines s'.itemLines
  variantLines : Ledger.Restored s.variantLines s'.variantLines
  others : ∃ bills itemLines variantLines audit, s' =
    { s with bills := bills, itemLines := itemLines, variantLines := variantLines, audit := audit }

theorem Store.RestoredTo.audited {s s' : Store} {key : TabKey} {billId : Int}
    (h : s.RestoredTo s' key billId) (caller : Caller) (event : Event) :
    s.RestoredTo (s'.audited caller key event) key billId := by
  obtain ⟨hbills, hitems, hvariants, bills, itemLines, variantLines, audit, rfl⟩ := h
  exact ⟨hbills, hitems, hvariants, bills, itemLines, variantLines, _, rfl⟩

namespace Ledger

variable {env env' : Surroundings} {key : TabKey} {o : Form.Order} {on on' : Option Day} {s s₁ : Store}
  {receipt : Receipt} {billId : Int} {day : Day} {policy : RemovalPolicy}

section Lines

variable (hbooks : s.KeepsBooks key)
include hbooks

theorem itemLines_nonneg (o : Form.Order) (billId : Int) :
    ∀ k ∈ (itemChanges o key billId .add).map (·.key),
      (quantityOf s.itemLines k).isBelowZero = false := by
  intro k hk
  rw [map_key_itemChanges] at hk
  obtain ⟨id, _, rfl⟩ := List.mem_map.mp hk
  have hsame : quantityOf (s.rowsOf key).itemLines ⟨key, billId, id⟩ =
      quantityOf s.itemLines ⟨key, billId, id⟩ :=
    quantityOf_filter (p := fun k : ItemKey => k.tab = key) (decide_eq_true rfl)
  rw [← hsame]
  exact hbooks.items.isBelowZero_quantityOf _

theorem variantLines_nonneg (o : Form.Order) (billId : Int) :
    ∀ k ∈ (variantChanges o key billId .add).map (·.key),
      (quantityOf s.variantLines k).isBelowZero = false := by
  intro k hk
  rw [map_key_variantChanges] at hk
  obtain ⟨pair, _, rfl⟩ := List.mem_map.mp hk
  have hsame : quantityOf (s.rowsOf key).variantLines ⟨key, billId, pair.1, pair.2⟩ =
      quantityOf s.variantLines ⟨key, billId, pair.1, pair.2⟩ :=
    quantityOf_filter (p := fun k : VariantKey => k.tab = key) (decide_eq_true rfl)
  rw [← hsame]
  exact hbooks.variants.isBelowZero_quantityOf _

end Lines

/-- An order that was added to the lines of a bill comes off it by any policy, and the lines are as before. -/
theorem FitsOrder.reversed {t : Tab} {b : Bill} (hholds : FitsOrder s key b.id o .add)
    (hready : Ready env on s₁ key t day b)
    (hadded : Settled .add (itemChanges o key b.id .add) s.itemLines s₁.itemLines ∧
      Settled .add (variantChanges o key b.id .add) s.variantLines s₁.variantLines)
    (hbooks : s.KeepsBooks key) (hoffers : s₁.Offers key.shopId o) (hlone : ¬ o.NamesLonePair)
    (hcounts : o.Counts) (hfits : o.FitsWords) (policy : RemovalPolicy) :
    ∃ n m itemLines variantLines, apply env key o (.remove policy) on s₁ =
        .ok ⟨⟨b.id, n, m⟩, (s₁.withItemLines itemLines).withVariantLines variantLines, 0⟩ ∧
      Restored s.itemLines itemLines ∧ Restored s.variantLines variantLines := by
  obtain ⟨hitemsAdded, hvariantsAdded⟩ := hadded
  have hitems := itemLines_nonneg hbooks o b.id
  have hvariants := variantLines_nonneg hbooks o b.id
  have hremovable : FitsOrder s₁ key b.id o (.remove policy) :=
    ⟨hholds.items.removable hitemsAdded policy, hholds.variants.removable hvariantsAdded policy⟩
  have hcovers : CoversOrder s₁ key b.id o :=
    ⟨hholds.items.covers_added hitemsAdded hitems, hholds.variants.covers_added hvariantsAdded hvariants⟩
  obtain ⟨s₂, hwritten⟩ :=
    write_order (.remove policy) hfits hcounts hoffers hready.hasBill fun _ => hcovers
  have happlied := hready.apply_eq (.remove policy) hoffers hfits hlone
  rw [hwritten] at happlied
  obtain ⟨hitemsRemoved, hvariantsRemoved, itemLines, variantLines, rfl⟩ := hremovable.moved hwritten
  exact ⟨_, _, itemLines, variantLines, happlied,
    hitemsAdded.restored hitems hitemsRemoved hbooks.itemKeys,
    hvariantsAdded.restored hvariants hvariantsRemoved hbooks.variantKeys⟩

namespace Applied

variable {direction : Direction} (h : Applied env key o direction on s receipt)
include h

/-- What an order made of the lines. -/
theorem settled (hholds : FitsOrder s key receipt.result.billId o direction) :
    Settled direction (itemChanges o key receipt.result.billId .add) s.itemLines receipt.store.itemLines ∧
      Settled direction (variantChanges o key receipt.result.billId .add) s.variantLines
        receipt.store.variantLines := by
  obtain ⟨_, _, _, _, _, hselect, hwritten⟩ := h
  obtain ⟨bills, hbills⟩ := (selectBill_selectable hselect).frame
  rw [hbills] at hwritten
  have hselected : FitsOrder { s with bills := bills } key _ o direction := hholds.congr rfl rfl
  obtain ⟨hitems, hvariants, _⟩ := hselected.moved hwritten
  exact ⟨hitems, hvariants⟩

/-- What an order referred to is known. -/
theorem known (hfits : o.FitsWords) : (isWord key.shopId = true ∧ isWord key.tabId = true) ∧
    receipt.store.Offers key.shopId o ∧ ¬ o.NamesLonePair := by
  obtain ⟨_, _, _, hframe⟩ := h.frame
  obtain ⟨_, hwords, _, _, hknown, _, _⟩ := h
  refine ⟨hwords, ?_, ?_⟩
  · exact (Catalog.offers_of_ensureKnown hknown).congr (by rw [hframe]) (by rw [hframe])
  · intro hlone
    rw [Catalog.ensureKnown_of_lonePair hwords.1 hfits hlone] at hknown
    cases hknown

/-- The bill of an order receives the next one of the day, if it covers the day. -/
theorem goesTo (hday : env.dayOr on = .ok day) (hblind : env.blindReads = 0)
    (hwindows : ∀ b ∈ s.billsOf key, b.isPaid = false → b.startDate ≤ b.endDate)
    (hcovers : ∃ b ∈ receipt.store.billsOf key, b.id = receipt.result.billId ∧ b.covers day = true) :
    ∃ t b, receipt.store.OrdersGoTo key t day b ∧ t.IsOrderable day ∧ b.id = receipt.result.billId := by
  obtain ⟨day', t, selected, hday', htab, horderable, hselected, hid, hbills, htabs, _⟩ := h.selected hblind
  cases hday.symm.trans hday'
  have hbillsOf : receipt.store.billsOf key = selected.store.billsOf key := Store.billsOf_congr hbills
  rw [hbillsOf, hid] at hcovers
  obtain ⟨b, hlatest, htakes, hb⟩ := hselected.again hwindows hcovers
  rw [← hbillsOf] at hlatest
  exact ⟨t, b, ⟨(Store.tab?_congr htabs).trans htab, hlatest, htakes⟩, horderable, hb.trans hid.symm⟩

/-- An order opens a bill at most, the one that it goes to. -/
theorem bills_eq (hblind : env.blindReads = 0) : receipt.store.bills = s.bills ∨
    ∃ b : Bill, b.tab = key ∧ b.id = receipt.result.billId ∧ receipt.store.bills = s.bills ++ [b] := by
  obtain ⟨_, _, _, _, _, _, hselected, hid, hbills, _⟩ := h.selected hblind
  rw [hbills, hid]
  exact hselected.bills_eq

end Applied

/-- An order that was added and recorded is taken off the same bill by any policy, and the books are as
before. -/
theorem Applied.reversed (h : Applied env key o .add on s receipt) (hday : env.dayOr on = .ok day)
    (hday' : env'.dayOr on' = .ok day) (hblind : env.blindReads = 0) (hblind' : env'.blindReads = 0)
    (hbooks : s.KeepsBooks key) (hcounts : o.Counts) (hfits : o.FitsWords)
    (hholds : FitsOrder s key receipt.result.billId o .add)
    (hcovers : ∃ b ∈ receipt.store.billsOf key, b.id = receipt.result.billId ∧ b.covers day = true)
    (policy : RemovalPolicy) (caller : Caller) (event : Event) :
    ∃ receipt', apply env' key o (.remove policy) on' (receipt.store.audited caller key event) =
        .ok receipt' ∧
      receipt'.result.billId = receipt.result.billId ∧ receipt'.store.bills = receipt.store.bills ∧
      s.RestoredTo receipt'.store key receipt.result.billId := by
  obtain ⟨t, b, ⟨htab, hlatest, htakes⟩, horderable, hid⟩ := h.goesTo hday hblind hbooks.windows hcovers
  obtain ⟨hwords, hoffers, hlone⟩ := h.known hfits
  have hadded := h.settled hholds
  obtain ⟨bills, itemLines, variantLines, hframe⟩ := h.frame
  rw [← hid] at hholds hadded
  have hready : Ready env' on' (receipt.store.audited caller key event) key t day b :=
    ⟨hday', hblind', hwords, horderable, ⟨htab, hlatest, htakes⟩⟩
  obtain ⟨n, m, itemLines', variantLines', happlied, hitems, hvariants⟩ :=
    hholds.reversed hready hadded hbooks (hoffers.congr rfl rfl) hlone hcounts hfits policy
  refine ⟨_, happlied, hid, rfl, h.bills_eq hblind, hitems, hvariants, ?_⟩
  rw [hframe]
  exact ⟨bills, itemLines', variantLines', _, rfl⟩

end Ledger

namespace Service.Request

/-- A request adds an order, and another one takes it off by a policy: by the same caller, under the same rule and
for the same day. -/
structure UndoneBy (r r' : Request) (key : TabKey) (o : Form.Order) (policy : RemovalPolicy) (day : Day) :
    Prop where
  adds : ∃ on, r.env.dayOr on = .ok day ∧ r.ask.Asks r.settings key o on .add
  removes : ∃ on, r'.env.dayOr on = .ok day ∧ r'.ask.Asks r'.settings key o on (.remove policy)
  caller : r'.caller = r.caller
  authorizer : r'.authorizer = r.authorizer

/-- Who was let in for a tab is let in again as long as tabs and shops stay. -/
theorem authorizeTab_again {r r' : Request} {key : TabKey} {t : Tab} {s : Store}
    (h : authorizeTab r.env r.caller key .order s = .ok t) (s' : Store) (hcaller : r'.caller = r.caller)
    (hauthorizer : r'.authorizer = r.authorizer) (htabs : s'.tabs = s.tabs) (hshops : s'.shops = s.shops) :
    authorizeTab r'.env r'.caller key .order s' = .ok t := by
  obtain ⟨hshopWord, htabWord, htab, shop, hshop, hallowed⟩ := authorizeTab_eq_ok.mp h
  refine authorizeTab_eq_ok.mpr
    ⟨hshopWord, htabWord, (Store.tab?_congr htabs).trans htab, shop, ?_, ?_⟩
  · rw [Store.shop?, hshops]
    exact hshop
  · rw [hcaller, env, hauthorizer]
    exact hallowed

end Service.Request

/-- Let the books of a tab be kept, and let an order be added to them on a day that its bill covers, with sums of
at most 64 bits.  Then the same order can be taken off at once, whatever the policy: it comes off the same bill,
no bill is opened for it, and the books are as they were before the addition. -/
theorem reversal_restores {r r' : Service.Request} {s : Store} {key : TabKey} {o : Form.Order}
    {policy : RemovalPolicy} {day : Day} {result : LedgerResult} (h : r.UndoneBy r' key o policy day)
    (hadded : (r.outcome s).result = .ok (.ordered result))
    (hcovers : ∃ b ∈ (r.after s).billsOf key, b.id = result.billId ∧ b.covers day = true)
    (hbooks : s.KeepsBooks key) (hfits : o.FitsWords)
    (hholds : Ledger.FitsOrder s key result.billId o .add) :
    ∃ result', (r'.outcome (r.after s)).result = .ok (.ordered result') ∧
      result'.billId = result.billId ∧ (r'.after (r.after s)).bills = (r.after s).bills ∧
      s.RestoredTo (r'.after (r.after s)) key result.billId := by
  obtain ⟨⟨on, hday, hasks⟩, ⟨on', hday', hasks'⟩, hcaller, hauthorizer⟩ := h
  obtain ⟨t, receipt, hallowed, happlied, hknown, rfl, hafter⟩ :=
    Service.Request.applied_of_ok hasks hadded
  rw [hafter] at hcovers ⊢
  obtain ⟨receipt', happlied', hid, hbills, hrestored⟩ :=
    happlied.reversed hday hday' rfl rfl hbooks hasks.counts hfits hholds hcovers policy r.caller
      (Service.orderEvent receipt.result.billId .add)
  obtain ⟨_, _, _, hframe⟩ := happlied.frame
  have hallowed' := Service.Request.authorizeTab_again hallowed
    (receipt.store.audited r.caller key (Service.orderEvent receipt.result.billId .add)) hcaller hauthorizer
    (by rw [hframe]; rfl) (by rw [hframe]; rfl)
  have hknown' : r'.caller.IsKnown receipt'.store := by
    obtain ⟨_, _, _, _, hrest⟩ := hrestored.others
    rw [hcaller]
    exact hknown.congr (by rw [hrest, hframe])
  have houtcome := Service.Request.outcome_of_applied hasks' hallowed' happlied' hknown'
  refine ⟨receipt'.result, by rw [houtcome], hid, ?_, ?_⟩
  · rw [Service.Request.after, houtcome]
    exact hbills
  · rw [Service.Request.after, houtcome]
    exact hrestored.audited _ _

/-- A coffee is ordered on a new tab, which opens a bill, and taken off again.  The bill is left, with one line at
zero. -/
theorem reversal_restores_coffee :
    let opened := Sample.store.run [Sample.openTab 7]
    let ordered := (Sample.order 5).after opened
    let reached := (Sample.takeBack .reject 5).after ordered
    (∃ result, ((Sample.takeBack .reject 5).outcome ordered).result = .ok (.ordered result) ∧
      result.billId = 1) ∧ reached.bills = ordered.bills ∧ opened.RestoredTo reached Sample.tab 1 := by
  intro opened ordered reached
  have hundone : (Sample.order 5).UndoneBy (Sample.takeBack .reject 5) Sample.tab Sample.coffee .reject
      (Sample.january 5) :=
    ⟨⟨_, rfl, .add rfl⟩, ⟨_, rfl, .remove rfl⟩, rfl, rfl⟩
  have hbooked : (Sample.order 5).booking? opened = some ⟨Sample.tab, 1, Sample.coffee, .add⟩ := by
    decide +kernel
  obtain ⟨placed, hadded, hplaced⟩ := Service.Request.ordered_of_booking hbooked
  have hbooks : opened.KeepsBooks Sample.tab :=
    { windows := by decide +kernel
      items := by
        unfold Ledger.NoneBelowZero
        decide +kernel
      variants := by
        unfold Ledger.NoneBelowZero
        decide +kernel
      itemKeys := by decide +kernel
      variantKeys := by decide +kernel }
  have hholds : Ledger.HoldsFor opened Sample.tab 1 Sample.coffee .add (fun _ => 0) (fun _ _ => 0) :=
    ⟨by decide +kernel, by decide +kernel⟩
  obtain ⟨result, hresult, hid, hbills, hrestored⟩ :=
    reversal_restores hundone hadded ⟨⟨1, Sample.tab, Sample.january 5, Sample.january 11, false⟩,
      by decide +kernel, hplaced.symm, by decide +kernel⟩ hbooks Sample.coffee_fits
      (hplaced ▸ hholds.fitsOrder)
  rw [hplaced] at hid hrestored
  exact ⟨⟨result, hresult, hid⟩, hbills, hrestored⟩

end ShopTabs
