import ShopTabs.Proofs.Ledger.Bookings
/-!
Paid bills are frozen.  An order goes to a bill that is open, or to a new one, and only the lines of that
bill are written; so nothing is booked on a paid bill any more, and it stays paid.
-/

namespace ShopTabs

namespace Store

/-- The lines of items on a bill. -/
def itemLinesOf (s : Store) (b : Bill) : List (Line ItemKey) :=
  s.itemLines.filter fun l => l.key.tab = b.tab && l.key.billId = b.id

/-- The lines of variants on a bill. -/
def variantLinesOf (s : Store) (b : Bill) : List (Line VariantKey) :=
  s.variantLines.filter fun l => l.key.tab = b.tab && l.key.billId = b.id

end Store

/-- A bill has the same lines in two stores. -/
structure Bill.LinesKept (b : Bill) (s s' : Store) : Prop where
  items : s'.itemLinesOf b = s.itemLinesOf b
  variants : s'.variantLinesOf b = s.variantLinesOf b

namespace Bill.LinesKept

variable {b b' : Bill} {s s₁ s₂ : Store}

theorem refl (b : Bill) (s : Store) : b.LinesKept s s := ⟨rfl, rfl⟩

theorem trans (h₁ : b.LinesKept s s₁) (h₂ : b.LinesKept s₁ s₂) : b.LinesKept s s₂ :=
  ⟨h₂.items.trans h₁.items, h₂.variants.trans h₁.variants⟩

/-- The lines of a bill are found by its tab and its number, which it keeps. -/
theorem of_goesOn (hgoes : b.GoesOn b') (h : b'.LinesKept s s₁) : b.LinesKept s s₁ := by
  obtain ⟨hitems, hvariants⟩ := h
  simp only [Store.itemLinesOf, Store.variantLinesOf, hgoes.id, hgoes.tab] at hitems hvariants
  exact ⟨hitems, hvariants⟩

end Bill.LinesKept

namespace BooksAfter

variable {s s' : Store} {booking : Option Booking} {b : Bill}

/-- A bill on which nothing is booked keeps its lines. -/
theorem linesKept (h : BooksAfter s s' booking)
    (hother : ∀ e, booking = some e → ¬ (e.tab = b.tab ∧ e.billId = b.id)) : b.LinesKept s s' := by
  cases booking with
  | none =>
      obtain ⟨hitems, hvariants⟩ := h.lines_of_none
      refine ⟨?_, ?_⟩
      · rw [Store.itemLinesOf, Store.itemLinesOf, hitems]
      · rw [Store.variantLinesOf, Store.variantLinesOf, hvariants]
  | some e =>
      have hnot := hother e rfl
      cases h with
      | booked tab orderable selected billId bills items variants =>
          refine ⟨?_, ?_⟩
          · apply items.filter_eq (p := fun k => k.tab = b.tab && k.billId = b.id)
            intro c hc
            obtain ⟨htab, hid⟩ := Booking.key_of_mem_itemChanges hc
            simpa [htab, hid] using hnot
          · apply variants.filter_eq (p := fun k => k.tab = b.tab && k.billId = b.id)
            intro c hc
            obtain ⟨htab, hid⟩ := Booking.key_of_mem_variantChanges hc
            simpa [htab, hid] using hnot

/-- Nothing is booked on a paid bill. -/
theorem linesKept_of_paid (h : BooksAfter s s' booking) (hids : (s.bills.map (·.id)).Nodup)
    (hb : b ∈ s.bills) (hpaid : b.isPaid = true) : b.LinesKept s s' := by
  apply h.linesKept
  rintro e rfl ⟨_, hid⟩
  obtain ⟨c, hcid, _, hopen, ⟨hc, _⟩ | ⟨hfresh, _⟩⟩ := h.exists_open_bill
  · have hsame : c = b := Store.eq_of_id_eq hids hc hb (hcid.trans hid)
    rw [hsame, hpaid] at hopen
    cases hopen
  · rw [hcid, hid] at hfresh
    exact hfresh (List.mem_map_of_mem hb)

end BooksAfter

/-- A bill that is paid keeps its lines from then on. -/
theorem Store.linesKept_run {s : Store} (hids : (s.bills.map (·.id)).Nodup) {b : Bill}
    (hb : b ∈ s.bills) (hpaid : b.isPaid = true) (history : List Service.Request) :
    b.LinesKept s (s.run history) := by
  induction history using List.reverseRecOn with
  | nil => exact .refl b s
  | append_singleton rest r ih =>
      obtain ⟨b', hb', hgoes⟩ := exists_goesOn_run hb rest
      have hstep : b'.LinesKept (s.run rest) (r.after (s.run rest)) :=
        (r.booksAfter _).linesKept_of_paid (nodup_run hids rest) hb' (hgoes.paid hpaid)
      rw [run_append_singleton]
      exact ih.trans (.of_goesOn hgoes hstep)

/-- Once a bill is paid it stays paid, with its first day and its lines, whatever is asked for later.  And
an order on a tab, whatever surrounds it, goes to a bill of that tab that is open before and after, unless
the order opened it; every other bill keeps its lines. -/
theorem paid_bills_frozen {s : Store} (hids : (s.bills.map (·.id)).Nodup) :
    (∀ (first later : List Service.Request), ∀ b ∈ (s.run first).bills, b.isPaid = true →
      (∃ b' ∈ ((s.run first).run later).bills, b'.id = b.id ∧ b'.tab = b.tab ∧
        b'.startDate = b.startDate ∧ b'.isPaid = true) ∧
      b.LinesKept (s.run first) ((s.run first).run later)) ∧
    ∀ (env : Surroundings) (caller : Caller) (op : Operation) (key : TabKey)
      (result : LedgerResult) (s' : Store), op.tab? = some key →
      op.attempt env caller s = .ok (.ordered result, s') →
      ∃ b, b.id = result.billId ∧ b.tab = key ∧ b.isPaid = false ∧
        ((b ∈ s.bills ∧ s'.bills = s.bills) ∨
          (b.id ∉ s.bills.map (·.id) ∧ s'.bills = s.bills ++ [b])) ∧
        ∀ c : Bill, c.tab ≠ b.tab ∨ c.id ≠ b.id → c.LinesKept s s' := by
  refine ⟨?_, ?_⟩
  · intro first later b hb hpaid
    obtain ⟨b', hb', hgoes⟩ := Store.exists_goesOn_run hb later
    refine ⟨⟨b', hb', hgoes.id, hgoes.tab, hgoes.startDate, hgoes.paid hpaid⟩, ?_⟩
    exact Store.linesKept_run (Store.nodup_run hids first) hb hpaid later
  · intro env caller op key result s' hkey hattempt
    obtain ⟨e, htab, hid, hbooks⟩ := (Operation.attempt_effect hattempt).booking_of_ordered
    rw [hkey] at htab
    cases htab
    obtain ⟨b, hbid, hbtab, hopen, hbills⟩ := hbooks.exists_open_bill
    refine ⟨b, hbid.trans hid, hbtab, hopen, hbills, ?_⟩
    intro c hc
    apply hbooks.linesKept
    rintro _ ⟨⟩ ⟨hsameTab, hsameId⟩
    rcases hc with hc | hc
    · exact hc (hsameTab.symm.trans hbtab.symm)
    · exact hc (hsameId.symm.trans hbid.symm)

/-- A bill with one coffee is paid, and another coffee is ordered on the same day: the paid bill still has
the one. -/
theorem paid_bills_frozen_sample :
    let paid := Sample.store.run [Sample.openTab 7, Sample.order 5, Sample.pay 1 9]
    let bill : Bill := ⟨1, Sample.tab, Sample.january 5, Sample.january 9, true⟩
    (paid.run [Sample.order 9]).bills =
        [bill, ⟨2, Sample.tab, Sample.january 9, Sample.january 15, false⟩] ∧
      (paid.run [Sample.order 9]).itemLinesOf bill = [⟨⟨Sample.tab, 1, 1⟩, .whole 1⟩] := by
  intro paid bill
  have hfrozen := paid_bills_frozen (s := Sample.store) (by decide +kernel)
  have hbill : bill ∈ paid.bills := by decide +kernel
  have hkept := (hfrozen.1 _ [Sample.order 9] bill hbill rfl).2.items
  refine ⟨by decide +kernel, ?_⟩
  rw [hkept]
  decide +kernel

end ShopTabs
