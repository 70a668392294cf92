import Mathlib.Algebra.Order.BigOperators.Group.List
import ShopTabs.Proofs.Ledger.Bookings
import ShopTabs.Proofs.Ledger.Fitting
/-!
Quantities that do not fall below zero.  What is added is not below zero, a removal that refuses overdrafts
leaves every line it changes at zero or above, and one that clamps lifts those that fell below.
-/

namespace ShopTabs

namespace Binary64

variable {x y : Binary64}

/-- Rounding does not make a number negative. -/
theorem isBelowZero_ofRatio {num : Int} {den : Nat} (h : 0 ≤ num) :
    (ofRatio num den).isBelowZero = false := by
  have hsign : decide (num < 0) = false := by simpa using h
  rw [ofRatio, hsign, ofQuotient]
  split
  · rfl
  · -- Either the number is too large, or it is finite; the sign is kept in both cases.
    dsimp only
    generalize (if roundAt _ _ _ = _ then _ else _ : Nat × Int) = rounded
    split
    · rfl
    · rfl

theorem ratio?_nonneg {num : Int} {den : Nat} (hx : x.isBelowZero = false)
    (h : x.ratio? = some (num, den)) : 0 ≤ num := by
  cases x with
  | nan => cases h
  | infinite negative => cases h
  | finite negative significand power =>
      simp only [ratio?, Option.some.injEq, Prod.mk.injEq] at h
      obtain ⟨rfl, _⟩ := h
      cases negative with
      | false => simp
      | true =>
          have hzero : significand = 0 := by simpa [isBelowZero] using hx
          have hnum : (quotient significand power).1 = 0 := by
            rw [hzero, quotient]
            split
            · exact Nat.zero_mul _
            · rfl
          simp [hnum]

theorem isBelowZero_add (hx : x.isBelowZero = false) (hy : y.isBelowZero = false) :
    (x.add y).isBelowZero = false := by
  unfold add
  split
  · next a b c d hxRatio hyRatio =>
      have ha := ratio?_nonneg hx hxRatio
      have hc := ratio?_nonneg hy hyRatio
      have hleft : 0 ≤ a * d := Int.mul_nonneg ha (Int.natCast_nonneg d)
      have hright : 0 ≤ c * b := Int.mul_nonneg hc (Int.natCast_nonneg b)
      exact isBelowZero_ofRatio (Int.add_nonneg hleft hright)
  · exact hy
  · exact hx
  · split
    · exact hx
    · rfl

end Binary64

namespace Quantity

theorem isBelowZero_ofBinary64 {x : Binary64} (h : x.isBelowZero = false) :
    (ofBinary64 x).isBelowZero = false := by
  unfold ofBinary64
  cases hint : x.toInt? with
  | none => exact h
  | some n =>
      have hn : 0 ≤ n := by
        unfold Binary64.toInt? at hint
        split at hint
        · next num den hratio =>
            split at hint
            · cases hint
              exact Int.ediv_nonneg (Binary64.ratio?_nonneg h hratio) (Int.natCast_nonneg den)
            · cases hint
        · cases hint
      dsimp only
      split
      · simpa [isBelowZero] using hn
      · exact h

/-- What is not below zero stays so when something is added. -/
theorem isBelowZero_add {q : Quantity} {n : Int} (hq : q.isBelowZero = false) (hn : 0 ≤ n) :
    (q.add n).isBelowZero = false := by
  have hsecond : (Binary64.ofInt n).isBelowZero = false := Binary64.isBelowZero_ofRatio hn
  cases q with
  | whole m =>
      have hm : 0 ≤ m := by simpa [isBelowZero] using hq
      have hfirst : (Binary64.ofInt m).isBelowZero = false := Binary64.isBelowZero_ofRatio hm
      rw [add]
      split
      · simpa [isBelowZero] using Int.add_nonneg hm hn
      · exact isBelowZero_ofBinary64 (Binary64.isBelowZero_add hfirst hsecond)
  | beyond x => exact isBelowZero_ofBinary64 (Binary64.isBelowZero_add hq hsecond)

end Quantity

namespace Ledger

variable {κ : Type} [DecidableEq κ] {changes totals : List (Change κ)} {lines lines' : List (Line κ)}

def NoneBelowZero (lines : List (Line κ)) : Prop := ∀ l ∈ lines, l.quantity.isBelowZero = false

theorem NoneBelowZero.isBelowZero_quantityOf (h : NoneBelowZero lines) (key : κ) :
    (quantityOf lines key).isBelowZero = false := by
  by_cases hkey : key ∈ lines.map (·.key)
  · obtain ⟨l, hl, hfind, _⟩ := find?_isSome_of_mem hkey
    rw [quantityOf, hfind]
    exact h l hl
  · rw [quantityOf_of_not_mem hkey]
    rfl

/-- Merging leaves nothing below zero where no total brings its line there. -/
theorem NoneBelowZero.merge (h : NoneBelowZero lines) (hnodup : (lines.map (·.key)).Nodup)
    (hsummed : Ledger.totals changes = .ok totals)
    (hcovered : ∀ t ∈ totals, ((quantityOf lines t.key).add t.amount).isBelowZero = false) :
    NoneBelowZero (merge lines totals) := by
  intro l hl
  rcases mem_merge hl with ⟨l', hl', rfl⟩ | ⟨htotal, hnew, hquantity⟩
  · by_cases htotal : l'.key ∈ totals.map (·.key)
    · obtain ⟨t, ht, hfind, hkey⟩ := find?_isSome_of_mem htotal
      have hline := hcovered t ht
      rw [hkey, quantityOf_of_mem hnodup hl'] at hline
      rw [addTotal_of_mem htotal, amountFor, hfind]
      exact hline
    · rw [addTotal_of_not_mem htotal]
      exact h l' hl'
  · obtain ⟨t, ht, hfind, hkey⟩ := find?_isSome_of_mem htotal
    have hline := hcovered t ht
    have hword : isWord (0 + t.amount) = true := by simpa using ((totals_eq_ok hsummed).2 t ht).2
    rw [hkey, quantityOf_of_not_mem hnew, Quantity.add_whole hword, Int.zero_add] at hline
    rw [hquantity, amountFor, hfind]
    exact hline

/-- Clamping lifts whatever a merge brought below zero. -/
theorem NoneBelowZero.clamp_merge (h : NoneBelowZero lines)
    (hsummed : Ledger.totals changes = .ok totals) :
    NoneBelowZero (clamp (Ledger.merge lines totals) (changes.map (·.key))) := by
  intro l hl
  rcases mem_clamp hl with hzero | ⟨hl, hnonneg | hother⟩
  · rw [hzero]
    rfl
  · exact hnonneg
  · have hnone : l.key ∉ totals.map (·.key) := fun htotal => hother ((mem_totals_iff hsummed).mp htotal)
    rcases mem_merge hl with ⟨l', hl', rfl⟩ | ⟨htotal, _⟩
    · rw [addTotal_key] at hnone
      rw [addTotal_of_not_mem hnone]
      exact h l' hl'
    · exact absurd htotal hnone

/-- Only a removal that allows it brings lines below zero. -/
theorem Rewritten.noneBelowZero {direction : Direction}
    (h : Rewritten direction changes lines lines') (hnodup : (lines.map (·.key)).Nodup)
    (hlines : NoneBelowZero lines) (hdirection : direction ≠ .remove .allowNegative)
    (hadded : direction = .add → ∀ c ∈ changes, 0 ≤ c.amount) : NoneBelowZero lines' := by
  obtain ⟨summed, covered⟩ := h
  cases direction with
  | add =>
      apply hlines.merge hnodup summed
      intro t ht
      apply Quantity.isBelowZero_add (hlines.isBelowZero_quantityOf t.key)
      rw [((totals_eq_ok summed).2 t ht).1]
      apply List.sum_nonneg
      intro n hn
      obtain ⟨c, hc, rfl⟩ := List.mem_map.mp hn
      exact hadded rfl c (List.mem_filter.mp hc).1
  | remove policy =>
      cases policy with
      | reject => exact hlines.merge hnodup summed (covered rfl)
      | clamp => exact hlines.clamp_merge summed
      | allowNegative => exact absurd rfl hdirection

end Ledger

/-- No line is below zero, and no key has two lines. -/
structure Store.Nonnegative (s : Store) : Prop where
  itemKeys : (s.itemLines.map (·.key)).Nodup
  variantKeys : (s.variantLines.map (·.key)).Nodup
  items : Ledger.NoneBelowZero s.itemLines
  variants : Ledger.NoneBelowZero s.variantLines

theorem Store.IsUnbilled.nonnegative {s : Store} (h : s.IsUnbilled) : s.Nonnegative := by
  obtain ⟨_, hitems, hvariants⟩ := h
  refine ⟨?_, ?_, ?_, ?_⟩
  · simp [hitems]
  · simp [hvariants]
  · simp [Ledger.NoneBelowZero, hitems]
  · simp [Ledger.NoneBelowZero, hvariants]

theorem BooksAfter.nonnegative {s s' : Store} {booking : Option Booking}
    (h : BooksAfter s s' booking) (hs : s.Nonnegative)
    (hbooking : ∀ e, booking = some e → e.order.Counts ∧ e.direction ≠ .remove .allowNegative) :
    s'.Nonnegative := by
  obtain ⟨hitemKeys, hvariantKeys, hitems, hvariants⟩ := hs
  cases booking with
  | none =>
      obtain ⟨hsameItems, hsameVariants⟩ := h.lines_of_none
      constructor <;> simpa only [hsameItems, hsameVariants]
  | some e =>
      obtain ⟨hcounts, hdirection⟩ := hbooking e rfl
      cases h with
      | booked tab orderable selected billId bills items variants =>
          refine ⟨items.nodup hitemKeys, variants.nodup hvariantKeys, ?_, ?_⟩
          · refine items.noneBelowZero hitemKeys hitems hdirection fun hadd => ?_
            rw [Booking.itemChanges, hadd]
            exact Ledger.itemChanges_nonneg hcounts
          · refine variants.noneBelowZero hvariantKeys hvariants hdirection fun hadd => ?_
            rw [Booking.variantChanges, hadd]
            exact Ledger.variantChanges_nonneg hcounts

theorem Store.nonnegative_run {s : Store} {history : List Service.Request} (hs : s.Nonnegative)
    (hpolicies : ∀ e ∈ bookings s history, e.direction ≠ .remove .allowNegative) :
    (s.run history).Nonnegative := by
  induction history using List.reverseRecOn with
  | nil => exact hs
  | append_singleton rest r ih =>
      rw [bookings_append_singleton] at hpolicies
      have hrest := ih fun e he => hpolicies e (List.mem_append_left _ he)
      rw [run_append_singleton]
      apply (r.booksAfter _).nonnegative hrest
      intro e he
      refine ⟨Service.Request.counts_of_booking he, hpolicies e ?_⟩
      simp [he]

/-- From a store without bills, as long as no removal allows negative quantities, no line of an item or of a
variant is ever below zero.  (A sum that leaves 64 bits does not change that.) -/
theorem quantities_nonnegative {s : Store} {history : List Service.Request} (hs : s.IsUnbilled)
    (hpolicies : ∀ e ∈ bookings s history, e.direction ≠ .remove .allowNegative) :
    (∀ l ∈ (s.run history).itemLines, l.quantity.isBelowZero = false) ∧
      ∀ l ∈ (s.run history).variantLines, l.quantity.isBelowZero = false := by
  have hreached := Store.nonnegative_run hs.nonnegative hpolicies
  exact ⟨hreached.items, hreached.variants⟩

/-- A coffee is ordered and taken off twice, the second time with its line already at zero. -/
theorem quantities_nonnegative_sample :
    let history := [Sample.openTab 7, Sample.order 5, Sample.takeBack .reject 5,
      Sample.takeBack .clamp 6]
    (bookings Sample.store history).map (·.direction) =
        [.add, .remove .reject, .remove .clamp] ∧
      ∀ l ∈ (Sample.store.run history).itemLines, l.quantity.isBelowZero = false := by
  intro history
  have hdirections : (bookings Sample.store history).map (·.direction) =
      [.add, .remove .reject, .remove .clamp] := by decide +kernel
  refine ⟨hdirections, ?_⟩
  apply (quantities_nonnegative Sample.store_isUnbilled _).1
  intro e he
  have hmem : e.direction ∈ (bookings Sample.store history).map (·.direction) :=
    List.mem_map_of_mem he
  rw [hdirections] at hmem
  rintro hallow
  rw [hallow] at hmem
  exact absurd hmem (by decide)

end ShopTabs
