import Mathlib.Algebra.BigOperators.Group.List.Basic
import ShopTabs.Proofs.Ledger.Bookings
import ShopTabs.Proofs.Ledger.Fitting
/-!
No quantity is lost, duplicated or put on two bills.  As long as nothing is clamped, a line holds what was
put on its bill less what was taken off it; each booking adds its own sum to the lines of one bill and
nothing to any other.
-/

namespace ShopTabs

namespace Booking

/-- The booking goes to the bill of a number. -/
def names (e : Booking) (billId : Int) : Bool := e.billId = billId

/-- The booking goes to the bill of a number on a tab. -/
def isAt (e : Booking) (tab : TabKey) (billId : Int) : Bool := e.tab = tab && e.billId = billId

end Booking

/-- The sum over bookings of a kind of amounts that are read off their orders. -/
def bookedSum (kind : Booking → Bool) (amounts : Form.Order → List Int) (es : List Booking) : Int :=
  ((es.filter kind).map fun e => (amounts e.order).sum).sum

/-- What bookings of a kind put on their bills. -/
def putOn (kind : Booking → Bool) (amounts : Form.Order → List Int) (es : List Booking) : Int :=
  bookedSum (fun e => kind e && e.direction = .add) amounts es

/-- What bookings of a kind take off their bills. -/
def takenOff (kind : Booking → Bool) (amounts : Form.Order → List Int) (es : List Booking) : Int :=
  bookedSum (fun e => kind e && e.direction ≠ .add) amounts es

/-- What bookings of a kind leave on their bills. -/
def balance (kind : Booking → Bool) (amounts : Form.Order → List Int) (es : List Booking) : Int :=
  putOn kind amounts es - takenOff kind amounts es

/-- What bookings leave of any item or variant on the bill of any number has at most 64 bits. -/
structure TotalsFit (es : List Booking) : Prop where
  items : ∀ billId item, isWord (balance (·.names billId) (·.itemAmounts item) es) = true
  variants : ∀ billId item variant,
    isWord (balance (·.names billId) (·.variantAmounts item variant) es) = true

section Balance

variable {kind : Booking → Bool} {amounts : Form.Order → List Int} {es : List Booking}

theorem bookedSum_append_singleton (e : Booking) :
    bookedSum kind amounts (es ++ [e]) =
      bookedSum kind amounts es + if kind e then (amounts e.order).sum else 0 := by
  rw [bookedSum, bookedSum, List.filter_append, List.map_append, List.sum_append]
  by_cases hkind : kind e = true
  · simp [hkind]
  · simp [hkind]

theorem bookedSum_congr {other : Booking → Bool} (h : ∀ e ∈ es, kind e = other e) :
    bookedSum kind amounts es = bookedSum other amounts es := by
  rw [bookedSum, bookedSum, List.filter_congr h]

/-- A further booking adds what it changes, if it is of the kind. -/
theorem balance_append_singleton (e : Booking) :
    balance kind amounts (es ++ [e]) =
      balance kind amounts es + if kind e then e.direction.change (amounts e.order).sum else 0 := by
  simp only [balance, putOn, takenOff, bookedSum_append_singleton]
  cases hkind : kind e with
  | false => simp
  | true =>
      cases hdirection : e.direction with
      | add =>
          simp [Direction.change]
          omega
      | remove policy =>
          simp [Direction.change]
          omega

theorem balance_congr {other : Booking → Bool} (h : ∀ e ∈ es, kind e = other e) :
    balance kind amounts es = balance other amounts es := by
  have hput : putOn kind amounts es = putOn other amounts es := by
    apply bookedSum_congr
    intro e he
    rw [h e he]
  have htaken : takenOff kind amounts es = takenOff other amounts es := by
    apply bookedSum_congr
    intro e he
    rw [h e he]
  rw [balance, balance, hput, htaken]

theorem balance_of_none (h : ∀ e ∈ es, kind e = false) : balance kind amounts es = 0 := by
  rw [balance_congr h]
  simp [balance, putOn, takenOff, bookedSum]

/-- Sums of at most `n` each leave at most that much for each booking, up or down. -/
theorem balance_bounds (kind : Booking → Bool) (amounts : Form.Order → List Int) {n : Int}
    (h : ∀ e ∈ es, 0 ≤ (amounts e.order).sum ∧ (amounts e.order).sum ≤ n) :
    -(n * es.length) ≤ balance kind amounts es ∧ balance kind amounts es ≤ n * es.length := by
  induction es using List.reverseRecOn with
  | nil => simp [balance, putOn, takenOff, bookedSum]
  | append_singleton rest e ih =>
      obtain ⟨hlow, hhigh⟩ := ih fun e' he' => h e' (List.mem_append_left _ he')
      obtain ⟨hnonneg, hle⟩ := h e (by simp)
      have hlength : n * ((rest ++ [e]).length : Int) = n * rest.length + n := by
        rw [List.length_append, List.length_singleton, Int.natCast_add, Int.natCast_one, Int.mul_add,
          Int.mul_one]
      rw [balance_append_singleton, hlength]
      split
      · cases e.direction with
        | add =>
            simp only [Direction.change]
            omega
        | remove policy =>
            simp only [Direction.change]
            omega
      · omega

/-- Few enough bookings of small enough orders keep all totals within 64 bits. -/
theorem TotalsFit.of_le {n : Int}
    (hitems : ∀ e ∈ es, ∀ item,
      0 ≤ (e.order.itemAmounts item).sum ∧ (e.order.itemAmounts item).sum ≤ n)
    (hvariants : ∀ e ∈ es, ∀ item variant,
      0 ≤ (e.order.variantAmounts item variant).sum ∧ (e.order.variantAmounts item variant).sum ≤ n)
    (hlength : n * es.length < wordBound) : TotalsFit es := by
  refine ⟨?_, ?_⟩
  · intro billId item
    have hbounds := balance_bounds (·.names billId) (·.itemAmounts item) fun e he => hitems e he item
    rw [Ledger.isWord_iff]
    omega
  · intro billId item variant
    have hbounds := balance_bounds (·.names billId) (·.variantAmounts item variant)
      fun e he => hvariants e he item variant
    rw [Ledger.isWord_iff]
    omega

/-- Where the number of a bill is used on one tab only, it tells the bookings of the bill. -/
theorem balance_isAt {tab : TabKey} {billId : Int}
    (h : ∀ e ∈ es, e.billId = billId → e.tab = tab) :
    balance (·.isAt tab billId) amounts es = balance (·.names billId) amounts es := by
  apply balance_congr
  intro e he
  by_cases hid : e.billId = billId
  · simp [Booking.isAt, Booking.names, hid, h e he hid]
  · simp [Booking.isAt, Booking.names, hid]

/-- No number of a bill is used on two tabs. -/
def OneTabEach (es : List Booking) : Prop :=
  ∀ e ∈ es, ∀ e' ∈ es, e.billId = e'.billId → e.tab = e'.tab

theorem OneTabEach.isWord_balance (hown : OneTabEach es) {billId : Int} (tab : TabKey)
    (h : isWord (balance (·.names billId) amounts es) = true) :
    isWord (balance (·.isAt tab billId) amounts es) = true := by
  by_cases hsome : ∃ e ∈ es, e.isAt tab billId = true
  · obtain ⟨e, he, hat⟩ := hsome
    simp only [Booking.isAt, Bool.and_eq_true, decide_eq_true_eq] at hat
    obtain ⟨rfl, rfl⟩ := hat
    rw [balance_isAt fun e' he' hid => hown e' he' e he hid]
    exact h
  · have hzero : balance (·.isAt tab billId) amounts es = 0 := by
      apply balance_of_none
      intro e he
      rw [← Bool.not_eq_true]
      exact fun hat => hsome ⟨e, he, hat⟩
    rw [hzero]
    decide

end Balance

/-! ### One booking -/

namespace Ledger

variable {κ : Type} [DecidableEq κ] {changes : List (Change κ)} {lines lines' : List (Line κ)}

/-- Where nothing is clamped, and the sum stays within 64 bits, a line gets exactly the sum of its
changes. -/
theorem Rewritten.quantityOf_eq {direction : Direction} {key : κ} {n : Int}
    (h : Rewritten direction changes lines lines') (hclamps : direction.clamps = false)
    (hline : quantityOf lines key = .whole n)
    (hword : isWord (n + (changesTo changes key).sum) = true) :
    quantityOf lines' key = .whole (n + (changesTo changes key).sum) := by
  obtain ⟨summed, _⟩ := h
  rw [settle, if_neg (by simp [hclamps])]
  by_cases hkey : key ∈ changes.map (·.key)
  · rw [quantityOf_merge summed hkey, hline, Quantity.add_whole hword]
  · rw [quantityOf_merge_of_not_mem summed hkey, hline, changesTo_eq_nil hkey]
    simp

end Ledger

namespace Booking

variable {e : Booking} {tab : TabKey} {billId : Int}

/-- A booking changes no line of another bill. -/
theorem changesTo_eq_nil {κ : Type} [DecidableEq κ] {changes : List (Change κ)}
    (tabOf : κ → TabKey) (billOf : κ → Int) {key : κ}
    (hkeys : ∀ c ∈ changes, tabOf c.key = e.tab ∧ billOf c.key = e.billId)
    (hat : ¬ e.isAt (tabOf key) (billOf key) = true) : Ledger.changesTo changes key = [] := by
  apply Ledger.changesTo_eq_nil
  intro hmem
  obtain ⟨c, hc, rfl⟩ := List.mem_map.mp hmem
  obtain ⟨htab, hid⟩ := hkeys c hc
  exact hat (by simp [isAt, htab, hid])

/-- It changes the lines of its own bill by its own sums. -/
theorem sum_itemChanges (item : Int) :
    (Ledger.changesTo e.itemChanges ⟨tab, billId, item⟩).sum =
      if e.isAt tab billId then e.direction.change (e.order.itemAmounts item).sum else 0 := by
  split
  · next hat =>
      simp only [isAt, Bool.and_eq_true, decide_eq_true_eq] at hat
      obtain ⟨rfl, rfl⟩ := hat
      rw [itemChanges, Ledger.changesTo_itemChanges, Direction.sum_map_change]
  · next hat =>
      rw [changesTo_eq_nil ItemKey.tab ItemKey.billId (fun c hc => key_of_mem_itemChanges hc) hat]
      rfl

theorem sum_variantChanges (item variant : Int) :
    (Ledger.changesTo e.variantChanges ⟨tab, billId, item, variant⟩).sum =
      if e.isAt tab billId then e.direction.change (e.order.variantAmounts item variant).sum
      else 0 := by
  split
  · next hat =>
      simp only [isAt, Bool.and_eq_true, decide_eq_true_eq] at hat
      obtain ⟨rfl, rfl⟩ := hat
      rw [variantChanges, Ledger.changesTo_variantChanges, Direction.sum_map_change]
  · next hat =>
      rw [changesTo_eq_nil VariantKey.tab VariantKey.billId
        (fun c hc => key_of_mem_variantChanges hc) hat]
      rfl

end Booking

theorem Direction.clamps_eq_false {direction : Direction} (h : direction ≠ .remove .clamp) :
    direction.clamps = false := by
  cases direction with
  | add => rfl
  | remove policy =>
      cases policy with
      | clamp => exact absurd rfl h
      | _ => rfl

/-! ### Runs -/

/-- The lines of a store hold what bookings left on each bill of each tab. -/
structure Store.Balanced (s : Store) (es : List Booking) : Prop where
  items : ∀ tab billId item, Ledger.quantityOf s.itemLines ⟨tab, billId, item⟩ =
    .whole (balance (·.isAt tab billId) (·.itemAmounts item) es)
  variants : ∀ tab billId item variant,
    Ledger.quantityOf s.variantLines ⟨tab, billId, item, variant⟩ =
      .whole (balance (·.isAt tab billId) (·.variantAmounts item variant) es)

namespace Store

variable {s s' : Store} {es : List Booking}

theorem IsUnbilled.balanced (h : s.IsUnbilled) : s.Balanced [] := by
  obtain ⟨_, hitems, hvariants⟩ := h
  refine ⟨?_, ?_⟩
  · intro tab billId item
    rw [hitems]
    rfl
  · intro tab billId item variant
    rw [hvariants]
    rfl

theorem Balanced.booked (h : s.Balanced es) {e : Booking} (hbooks : BooksAfter s s' (some e))
    (hdirection : e.direction ≠ .remove .clamp) (hown : OneTabEach (es ++ [e]))
    (hfits : TotalsFit (es ++ [e])) : s'.Balanced (es ++ [e]) := by
  have hclamps := Direction.clamps_eq_false hdirection
  cases hbooks with
  | booked tab orderable selected billId bills items variants =>
      refine ⟨?_, ?_⟩
      · intro tab billId item
        have hword := hown.isWord_balance tab (hfits.items billId item)
        rw [balance_append_singleton, ← Booking.sum_itemChanges] at hword ⊢
        exact items.quantityOf_eq hclamps (h.items tab billId item) hword
      · intro tab billId item variant
        have hword := hown.isWord_balance tab (hfits.variants billId item variant)
        rw [balance_append_singleton, ← Booking.sum_variantChanges] at hword ⊢
        exact variants.quantityOf_eq hclamps (h.variants tab billId item variant) hword

theorem Balanced.unbooked (h : s.Balanced es) (hbooks : BooksAfter s s' none) : s'.Balanced es := by
  obtain ⟨hitems, hvariants⟩ := hbooks.lines_of_none
  refine ⟨?_, ?_⟩
  · rw [hitems]
    exact h.items
  · rw [hvariants]
    exact h.variants

/-- Every booking goes to a bill that is there in the end. -/
theorem exists_bill_of_booking {history : List Service.Request} {e : Booking}
    (he : e ∈ bookings s history) :
    ∃ b ∈ (s.run history).bills, b.id = e.billId ∧ b.tab = e.tab := by
  induction history using List.reverseRecOn with
  | nil => cases he
  | append_singleton rest r ih =>
      rw [bookings_append_singleton, List.mem_append, Option.mem_toList] at he
      rw [run_append_singleton]
      have hbooks := r.booksAfter (s.run rest)
      rcases he with he | he
      · obtain ⟨b, hb, hid, htab⟩ := ih he
        obtain ⟨b', hb', hgoes⟩ := hbooks.exists_goesOn hb
        exact ⟨b', hb', hgoes.id.trans hid, hgoes.tab.trans htab⟩
      · rw [Option.mem_def.mp he] at hbooks
        obtain ⟨b, hid, htab, _, ⟨hb, hbills⟩ | ⟨_, hbills⟩⟩ := hbooks.exists_open_bill
        · exact ⟨b, hbills ▸ hb, hid, htab⟩
        · exact ⟨b, by simp [hbills], hid, htab⟩

/-- The bookings of a run use the number of a bill on one tab only. -/
theorem oneTabEach_bookings (hids : (s.bills.map (·.id)).Nodup) (history : List Service.Request) :
    OneTabEach (bookings s history) := by
  intro e he e' he' hid
  obtain ⟨b, hb, hbid, hbtab⟩ := exists_bill_of_booking he
  obtain ⟨b', hb', hbid', hbtab'⟩ := exists_bill_of_booking he'
  have hsame : b = b' := eq_of_id_eq (nodup_run hids history) hb hb' (by rw [hbid, hid, hbid'])
  rw [← hbtab, hsame, hbtab']

theorem IsUnbilled.nodup (h : s.IsUnbilled) : (s.bills.map (·.id)).Nodup := by
  rw [h.bills]
  exact List.nodup_nil

theorem balanced_run {history : List Service.Request} (hs : s.IsUnbilled)
    (hpolicies : ∀ e ∈ bookings s history, e.direction ≠ .remove .clamp)
    (hfits : ∀ first, first <+: bookings s history → TotalsFit first) :
    (s.run history).Balanced (bookings s history) := by
  induction history using List.reverseRecOn with
  | nil => exact hs.balanced
  | append_singleton rest r ih =>
      have hown := oneTabEach_bookings hs.nodup (rest ++ [r])
      rw [bookings_append_singleton] at hpolicies hfits hown ⊢
      rw [run_append_singleton]
      have hrest : (s.run rest).Balanced (bookings s rest) := by
        apply ih
        · exact fun e he => hpolicies e (List.mem_append_left _ he)
        · exact fun first hfirst => hfits first (hfirst.trans (List.prefix_append _ _))
      have hbooks := r.booksAfter (s.run rest)
      cases hbooking : r.booking? (s.run rest) with
      | none =>
          rw [hbooking] at hbooks
          simp only [Option.toList_none, List.append_nil]
          exact hrest.unbooked hbooks
      | some e =>
          rw [hbooking] at hbooks hpolicies hfits hown
          simp only [Option.toList_some] at hpolicies hfits hown ⊢
          exact hrest.booked hbooks (hpolicies e (by simp)) hown (hfits _ (List.prefix_refl _))

end Store

/-- Let a run start without bills, clamp nothing, and keep the totals of all lines within 64 bits.  Then
every order goes to just one bill, which belongs to its tab; and every line of a bill holds the sum of what
the orders that went to the bill put on it, less the sum of what they took off, zero where there is no
line. -/
theorem quantities_conserved {s : Store} {history : List Service.Request} (hs : s.IsUnbilled)
    (hpolicies : ∀ e ∈ bookings s history, e.direction ≠ .remove .clamp)
    (hfits : ∀ first, first <+: bookings s history → TotalsFit first) :
    (∀ e ∈ bookings s history, ∃ b ∈ (s.run history).bills, b.id = e.billId ∧ b.tab = e.tab ∧
      ∀ c ∈ (s.run history).bills, c.id = e.billId → c = b) ∧
    ∀ b ∈ (s.run history).bills,
      (∀ item, Ledger.quantityOf (s.run history).itemLines ⟨b.tab, b.id, item⟩ =
        .whole (putOn (·.names b.id) (·.itemAmounts item) (bookings s history) -
          takenOff (·.names b.id) (·.itemAmounts item) (bookings s history))) ∧
      ∀ item variant,
        Ledger.quantityOf (s.run history).variantLines ⟨b.tab, b.id, item, variant⟩ =
          .whole (putOn (·.names b.id) (·.variantAmounts item variant) (bookings s history) -
            takenOff (·.names b.id) (·.variantAmounts item variant) (bookings s history)) := by
  have hids := Store.nodup_run hs.nodup history
  refine ⟨?_, ?_⟩
  · intro e he
    obtain ⟨b, hb, hid, htab⟩ := Store.exists_bill_of_booking he
    exact ⟨b, hb, hid, htab, fun c hc hcid => Store.eq_of_id_eq hids hc hb (hcid.trans hid.symm)⟩
  · intro b hb
    have hbalanced := Store.balanced_run hs hpolicies hfits
    have hown : ∀ e ∈ bookings s history, e.billId = b.id → e.tab = b.tab := by
      intro e he hid
      obtain ⟨c, hc, hcid, hctab⟩ := Store.exists_bill_of_booking he
      rw [← hctab, Store.eq_of_id_eq hids hc hb (hcid.trans hid)]
    refine ⟨?_, ?_⟩
    · intro item
      rw [hbalanced.items, balance_isAt hown, balance]
    · intro item variant
      rw [hbalanced.variants, balance_isAt hown, balance]

/-- Orders of one coffee each keep all totals within 64 bits, if there are not too many of them. -/
theorem Sample.totalsFit_coffees {es : List Booking} (h : ∀ e ∈ es, e.order = coffee)
    (hlength : (es.length : Int) < wordBound) : TotalsFit es := by
  have hbound : 1 * (es.length : Int) < wordBound := by
    rw [Int.one_mul]
    exact hlength
  refine .of_le ?_ ?_ hbound
  · intro e he item
    rw [h e he]
    by_cases hone : item = 1
    · subst hone
      decide
    · simp [Form.Order.itemAmounts, coffee, Ne.symm hone]
  · intro e he item variant
    have hnone : coffee.variantAmounts item variant = [] := by
      by_cases hone : item = 1
      · subst hone
        rfl
      · simp [Form.Order.variantAmounts, coffee, Ne.symm hone]
    rw [h e he, hnone]
    decide

/-- One coffee is ordered and then taken off twice, the second time beyond what is there. -/
theorem quantities_conserved_sample :
    let history := [Sample.openTab 7, Sample.order 5, Sample.takeBack .reject 5,
      Sample.takeBack .allowNegative 6]
    bookings Sample.store history =
        [⟨Sample.tab, 1, Sample.coffee, .add⟩, ⟨Sample.tab, 1, Sample.coffee, .remove .reject⟩,
          ⟨Sample.tab, 1, Sample.coffee, .remove .allowNegative⟩] ∧
      Ledger.quantityOf (Sample.store.run history).itemLines ⟨Sample.tab, 1, 1⟩ = .whole (1 - 2) := by
  intro history
  have hbookings : bookings Sample.store history =
      [⟨Sample.tab, 1, Sample.coffee, .add⟩, ⟨Sample.tab, 1, Sample.coffee, .remove .reject⟩,
        ⟨Sample.tab, 1, Sample.coffee, .remove .allowNegative⟩] := by decide +kernel
  have hfits : ∀ first, first <+: bookings Sample.store history → TotalsFit first := by
    rw [hbookings]
    intro first hfirst
    apply Sample.totalsFit_coffees
    · intro e he
      have hmem := hfirst.subset he
      simp only [List.mem_cons, List.not_mem_nil, or_false] at hmem
      rcases hmem with rfl | rfl | rfl <;> rfl
    · have hlength : first.length ≤ 3 := hfirst.length_le
      unfold wordBound
      omega
  have hpolicies : ∀ e ∈ bookings Sample.store history, e.direction ≠ .remove .clamp := by
    rw [hbookings]
    decide +kernel
  have hconserved := quantities_conserved Sample.store_isUnbilled hpolicies hfits
  refine ⟨hbookings, ?_⟩
  have hbill : (⟨1, Sample.tab, Sample.january 5, Sample.january 11, false⟩ : Bill) ∈
      (Sample.store.run history).bills := by decide +kernel
  rw [(hconserved.2 _ hbill).1 1, hbookings]
  decide +kernel

end ShopTabs
