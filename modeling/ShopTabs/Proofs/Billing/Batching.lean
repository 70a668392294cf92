import ShopTabs.Proofs.Billing.Acceptance
import ShopTabs.Proofs.Billing.Outcome
/-!
Orders that are moved one after the other in a transaction come to what they come to at once, and in whatever
order their items and variants are given: on one bill, amounts that are not below zero add up.
-/

namespace ShopTabs

namespace Form

/-- Orders one after the other, as one order. -/
def Order.concat (orders : List Order) : Order := ⟨orders.flatMap (·.items)⟩

/-- The same item, with its variants in any order. -/
structure OrderItem.Reorders (i j : OrderItem) : Prop where
  id : i.id = j.id
  quantity : i.quantity = j.quantity
  variants : i.variants.Perm j.variants

/-- The same items in any order, each with its variants in any order. -/
def Order.Reorders (o o' : Order) : Prop :=
  ∃ items, o.items.Perm items ∧ List.Forall₂ OrderItem.Reorders items o'.items

theorem Order.Reorders.refl (o : Order) : o.Reorders o :=
  ⟨o.items, .refl _, List.forall₂_same.mpr fun _ _ => ⟨rfl, rfl, .refl _⟩⟩

end Form

namespace Ledger

open Form (Order)

variable {direction : Direction} {tab : TabKey} {billId : Int} {o o' : Order} {orders : List Order}
  {s s' s'' : Store}

/-! ### Orders as one -/

theorem itemChanges_concat_cons : itemChanges (.concat (o :: orders)) tab billId direction =
    itemChanges o tab billId direction ++ itemChanges (.concat orders) tab billId direction := by
  simp [itemChanges, Order.concat]

theorem variantChanges_concat_cons : variantChanges (.concat (o :: orders)) tab billId direction =
    variantChanges o tab billId direction ++ variantChanges (.concat orders) tab billId direction := by
  simp [variantChanges, Order.concat]

theorem itemChanges_perm (h : o.Reorders o') :
    (itemChanges o tab billId direction).Perm (itemChanges o' tab billId direction) := by
  obtain ⟨items, hperm, hsame⟩ := h
  refine (hperm.map _).trans ?_
  clear hperm
  rw [itemChanges]
  generalize o'.items = items' at hsame
  induction hsame with
  | nil => exact .refl _
  | cons hitem _ ih =>
      rw [List.map_cons, List.map_cons, hitem.id, hitem.quantity]
      exact ih.cons _

theorem variantChanges_perm (h : o.Reorders o') :
    (variantChanges o tab billId direction).Perm (variantChanges o' tab billId direction) := by
  obtain ⟨items, hperm, hsame⟩ := h
  refine (hperm.flatMap_right _).trans ?_
  clear hperm
  rw [variantChanges]
  generalize o'.items = items' at hsame
  induction hsame with
  | nil => exact .refl _
  | cons hitem _ ih =>
      rw [List.flatMap_cons, List.flatMap_cons, hitem.id]
      exact (hitem.variants.map _).append ih

theorem counts_concat (h : ∀ o ∈ orders, o.Counts) : (Order.concat orders).Counts := by
  intro i hi
  obtain ⟨o, ho, hio⟩ := List.mem_flatMap.mp hi
  exact h o ho i hio

/-! ### One order before others -/

section Cons

variable (hfirst : o.Counts) (hrest : (Order.concat orders).Counts)
include hfirst hrest

theorem FitsOrder.head (h : FitsOrder s tab billId (.concat (o :: orders)) direction) :
    FitsOrder s tab billId o direction := by
  obtain ⟨hitems, hvariants⟩ := h
  rw [itemChanges_concat_cons] at hitems
  rw [variantChanges_concat_cons] at hvariants
  exact ⟨hitems.left hfirst.given_item hrest.given_item,
    hvariants.left hfirst.given_variant hrest.given_variant⟩

theorem FitsOrder.tail (h : FitsOrder s tab billId (.concat (o :: orders)) direction)
    (hmoved : Moved direction tab billId o s s') : FitsOrder s' tab billId (.concat orders) direction := by
  obtain ⟨hitems, hvariants⟩ := h
  rw [itemChanges_concat_cons] at hitems
  rw [variantChanges_concat_cons] at hvariants
  exact ⟨hitems.right hfirst.given_item hrest.given_item hmoved.items,
    hvariants.right hfirst.given_variant hrest.given_variant hmoved.variants⟩

theorem FitsOrder.coversOrder_head (h : FitsOrder s tab billId (.concat (o :: orders)) direction)
    (hrejects : direction.rejects = true) (hcovers : CoversOrder s tab billId (.concat (o :: orders))) :
    CoversOrder s tab billId o := by
  obtain ⟨hitems, hvariants⟩ := h
  rw [itemChanges_concat_cons] at hitems
  rw [variantChanges_concat_cons] at hvariants
  rw [CoversOrder, itemChanges_concat_cons, variantChanges_concat_cons] at hcovers
  exact ⟨hitems.covers_left hfirst.given_item hrest.given_item hrejects hcovers.1,
    hvariants.covers_left hfirst.given_variant hrest.given_variant hrejects hcovers.2⟩

/-- All that orders take is there exactly where what the first takes is, and what the others take is still
there after it. -/
theorem FitsOrder.coversOrder_cons_iff (h : FitsOrder s tab billId (.concat (o :: orders)) direction)
    (hrejects : direction.rejects = true) (hmoved : Moved direction tab billId o s s') :
    CoversOrder s tab billId (.concat (o :: orders)) ↔
      CoversOrder s tab billId o ∧ CoversOrder s' tab billId (.concat orders) := by
  obtain ⟨hitems, hvariants⟩ := h
  rw [itemChanges_concat_cons] at hitems
  rw [variantChanges_concat_cons] at hvariants
  have hitemsCovered :=
    hitems.covers_append_iff hfirst.given_item hrest.given_item hrejects hmoved.items
  have hvariantsCovered :=
    hvariants.covers_append_iff hfirst.given_variant hrest.given_variant hrejects hmoved.variants
  rw [CoversOrder, CoversOrder, CoversOrder, itemChanges_concat_cons, variantChanges_concat_cons,
    hitemsCovered, hvariantsCovered]
  exact and_and_and_comm

omit hfirst in
theorem Moved.cons (h : Moved direction tab billId o s s')
    (h' : Moved direction tab billId (.concat orders) s' s'') :
    Moved direction tab billId (.concat (o :: orders)) s s'' := by
  obtain ⟨hitems, hvariants, itemLines, variantLines, rfl⟩ := h
  obtain ⟨hitems', hvariants', itemLines', variantLines', rfl⟩ := h'
  refine ⟨?_, ?_, itemLines', variantLines', rfl⟩
  · rw [itemChanges_concat_cons]
    exact hitems.trans hitems' hrest.given_item
  · rw [variantChanges_concat_cons]
    exact hvariants.trans hvariants' hrest.given_variant

end Cons

theorem Moved.nil : Moved direction tab billId (.concat []) s s := ⟨.refl, .refl, _, _, rfl⟩

theorem FitsOrder.reordered (h : FitsOrder s tab billId o direction) (hsame : o.Reorders o') :
    FitsOrder s tab billId o' direction :=
  ⟨h.items.perm (itemChanges_perm hsame), h.variants.perm (variantChanges_perm hsame)⟩

theorem coversOrder_congr (hsame : o.Reorders o') :
    CoversOrder s tab billId o ↔ CoversOrder s tab billId o' := by
  constructor
  · rintro ⟨hitems, hvariants⟩
    exact ⟨hitems.perm (itemChanges_perm hsame), hvariants.perm (variantChanges_perm hsame)⟩
  · rintro ⟨hitems, hvariants⟩
    exact ⟨hitems.perm (itemChanges_perm hsame).symm, hvariants.perm (variantChanges_perm hsame).symm⟩

/-- Moving the same order leaves the same lines. -/
theorem Moved.perm (h : Moved direction tab billId o s s') (h' : Moved direction tab billId o' s s'')
    (hsame : o.Reorders o') (hitems : (s.itemLines.map (·.key)).Nodup)
    (hvariants : (s.variantLines.map (·.key)).Nodup) :
    s'.itemLines.Perm s''.itemLines ∧ s'.variantLines.Perm s''.variantLines :=
  ⟨h.items.perm h'.items hitems (itemChanges_perm hsame),
    h.variants.perm h'.variants hvariants (variantChanges_perm hsame)⟩

/-- Moving an order leaves the catalogue alone. -/
theorem Moved.offers (h : Moved direction tab billId o s s') {shopId : Int}
    (hoffers : s.Offers shopId o') : s'.Offers shopId o' := by
  obtain ⟨_, _, rfl⟩ := h.frame
  exact hoffers.congr rfl rfl

end Ledger

/-! ### Calls that move orders -/

/-- A call moves an order in a direction; a removal without a policy follows the settings. -/
inductive Call.Moves (settings : Settings) (key : TabKey) (o : Form.Order) (on : Option Day) :
    Call → Direction → Prop where
  | add {data : Json} (read : Form.Order.read data = .ok o) :
    Moves settings key o on (.addOrder key data on) .add
  | remove {data : Json} {given : Option RemovalPolicy} (read : Form.Order.read data = .ok o) :
    Moves settings key o on (.removeOrder key data on given)
      (.remove (given.getD settings.orderRemovalPolicy))

/-- Calls move orders one after the other in one direction, and the shop has what these refer to, in numbers
and sums of at most 64 bits. -/
structure Transaction.MovesAll (env : Surroundings) (s : Store) (key : TabKey) (on : Option Day)
    (direction : Direction) (calls : List Call) (orders : List Form.Order) : Prop where
  moves : List.Forall₂ (fun call o => call.Moves env.settings key o on direction) calls orders
  offers : ∀ o ∈ orders, s.Offers key.shopId o
  fits : ∀ o ∈ orders, o.FitsWords

/-- No call of a transaction fails. -/
def Transaction.Succeeds (env : Surroundings) (calls : List Call) (s : Store) : Prop :=
  (runCalls env calls s).2.isSome = true

namespace Call.Moves

open Ledger

variable {env : Surroundings} {key : TabKey} {on : Option Day} {direction : Direction} {o : Form.Order}
  {call : Call} {s : Store} {t : Tab} {day : Day} {b : Bill}

theorem counts (h : call.Moves env.settings key o on direction) : o.Counts := by
  cases h with
  | add read => exact Form.Order.read_quantities read
  | remove read => exact Form.Order.read_quantities read

/-- Such a call comes to what the ledger makes of its order. -/
theorem run_eq (h : call.Moves env.settings key o on direction) : call.run env s =
    ((Ledger.apply env key o direction on s).mapError Failure.reported).map fun receipt =>
      ⟨.ordered receipt.result, receipt.store, receipt.blindReads⟩ := by
  cases h with
  | add read =>
      simp only [run, order, read, mapError_ok, bind, Except.bind, pure, Except.pure]
      cases Ledger.apply env key o .add on s <;> rfl
  | remove read =>
      simp only [run, order, read, mapError_ok, bind, Except.bind, pure, Except.pure]
      cases Ledger.apply env key o _ on s <;> rfl

theorem run_of_failed (h : call.Moves env.settings key o on direction) {failure : Failure}
    (hfailed : Ledger.apply env key o direction on s = .error failure) :
    call.run env s = .error failure.reported := by
  rw [h.run_eq, hfailed]
  rfl

section Ready

variable (h : call.Moves env.settings key o on direction) (hready : Ready env on s key t day b)
  (hoffers : s.Offers key.shopId o) (hfits : o.FitsWords)
include h hready hfits

theorem run_of_lonePair (hlone : o.NamesLonePair) : ∃ failure, call.run env s = .error failure :=
  ⟨_, h.run_of_failed (hready.apply_of_lonePair direction hfits hlone)⟩

variable (hlone : ¬ o.NamesLonePair)
include hlone hoffers

/-- Where enough is there, the order is moved. -/
theorem run_of_covers (hholds : FitsOrder s key b.id o direction)
    (hcovers : direction.rejects = true → CoversOrder s key b.id o) :
    ∃ result s', call.run env s = .ok ⟨result, s', 0⟩ ∧ Moved direction key b.id o s s' := by
  obtain ⟨s', hwritten⟩ := write_order direction hfits h.counts hoffers hready.hasBill hcovers
  rw [h.run_eq, hready.apply_eq direction hoffers hfits hlone, hwritten]
  exact ⟨_, s', rfl, hholds.moved hwritten⟩

theorem run_of_short (hrejects : direction.rejects = true) (hshort : ¬ CoversOrder s key b.id o) :
    ∃ failure, call.run env s = .error failure := by
  obtain ⟨_, _, hwritten, _⟩ := write_order_of_overdrawn hrejects hfits h.counts hshort
  have happlied := hready.apply_eq direction hoffers hfits hlone
  rw [hwritten] at happlied
  exact ⟨_, h.run_of_failed happlied⟩

end Ready

/-- Nothing is moved on a tab that does not take orders, or whose numbers have more than 64 bits. -/
theorem words_and_orderable (h : call.Moves env.settings key o on direction)
    (hday : env.dayOr on = .ok day) (htab : s.tab? key = some t) {receipt : CallReceipt}
    (hrun : call.run env s = .ok receipt) :
    (isWord key.shopId = true ∧ isWord key.tabId = true) ∧ t.IsOrderable day := by
  cases happlied : Ledger.apply env key o direction on s with
  | error failure =>
      rw [h.run_of_failed happlied] at hrun
      cases hrun
  | ok done =>
      obtain ⟨hday', hwords, htab', horderable, _⟩ := apply_eq_ok.mp happlied
      cases hday.symm.trans hday'
      cases htab.symm.trans htab'
      exact ⟨hwords, horderable⟩

end Call.Moves

/-! ### Calls one after the other -/

namespace Transaction

open Ledger Form

variable {env : Surroundings} {key : TabKey} {on : Option Day} {direction : Direction} {s : Store}
  {t : Tab} {day : Day} {b : Bill} {calls calls' : List Call} {orders orders' : List Order}

theorem counts_of_moves
    (h : List.Forall₂ (fun call o => call.Moves env.settings key o on direction) calls orders) :
    (Order.concat orders).Counts := by
  apply counts_concat
  intro o ho
  induction h with
  | nil => cases ho
  | cons hmove _ ih =>
      rcases List.mem_cons.mp ho with rfl | ho
      · exact hmove.counts
      · exact ih ho

/-- No order names a lone pair, and where this is asked for, enough is there for all of them. -/
def Workable (s : Store) (key : TabKey) (billId : Int) (direction : Direction) (orders : List Order) :
    Prop :=
  (∀ o ∈ orders, ¬ o.NamesLonePair) ∧
    (direction.rejects = true → CoversOrder s key billId (.concat orders))

section Ready

variable (h : MovesAll env s key on direction calls orders) (hready : Ready env on s key t day b)
  (hholds : FitsOrder s key b.id (.concat orders) direction)
include h hready hholds

/-- All orders are moved where they can be. -/
theorem runCalls_of_workable (hworkable : Workable s key b.id direction orders) :
    ∃ s', (runCalls env calls s).2 = some s' ∧ Moved direction key b.id (.concat orders) s s' := by
  obtain ⟨hmoves, hoffers, hfits⟩ := h
  obtain ⟨hlone, hcovers⟩ := hworkable
  induction hmoves generalizing s with
  | nil => exact ⟨s, rfl, .nil⟩
  | @cons call o calls orders hmove hrest ih =>
      rw [List.forall_mem_cons] at hoffers hfits hlone
      have hfirst := hmove.counts
      have hothers := counts_of_moves hrest
      obtain ⟨result, s', hrun, hmoved⟩ := hmove.run_of_covers hready hoffers.1 hfits.1 hlone.1
        (hholds.head hfirst hothers)
        fun hrejects => hholds.coversOrder_head hfirst hothers hrejects (hcovers hrejects)
      have hoffers' : ∀ o ∈ orders, s'.Offers key.shopId o := fun o ho => hmoved.offers (hoffers.2 o ho)
      have hcovers' : direction.rejects = true → CoversOrder s' key b.id (.concat orders) :=
        fun hrejects => ((hholds.coversOrder_cons_iff hfirst hothers hrejects hmoved).mp
          (hcovers hrejects)).2
      -- The others find the lines that the first one left, and fit these.
      obtain ⟨s'', hruns, hmovedRest⟩ := ih (hready.moved hmoved) (hholds.tail hfirst hothers hmoved)
        hoffers' hfits.2 hlone.2 hcovers'
      refine ⟨s'', ?_, hmoved.cons hothers hmovedRest⟩
      rw [runCalls_cons hready.unblind hrun]
      exact hruns

/-- Where they cannot, one of them fails. -/
theorem runCalls_of_not_workable (hworkable : ¬ Workable s key b.id direction orders) :
    (runCalls env calls s).2 = none := by
  obtain ⟨hmoves, hoffers, hfits⟩ := h
  induction hmoves generalizing s with
  | nil => exact absurd ⟨nofun, fun _ => ⟨nofun, nofun⟩⟩ hworkable
  | @cons call o calls orders hmove hrest ih =>
      rw [List.forall_mem_cons] at hoffers hfits
      have hfirst := hmove.counts
      have hothers := counts_of_moves hrest
      by_cases hlone : o.NamesLonePair
      · obtain ⟨failure, hrun⟩ := hmove.run_of_lonePair hready hfits.1 hlone
        rw [runCalls_of_error hrun]
      by_cases hcovers : direction.rejects = true → CoversOrder s key b.id o
      · obtain ⟨result, s', hrun, hmoved⟩ := hmove.run_of_covers hready hoffers.1 hfits.1 hlone
          (hholds.head hfirst hothers) hcovers
        have hoffers' : ∀ o ∈ orders, s'.Offers key.shopId o :=
          fun o ho => hmoved.offers (hoffers.2 o ho)
        -- As the first one is moved, it is one of the others that cannot be.
        have hworkable' : ¬ Workable s' key b.id direction orders := by
          rintro ⟨hloneRest, hcoversRest⟩
          refine hworkable ⟨List.forall_mem_cons.mpr ⟨hlone, hloneRest⟩, fun hrejects => ?_⟩
          exact (hholds.coversOrder_cons_iff hfirst hothers hrejects hmoved).mpr
            ⟨hcovers hrejects, hcoversRest hrejects⟩
        rw [runCalls_cons hready.unblind hrun]
        exact ih (hready.moved hmoved) (hholds.tail hfirst hothers hmoved) hworkable' hoffers' hfits.2
      · obtain ⟨hrejects, hshort⟩ := Classical.not_imp.mp hcovers
        obtain ⟨failure, hrun⟩ := hmove.run_of_short hready hoffers.1 hfits.1 hlone hrejects hshort
        rw [runCalls_of_error hrun]

theorem succeeds_iff : Succeeds env calls s ↔ Workable s key b.id direction orders := by
  constructor
  · intro hsucceeds
    by_contra hworkable
    rw [Succeeds, runCalls_of_not_workable h hready hholds hworkable] at hsucceeds
    cases hsucceeds
  · intro hworkable
    obtain ⟨s', hruns, _⟩ := runCalls_of_workable h hready hholds hworkable
    rw [Succeeds, hruns]
    rfl

end Ready

/-- Where a tab does not take orders, none is moved. -/
theorem MovesAll.words_and_orderable (h : MovesAll env s key on direction calls orders)
    (hsome : orders ≠ []) (hday : env.dayOr on = .ok day) (htab : s.tab? key = some t)
    (hsucceeds : Succeeds env calls s) :
    (isWord key.shopId = true ∧ isWord key.tabId = true) ∧ t.IsOrderable day := by
  obtain ⟨hmoves, _, _⟩ := h
  cases hmoves with
  | nil => exact absurd rfl hsome
  | @cons call o calls orders hmove hrest =>
      cases hrun : call.run env s with
      | error failure =>
          rw [Succeeds, runCalls_of_error hrun] at hsucceeds
          cases hsucceeds
      | ok receipt => exact hmove.words_and_orderable hday htab hrun

/-- What fails leaves nothing behind. -/
theorem perform_of_not_succeeds {giveUp : Bool} (h : ¬ Succeeds env calls s) :
    (perform env calls giveUp s).2 = s := by
  rw [Succeeds, Bool.not_eq_true, Option.isSome_eq_false_iff, Option.isNone_iff_eq_none] at h
  simp [perform, h]

/-- Let the latest bill of a tab be open and cover a day, and let two transactions move orders for that day in
the same direction, which come to the same items and variants in all.  An order that names a lone pair makes
its transaction fail.  But for transactions of which only one has such an order, the one succeeds exactly where
the other does, and both leave the same lines: it does not matter into how many orders, and in what order, items
and variants are put. -/
theorem batches_agree (hday : env.dayOr on = .ok day) (hblind : env.blindReads = 0)
    (hgo : s.OrdersGoTo key t day b) (h : MovesAll env s key on direction calls orders)
    (h' : MovesAll env s key on direction calls' orders') (hsome : orders ≠ []) (hsome' : orders' ≠ [])
    (hsame : (Order.concat orders).Reorders (.concat orders'))
    (hholds : FitsOrder s key b.id (.concat orders) direction)
    (hitems : (s.itemLines.map (·.key)).Nodup) (hvariants : (s.variantLines.map (·.key)).Nodup) :
    ((∃ o ∈ orders, o.NamesLonePair) → ¬ Succeeds env calls s) ∧
    (((∃ o ∈ orders, o.NamesLonePair) ↔ ∃ o ∈ orders', o.NamesLonePair) →
      (Succeeds env calls s ↔ Succeeds env calls' s) ∧
      (perform env calls false s).2.itemLines.Perm (perform env calls' false s).2.itemLines ∧
      (perform env calls false s).2.variantLines.Perm (perform env calls' false s).2.variantLines) := by
  -- Two transactions that fail leave the same lines, those that there were.
  have hfailed : ¬ Succeeds env calls s → ¬ Succeeds env calls' s →
      (Succeeds env calls s ↔ Succeeds env calls' s) ∧
      (perform env calls false s).2.itemLines.Perm (perform env calls' false s).2.itemLines ∧
      (perform env calls false s).2.variantLines.Perm (perform env calls' false s).2.variantLines := by
    intro hnot hnot'
    rw [perform_of_not_succeeds hnot, perform_of_not_succeeds hnot']
    exact ⟨iff_of_false hnot hnot', .refl _, .refl _⟩
  by_cases htakes : (isWord key.shopId = true ∧ isWord key.tabId = true) ∧ t.IsOrderable day
  · have hready : Ready env on s key t day b := ⟨hday, hblind, htakes.1, htakes.2, hgo⟩
    have hholds' := hholds.reordered hsame
    have hiff := succeeds_iff h hready hholds
    have hiff' := succeeds_iff h' hready hholds'
    refine ⟨?_, ?_⟩
    · rintro ⟨o, ho, hlone⟩ hsucceeds
      exact (hiff.mp hsucceeds).1 o ho hlone
    · intro hlone
      have hequiv : Workable s key b.id direction orders ↔ Workable s key b.id direction orders' := by
        rw [Workable, Workable, coversOrder_congr hsame]
        refine and_congr_left fun _ => ?_
        simpa using not_congr hlone
      by_cases hworkable : Workable s key b.id direction orders
      · obtain ⟨left, hleft, hmoved⟩ := runCalls_of_workable h hready hholds hworkable
        obtain ⟨right, hright, hmoved'⟩ :=
          runCalls_of_workable h' hready hholds' (hequiv.mp hworkable)
        refine ⟨by rw [hiff, hiff', hequiv], ?_⟩
        simpa [perform, hleft, hright] using hmoved.perm hmoved' hsame hitems hvariants
      · exact hfailed (mt hiff.mp hworkable) (mt hiff'.mp (mt hequiv.mpr hworkable))
  · have hnot := mt (h.words_and_orderable hsome hday hgo.tab) htakes
    have hnot' := mt (h'.words_and_orderable hsome' hday hgo.tab) htakes
    exact ⟨fun _ => hnot, fun _ => hfailed hnot hnot'⟩

end Transaction

namespace Sample

/-- The form of an order of a coffee and another one. -/
def twoCoffeesForm : Json :=
  .obj [("items", .arr (List.replicate 2 (.obj [("id", .int 1), ("quantity", .int 1)])))]

def twoCoffees : Form.Order := .concat [coffee, coffee]

/-- Takes off what a form says on a day of January, and stops at zero. -/
def drain (form : Json) (day : Nat) : Call :=
  .removeOrder tab form (some (january day)) (some .clamp)

theorem twoCoffees_fits : twoCoffees.FitsWords :=
  .of_named (by decide) (by decide) (by decide) (by decide)

end Sample

/-- A coffee is on the bill.  Two are taken off, one by one or at once, and a line at zero is left. -/
theorem Transaction.batches_agree_drained :
    let reached := Sample.store.run [Sample.openTab 7, Sample.order 5]
    let env := (Sample.order 6).env
    let oneByOne := [Sample.drain Sample.orderForm 6, Sample.drain Sample.orderForm 6]
    let atOnce := [Sample.drain Sample.twoCoffeesForm 6]
    Succeeds env oneByOne reached ∧ Succeeds env atOnce reached ∧
      (perform env oneByOne false reached).2.itemLines.Perm
        (perform env atOnce false reached).2.itemLines := by
  intro reached env oneByOne atOnce
  have hgo : reached.OrdersGoTo Sample.tab (Sample.openedTab 7) (Sample.january 6)
      ⟨1, Sample.tab, Sample.january 5, Sample.january 11, false⟩ :=
    ⟨by decide +kernel, by decide +kernel, by decide +kernel⟩
  have hone : MovesAll env reached Sample.tab (some (Sample.january 6)) (.remove .clamp) oneByOne
      [Sample.coffee, Sample.coffee] :=
    { moves := .cons (.remove rfl) (.cons (.remove rfl) .nil)
      offers := by
        intro o ho
        simp only [List.mem_cons, List.not_mem_nil, or_false, or_self] at ho
        subst ho
        exact ⟨by decide +kernel, by decide +kernel⟩
      fits := by
        intro o ho
        simp only [List.mem_cons, List.not_mem_nil, or_false, or_self] at ho
        subst ho
        exact Sample.coffee_fits }
  have hboth : MovesAll env reached Sample.tab (some (Sample.january 6)) (.remove .clamp) atOnce
      [Sample.twoCoffees] :=
    { moves := .cons (.remove rfl) .nil
      offers := by
        intro o ho
        rw [List.mem_singleton.mp ho]
        exact ⟨by decide +kernel, by decide +kernel⟩
      fits := by
        intro o ho
        rw [List.mem_singleton.mp ho]
        exact Sample.twoCoffees_fits }
  have hholds : Ledger.HoldsFor reached Sample.tab 1 Sample.twoCoffees (.remove .clamp) (fun _ => 1)
      (fun _ _ => 0) := ⟨by decide +kernel, by decide +kernel⟩
  have hnone : ¬ Sample.twoCoffees.NamesLonePair := by
    rintro ⟨item, variant, hpairs, _⟩
    cases hpairs
  obtain ⟨_, hagree⟩ := batches_agree rfl rfl hgo hone hboth (by simp) (by simp)
    (.refl Sample.twoCoffees) hholds.fitsOrder (by decide +kernel) (by decide +kernel)
  obtain ⟨hiff, hitems, _⟩ :=
    hagree (by simp [Sample.coffee_not_lonePair, hnone])
  have hsucceeds : Succeeds env oneByOne reached := by
    rw [Succeeds]
    decide +kernel
  exact ⟨hsucceeds, hiff.mp hsucceeds, hitems⟩

end ShopTabs
