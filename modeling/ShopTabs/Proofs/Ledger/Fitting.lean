import Mathlib.Algebra.Order.BigOperators.Group.List
import ShopTabs.Proofs.Ledger.Catalog
import ShopTabs.Proofs.Ledger.Write
import ShopTabs.Proofs.Membership
/-!
Orders that can be written.  The quantities of an order are not below zero, so that their sums by item
and by variant stay within 64 bits as soon as the whole sums do; the order can then be put on any bill
that is there, or taken off it, if the shop has what it refers to and nothing is overdrawn that must not be.
-/

namespace ShopTabs

namespace Direction

variable (direction : Direction)

theorem change_add (m n : Int) : direction.change (m + n) = direction.change m + direction.change n := by
  cases direction with
  | add => rfl
  | remove policy =>
      simp only [change]
      omega

@[simp] theorem change_zero : direction.change 0 = 0 := by
  cases direction <;> rfl

theorem sum_map_change (ns : List Int) : (ns.map direction.change).sum = direction.change ns.sum := by
  induction ns with
  | nil => simp
  | cons n rest ih => rw [List.map_cons, List.sum_cons, ih, List.sum_cons, change_add]

theorem change_of_rejects {direction : Direction} (h : direction.rejects = true) (n : Int) :
    direction.change n = -n := by
  cases direction with
  | add => cases h
  | remove policy => rfl

end Direction

namespace Ledger

theorem isWord_iff {n : Int} : isWord n = true ↔ -wordBound ≤ n ∧ n < wordBound := by
  simp [isWord]

/-- A number between zero and one that has at most 64 bits has no more. -/
theorem isWord_of_le {n m : Int} (hn : 0 ≤ n) (hle : n ≤ m) (hm : isWord m = true) :
    isWord n = true := by
  rw [isWord_iff] at *
  unfold wordBound at *
  omega

theorem isWord_change (direction : Direction) {n : Int} (hn : 0 ≤ n) (h : isWord n = true) :
    isWord (direction.change n) = true := by
  rw [isWord_iff] at *
  cases direction with
  | add => exact h
  | remove policy =>
      simp only [Direction.change]
      omega

/-- Sums of changes in one direction stay within 64 bits if the last one does. -/
theorem sumOnto_change (direction : Direction) {total : Int} {ns : List Int}
    (hnonneg : ∀ n ∈ ns, 0 ≤ n) (htotal : 0 ≤ total) (hword : isWord (total + ns.sum) = true) :
    sumOnto (direction.change total) (ns.map direction.change) =
      some (direction.change (total + ns.sum)) := by
  induction ns generalizing total with
  | nil => simp [sumOnto]
  | cons n rest ih =>
      have hn : 0 ≤ n := hnonneg n List.mem_cons_self
      have hrest : ∀ m ∈ rest, 0 ≤ m := fun m hm => hnonneg m (List.mem_cons_of_mem n hm)
      have hsum : 0 ≤ rest.sum := List.sum_nonneg hrest
      rw [List.sum_cons, ← Int.add_assoc] at hword ⊢
      have hnext : isWord (total + n) = true := isWord_of_le (by omega) (by omega) hword
      have hchanged := isWord_change direction (by omega) hnext
      rw [Direction.change_add] at hchanged
      rw [List.map_cons, sumOnto, if_pos hchanged, ← Direction.change_add]
      exact ih hrest (by omega) hword

variable {κ : Type} {direction : Direction}

/-- The changes that amounts make in a direction. -/
def changesIn (direction : Direction) (amounts : List (Change κ)) : List (Change κ) :=
  amounts.map fun c => ⟨c.key, direction.change c.amount⟩

@[simp] theorem map_key_changesIn (direction : Direction) (amounts : List (Change κ)) :
    (changesIn direction amounts).map (·.key) = amounts.map (·.key) := by
  simp [changesIn, Function.comp_def]

variable [DecidableEq κ] {amounts changes totals : List (Change κ)} {lines : List (Line κ)}

/-- The sum of what is given for a key. -/
def given (amounts : List (Change κ)) (key : κ) : Int := (changesTo amounts key).sum

theorem changesTo_changesIn (key : κ) :
    changesTo (changesIn direction amounts) key = (changesTo amounts key).map direction.change := by
  simp [changesTo, changesIn, List.filter_map, Function.comp_def]

theorem sum_changesTo_changesIn (key : κ) :
    (changesTo (changesIn direction amounts) key).sum = direction.change (given amounts key) := by
  rw [changesTo_changesIn, Direction.sum_map_change, given]

/-- Where no amount is below zero, nor is what is given for a key. -/
theorem given_nonneg (h : ∀ c ∈ amounts, 0 ≤ c.amount) (key : κ) : 0 ≤ given amounts key := by
  apply List.sum_nonneg
  intro n hn
  obtain ⟨c, hc, rfl⟩ := List.mem_map.mp hn
  exact h c (List.mem_filter.mp hc).1

/-- The changes to each key can be added: none is below zero, and their sum has at most 64 bits. -/
def Addable (changes : List (Change κ)) : Prop :=
  ∀ c ∈ changes, (∀ n ∈ changesTo changes c.key, 0 ≤ n) ∧
    isWord (changesTo changes c.key).sum = true

namespace Addable

theorem amount_nonneg (h : Addable amounts) {c : Change κ} (hc : c ∈ amounts) : 0 ≤ c.amount :=
  (h c hc).1 _ (List.mem_map_of_mem (List.mem_filter.mpr ⟨hc, by simp⟩))

theorem isWord_amount (h : Addable amounts) {c : Change κ} (hc : c ∈ amounts) :
    isWord c.amount = true := by
  obtain ⟨hnonneg, hsum⟩ := h c hc
  have hmem : c.amount ∈ changesTo amounts c.key :=
    List.mem_map_of_mem (List.mem_filter.mpr ⟨hc, by simp⟩)
  exact isWord_of_le (hnonneg _ hmem) (List.single_le_sum hnonneg _ hmem) hsum

/-- Such amounts can be summed in either direction. -/
theorem exists_summed (h : Addable amounts) (direction : Direction) :
    ∃ totals, Summed (changesIn direction amounts) totals := by
  have hwords : ∀ c ∈ changesIn direction amounts, isWord c.amount = true := by
    intro c hc
    obtain ⟨c', hc', rfl⟩ := List.mem_map.mp hc
    exact isWord_change direction (h.amount_nonneg hc') (h.isWord_amount hc')
  have hkeys : ∀ k ∈ distinct ((changesIn direction amounts).map (·.key)),
      ∃ total, sumOnto 0 (changesTo (changesIn direction amounts) k) = some total := by
    intro k hk
    rw [mem_distinct, map_key_changesIn] at hk
    obtain ⟨c, hc, rfl⟩ := List.mem_map.mp hk
    obtain ⟨hnonneg, hsum⟩ := h c hc
    have htotal := sumOnto_change direction hnonneg (Int.le_refl 0) (by simpa using hsum)
    rw [Direction.change_zero] at htotal
    rw [changesTo_changesIn]
    exact ⟨_, htotal⟩
  suffices ∃ totals, Ledger.totals (changesIn direction amounts) = .ok totals by
    obtain ⟨totals, htotals⟩ := this
    exact ⟨totals, hwords, htotals⟩
  unfold Ledger.totals
  generalize distinct ((changesIn direction amounts).map (·.key)) = keys at hkeys
  induction keys with
  | nil => exact ⟨[], rfl⟩
  | cons k rest ih =>
      obtain ⟨total, htotal⟩ := hkeys k List.mem_cons_self
      obtain ⟨totals, htotals⟩ := ih fun k' hk' => hkeys k' (List.mem_cons_of_mem k hk')
      refine ⟨⟨k, total⟩ :: totals, ?_⟩
      rw [List.mapM_cons, htotal, htotals]
      rfl

end Addable

theorem mem_of_mem_newKeys {k : κ} (h : Ledger.totals changes = .ok totals)
    (hk : k ∈ newKeys lines totals) : k ∈ changes.map (·.key) :=
  (mem_totals_iff h).mp (List.mem_filter.mp hk).1

/-- The keys of lines after changes were merged. -/
theorem mem_keys_merge {k : κ} (h : Ledger.totals changes = .ok totals) :
    k ∈ (merge lines totals).map (·.key) ↔ k ∈ lines.map (·.key) ∨ k ∈ changes.map (·.key) := by
  rw [map_key_merge, List.mem_append, newKeys, List.mem_filter, mem_totals_iff h, decide_eq_true_eq]
  by_cases hline : k ∈ lines.map (·.key)
  · simp only [hline, true_or]
  · simp only [hline, false_or, not_false_eq_true, and_true]

/-- What amounts take is there: no line falls below zero. -/
def Covers (lines : List (Line κ)) (amounts : List (Change κ)) : Prop :=
  ∀ k ∈ amounts.map (·.key), ((quantityOf lines k).add (-given amounts k)).isBelowZero = false

/-- The overdrafts that taking amounts off lines would make, each of them once. -/
structure ListsOverdrafts (lines : List (Line κ)) (amounts : List (Change κ))
    (short : List (Overdraft κ)) : Prop where
  nodup : (short.map (·.key)).Nodup
  mem_iff : ∀ o, o ∈ short ↔ o.key ∈ amounts.map (·.key) ∧ o.current = quantityOf lines o.key ∧
    o.delta = -given amounts o.key ∧ (o.current.add o.delta).isBelowZero = true

theorem listsOverdrafts (rank : κ → List Int) (lines : List (Line κ)) (hrejects : direction.rejects = true)
    (h : Ledger.totals (changesIn direction amounts) = .ok totals) :
    ListsOverdrafts lines amounts (overdrafts rank lines totals) := by
  refine ⟨nodup_overdrafts h, ?_⟩
  intro o
  rw [mem_overdrafts h, map_key_changesIn, sum_changesTo_changesIn, Direction.change_of_rejects hrejects]

/-- Nothing is overdrawn exactly where what is taken is there. -/
theorem ListsOverdrafts.eq_nil_iff {short : List (Overdraft κ)}
    (h : ListsOverdrafts lines amounts short) : short = [] ↔ Covers lines amounts := by
  rw [List.eq_nil_iff_forall_not_mem]
  constructor
  · intro hnone k hk
    rw [← Bool.not_eq_true]
    intro hbelow
    exact hnone ⟨k, _, _⟩ ((h.mem_iff _).mpr ⟨hk, rfl, rfl, hbelow⟩)
  · intro hcovers o ho
    obtain ⟨hkey, hcurrent, hdelta, hbelow⟩ := (h.mem_iff o).mp ho
    rw [hcurrent, hdelta, hcovers o.key hkey] at hbelow
    cases hbelow

section Order

variable {o : Form.Order} {tab : TabKey} {billId : Int} {s : Store}

theorem map_key_itemChanges : (itemChanges o tab billId direction).map (·.key) =
    o.itemIds.map (ItemKey.mk tab billId) := by
  simp [itemChanges, Form.Order.itemIds, Function.comp_def]

theorem map_key_variantChanges : (variantChanges o tab billId direction).map (·.key) =
    o.variantPairs.map fun p => VariantKey.mk tab billId p.1 p.2 := by
  simp [variantChanges, Form.Order.variantPairs, List.map_flatMap, Function.comp_def]

theorem itemChanges_eq (direction : Direction) : itemChanges o tab billId direction =
    changesIn direction (itemChanges o tab billId .add) := by
  simp [itemChanges, changesIn, Function.comp_def, Direction.change]

theorem variantChanges_eq (direction : Direction) : variantChanges o tab billId direction =
    changesIn direction (variantChanges o tab billId .add) := by
  simp [variantChanges, changesIn, List.map_flatMap, Function.comp_def, Direction.change]

theorem changesTo_itemChanges (direction : Direction) (id : Int) :
    changesTo (itemChanges o tab billId direction) ⟨tab, billId, id⟩ =
      (o.itemAmounts id).map direction.change := by
  simp [changesTo, itemChanges, Form.Order.itemAmounts, List.filter_map, Function.comp_def]

theorem changesTo_variantChanges (direction : Direction) (item id : Int) :
    changesTo (variantChanges o tab billId direction) ⟨tab, billId, item, id⟩ =
      (o.variantAmounts item id).map direction.change := by
  obtain ⟨items⟩ := o
  simp only [changesTo, variantChanges, Form.Order.variantAmounts]
  induction items with
  | nil => rfl
  | cons i rest ih =>
      rw [List.flatMap_cons, List.filter_append, List.map_append, ih]
      by_cases hid : i.id = item
      · simp [hid, List.filter_map, Function.comp_def]
      · simp [hid, List.filter_map, Function.comp_def]

theorem map_change_add (ns : List Int) : ns.map Direction.add.change = ns := List.map_id' ns

theorem itemChanges_nonneg (h : o.Counts) : ∀ c ∈ itemChanges o tab billId .add, 0 ≤ c.amount := by
  intro c hc
  obtain ⟨i, hi, rfl⟩ := List.mem_map.mp hc
  exact (h i hi).1

theorem variantChanges_nonneg (h : o.Counts) :
    ∀ c ∈ variantChanges o tab billId .add, 0 ≤ c.amount := by
  intro c hc
  obtain ⟨i, hi, hci⟩ := List.mem_flatMap.mp hc
  obtain ⟨v, hv, rfl⟩ := List.mem_map.mp hci
  exact Int.le_of_lt ((h i hi).2 v hv)

theorem addable_itemChanges (hfits : o.FitsWords) (hcounts : o.Counts) :
    Addable (itemChanges o tab billId .add) := by
  intro c hc
  obtain ⟨i, _, rfl⟩ := List.mem_map.mp hc
  rw [changesTo_itemChanges, map_change_add]
  refine ⟨?_, hfits.itemSums i.id⟩
  intro n hn
  obtain ⟨j, hj, rfl⟩ := List.mem_map.mp hn
  exact (hcounts j (List.mem_filter.mp hj).1).1

theorem addable_variantChanges (hfits : o.FitsWords) (hcounts : o.Counts) :
    Addable (variantChanges o tab billId .add) := by
  intro c hc
  obtain ⟨i, _, hi⟩ := List.mem_flatMap.mp hc
  obtain ⟨v, _, rfl⟩ := List.mem_map.mp hi
  rw [changesTo_variantChanges, map_change_add]
  refine ⟨?_, hfits.variantSums i.id v.id⟩
  intro n hn
  obtain ⟨w, hw, rfl⟩ := List.mem_map.mp hn
  obtain ⟨j, hj, hwj⟩ := List.mem_flatMap.mp (List.mem_filter.mp hw).1
  exact Int.le_of_lt ((hcounts j (List.mem_filter.mp hj).1).2 w hwj)

/-- What an order takes off a bill is there. -/
def CoversOrder (s : Store) (tab : TabKey) (billId : Int) (o : Form.Order) : Prop :=
  Covers s.itemLines (itemChanges o tab billId .add) ∧
    Covers s.variantLines (variantChanges o tab billId .add)

/-- An order can be summed in either direction; there are as many sums as it names items and pairs of item
and variant. -/
theorem exists_summed_order (tab : TabKey) (billId : Int) (direction : Direction) (hfits : o.FitsWords)
    (hcounts : o.Counts) :
    ∃ itemTotals variantTotals, Summed (itemChanges o tab billId direction) itemTotals ∧
      Summed (variantChanges o tab billId direction) variantTotals ∧
      itemTotals.length = (distinct o.itemIds).length ∧
      variantTotals.length = (distinct o.variantPairs).length := by
  have hitems : Addable (itemChanges o tab billId .add) :=
    addable_itemChanges hfits hcounts
  have hvariants : Addable (variantChanges o tab billId .add) :=
    addable_variantChanges hfits hcounts
  obtain ⟨itemTotals, hitemTotals⟩ := hitems.exists_summed direction
  obtain ⟨variantTotals, hvariantTotals⟩ := hvariants.exists_summed direction
  rw [← itemChanges_eq] at hitemTotals
  rw [← variantChanges_eq] at hvariantTotals
  refine ⟨itemTotals, variantTotals, hitemTotals, hvariantTotals, ?_, ?_⟩
  · have hkeys := congrArg List.length (totals_eq_ok hitemTotals.totals).1
    rw [map_key_itemChanges, distinct_map] at hkeys
    · simpa using hkeys
    · exact fun _ _ hsame => congrArg ItemKey.itemId hsame
  · have hkeys := congrArg List.length (totals_eq_ok hvariantTotals.totals).1
    rw [map_key_variantChanges, distinct_map] at hkeys
    · simpa using hkeys
    · rintro ⟨_, _⟩ ⟨_, _⟩ hsame
      simpa using hsame

/-- The items of an order are there on a bill that is, if the shop has what it refers to. -/
theorem itemChanges_there (hoffers : s.Offers tab.shopId o) (hbill : s.hasBill tab billId = true) :
    ∀ k ∈ (itemChanges o tab billId direction).map (·.key),
      s.hasBill k.tab k.billId = true ∧ s.hasItem k.tab.shopId k.itemId = true := by
  rw [map_key_itemChanges]
  intro k hk
  obtain ⟨id, hid, rfl⟩ := List.mem_map.mp hk
  exact ⟨hbill, hoffers.items id hid⟩

/-- So are its variants, each of which comes with its item. -/
theorem variantChanges_there (hoffers : s.Offers tab.shopId o) :
    ∀ k ∈ (variantChanges o tab billId direction).map (·.key),
      k.item ∈ (itemChanges o tab billId direction).map (·.key) ∧
        s.hasVariant k.tab.shopId k.itemId k.variantId = true := by
  rw [map_key_itemChanges, map_key_variantChanges]
  intro k hk
  obtain ⟨p, hp, rfl⟩ := List.mem_map.mp hk
  refine ⟨?_, hoffers.variants p hp⟩
  obtain ⟨i, hi, hpi⟩ := List.mem_flatMap.mp hp
  obtain ⟨v, _, rfl⟩ := List.mem_map.mp hpi
  exact List.mem_map_of_mem (List.mem_map_of_mem hi)

/-- The lines of an order are anchored on a bill that is there, if the shop has what it refers to. -/
theorem anchored_order {itemTotals : List (Change ItemKey)} {variantTotals : List (Change VariantKey)}
    (hitems : Ledger.totals (itemChanges o tab billId direction) = .ok itemTotals)
    (hvariants : Ledger.totals (variantChanges o tab billId direction) = .ok variantTotals)
    (hoffers : s.Offers tab.shopId o) (hbill : s.hasBill tab billId = true) :
    Anchored s itemTotals variantTotals := by
  refine ⟨?_, ?_⟩
  · intro k hk
    exact itemChanges_there hoffers hbill k (mem_of_mem_newKeys hitems hk)
  · intro k hk
    obtain ⟨hitem, hvariant⟩ := variantChanges_there hoffers k (mem_of_mem_newKeys hvariants hk)
    -- The item of a variant is written first, so that its line is there.
    exact ⟨(mem_keys_merge hitems).mpr (Or.inr hitem), hvariant⟩

/-- An order can be written onto a bill that is there, if the shop has what it refers to and nothing is
overdrawn that must not be. -/
theorem write_order (direction : Direction) (hfits : o.FitsWords)
    (hcounts : o.Counts)
    (hoffers : s.Offers tab.shopId o) (hbill : s.hasBill tab billId = true)
    (hcovers : direction.rejects = true → CoversOrder s tab billId o) :
    ∃ s', write s (itemChanges o tab billId direction) (variantChanges o tab billId direction)
      direction = .ok ((distinct o.itemIds).length, (distinct o.variantPairs).length, s') := by
  obtain ⟨itemTotals, variantTotals, hitems, hvariants, hitemCount, hvariantCount⟩ :=
    exists_summed_order tab billId direction hfits hcounts
  refine ⟨_, write_eq_ok.mpr ⟨itemTotals, variantTotals, hitems, hvariants, ?_,
    anchored_order hitems.totals hvariants.totals hoffers hbill, hitemCount.symm, hvariantCount.symm,
    rfl⟩⟩
  intro hrejects
  have hitemTotals := hitems.totals
  have hvariantTotals := hvariants.totals
  rw [itemChanges_eq] at hitemTotals
  rw [variantChanges_eq] at hvariantTotals
  exact ⟨(listsOverdrafts _ _ hrejects hitemTotals).eq_nil_iff.mpr (hcovers hrejects).1,
    (listsOverdrafts _ _ hrejects hvariantTotals).eq_nil_iff.mpr (hcovers hrejects).2⟩

/-- Where it is overdrawn and this is refused, its overdrafts are reported. -/
theorem write_order_of_overdrawn (hrejects : direction.rejects = true) (hfits : o.FitsWords)
    (hcounts : o.Counts)
    (hshort : ¬ CoversOrder s tab billId o) :
    ∃ shortItems shortVariants,
      write s (itemChanges o tab billId direction) (variantChanges o tab billId direction) direction =
        .error (.overdrawn shortItems shortVariants) ∧
      ListsOverdrafts s.itemLines (itemChanges o tab billId .add) shortItems ∧
      ListsOverdrafts s.variantLines (variantChanges o tab billId .add) shortVariants := by
  obtain ⟨itemTotals, variantTotals, hitems, hvariants, _⟩ :=
    exists_summed_order tab billId direction hfits hcounts
  have hitemTotals := hitems.totals
  have hvariantTotals := hvariants.totals
  rw [itemChanges_eq] at hitemTotals
  rw [variantChanges_eq] at hvariantTotals
  have hitemList := listsOverdrafts ItemKey.rank s.itemLines hrejects hitemTotals
  have hvariantList :=
    listsOverdrafts VariantKey.rank s.variantLines hrejects hvariantTotals
  refine ⟨_, _, write_of_overdrawn hrejects hitems hvariants ?_, hitemList, hvariantList⟩
  rw [hitemList.eq_nil_iff, hvariantList.eq_nil_iff]
  exact hshort

end Order

end Ledger

namespace Form.Order.Counts

variable {o : Order} {tab : TabKey} {billId : Int} (h : o.Counts)
include h

/-- What an order gives for an item line is not below zero. -/
theorem given_item (key : ItemKey) : 0 ≤ Ledger.given (Ledger.itemChanges o tab billId .add) key :=
  Ledger.given_nonneg (Ledger.itemChanges_nonneg h) key

/-- What an order gives for a variant line is not below zero. -/
theorem given_variant (key : VariantKey) :
    0 ≤ Ledger.given (Ledger.variantChanges o tab billId .add) key :=
  Ledger.given_nonneg (Ledger.variantChanges_nonneg h) key

end Form.Order.Counts

end ShopTabs
