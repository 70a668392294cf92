import Mathlib.Algebra.Order.Ring.Int
import ShopTabs.Ledger.Catalog
import ShopTabs.Proofs.Guard
/-!
When the catalogue knows what an order refers to.  It does if it has every item and every pair of item
and variant, but for one slip: a pair that an order names alone is found only if its two numbers are the
same.
-/

namespace ShopTabs

namespace Form.Order

/-- The quantities of an item in an order. -/
def itemAmounts (o : Order) (id : Int) : List Int :=
  (o.items.filter fun i => i.id = id).map (·.quantity)

/-- The quantities of a variant of an item in an order. -/
def variantAmounts (o : Order) (item id : Int) : List Int :=
  (((o.items.filter fun i => i.id = item).flatMap (·.variants)).filter fun v => v.id = id).map
    (·.quantity)

/-- The numbers of an order, and the sums of its quantities by item and by variant, have at most 64
bits. -/
structure FitsWords (o : Order) : Prop where
  itemIds : ∀ id ∈ o.itemIds, isWord id = true
  variantIds : ∀ p ∈ o.variantPairs, isWord p.2 = true
  itemSums : ∀ id, isWord (o.itemAmounts id).sum = true
  variantSums : ∀ item id, isWord (o.variantAmounts item id).sum = true

/-- The numbers by which an order names items and variants have at most 64 bits. -/
structure NamesWords (o : Order) : Prop where
  items : ∀ id ∈ o.itemIds, isWord id = true
  variants : ∀ p ∈ o.variantPairs, isWord p.2 = true

theorem FitsWords.names {o : Order} (h : o.FitsWords) : o.NamesWords := ⟨h.itemIds, h.variantIds⟩

/-- What an order counts is not below zero. -/
def Counts (o : Order) : Prop := ∀ i ∈ o.items, 0 ≤ i.quantity ∧ ∀ v ∈ i.variants, 0 < v.quantity

/-- It is enough to know the sums of what an order names. -/
theorem FitsWords.of_named {o : Order} (hitemIds : ∀ id ∈ o.itemIds, isWord id = true)
    (hvariantIds : ∀ p ∈ o.variantPairs, isWord p.2 = true)
    (hitems : ∀ id ∈ o.itemIds, isWord (o.itemAmounts id).sum = true)
    (hvariants : ∀ p ∈ o.variantPairs, isWord (o.variantAmounts p.1 p.2).sum = true) : o.FitsWords := by
  refine ⟨hitemIds, hvariantIds, ?_, ?_⟩
  · intro id
    by_cases hid : id ∈ o.itemIds
    · exact hitems id hid
    · have hnone : o.itemAmounts id = [] := by
        rw [itemAmounts, List.map_eq_nil_iff, List.filter_eq_nil_iff]
        intro i hi
        simpa using fun hsame => hid (List.mem_map.mpr ⟨i, hi, hsame⟩)
      rw [hnone]
      rfl
  · intro item id
    by_cases hp : (item, id) ∈ o.variantPairs
    · exact hvariants _ hp
    · have hnone : o.variantAmounts item id = [] := by
        rw [variantAmounts, List.map_eq_nil_iff, List.filter_eq_nil_iff]
        intro v hv
        obtain ⟨i, hi, hvi⟩ := List.mem_flatMap.mp hv
        obtain ⟨hi, hitem⟩ := List.mem_filter.mp hi
        rw [decide_eq_true_eq] at hitem
        rw [decide_eq_true_eq]
        intro hsame
        exact hp (List.mem_flatMap.mpr ⟨i, hi, List.mem_map.mpr ⟨v, hvi, by rw [hitem, hsame]⟩⟩)
      rw [hnone]
      rfl

/-- An order names just one pair of item and variant, whose numbers differ. -/
def NamesLonePair (o : Order) : Prop :=
  ∃ item variant, distinct o.variantPairs = [(item, variant)] ∧ item ≠ variant

end Form.Order

/-- The shop has all that an order refers to. -/
structure Store.Offers (s : Store) (shopId : Int) (o : Form.Order) : Prop where
  items : ∀ id ∈ o.itemIds, s.hasItem shopId id = true
  variants : ∀ p ∈ o.variantPairs, s.hasVariant shopId p.1 p.2 = true

theorem Store.Offers.congr {s s' : Store} {shopId : Int} {o : Form.Order} (h : s.Offers shopId o)
    (hitems : s'.items = s.items) (hvariants : s'.variants = s.variants) : s'.Offers shopId o := by
  refine ⟨?_, ?_⟩
  · intro id hid
    rw [Store.hasItem, hitems]
    exact h.items id hid
  · intro p hp
    rw [Store.hasVariant, hvariants]
    exact h.variants p hp

namespace Catalog

variable {s : Store} {shopId : Int} {o : Form.Order}

theorem mem_unknownItems {id : Int} :
    id ∈ unknownItems s shopId o ↔ id ∈ o.itemIds ∧ s.hasItem shopId id = false := by
  rw [unknownItems, sortedIds, List.mem_mergeSort, mem_distinct, List.mem_filter, Bool.not_eq_true']

/-- The lookup answers for the pairs that the shop has, unless a lone one is named. -/
theorem mem_foundPairs {p : Int × Int} :
    p ∈ foundPairs s shopId o.variantPairs ↔
      p ∈ o.variantPairs ∧ s.hasVariant shopId p.1 p.2 = true ∧ ¬ o.NamesLonePair := by
  have hdistinct : p ∈ distinct o.variantPairs ↔ p ∈ o.variantPairs := mem_distinct
  rw [← hdistinct, Form.Order.NamesLonePair]
  unfold foundPairs
  split
  · next item variant hpairs =>
      simp only [hpairs, List.mem_singleton, List.cons.injEq, and_true, Prod.mk.injEq]
      have hlone : (∃ i v, (item = i ∧ variant = v) ∧ i ≠ v) ↔ item ≠ variant := by
        constructor
        · rintro ⟨_, _, ⟨rfl, rfl⟩, hdiffer⟩
          exact hdiffer
        · exact fun hdiffer => ⟨item, variant, ⟨rfl, rfl⟩, hdiffer⟩
      rw [hlone, not_not]
      split
      · next hfound =>
          rw [List.mem_singleton]
          exact ⟨fun hp => ⟨hp, hp ▸ hfound.2, hfound.1⟩, fun hp => hp.1⟩
      · next hnone =>
          rw [iff_of_false List.not_mem_nil]
          rintro ⟨rfl, hvariant, hsame⟩
          exact hnone ⟨hsame, hvariant⟩
  · next hseveral =>
      have hnone : ¬ ∃ i v, distinct o.variantPairs = [(i, v)] ∧ i ≠ v := by
        rintro ⟨i, v, hpairs, _⟩
        exact hseveral i v hpairs
      simp only [List.mem_filter, hnone, not_false_eq_true, and_true]

theorem mem_unknownPairs {p : Int × Int} :
    p ∈ unknownPairs s shopId o ↔
      p ∈ o.variantPairs ∧ (s.hasVariant shopId p.1 p.2 = false ∨ o.NamesLonePair) := by
  rw [unknownPairs, sortedPairs, List.mem_mergeSort, mem_distinct, List.mem_filter, Bool.not_eq_true',
    ← Bool.not_eq_true, List.contains_iff_mem, mem_foundPairs]
  refine and_congr_right fun hp => ?_
  rw [not_and_or, not_and_or, not_not, Bool.not_eq_true]
  exact ⟨fun h => h.resolve_left (absurd hp), Or.inr⟩

/-- Nothing is unknown where the shop has all that is named, unless that is a lone pair. -/
theorem unknown_eq_nil_iff : unknownItems s shopId o = [] ∧ unknownPairs s shopId o = [] ↔
    s.Offers shopId o ∧ ¬ o.NamesLonePair := by
  simp only [List.eq_nil_iff_forall_not_mem, mem_unknownItems, mem_unknownPairs, not_and, not_or,
    Bool.not_eq_false]
  constructor
  · rintro ⟨hitems, hpairs⟩
    refine ⟨⟨hitems, fun p hp => (hpairs p hp).1⟩, fun hlone => ?_⟩
    obtain ⟨item, variant, hdistinct, _⟩ := id hlone
    have hp : (item, variant) ∈ o.variantPairs := by
      rw [← mem_distinct, hdistinct]
      exact List.mem_singleton_self _
    exact (hpairs _ hp).2 hlone
  · rintro ⟨hoffers, hlone⟩
    exact ⟨hoffers.items, fun p hp => ⟨hoffers.variants p hp, hlone⟩⟩

/-- What the check of an order comes to, once its numbers have at most 64 bits. -/
theorem ensureKnown_eq (hshop : isWord shopId = true) (hwords : o.NamesWords) :
    ensureKnown s shopId o = ensure ((unknownItems s shopId o).isEmpty && (unknownPairs s shopId o).isEmpty)
      (.unknownReferences (unknownItems s shopId o) (unknownPairs s shopId o)) := by
  have hword : requireWord shopId = .ok () := requireWord_eq_ok.mpr hshop
  have hitems : o.itemIds.forM requireWord = .ok () :=
    forM_eq_ok.mpr fun id hid => requireWord_eq_ok.mpr (hwords.items id hid)
  have hvariants : (o.variantPairs.forM fun p => requireWord p.2) = .ok () :=
    forM_eq_ok.mpr fun p hp => requireWord_eq_ok.mpr (hwords.variants p hp)
  rw [ensureKnown, hword, hitems, hvariants]
  rfl

/-- An order is known exactly where the shop has all that it names, unless that is a lone pair. -/
theorem ensureKnown_eq_ok_iff (hshop : isWord shopId = true) (hwords : o.NamesWords) :
    ensureKnown s shopId o = .ok () ↔ s.Offers shopId o ∧ ¬ o.NamesLonePair := by
  rw [ensureKnown_eq hshop hwords, ensure_eq_ok, Bool.and_eq_true, List.isEmpty_iff, List.isEmpty_iff,
    unknown_eq_nil_iff]

/-- Otherwise it is refused with what is unknown. -/
theorem ensureKnown_of_unknown (hshop : isWord shopId = true) (hwords : o.NamesWords)
    (hunknown : ¬ (s.Offers shopId o ∧ ¬ o.NamesLonePair)) :
    ensureKnown s shopId o =
      .error (.unknownReferences (unknownItems s shopId o) (unknownPairs s shopId o)) := by
  rw [← unknown_eq_nil_iff, ← List.isEmpty_iff, ← List.isEmpty_iff, ← Bool.and_eq_true] at hunknown
  rw [ensureKnown_eq hshop hwords, ensure, if_neg hunknown]

/-- What a shop has is known, unless an order names a lone pair. -/
theorem ensureKnown_of_offers (hshop : isWord shopId = true) (hfits : o.FitsWords)
    (hoffers : s.Offers shopId o) (hlone : ¬ o.NamesLonePair) :
    ensureKnown s shopId o = .ok () :=
  (ensureKnown_eq_ok_iff hshop hfits.names).mpr ⟨hoffers, hlone⟩

/-- What is known, the shop has. -/
theorem offers_of_ensureKnown (h : ensureKnown s shopId o = .ok ()) : s.Offers shopId o := by
  simp only [ensureKnown, bind_eq_ok, ensure_eq_ok, Bool.and_eq_true, List.isEmpty_iff] at h
  obtain ⟨_, _, _, _, _, _, hnone⟩ := h
  exact (unknown_eq_nil_iff.mp hnone).1

/-- A lone pair is not known, whatever the shop has. -/
theorem ensureKnown_of_lonePair (hshop : isWord shopId = true) (hfits : o.FitsWords)
    (hlone : o.NamesLonePair) :
    ensureKnown s shopId o =
      .error (.unknownReferences (unknownItems s shopId o) (unknownPairs s shopId o)) :=
  ensureKnown_of_unknown hshop hfits.names fun hknown => hknown.2 hlone

end Catalog

end ShopTabs
