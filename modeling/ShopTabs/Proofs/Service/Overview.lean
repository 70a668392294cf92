import Mathlib.Data.List.Perm.Basic
import ShopTabs.Proofs.Service.Schema
/-!
What the overview of a tab shows.  It is put together from the bills, the lines of items and the lines of
variants, each row with its name from the catalogue; where lines find what they refer to, none is lost on
the way and none is shown twice.
-/

namespace ShopTabs

/-! ### Order -/

/-- The first name and number stand before the second. -/
def NameIdLt (a b : String × Int) : Prop := a.1 < b.1 ∨ (a.1 = b.1 ∧ a.2 < b.2)

/-- The first bill starts before the second, or on the same day with a smaller number. -/
def Bill.StandsBefore (a b : Bill) : Prop :=
  a.startDate < b.startDate ∨ (a.startDate = b.startDate ∧ a.id < b.id)

theorem nameIdLe_iff {a b : String × Int} :
    nameIdLe a b = true ↔ a.1 < b.1 ∨ (a.1 = b.1 ∧ a.2 ≤ b.2) := by
  simp [nameIdLe]

theorem nameIdLe_trans {a b c : String × Int} (hab : nameIdLe a b = true)
    (hbc : nameIdLe b c = true) : nameIdLe a c = true := by
  rw [nameIdLe_iff] at *
  rcases hab with hlt | ⟨hname, hid⟩
  · rcases hbc with hlt' | ⟨hname', _⟩
    · exact Or.inl (String.lt_trans hlt hlt')
    · exact Or.inl (hname' ▸ hlt)
  · rw [hname]
    rcases hbc with hlt' | ⟨hname', hid'⟩
    · exact Or.inl hlt'
    · exact Or.inr ⟨hname', Int.le_trans hid hid'⟩

theorem nameIdLe_antisymm {a b : String × Int} (hab : nameIdLe a b = true) (hba : nameIdLe b a = true) :
    a = b := by
  rw [nameIdLe_iff] at *
  rcases hab with hlt | ⟨hname, hid⟩
  · rcases hba with hlt' | ⟨hname, _⟩
    · exact absurd (String.lt_trans hlt hlt') (String.lt_irrefl _)
    · exact absurd (hname ▸ hlt) (String.lt_irrefl _)
  · rcases hba with hlt' | ⟨_, hid'⟩
    · exact absurd (hname ▸ hlt') (String.lt_irrefl _)
    · exact Prod.ext hname (Int.le_antisymm hid hid')

theorem nameIdLe_total (a b : String × Int) : (nameIdLe a b || nameIdLe b a) = true := by
  rw [Bool.or_eq_true, nameIdLe_iff, nameIdLe_iff]
  by_cases hab : a.1 < b.1
  · exact Or.inl (Or.inl hab)
  · by_cases hba : b.1 < a.1
    · exact Or.inr (Or.inl hba)
    · have hname : a.1 = b.1 := String.le_antisymm (String.not_lt.mp hba) (String.not_lt.mp hab)
      rcases Int.le_total a.2 b.2 with hid | hid
      · exact Or.inl (Or.inr ⟨hname, hid⟩)
      · exact Or.inr (Or.inr ⟨hname.symm, hid⟩)

/-- What is put in the order of names and numbers stands so strictly where no number is repeated. -/
theorem pairwise_nameIdLt {α : Type} {name : α → String} {id : α → Int} {rows : List α}
    (hids : ((rows.mergeSort fun a b => nameIdLe (name a, id a) (name b, id b)).map id).Nodup) :
    (rows.mergeSort fun a b => nameIdLe (name a, id a) (name b, id b)).Pairwise fun a b =>
      NameIdLt (name a, id a) (name b, id b) := by
  have hsorted := @List.pairwise_mergeSort α (fun a b => nameIdLe (name a, id a) (name b, id b))
    (fun _ _ _ => nameIdLe_trans) (fun _ _ => nameIdLe_total _ _) rows
  refine (hsorted.and (List.pairwise_map.mp hids)).imp ?_
  rintro a b ⟨hle, hne⟩
  rcases nameIdLe_iff.mp hle with hlt | ⟨hname, hid⟩
  · exact Or.inl hlt
  · exact Or.inr ⟨hname, by omega⟩

/-- The bills of a tab stand in the order of their first days and numbers. -/
theorem Store.pairwise_sortedBills {s : Store} (hids : (s.bills.map (·.id)).Nodup) (key : TabKey) :
    (s.sortedBills key).Pairwise Bill.StandsBefore := by
  have hsorted := @List.pairwise_mergeSort Bill
    (fun a b => a.startDate < b.startDate || (a.startDate = b.startDate && a.id ≤ b.id))
    (by
      intro a b c hab hbc
      simp only [Bool.or_eq_true, Bool.and_eq_true, decide_eq_true_eq, Day.lt_def] at *
      grind)
    (by
      intro a b
      simp only [Bool.or_eq_true, Bool.and_eq_true, decide_eq_true_eq, Day.lt_def]
      rcases Int.lt_trichotomy a.startDate.number b.startDate.number with hlt | hsame | hlt
      · exact Or.inl (Or.inl hlt)
      · have hstart := Day.ext_number hsame
        rcases Int.le_total a.id b.id with hid | hid
        · exact Or.inl (Or.inr ⟨hstart, hid⟩)
        · exact Or.inr (Or.inr ⟨hstart.symm, hid⟩)
      · exact Or.inr (Or.inl hlt))
    (s.billsOf key)
  have hperm := (s.billsOf key).mergeSort_perm fun a b =>
    a.startDate < b.startDate || (a.startDate = b.startDate && a.id ≤ b.id)
  have hbills : ((s.billsOf key).map (·.id)).Nodup := hids.sublist (List.filter_sublist.map _)
  have hdistinct := List.pairwise_map.mp ((hperm.map (·.id)).nodup_iff.mpr hbills)
  refine (hsorted.and hdistinct).imp ?_
  rintro a b ⟨hle, hne⟩
  simp only [Bool.or_eq_true, Bool.and_eq_true, decide_eq_true_eq] at hle
  rcases hle with hlt | ⟨hstart, hid⟩
  · exact Or.inl hlt
  · exact Or.inr ⟨hstart, by omega⟩

/-! ### Rows that are gathered by a key -/

/-- Rows that are looked up one by one are all there if each is found. -/
theorem map_filterMap_eq_self {α β : Type} {find : α → Option β} {back : β → α} {rows : List α}
    (h : ∀ r ∈ rows, ∃ b, find r = some b ∧ back b = r) : (rows.filterMap find).map back = rows := by
  induction rows with
  | nil => rfl
  | cons r rest ih =>
      obtain ⟨b, hfound, hback⟩ := h r List.mem_cons_self
      rw [List.filterMap_cons_some hfound, List.map_cons, hback,
        ih fun q hq => h q (List.mem_cons_of_mem r hq)]

/-- Gathering rows under distinct keys repeats none and loses none that has one of the keys. -/
theorem perm_flatMap_filter {α κ : Type} [DecidableEq κ] (keyOf : α → κ) {keys : List κ}
    (hkeys : keys.Nodup) (rows : List α) :
    (keys.flatMap fun k => rows.filter (keyOf · = k)).Perm (rows.filter (keyOf · ∈ keys)) := by
  induction keys with
  | nil => simp
  | cons k rest ih =>
      obtain ⟨hnew, hrest⟩ := List.nodup_cons.mp hkeys
      have hfirst : (rows.filter (keyOf · ∈ k :: rest)).filter (keyOf · = k) =
          rows.filter (keyOf · = k) := by
        rw [List.filter_filter]
        apply List.filter_congr
        intro r _
        by_cases hkey : keyOf r = k <;> simp [hkey]
      have hothers : (rows.filter (keyOf · ∈ k :: rest)).filter (fun r => !decide (keyOf r = k)) =
          rows.filter (keyOf · ∈ rest) := by
        rw [List.filter_filter]
        apply List.filter_congr
        intro r _
        by_cases hkey : keyOf r = k
        · simp [hkey, hnew]
        · simp [hkey]
      have hsplit := List.filter_append_perm (keyOf · = k) (rows.filter (keyOf · ∈ k :: rest))
      rw [hfirst, hothers] at hsplit
      rw [List.flatMap_cons]
      exact ((ih hrest).append_left _).trans hsplit

/-! ### The lines of one bill -/

/-- The line that an item on a bill shows. -/
def ItemView.line (tab : TabKey) (billId : Int) (i : ItemView) : Line ItemKey :=
  ⟨⟨tab, billId, i.id⟩, i.quantity⟩

/-- The line that a variant of an item on a bill shows. -/
def VariantView.line (key : ItemKey) (v : VariantView) : Line VariantKey :=
  ⟨⟨key.tab, key.billId, key.itemId, v.id⟩, v.quantity⟩

namespace Store

variable {s : Store}

/-- The variant of a line is found in the catalogue. -/
theorem exists_variantView {l : Line VariantKey}
    (h : s.hasVariant l.key.tab.shopId l.key.itemId l.key.variantId = true) :
    ∃ v, s.variantView? l = some v ∧ v.line l.key.item = l := by
  obtain ⟨row, hrow, hfound⟩ := List.any_eq_true.mp h
  cases hfind : s.variants.find? (fun v =>
      v.shopId = l.key.tab.shopId && v.itemId = l.key.itemId && v.id = l.key.variantId) with
  | none => exact absurd hfound (List.find?_eq_none.mp hfind row hrow)
  | some v =>
      have hv := List.find?_some hfind
      simp only [Bool.and_eq_true, decide_eq_true_eq] at hv
      refine ⟨⟨v.id, v.name, v.price, l.quantity⟩, ?_, ?_⟩
      · rw [variantView?, hfind]
        rfl
      · rw [VariantView.line, hv.2]
        rfl

theorem exists_itemView {l : Line ItemKey} (h : s.hasItem l.key.tab.shopId l.key.itemId = true) :
    ∃ i, s.itemView? l = some i ∧ i.line l.key.tab l.key.billId = l ∧ i.variants = s.variantViews l.key := by
  obtain ⟨row, hrow, hfound⟩ := List.any_eq_true.mp h
  cases hfind : s.items.find? (fun i => i.shopId = l.key.tab.shopId && i.id = l.key.itemId) with
  | none => exact absurd hfound (List.find?_eq_none.mp hfind row hrow)
  | some i =>
      have hi := List.find?_some hfind
      simp only [Bool.and_eq_true, decide_eq_true_eq] at hi
      refine ⟨⟨i.id, i.name, i.basePrice, l.quantity, s.variantViews l.key⟩, ?_, ?_, rfl⟩
      · rw [itemView?, hfind]
        rfl
      · rw [ItemView.line, hi.2]

/-- The variants of an item on a bill are shown, each once. -/
theorem perm_variantViews (hs : s.LinesAnchored) (key : ItemKey) :
    ((s.variantViews key).map (·.line key)).Perm (s.variantLines.filter (·.key.item = key)) := by
  refine ((List.mergeSort_perm _ _).map _).trans (.of_eq ?_)
  apply map_filterMap_eq_self
  intro l hl
  obtain ⟨hmem, hkey⟩ := List.mem_filter.mp hl
  rw [decide_eq_true_eq] at hkey
  obtain ⟨v, hfound, hline⟩ := exists_variantView (hs.variants l.key (List.mem_map_of_mem hmem)).2
  exact ⟨v, hfound, hkey ▸ hline⟩

/-- The items on a bill are shown, each once. -/
theorem perm_itemViews (hs : s.LinesAnchored) (tab : TabKey) (billId : Int) :
    ((s.itemViews tab billId).map (·.line tab billId)).Perm
      (s.itemLines.filter fun l => l.key.tab = tab && l.key.billId = billId) := by
  refine ((List.mergeSort_perm _ _).map _).trans (.of_eq ?_)
  apply map_filterMap_eq_self
  intro l hl
  obtain ⟨hmem, hkey⟩ := List.mem_filter.mp hl
  simp only [Bool.and_eq_true, decide_eq_true_eq] at hkey
  obtain ⟨i, hfound, hline, _⟩ := exists_itemView (hs.items l.key (List.mem_map_of_mem hmem)).2
  exact ⟨i, hfound, hkey.1 ▸ hkey.2 ▸ hline⟩

/-- An item on a bill is shown with its own variants. -/
theorem variants_of_mem_itemViews {tab : TabKey} {billId : Int} {i : ItemView}
    (hi : i ∈ s.itemViews tab billId) : i.variants = s.variantViews ⟨tab, billId, i.id⟩ := by
  obtain ⟨l, hl, hfound⟩ := List.mem_filterMap.mp ((List.mergeSort_perm _ _).mem_iff.mp hi)
  have hkey := (List.mem_filter.mp hl).2
  simp only [Bool.and_eq_true, decide_eq_true_eq] at hkey
  obtain ⟨row, hfind, rfl⟩ := Option.map_eq_some_iff.mp hfound
  have hrow := List.find?_some hfind
  simp only [Bool.and_eq_true, decide_eq_true_eq] at hrow
  rw [hrow.2, ← hkey.1, ← hkey.2]

/-- An item that is shown on a bill has its name and its price from the catalogue of the shop. -/
theorem item_of_mem_itemViews {tab : TabKey} {billId : Int} {i : ItemView}
    (hi : i ∈ s.itemViews tab billId) : (⟨i.id, tab.shopId, i.name, i.basePrice⟩ : Item) ∈ s.items := by
  obtain ⟨l, hl, hfound⟩ := List.mem_filterMap.mp ((List.mergeSort_perm _ _).mem_iff.mp hi)
  have hkey := (List.mem_filter.mp hl).2
  simp only [Bool.and_eq_true, decide_eq_true_eq] at hkey
  obtain ⟨row, hfind, rfl⟩ := Option.map_eq_some_iff.mp hfound
  have hrow := List.find?_some hfind
  simp only [Bool.and_eq_true, decide_eq_true_eq] at hrow
  rw [← hkey.1, ← hrow.1]
  exact List.mem_of_find?_eq_some hfind

/-- A variant that is shown with an item has its name and its price from the catalogue of the shop. -/
theorem variant_of_mem_variantViews {key : ItemKey} {v : VariantView} (hv : v ∈ s.variantViews key) :
    (⟨v.id, key.tab.shopId, key.itemId, v.name, v.price⟩ : Variant) ∈ s.variants := by
  obtain ⟨l, hl, hfound⟩ := List.mem_filterMap.mp ((List.mergeSort_perm _ _).mem_iff.mp hv)
  have hkey := (List.mem_filter.mp hl).2
  rw [decide_eq_true_eq] at hkey
  obtain ⟨row, hfind, rfl⟩ := Option.map_eq_some_iff.mp hfound
  have hrow := List.find?_some hfind
  simp only [Bool.and_eq_true, decide_eq_true_eq] at hrow
  have hshop : row.shopId = key.tab.shopId := by rw [← hkey, hrow.1.1]; rfl
  have hitem : row.itemId = key.itemId := by rw [← hkey, hrow.1.2]; rfl
  rw [← hshop, ← hitem]
  exact List.mem_of_find?_eq_some hfind

/-- No two items on a bill have one number. -/
theorem nodup_itemViews (hs : s.IsSound) (tab : TabKey) (billId : Int) :
    ((s.itemViews tab billId).map (·.id)).Nodup := by
  have hkeys : ((s.itemViews tab billId).map fun i => (⟨tab, billId, i.id⟩ : ItemKey)).Nodup := by
    have hperm := (perm_itemViews hs.anchored tab billId).map (·.key)
    rw [List.map_map] at hperm
    exact hperm.nodup_iff.mpr (hs.itemKeys.sublist (List.filter_sublist.map _))
  apply List.Nodup.of_map fun id => (⟨tab, billId, id⟩ : ItemKey)
  rw [List.map_map]
  exact hkeys

theorem nodup_variantViews (hs : s.IsSound) (key : ItemKey) :
    ((s.variantViews key).map (·.id)).Nodup := by
  have hkeys : ((s.variantViews key).map fun v =>
      (⟨key.tab, key.billId, key.itemId, v.id⟩ : VariantKey)).Nodup := by
    have hperm := (perm_variantViews hs.anchored key).map (·.key)
    rw [List.map_map] at hperm
    exact hperm.nodup_iff.mpr (hs.variantKeys.sublist (List.filter_sublist.map _))
  apply List.Nodup.of_map fun id => (⟨key.tab, key.billId, key.itemId, id⟩ : VariantKey)
  rw [List.map_map]
  exact hkeys

end Store

/-! ### The overview -/

namespace Overview

/-- The items that an overview shows, as lines of its bills. -/
def itemLines (o : Overview) : List (Line ItemKey) :=
  o.bills.flatMap fun b => b.items.map (·.line o.view.tab.key b.bill.id)

/-- The variants that an overview shows, as lines of its bills and items. -/
def variantLines (o : Overview) : List (Line VariantKey) :=
  o.bills.flatMap fun b => b.items.flatMap fun i =>
    i.variants.map (·.line ⟨o.view.tab.key, b.bill.id, i.id⟩)

/-- An overview shows all rows of a tab's bills, each once and in its place, and nothing else. -/
structure IsExact (o : Overview) (s : Store) (key : TabKey) : Prop where
  bills : (o.bills.map (·.bill)).Perm (s.billsOf key)
  billOrder : (o.bills.map (·.bill)).Pairwise Bill.StandsBefore
  items : o.itemLines.Perm (s.itemLines.filter (·.key.tab = key))
  itemOrder : ∀ b ∈ o.bills, b.items.Pairwise fun i j => NameIdLt (i.name, i.id) (j.name, j.id)
  itemNames : ∀ b ∈ o.bills, ∀ i ∈ b.items,
    (⟨i.id, key.shopId, i.name, i.basePrice⟩ : Item) ∈ s.items
  variants : o.variantLines.Perm (s.variantLines.filter (·.key.tab = key))
  variantOrder : ∀ b ∈ o.bills, ∀ i ∈ b.items,
    i.variants.Pairwise fun v w => NameIdLt (v.name, v.id) (w.name, w.id)
  variantNames : ∀ b ∈ o.bills, ∀ i ∈ b.items, ∀ v ∈ i.variants,
    (⟨v.id, key.shopId, i.id, v.name, v.price⟩ : Variant) ∈ s.variants
  balance : o.view.hasOpenBalance = true ↔ ∃ b ∈ s.billsOf key, b.isPaid = false

end Overview

namespace Store

variable {s : Store}

theorem map_bill_billViews (key : TabKey) : (s.billViews key).map (·.bill) = s.sortedBills key := by
  rw [billViews, List.map_map]
  exact List.map_id _

/-- A bill that is shown is a bill of the tab, with its items. -/
theorem mem_billViews {key : TabKey} {b : BillView} (h : b ∈ s.billViews key) :
    b.bill ∈ s.billsOf key ∧ b.items = s.itemViews key b.bill.id := by
  obtain ⟨bill, hbill, rfl⟩ := List.mem_map.mp h
  exact ⟨(List.mergeSort_perm _ _).mem_iff.mp hbill, rfl⟩

/-- Every line of a tab's items is shown under its bill. -/
theorem perm_itemLines (hs : s.IsSound) (tab : Tab) :
    (s.overview tab).itemLines.Perm (s.itemLines.filter (·.key.tab = tab.key)) := by
  have hbillIds : ((s.billsOf tab.key).map (·.id)).Nodup :=
    (hs.billIds.imp Int.ne_of_lt).sublist (List.filter_sublist.map _)
  have hshown : (s.overview tab).itemLines.Perm ((s.billsOf tab.key).flatMap fun b =>
      s.itemLines.filter fun l => l.key.tab = tab.key && l.key.billId = b.id) := by
    rw [Overview.itemLines, overview, billViews, List.flatMap_map]
    exact (List.mergeSort_perm _ _).flatMap fun b _ => perm_itemViews hs.anchored tab.key b.id
  have hgathered := perm_flatMap_filter (fun l : Line ItemKey => l.key.billId) hbillIds
    (s.itemLines.filter (·.key.tab = tab.key))
  have hfound : (s.itemLines.filter (·.key.tab = tab.key)).filter
      (fun l => l.key.billId ∈ (s.billsOf tab.key).map (·.id)) =
        s.itemLines.filter (·.key.tab = tab.key) := by
    rw [List.filter_eq_self]
    intro l hl
    obtain ⟨hmem, htab⟩ := List.mem_filter.mp hl
    rw [decide_eq_true_eq] at htab
    obtain ⟨b, hb, hbtab, hid⟩ := hasBill_iff.mp (hs.anchored.items l.key (List.mem_map_of_mem hmem)).1
    have hbill : b ∈ s.billsOf tab.key :=
      List.mem_filter.mpr ⟨hb, decide_eq_true (hbtab.trans htab)⟩
    exact decide_eq_true (hid ▸ List.mem_map_of_mem hbill)
  rw [hfound, List.flatMap_map] at hgathered
  refine hshown.trans (.trans (.of_eq ?_) hgathered)
  congr 1
  funext b
  rw [List.filter_filter]
  apply List.filter_congr
  intro l _
  exact Bool.and_comm _ _

/-- Every line of a tab's variants is shown under its bill and its item. -/
theorem perm_variantLines (hs : s.IsSound) (tab : Tab) :
    (s.overview tab).variantLines.Perm (s.variantLines.filter (·.key.tab = tab.key)) := by
  have hitems := (s.perm_itemLines hs tab).map (·.key)
  have hitemKeys : ((s.overview tab).itemLines.map (·.key)).Nodup :=
    hitems.nodup_iff.mpr (hs.itemKeys.sublist (List.filter_sublist.map _))
  have hshown : (s.overview tab).variantLines.Perm ((s.overview tab).itemLines.flatMap fun l =>
      s.variantLines.filter (·.key.item = l.key)) := by
    rw [Overview.variantLines, Overview.itemLines, List.flatMap_assoc]
    apply List.Perm.flatMap_left
    intro b hb
    rw [List.flatMap_map]
    apply List.Perm.flatMap_left
    intro i hi
    rw [(mem_billViews hb).2] at hi
    rw [variants_of_mem_itemViews hi]
    exact perm_variantViews hs.anchored _
  have hgathered := perm_flatMap_filter (fun l : Line VariantKey => l.key.item) hitemKeys s.variantLines
  have hfound : s.variantLines.filter (fun l => l.key.item ∈ (s.overview tab).itemLines.map (·.key)) =
      s.variantLines.filter (·.key.tab = tab.key) := by
    apply List.filter_congr
    intro l hl
    obtain ⟨hitem, _⟩ := hs.anchored.variants l.key (List.mem_map_of_mem hl)
    obtain ⟨i, hi, hkey⟩ := List.mem_map.mp hitem
    rw [decide_eq_decide, hitems.mem_iff, ← hkey, List.mem_map]
    constructor
    · rintro ⟨j, hj, hsame⟩
      have htab := (List.mem_filter.mp hj).2
      rw [decide_eq_true_eq, hsame, hkey] at htab
      exact htab
    · intro htab
      refine ⟨i, List.mem_filter.mpr ⟨hi, ?_⟩, rfl⟩
      rw [decide_eq_true_eq, hkey]
      exact htab
  rw [hfound, List.flatMap_map] at hgathered
  exact hshown.trans hgathered

theorem overview_isExact (hs : s.IsSound) (tab : Tab) : (s.overview tab).IsExact s tab.key where
  bills := by
    rw [overview, map_bill_billViews]
    exact List.mergeSort_perm _ _
  billOrder := by
    rw [overview, map_bill_billViews]
    exact pairwise_sortedBills (hs.billIds.imp Int.ne_of_lt) tab.key
  items := perm_itemLines hs tab
  itemOrder := by
    intro b hb
    rw [(mem_billViews hb).2]
    exact pairwise_nameIdLt (nodup_itemViews hs tab.key b.bill.id)
  itemNames := by
    intro b hb i hi
    rw [(mem_billViews hb).2] at hi
    exact item_of_mem_itemViews hi
  variants := perm_variantLines hs tab
  variantOrder := by
    intro b hb i hi
    rw [(mem_billViews hb).2] at hi
    rw [variants_of_mem_itemViews hi]
    exact pairwise_nameIdLt (nodup_variantViews hs _)
  variantNames := by
    intro b hb i hi v hv
    rw [(mem_billViews hb).2] at hi
    rw [variants_of_mem_itemViews hi] at hv
    exact variant_of_mem_variantViews hv
  balance := by
    have hbills : (s.overview tab).view.hasOpenBalance = (s.sortedBills tab.key).any (!·.isPaid) := by
      rw [← map_bill_billViews, List.any_map]
      rfl
    rw [hbills, List.any_eq_true]
    constructor
    · rintro ⟨b, hb, hopen⟩
      exact ⟨b, (List.mergeSort_perm _ _).mem_iff.mp hb, by simpa using hopen⟩
    · rintro ⟨b, hb, hopen⟩
      exact ⟨b, (List.mergeSort_perm _ _).mem_iff.mpr hb, by simpa using hopen⟩

end Store

/-- Whoever may see a tab is shown, after any history, all rows of its bills and nothing else, in their order. -/
theorem overview_exact {s : Store} (hs : s.IsSound) (history : List Service.Request) (env : Surroundings)
    (caller : Caller) {key : TabKey} {tab : Tab}
    (hallowed : Service.authorizeTab env caller key .read (s.run history) = .ok tab) :
    ∃ o, (Submission.perform env caller (.plain (.showTab key)) (s.run history)).result =
        .ok (.overview o) ∧
      o.IsExact (s.run history) key := by
  obtain ⟨_, _, hfound, _⟩ := Service.authorizeTab_eq_ok.mp hallowed
  obtain ⟨_, hkey⟩ := Store.mem_of_tab? hfound
  refine ⟨(s.run history).overview tab, ?_, hkey ▸ Store.overview_isExact (hs.run history) tab⟩
  have hattempt : (Operation.showTab key).attempt env caller (s.run history) =
      .ok (.overview ((s.run history).overview tab), s.run history) := by
    rw [Operation.attempt, hallowed]
    rfl
  rw [Submission.perform_of_read rfl, Operation.perform, hattempt]
  rfl

namespace Sample

/-- Orders a coffee with oat milk and a bagel with cream cheese on a day of January. -/
def breakfast (day : Nat) : Service.Request :=
  let part (id : Int) : Json := .obj [("id", .int id), ("quantity", .int 1)]
  let item (id variantId : Int) : Json :=
    .obj [("id", .int id), ("quantity", .int 1), ("variants", .arr [part variantId])]
  request (.addOrder tab (.obj [("items", .arr [item 1 1, item 2 2])]) (some (january day)))

end Sample

/-- A breakfast is shown by the names of what was ordered. -/
theorem overview_exact_breakfast :
    let reached := Sample.store.run [Sample.openTab 7, Sample.breakfast 5]
    ∃ o, (Submission.perform (Sample.order 5).env (Sample.order 5).caller (.plain (.showTab Sample.tab))
        reached).result = .ok (.overview o) ∧
      o.IsExact reached Sample.tab ∧
      (reached.variantLines.filter (·.key.tab = Sample.tab)).map (·.key.variantId) = [1, 2] := by
  intro reached
  have hallowed : Service.authorizeTab (Sample.order 5).env (Sample.order 5).caller Sample.tab .read
      reached = .ok (Sample.openedTab 7) :=
    Service.authorizeTab_eq_ok.mpr ⟨by decide, by decide, by decide +kernel, ⟨1, 2, "Campus Cafe"⟩,
      by decide +kernel, by decide +kernel⟩
  obtain ⟨o, hresult, hexact⟩ := overview_exact Sample.store_isSound
    [Sample.openTab 7, Sample.breakfast 5] (Sample.order 5).env (Sample.order 5).caller hallowed
  exact ⟨o, hresult, hexact, by decide +kernel⟩

end ShopTabs
