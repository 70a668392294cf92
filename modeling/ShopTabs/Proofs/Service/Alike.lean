import ShopTabs.Proofs.Ledger.Renumber
import ShopTabs.Proofs.Service.Overview
/-!
Stores that agree on one tab.  They have the same people and the same offers, and the same rows of that
tab, in whatever order and up to the numbers of its bills; what else they hold does not matter.  All that is
looked up on behalf of the tab is the same in both, and what is written for it keeps them so.
-/

namespace ShopTabs

/-- The same people and the same offers, in whatever order. -/
structure Catalogue.Alike (c c' : Catalogue) : Prop where
  users : c.users.Perm c'.users
  shops : c.shops.Perm c'.shops
  locations : c.locations.Perm c'.locations
  items : c.items.Perm c'.items
  variants : c.variants.Perm c'.variants

/-- The same rows in whatever order. -/
structure TabRows.Alike (r r' : TabRows) : Prop where
  tabs : r.tabs.Perm r'.tabs
  pending : r.pending.Perm r'.pending
  emails : r.emails.Perm r'.emails
  places : r.places.Perm r'.places
  bills : r.bills.Perm r'.bills
  itemLines : r.itemLines.Perm r'.itemLines
  variantLines : r.variantLines.Perm r'.variantLines

/-! ### Other numbers of bills -/

/-- An item on a bill of another number. -/
def ItemKey.renumbered (ρ : Int → Int) (k : ItemKey) : ItemKey := { k with billId := ρ k.billId }

/-- A variant on a bill of another number. -/
def VariantKey.renumbered (ρ : Int → Int) (k : VariantKey) : VariantKey :=
  { k with billId := ρ k.billId }

/-- A bill of another number. -/
def Bill.renumbered (ρ : Int → Int) (b : Bill) : Bill := { b with id := ρ b.id }

/-- The rows of a tab with other numbers of bills. -/
def TabRows.renumbered (ρ : Int → Int) (r : TabRows) : TabRows :=
  { r with
    bills := r.bills.map (·.renumbered ρ)
    itemLines := r.itemLines.map (Line.mapKey (·.renumbered ρ))
    variantLines := r.variantLines.map (Line.mapKey (·.renumbered ρ)) }

section Injective

variable {ρ : Int → Int} (hρ : Function.Injective ρ)
include hρ

theorem ItemKey.renumbered_injective : Function.Injective (ItemKey.renumbered ρ) := by
  rintro ⟨tab, bill, item⟩ ⟨tab', bill', item'⟩ hsame
  simp only [ItemKey.renumbered, ItemKey.mk.injEq] at hsame ⊢
  exact ⟨hsame.1, hρ hsame.2.1, hsame.2.2⟩

theorem VariantKey.renumbered_injective : Function.Injective (VariantKey.renumbered ρ) := by
  rintro ⟨tab, bill, item, variant⟩ ⟨tab', bill', item', variant'⟩ hsame
  simp only [VariantKey.renumbered, VariantKey.mk.injEq] at hsame ⊢
  exact ⟨hsame.1, hρ hsame.2.1, hsame.2.2⟩

end Injective

/-- Rows that name only bills whose numbers stay are as they were. -/
theorem TabRows.renumbered_eq_self {ρ : Int → Int} {r : TabRows} (hbills : ∀ b ∈ r.bills, ρ b.id = b.id)
    (hitems : ∀ l ∈ r.itemLines, ρ l.key.billId = l.key.billId)
    (hvariants : ∀ l ∈ r.variantLines, ρ l.key.billId = l.key.billId) : r.renumbered ρ = r := by
  have hbillRows : r.bills.map (·.renumbered ρ) = r.bills := by
    conv_rhs => rw [← List.map_id r.bills]
    apply List.map_congr_left
    intro b hb
    show { b with id := ρ b.id } = b
    rw [hbills b hb]
  have hitemRows : r.itemLines.map (Line.mapKey (·.renumbered ρ)) = r.itemLines := by
    conv_rhs => rw [← List.map_id r.itemLines]
    apply List.map_congr_left
    intro l hl
    show (⟨{ l.key with billId := ρ l.key.billId }, l.quantity⟩ : Line ItemKey) = l
    rw [hitems l hl]
  have hvariantRows : r.variantLines.map (Line.mapKey (·.renumbered ρ)) = r.variantLines := by
    conv_rhs => rw [← List.map_id r.variantLines]
    apply List.map_congr_left
    intro l hl
    show (⟨{ l.key with billId := ρ l.key.billId }, l.quantity⟩ : Line VariantKey) = l
    rw [hvariants l hl]
  rw [renumbered, hbillRows, hitemRows, hvariantRows]

namespace Membership

variable {κ : Type} [DecidableEq κ] {rows rows' : List (Member κ)} {tab : TabKey}

theorem missing_eq_of_perm (h : (rows.filter (·.tab = tab)).Perm (rows'.filter (·.tab = tab)))
    (wanted : List κ) : missing rows' tab wanted = missing rows tab wanted := by
  have hkeys : (keysOf rows tab).Perm (keysOf rows' tab) := h.map _
  rw [missing, missing]
  apply List.filter_congr
  intro k _
  simp only [hkeys.mem_iff]

theorem result_eq_of_perm (h : (rows.filter (·.tab = tab)).Perm (rows'.filter (·.tab = tab)))
    (wanted : List κ) : result rows' tab wanted = result rows tab wanted := by
  have hkeys : (keysOf rows tab).Perm (keysOf rows' tab) := h.map _
  rw [result, result, missing_eq_of_perm h, surplus, surplus, (hkeys.filter _).length_eq]

/-- A set that is made to hold the same keys has the same rows, whatever other sets there are. -/
theorem perm_filter_replace (h : (rows.filter (·.tab = tab)).Perm (rows'.filter (·.tab = tab)))
    (wanted : List κ) : ((replace rows tab wanted).filter (·.tab = tab)).Perm
      ((replace rows' tab wanted).filter (·.tab = tab)) := by
  have hkept : ∀ rows : List (Member κ), (rows.filter fun r => r.tab ≠ tab ∨ r.key ∈ wanted).filter
      (·.tab = tab) = (rows.filter (·.tab = tab)).filter (·.key ∈ wanted) := by
    intro rows
    rw [List.filter_filter, List.filter_filter]
    apply List.filter_congr
    intro r _
    by_cases hr : r.tab = tab <;> simp [hr]
  rw [replace, replace, List.filter_append, List.filter_append, hkept, hkept, missing_eq_of_perm h]
  exact (h.filter _).append_right _

end Membership

namespace Store

variable {s s' : Store} {key : TabKey} {ρ : Int → Int}

/-- Two stores agree on a tab up to the numbers of its bills. -/
structure Agree (ρ : Int → Int) (key : TabKey) (s s' : Store) : Prop where
  catalogue : s.catalogue.Alike s'.catalogue
  rows : ((s.rowsOf key).renumbered ρ).Alike (s'.rowsOf key)

/-! ### What is looked up in the rows of a tab -/

theorem hasTab_eq_any : s.hasTab key = (s.rowsOf key).tabs.any fun _ => true := by
  simp [hasTab, rowsOf, rowsWhere, List.any_filter]

theorem hasBill_eq_any {id : Int} : s.hasBill key id = (s.rowsOf key).bills.any (·.id = id) := by
  simp [hasBill, rowsOf, rowsWhere, List.any_filter]

theorem hasOpenStart_eq_any {day : Day} :
    s.hasOpenStart key day = (s.rowsOf key).bills.any fun b => b.startDate = day && !b.isPaid := by
  simp [hasOpenStart, rowsOf, rowsWhere, List.any_filter, Bool.and_assoc]

namespace Agree

theorem hasUser (h : Agree ρ key s s') (id : Int) : s'.hasUser id = s.hasUser id :=
  h.catalogue.users.any_eq.symm

theorem hasLocation (h : Agree ρ key s s') (shopId id : Int) :
    s'.hasLocation shopId id = s.hasLocation shopId id := h.catalogue.locations.any_eq.symm

theorem hasItem (h : Agree ρ key s s') (shopId id : Int) : s'.hasItem shopId id = s.hasItem shopId id :=
  h.catalogue.items.any_eq.symm

theorem hasVariant (h : Agree ρ key s s') (shopId itemId id : Int) :
    s'.hasVariant shopId itemId id = s.hasVariant shopId itemId id := h.catalogue.variants.any_eq.symm

theorem hasTab (h : Agree ρ key s s') : s'.hasTab key = s.hasTab key := by
  rw [hasTab_eq_any, hasTab_eq_any]
  exact h.rows.tabs.any_eq.symm

theorem hasBill (h : Agree ρ key s s') (hρ : Function.Injective ρ) (id : Int) :
    s'.hasBill key (ρ id) = s.hasBill key id := by
  have hsame := h.rows.bills.any_eq (f := fun b => b.id = ρ id)
  rw [hasBill_eq_any, hasBill_eq_any, ← hsame]
  simp [TabRows.renumbered, Bill.renumbered, List.any_map, Function.comp_def, hρ.eq_iff]

theorem hasOpenStart (h : Agree ρ key s s') (day : Day) :
    s'.hasOpenStart key day = s.hasOpenStart key day := by
  have hsame := h.rows.bills.any_eq (f := fun b => b.startDate = day && !b.isPaid)
  rw [hasOpenStart_eq_any, hasOpenStart_eq_any, ← hsame]
  simp [TabRows.renumbered, Bill.renumbered, List.any_map, Function.comp_def]

theorem itemLines (h : Agree ρ key s s') :
    Ledger.Corresponds (ItemKey.renumbered ρ) (fun k => k.tab = key) s.itemLines s'.itemLines :=
  h.rows.itemLines

theorem variantLines (h : Agree ρ key s s') :
    Ledger.Corresponds (VariantKey.renumbered ρ) (fun k => k.tab = key) s.variantLines s'.variantLines :=
  h.rows.variantLines

/-! ### What is written for a tab -/

theorem audited (h : Agree ρ key s s') {caller : Caller} {event event' : Event} :
    Agree ρ key (s.audited caller key event) (s'.audited caller key event') :=
  ⟨h.catalogue, h.rows⟩

theorem updateTab (h : Agree ρ key s s') (change : Tab → Tab) (hkey : ∀ t, (change t).key = t.key) :
    Agree ρ key (s.updateTab key change) (s'.updateTab key change) where
  catalogue := h.catalogue
  rows := { h.rows with
    tabs := by
      rw [tabs_updateTab hkey]
      show ((s.updateTab key change).rowsOf key).tabs.Perm _
      rw [tabs_updateTab hkey]
      exact h.rows.tabs.map change }

theorem unstage (h : Agree ρ key s s') : Agree ρ key (s.unstage key) (s'.unstage key) where
  catalogue := h.catalogue
  rows := { h.rows with
    pending := by
      rw [pending_unstage]
      show ((s.unstage key).rowsOf key).pending.Perm []
      rw [pending_unstage] }

/-- A revision takes the place of the one that waits, where no tab has two. -/
theorem stage {u : PendingUpdate} (h : Agree ρ u.tab s s') (hs : (s.rowsOf u.tab).pending.length ≤ 1)
    (hs' : (s'.rowsOf u.tab).pending.length ≤ 1) : Agree ρ u.tab (s.stage u) (s'.stage u) where
  catalogue := h.catalogue
  rows := { h.rows with
    pending := by
      rw [pending_stage hs']
      show ((s.stage u).rowsOf u.tab).pending.Perm [u]
      rw [pending_stage hs] }

theorem withEmails (h : Agree ρ key s s') (emails : Option (List String)) :
    Agree ρ key (s.withEmails key emails) (s'.withEmails key emails) := by
  cases emails with
  | none => exact h
  | some wanted =>
      exact
        { catalogue := h.catalogue
          rows := { h.rows with emails := Membership.perm_filter_replace h.rows.emails wanted } }

theorem withPlaces (h : Agree ρ key s s') (places : Option (List Int)) :
    Agree ρ key (s.withPlaces key places) (s'.withPlaces key places) := by
  cases places with
  | none => exact h
  | some wanted =>
      exact
        { catalogue := h.catalogue
          rows := { h.rows with places := Membership.perm_filter_replace h.rows.places wanted } }

theorem withBill (h : Agree ρ key s s') {b : Bill} (hb : b.tab = key) :
    Agree ρ key (s.withBill b) (s'.withBill (b.renumbered ρ)) where
  catalogue := h.catalogue
  rows := { h.rows with
    bills := by
      show (((s.withBill b).billsOf key).map (·.renumbered ρ)).Perm
        ((s'.withBill (b.renumbered ρ)).billsOf key)
      rw [billsOf_withBill hb, billsOf_withBill (b := b.renumbered ρ) hb, List.map_append]
      exact h.rows.bills.append_right _ }

/-- A bill whose number stays is closed on the same day. -/
theorem updateBill (h : Agree ρ key s s') (hρ : Function.Injective ρ) {id : Int} (hid : ρ id = id)
    (day : Day) : Agree ρ key (s.updateBill key id fun b => b.closedOn day)
      (s'.updateBill key id fun b => b.closedOn day) where
  catalogue := h.catalogue
  rows := { h.rows with
    bills := by
      have hclose : ((closeBill (s.billsOf key) id day).map (·.renumbered ρ)) =
          closeBill ((s.billsOf key).map (·.renumbered ρ)) id day := by
        rw [closeBill, closeBill, List.map_map, List.map_map]
        apply List.map_congr_left
        intro b _
        have hsame : ρ b.id = id ↔ b.id = id := by
          conv_lhs => rw [← hid]
          exact hρ.eq_iff
        by_cases hb : b.id = id
        · simp [Bill.renumbered, Bill.closedOn, hb, hid]
        · simp [Bill.renumbered, hb, hsame]
      show (((s.updateBill key id fun b => b.closedOn day).billsOf key).map (·.renumbered ρ)).Perm
        ((s'.updateBill key id fun b => b.closedOn day).billsOf key)
      rw [billsOf_updateBill, billsOf_updateBill, hclose]
      exact h.rows.bills.map _ }

theorem withItemLines (h : Agree ρ key s s') {lines lines' : List (Line ItemKey)}
    (hlines : Ledger.Corresponds (ItemKey.renumbered ρ) (fun k => k.tab = key) lines lines') :
    Agree ρ key (s.withItemLines lines) (s'.withItemLines lines') :=
  ⟨h.catalogue, { h.rows with itemLines := hlines }⟩

theorem withVariantLines (h : Agree ρ key s s') {lines lines' : List (Line VariantKey)}
    (hlines : Ledger.Corresponds (VariantKey.renumbered ρ) (fun k => k.tab = key) lines lines') :
    Agree ρ key (s.withVariantLines lines) (s'.withVariantLines lines') :=
  ⟨h.catalogue, { h.rows with variantLines := hlines }⟩

end Agree

/-! ### States of the tables that agree on a tab -/

/-- Two states of the tables agree on people and catalogues and on all rows of a tab. -/
structure SameFor (key : TabKey) (s s' : Store) : Prop where
  sound : s.IsSound
  sound' : s'.IsSound
  catalogue : s.catalogue.Alike s'.catalogue
  rows : (s.rowsOf key).Alike (s'.rowsOf key)

/-- Of rows whose keys differ at most one has a given key. -/
theorem length_filter_le_one {α κ : Type} [DecidableEq κ] {keyOf : α → κ} {rows : List α}
    (h : (rows.map keyOf).Nodup) (key : κ) : (rows.filter fun r => keyOf r = key).length ≤ 1 := by
  have hkeys : (rows.filter fun r => keyOf r = key).map keyOf =
      List.replicate (rows.filter fun r => keyOf r = key).length key := by
    rw [List.eq_replicate_iff]
    refine ⟨List.length_map _, ?_⟩
    intro k hk
    obtain ⟨r, hr, rfl⟩ := List.mem_map.mp hk
    exact of_decide_eq_true (List.mem_filter.mp hr).2
  have hnodup := h.sublist (List.filter_sublist (p := fun r => keyOf r = key).map keyOf)
  rw [hkeys] at hnodup
  exact List.nodup_replicate.mp hnodup

theorem eq_of_perm_of_length_le_one {α : Type} {rows rows' : List α} (h : rows.Perm rows')
    (hlength : rows.length ≤ 1) : rows = rows' := by
  match rows, hlength with
  | [], _ => exact h.nil_eq
  | [r], _ => exact h.singleton_eq

namespace IsSound

theorem length_tabs (hs : s.IsSound) (key : TabKey) : (s.rowsOf key).tabs.length ≤ 1 := by
  have hkeys : (s.tabs.map Tab.key).Nodup := by
    apply List.Nodup.of_map TabKey.tabId
    rw [List.map_map]
    exact hs.tabIds
  exact length_filter_le_one hkeys key

theorem length_pending (hs : s.IsSound) (key : TabKey) : (s.rowsOf key).pending.length ≤ 1 :=
  length_filter_le_one hs.pendingTabs key

theorem sorted_billsOf (hs : s.IsSound) (key : TabKey) :
    (s.billsOf key).Pairwise fun a b => a.id < b.id :=
  (List.pairwise_map.mp hs.billIds).filter _

/-- Renumbering that leaves the bills of a tab alone leaves all its rows alone. -/
theorem renumbered_rowsOf (hs : s.IsSound) (hbills : ∀ b ∈ (s.rowsOf key).bills, ρ b.id = b.id) :
    (s.rowsOf key).renumbered ρ = s.rowsOf key := by
  have hitems : ∀ k ∈ s.itemLines.map (·.key), k.tab = key → ρ k.billId = k.billId := by
    intro k hk hkey
    obtain ⟨b, hb, htab, hid⟩ := hasBill_iff.mp (hs.anchored.items k hk).1
    rw [← hid]
    exact hbills b (List.mem_filter.mpr ⟨hb, decide_eq_true (htab.trans hkey)⟩)
  refine TabRows.renumbered_eq_self hbills ?_ ?_
  · intro l hl
    obtain ⟨hmem, hkey⟩ := List.mem_filter.mp hl
    exact hitems l.key (List.mem_map_of_mem hmem) (of_decide_eq_true hkey)
  · intro l hl
    obtain ⟨hmem, hkey⟩ := List.mem_filter.mp hl
    have hitem := (hs.anchored.variants l.key (List.mem_map_of_mem hmem)).1
    exact hitems l.key.item hitem (of_decide_eq_true hkey)

end IsSound

namespace SameFor

theorem shop? (h : SameFor key s s') (id : Int) : s'.shop? id = s.shop? id :=
  (find?_eq_of_perm h.catalogue.shops h.sound.catalogue.shops fun _ => of_decide_eq_true).symm

theorem tab? (h : SameFor key s s') : s'.tab? key = s.tab? key := by
  rw [tab?_eq_head?, tab?_eq_head?,
    eq_of_perm_of_length_le_one h.rows.tabs (h.sound.length_tabs key)]

theorem pending? (h : SameFor key s s') : s'.pending? key = s.pending? key := by
  rw [pending?_eq_head?, pending?_eq_head?,
    eq_of_perm_of_length_le_one h.rows.pending (h.sound.length_pending key)]

/-- The bills of the tab stand in the same order, that of their numbers. -/
theorem billsOf (h : SameFor key s s') : s'.billsOf key = s.billsOf key := by
  refine h.rows.bills.symm.eq_of_pairwise ?_ (h.sound'.sorted_billsOf key) (h.sound.sorted_billsOf key)
  intro a b _ _ hab hba
  omega

/-- They agree under every renumbering that leaves the bills of the tab alone. -/
theorem agree (h : SameFor key s s') (hbills : ∀ b ∈ (s.rowsOf key).bills, ρ b.id = b.id) :
    Agree ρ key s s' where
  catalogue := h.catalogue
  rows := by
    rw [h.sound.renumbered_rowsOf hbills]
    exact h.rows

/-! ### The overview -/

/-- What is put in the order of names and numbers comes out the same from any order, where name and number
tell the rows apart. -/
theorem mergeSort_nameIdLe_eq {α : Type} (name : α → String) (id : α → Int) {rows rows' : List α}
    (h : rows.Perm rows')
    (hsame : ∀ a ∈ rows, ∀ b ∈ rows, name a = name b → id a = id b → a = b) :
    (rows.mergeSort fun a b => nameIdLe (name a, id a) (name b, id b)) =
      rows'.mergeSort fun a b => nameIdLe (name a, id a) (name b, id b) := by
  have hsorted := fun rows => @List.pairwise_mergeSort α
    (fun a b => nameIdLe (name a, id a) (name b, id b))
    (fun _ _ _ => nameIdLe_trans) (fun _ _ => nameIdLe_total _ _) rows
  refine List.Perm.eq_of_pairwise ?_ (hsorted rows) (hsorted rows')
    (((List.mergeSort_perm rows _).trans h).trans (List.mergeSort_perm rows' _).symm)
  intro a b ha hb hab hba
  have ha := (List.mergeSort_perm rows _).mem_iff.mp ha
  have hb := h.mem_iff.mpr ((List.mergeSort_perm rows' _).mem_iff.mp hb)
  obtain ⟨hname, hid⟩ := Prod.mk.inj (nameIdLe_antisymm hab hba)
  exact hsame a ha b hb hname hid

theorem variantView? (h : SameFor key s s') (l : Line VariantKey) : s'.variantView? l = s.variantView? l := by
  have hfound := find?_eq_of_perm (p := fun v => v.shopId = l.key.tab.shopId && v.itemId = l.key.itemId &&
    v.id = l.key.variantId) h.catalogue.variants h.sound.catalogue.variants fun v hv =>
      of_decide_eq_true (Bool.and_eq_true_iff.mp hv).2
  exact congrArg (Option.map _) hfound.symm

theorem variantViews (h : SameFor key s s') {item : ItemKey} (hitem : item.tab = key) :
    s'.variantViews item = s.variantViews item := by
  have hlines : ∀ t : Store, t.variantLines.filter (·.key.item = item) =
      (t.rowsOf key).variantLines.filter (·.key.item = item) := by
    intro t
    rw [rowsOf, rowsWhere, List.filter_filter]
    apply List.filter_congr
    intro l _
    by_cases hl : l.key.item = item
    · have htab : l.key.tab = key := by rw [← hitem, ← hl]; rfl
      simp [hl, htab]
    · simp [hl]
  have hperm := (h.rows.variantLines.filter (·.key.item = item)).filterMap s.variantView?
  rw [← hlines, ← hlines] at hperm
  rw [Store.variantViews, Store.variantViews, funext h.variantView?]
  refine (mergeSort_nameIdLe_eq VariantView.name VariantView.id hperm ?_).symm
  intro a ha b hb _ hid
  have hnodup := (((List.mergeSort_perm _ _).map VariantView.id).nodup_iff.mp (nodup_variantViews h.sound item))
  exact List.inj_on_of_nodup_map hnodup ha hb hid

theorem itemView? (h : SameFor key s s') {l : Line ItemKey} (hl : l.key.tab = key) :
    s'.itemView? l = s.itemView? l := by
  have hfound := find?_eq_of_perm (p := fun i => i.shopId = l.key.tab.shopId && i.id = l.key.itemId)
    h.catalogue.items h.sound.catalogue.items fun i hi =>
      of_decide_eq_true (Bool.and_eq_true_iff.mp hi).2
  rw [Store.itemView?, Store.itemView?, h.variantViews hl]
  exact congrArg (Option.map _) hfound.symm

theorem itemViews (h : SameFor key s s') (billId : Int) : s'.itemViews key billId = s.itemViews key billId := by
  have hlines : ∀ t : Store, (t.itemLines.filter fun l => l.key.tab = key && l.key.billId = billId) =
      (t.rowsOf key).itemLines.filter (·.key.billId = billId) := by
    intro t
    rw [rowsOf, rowsWhere, List.filter_filter]
    apply List.filter_congr
    intro l _
    rw [Bool.and_comm]
  have hperm := (h.rows.itemLines.filter (·.key.billId = billId)).filterMap s.itemView?
  have hviews : ((s'.rowsOf key).itemLines.filter (·.key.billId = billId)).filterMap s'.itemView? =
      ((s'.rowsOf key).itemLines.filter (·.key.billId = billId)).filterMap s.itemView? := by
    apply List.filterMap_congr
    intro l hl
    exact h.itemView? (of_decide_eq_true (List.mem_filter.mp (List.mem_filter.mp hl).1).2)
  rw [← hviews, ← hlines, ← hlines] at hperm
  refine (mergeSort_nameIdLe_eq ItemView.name ItemView.id hperm ?_).symm
  intro a ha b hb _ hid
  have hnodup := (((List.mergeSort_perm _ _).map ItemView.id).nodup_iff.mp (nodup_itemViews h.sound key billId))
  exact List.inj_on_of_nodup_map hnodup ha hb hid

theorem sortedEmails (h : SameFor key s s') : s'.sortedEmails key = s.sortedEmails key := by
  have hsorted := @List.pairwise_mergeSort String (fun a b => decide (a ≤ b))
    (by simpa using fun a b c => String.le_trans) (by simpa using String.le_total)
  have hperm : (s'.sortedEmails key).Perm (s.sortedEmails key) :=
    ((List.mergeSort_perm _ _).trans (h.rows.emails.symm.map _)).trans (List.mergeSort_perm _ _).symm
  refine hperm.eq_of_pairwise ?_ (hsorted _) (hsorted _)
  intro a b _ _ hab hba
  exact String.le_antisymm (of_decide_eq_true hab) (of_decide_eq_true hba)

theorem locationViews (h : SameFor key s s') : s'.locationViews key = s.locationViews key := by
  have hfound : ∀ id, (s'.locations.find? fun l => l.shopId = key.shopId && l.id = id) =
      s.locations.find? fun l => l.shopId = key.shopId && l.id = id := by
    intro id
    exact (find?_eq_of_perm h.catalogue.locations h.sound.catalogue.locations fun l hl =>
      of_decide_eq_true (Bool.and_eq_true_iff.mp hl).2).symm
  have hperm := ((h.rows.places.map (·.key)).filterMap fun id =>
    (s.locations.find? fun l => l.shopId = key.shopId && l.id = id).map fun l => (l.id, l.name))
  rw [Store.locationViews, Store.locationViews]
  simp only [hfound]
  refine (mergeSort_nameIdLe_eq Prod.snd Prod.fst hperm ?_).symm
  intro a _ b _ hname hid
  exact Prod.ext hid hname

/-- The overview of the tab is the same. -/
theorem overview (h : SameFor key s s') {tab : Tab} (htab : tab.key = key) :
    s'.overview tab = s.overview tab := by
  obtain rfl := htab
  have hbills : s'.billViews tab.key = s.billViews tab.key := by
    rw [billViews, billViews, sortedBills, sortedBills, h.billsOf]
    apply List.map_congr_left
    intro b _
    rw [h.itemViews]
  rw [Store.overview, Store.overview, hbills, tabView, tabView, h.pending?, h.sortedEmails, h.locationViews]

end SameFor

end Store

end ShopTabs
