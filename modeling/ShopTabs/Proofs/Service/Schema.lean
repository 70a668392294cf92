import ShopTabs.Proofs.Service.Closing
import ShopTabs.Proofs.Service.Life
/-!
What the tables guarantee at all times.  No two rows of a kind have one key, and a row that refers to
another finds it: a line of an item stands on a bill of its tab and is of an item of the shop, and a line of
a variant stands beside the line of its item.  Every request keeps it so.
-/

namespace ShopTabs

/-- What a line refers to is there: the bill and the item of an item line, the item line and the variant
of a variant line. -/
structure Store.LinesAnchored (s : Store) : Prop where
  items : ∀ k ∈ s.itemLines.map (·.key),
    s.hasBill k.tab k.billId = true ∧ s.hasItem k.tab.shopId k.itemId = true
  variants : ∀ k ∈ s.variantLines.map (·.key),
    k.item ∈ s.itemLines.map (·.key) ∧ s.hasVariant k.tab.shopId k.itemId k.variantId = true

/-- No two people have one number, nor have two rows of one kind in the catalogues. -/
structure Catalogue.IsKeyed (c : Catalogue) : Prop where
  users : (c.users.map (·.id)).Nodup
  shops : (c.shops.map (·.id)).Nodup
  locations : (c.locations.map (·.id)).Nodup
  items : (c.items.map (·.id)).Nodup
  variants : (c.variants.map (·.id)).Nodup

/-- No two rows of a kind have one key, bills stand in the order of their numbers, and lines find what
they refer to. -/
structure Store.IsSound (s : Store) : Prop where
  catalogue : s.catalogue.IsKeyed
  tabIds : (s.tabs.map (·.id)).Nodup
  pendingTabs : (s.pending.map (·.tab)).Nodup
  emails : s.emails.Nodup
  places : s.places.Nodup
  billIds : (s.bills.map (·.id)).Pairwise (· < ·)
  itemKeys : (s.itemLines.map (·.key)).Nodup
  variantKeys : (s.variantLines.map (·.key)).Nodup
  anchored : s.LinesAnchored

/-! ### Keys -/

namespace Store

variable {s s' : Store} {key : TabKey}

theorem map_tab_stage {u : PendingUpdate} :
    (s.stage u).pending.map (·.tab) =
      if u.tab ∈ s.pending.map (·.tab) then s.pending.map (·.tab) else s.pending.map (·.tab) ++ [u.tab] := by
  have hany : s.pending.any (·.tab = u.tab) = true ↔ u.tab ∈ s.pending.map (·.tab) := by
    simp
  rw [stage]
  by_cases hmem : u.tab ∈ s.pending.map (·.tab)
  · rw [if_pos (hany.mpr hmem), if_pos hmem, List.map_map]
    apply List.map_congr_left
    intro p _
    rw [Function.comp_apply]
    split
    · next hsame => exact hsame.symm
    · rfl
  · rw [if_neg (fun h => hmem (hany.mp h)), if_neg hmem, List.map_append, List.map_singleton]

theorem nodup_stage {u : PendingUpdate} (h : (s.pending.map (·.tab)).Nodup) :
    ((s.stage u).pending.map (·.tab)).Nodup := by
  rw [map_tab_stage]
  split
  · exact h
  · next hnew =>
      rw [← List.concat_eq_append]
      exact h.concat hnew

theorem nodup_unstage (h : (s.pending.map (·.tab)).Nodup) :
    ((s.unstage key).pending.map (·.tab)).Nodup :=
  h.sublist (List.filter_sublist.map _)

theorem nodup_withEmails {emails : Option (List String)} (h : s.emails.Nodup) :
    (s.withEmails key emails).emails.Nodup := by
  cases emails with
  | none => exact h
  | some wanted => exact Membership.nodup_replace h

theorem nodup_withPlaces {places : Option (List Int)} (h : s.places.Nodup) :
    (s.withPlaces key places).places.Nodup := by
  cases places with
  | none => exact h
  | some wanted => exact Membership.nodup_replace h

theorem sorted_withBill {w : Window} (h : (s.bills.map (·.id)).Pairwise (· < ·)) :
    ((s.withBill (s.newBill key w false)).bills.map (·.id)).Pairwise (· < ·) := by
  rw [withBill_bills, List.map_append, List.map_singleton, List.pairwise_append]
  refine ⟨h, List.pairwise_singleton _ _, ?_⟩
  intro id hid _ hnew
  rw [List.mem_singleton.mp hnew]
  exact lt_nextId hid

@[simp] theorem audited_emails {caller : Caller} {event : Event} :
    (s.audited caller key event).emails = s.emails := rfl

theorem hasBill_iff {id : Int} : s.hasBill key id = true ↔ ∃ b ∈ s.bills, b.tab = key ∧ b.id = id := by
  simp [hasBill]

theorem hasItem_congr {shopId id : Int} (h : s'.items = s.items) :
    s'.hasItem shopId id = s.hasItem shopId id := by rw [hasItem, hasItem, h]

theorem hasVariant_congr {shopId itemId id : Int} (h : s'.variants = s.variants) :
    s'.hasVariant shopId itemId id = s.hasVariant shopId itemId id := by rw [hasVariant, hasVariant, h]

end Store

theorem TabsAfter.nodup_pending {s s' : Store} (h : TabsAfter s s')
    (hs : (s.pending.map (·.tab)).Nodup) : (s'.pending.map (·.tab)).Nodup := by
  rcases h with ⟨_, pending⟩ | ⟨_, _, _, pending⟩ | ⟨_, _, _, pending⟩ | ⟨_, _, _, pending⟩ | ⟨_, pending⟩
  · rw [pending]
    exact hs
  · rw [pending]
    exact hs
  · rw [pending]
    exact Store.nodup_stage hs
  · rw [pending]
    exact Store.nodup_unstage hs
  · rw [pending]
    exact Store.nodup_unstage hs

namespace BooksAfter

variable {s s' : Store} {booking : Option Booking}

/-- Bills stay in the order of their numbers. -/
theorem sorted (h : BooksAfter s s' booking) (hids : (s.bills.map (·.id)).Pairwise (· < ·)) :
    (s'.bills.map (·.id)).Pairwise (· < ·) := by
  cases h with
  | untouched bills items variants =>
      rw [bills]
      exact hids
  | paid bills items variants =>
      rw [bills, Store.map_id_updateBill]
      exact hids
  | booked tab orderable selected billId bills items variants =>
      rw [bills]
      cases selected with
      | kept found unpaid => exact hids
      | opened seen window free => exact Store.sorted_withBill hids

/-- A bill that is there is still there. -/
theorem hasBill (h : BooksAfter s s' booking) {key : TabKey} {id : Int}
    (hbill : s.hasBill key id = true) : s'.hasBill key id = true := by
  obtain ⟨b, hb, htab, hid⟩ := Store.hasBill_iff.mp hbill
  obtain ⟨b', hb', hgoes⟩ := h.exists_goesOn hb
  exact Store.hasBill_iff.mpr ⟨b', hb', hgoes.tab.trans htab, hgoes.id.trans hid⟩

theorem nodup_lines (h : BooksAfter s s' booking) (hs : s.IsSound) :
    (s'.itemLines.map (·.key)).Nodup ∧ (s'.variantLines.map (·.key)).Nodup := by
  cases h with
  | untouched bills items variants | paid bills items variants =>
      rw [items, variants]
      exact ⟨hs.itemKeys, hs.variantKeys⟩
  | booked tab orderable selected billId bills items variants =>
      exact ⟨items.nodup hs.itemKeys, variants.nodup hs.variantKeys⟩

end BooksAfter

/-! ### References -/

/-- Lines that are written keep their keys, and each new one finds what it refers to. -/
theorem Ledger.write_keys {s s' : Store} {items : List (Change ItemKey)}
    {variants : List (Change VariantKey)} {direction : Direction} {n m : Nat}
    (h : write s items variants direction = .ok (n, m, s')) :
    ∃ newItems newVariants,
      s'.itemLines.map (·.key) = s.itemLines.map (·.key) ++ newItems ∧
      s'.variantLines.map (·.key) = s.variantLines.map (·.key) ++ newVariants ∧
      (∀ k ∈ newItems, s.hasBill k.tab k.billId = true ∧ s.hasItem k.tab.shopId k.itemId = true) ∧
      ∀ k ∈ newVariants, k.item ∈ s'.itemLines.map (·.key) ∧
        s.hasVariant k.tab.shopId k.itemId k.variantId = true := by
  obtain ⟨itemTotals, variantTotals, _, _, _, hanchored, _, _, rfl⟩ := write_eq_ok.mp h
  have hitemKeys : (settle direction items itemTotals s.itemLines).map (·.key) =
      s.itemLines.map (·.key) ++ newKeys s.itemLines itemTotals := map_key_settle
  refine ⟨_, _, hitemKeys, map_key_settle, hanchored.items, ?_⟩
  intro k hk
  obtain ⟨hitem, hoffered⟩ := hanchored.variants k hk
  refine ⟨?_, hoffered⟩
  rw [map_key_merge, ← hitemKeys] at hitem
  exact hitem

namespace Store.LinesAnchored

variable {s s' : Store}

/-- Where bills and catalogue are still there, only new lines have to be looked at. -/
theorem extend (hs : s.LinesAnchored) (hitems : s'.items = s.items) (hvariants : s'.variants = s.variants)
    (hbills : ∀ {key id}, s.hasBill key id = true → s'.hasBill key id = true)
    {newItems : List ItemKey} {newVariants : List VariantKey}
    (hitemKeys : s'.itemLines.map (·.key) = s.itemLines.map (·.key) ++ newItems)
    (hvariantKeys : s'.variantLines.map (·.key) = s.variantLines.map (·.key) ++ newVariants)
    (hnewItems : ∀ k ∈ newItems, s'.hasBill k.tab k.billId = true ∧ s'.hasItem k.tab.shopId k.itemId = true)
    (hnewVariants : ∀ k ∈ newVariants, k.item ∈ s'.itemLines.map (·.key) ∧
      s'.hasVariant k.tab.shopId k.itemId k.variantId = true) : s'.LinesAnchored := by
  constructor
  · intro k hk
    rw [hitemKeys] at hk
    rcases List.mem_append.mp hk with hold | hnew
    · obtain ⟨hbill, hitem⟩ := hs.items k hold
      exact ⟨hbills hbill, (hasItem_congr hitems).trans hitem⟩
    · exact hnewItems k hnew
  · intro k hk
    rw [hvariantKeys] at hk
    rcases List.mem_append.mp hk with hold | hnew
    · obtain ⟨hitem, hvariant⟩ := hs.variants k hold
      refine ⟨?_, (hasVariant_congr hvariants).trans hvariant⟩
      rw [hitemKeys]
      exact List.mem_append_left _ hitem
    · exact hnewVariants k hnew

theorem of_lines_eq (hs : s.LinesAnchored) (hitems : s'.items = s.items)
    (hvariants : s'.variants = s.variants)
    (hbills : ∀ {key id}, s.hasBill key id = true → s'.hasBill key id = true)
    (hitemLines : s'.itemLines = s.itemLines) (hvariantLines : s'.variantLines = s.variantLines) :
    s'.LinesAnchored := by
  have hitemKeys : s'.itemLines.map (·.key) = s.itemLines.map (·.key) ++ [] := by
    rw [hitemLines, List.append_nil]
  have hvariantKeys : s'.variantLines.map (·.key) = s.variantLines.map (·.key) ++ [] := by
    rw [hvariantLines, List.append_nil]
  exact hs.extend hitems hvariants hbills hitemKeys hvariantKeys (by simp) (by simp)

end Store.LinesAnchored

theorem Selectable.linesAnchored {terms : BillingTerms} {key : TabKey} {s : Store}
    {selection : Selection} (h : Selectable terms key s selection) (hs : s.LinesAnchored) :
    selection.store.LinesAnchored := by
  cases h with
  | kept found unpaid => exact hs
  | opened seen window free =>
      refine hs.of_lines_eq rfl rfl ?_ rfl rfl
      intro key id hbill
      obtain ⟨b, hb, htab, hid⟩ := Store.hasBill_iff.mp hbill
      exact Store.hasBill_iff.mpr ⟨b, List.mem_append_left _ hb, htab, hid⟩

/-- An order leaves lines that find what they refer to. -/
theorem Ledger.Applied.linesAnchored {env : Surroundings} {key : TabKey} {o : Form.Order}
    {direction : Direction} {on : Option Day} {s : Store} {receipt : Receipt}
    (h : Applied env key o direction on s receipt) (hs : s.LinesAnchored) :
    receipt.store.LinesAnchored := by
  obtain ⟨_, _, _, _, _, hselect, hwritten⟩ := h
  have hselected := (selectBill_selectable hselect).linesAnchored hs
  obtain ⟨newItems, newVariants, hitemKeys, hvariantKeys, hnewItems, hnewVariants⟩ := write_keys hwritten
  obtain ⟨itemLines, variantLines, rfl⟩ := write_frame hwritten
  exact hselected.extend rfl rfl id hitemKeys hvariantKeys hnewItems hnewVariants

/-! ### Every request -/

namespace Effect

variable {env : Surroundings} {caller : Caller} {s s' : Store} {op : Operation} {reply : Reply}

theorem linesAnchored (h : Effect env caller s op reply s') (hs : s.LinesAnchored) :
    s'.LinesAnchored := by
  have hbooks := h.booksAfter
  have hitems : s'.items = s.items := congrArg Catalogue.items h.catalogue_eq
  have hvariants : s'.variants = s.variants := congrArg Catalogue.variants h.catalogue_eq
  cases h with
  | orderAdded allowed applied | orderRemoved allowed applied =>
      exact (applied.linesAnchored hs).of_lines_eq rfl rfl id rfl rfl
  | _ =>
      obtain ⟨hitemLines, hvariantLines⟩ := hbooks.lines_of_none
      exact hs.of_lines_eq hitems hvariants hbooks.hasBill hitemLines hvariantLines

/-- No address stands twice on the verification list of a tab. -/
theorem nodup_emails (h : Effect env caller s op reply s') (hs : s.emails.Nodup) : s'.emails.Nodup := by
  cases h with
  | tabCreated | verificationListSet => exact Membership.nodup_replace hs
  | updateSubmitted =>
      rw [Store.audited_emails, Store.withPlaces_emails]
      exact Store.nodup_withEmails hs
  | orderAdded allowed applied | orderRemoved allowed applied =>
      obtain ⟨_, _, _, hframe⟩ := applied.frame
      rw [hframe]
      exact hs
  | _ => exact hs

/-- No location belongs to a tab twice. -/
theorem nodup_places (h : Effect env caller s op reply s') (hs : s.places.Nodup) : s'.places.Nodup := by
  cases h with
  | tabCreated => exact Membership.nodup_replace hs
  | updateSubmitted =>
      apply Store.nodup_withPlaces
      rw [Store.withEmails_places]
      exact hs
  | orderAdded allowed applied | orderRemoved allowed applied =>
      obtain ⟨_, _, _, hframe⟩ := applied.frame
      rw [hframe]
      exact hs
  | _ => exact hs

/-- What the tables guarantee, they guarantee after every operation. -/
theorem isSound (h : Effect env caller s op reply s') (hs : s.IsSound) : s'.IsSound := by
  have hbooks := h.booksAfter
  obtain ⟨hitemKeys, hvariantKeys⟩ := hbooks.nodup_lines hs
  exact
    { catalogue := by
        rw [h.catalogue_eq]
        exact hs.catalogue
      tabIds := h.tabsAfter.nodup_ids hs.tabIds
      pendingTabs := h.tabsAfter.nodup_pending hs.pendingTabs
      emails := h.nodup_emails hs.emails
      places := h.nodup_places hs.places
      billIds := hbooks.sorted hs.billIds
      itemKeys := hitemKeys
      variantKeys := hvariantKeys
      anchored := h.linesAnchored hs.anchored }

end Effect

namespace Store.IsSound

variable {s : Store}

theorem perform (hs : s.IsSound) (env : Surroundings) (caller : Caller) (ask : Submission) :
    (ask.perform env caller s).store.IsSound := by
  rcases ask.perform_cases env caller s with ⟨_, hstore⟩ | ⟨op, reply, _, _, heffect⟩
  · rw [hstore]
    exact hs
  · exact heffect.isSound hs

theorem run (hs : s.IsSound) (history : List Service.Request) : (s.run history).IsSound :=
  Store.run_invariant (fun r _ h => h.perform r.env r.caller r.ask) hs history

end Store.IsSound

theorem Sample.store_isSound : Sample.store.IsSound where
  catalogue := by constructor <;> decide +kernel
  tabIds := by decide +kernel
  pendingTabs := by decide +kernel
  emails := by decide +kernel
  places := by decide +kernel
  billIds := by decide +kernel
  itemKeys := by decide +kernel
  variantKeys := by decide +kernel
  anchored := by constructor <;> decide +kernel

end ShopTabs
