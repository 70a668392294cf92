import ShopTabs.Proofs.Billing.Acceptance
import ShopTabs.Proofs.Ledger.Bookings
import ShopTabs.Proofs.Ledger.Settlement
/-!
What taking an order off a bill comes to.  The policy decides: negative lines are kept, or lifted to zero, or
the whole removal is refused with the lines that fall short.  Only a lone pair, which the catalogue's lookup
misses, is refused whatever the policy.
-/

namespace ShopTabs

/-- The lines of an order that hold less than it takes are listed, each once, with what they hold and what
would be taken; items and variants apart. -/
structure ListsShort (tab : TabKey) (billId : Int) (o : Form.Order) (items : Int → Int)
    (variants : Int → Int → Int) (shortItems : List (Overdraft ItemKey))
    (shortVariants : List (Overdraft VariantKey)) : Prop where
  itemsOnce : (shortItems.map (·.key)).Nodup
  items : ∀ d, d ∈ shortItems ↔ ∃ id ∈ o.itemIds, items id - (o.itemAmounts id).sum < 0 ∧
    d = ⟨⟨tab, billId, id⟩, .whole (items id), -(o.itemAmounts id).sum⟩
  variantsOnce : (shortVariants.map (·.key)).Nodup
  variants : ∀ d, d ∈ shortVariants ↔ ∃ p ∈ o.variantPairs,
    variants p.1 p.2 - (o.variantAmounts p.1 p.2).sum < 0 ∧
      d = ⟨⟨tab, billId, p.1, p.2⟩, .whole (variants p.1 p.2), -(o.variantAmounts p.1 p.2).sum⟩

namespace Ledger

variable {κ : Type} [DecidableEq κ] {lines : List (Line κ)} {amounts : List (Change κ)}
  {direction : Direction} {short : List (Overdraft κ)}

/-- An overdraft is listed with the whole numbers that its line holds and that are taken. -/
theorem ListsOverdrafts.mem_iff_whole (h : ListsOverdrafts lines amounts short)
    (hfits : Fits direction amounts lines) (hrejects : direction.rejects = true) {d : Overdraft κ} :
    d ∈ short ↔ d.key ∈ amounts.map (·.key) ∧ ∃ q, quantityOf lines d.key = .whole q ∧
      q - given amounts d.key < 0 ∧ d = ⟨d.key, .whole q, -given amounts d.key⟩ := by
  rw [h.mem_iff]
  obtain ⟨key, current, delta⟩ := d
  refine and_congr_right fun hkey => ?_
  obtain ⟨q, hq, _, hword⟩ := hfits key hkey
  rw [Direction.change_of_rejects hrejects] at hword
  have hsign : ((Quantity.whole q).add (-given amounts key)).isBelowZero = true ↔
      q - given amounts key < 0 := by
    rw [Quantity.add_whole hword, ← Int.sub_eq_add_neg]
    simp [Quantity.isBelowZero]
  simp only [hq, Quantity.whole.injEq, Overdraft.mk.injEq, true_and, exists_eq_left']
  constructor
  · rintro ⟨rfl, rfl, hbelow⟩
    exact ⟨hsign.mp hbelow, rfl, rfl⟩
  · rintro ⟨hbelow, rfl, rfl⟩
    exact ⟨rfl, rfl, hsign.mpr hbelow⟩

/-- What the ledger reports of an order are the lines that fall short of it. -/
theorem HoldsFor.listsShort {s : Store} {tab : TabKey} {billId : Int} {o : Form.Order}
    {items : Int → Int} {variants : Int → Int → Int} {shortItems : List (Overdraft ItemKey)}
    {shortVariants : List (Overdraft VariantKey)}
    (h : HoldsFor s tab billId o direction items variants) (hrejects : direction.rejects = true)
    (hitems : ListsOverdrafts s.itemLines (itemChanges o tab billId .add) shortItems)
    (hvariants : ListsOverdrafts s.variantLines (variantChanges o tab billId .add) shortVariants) :
    ListsShort tab billId o items variants shortItems shortVariants := by
  refine ⟨hitems.nodup, ?_, hvariants.nodup, ?_⟩
  · intro d
    rw [hitems.mem_iff_whole h.fitsOrder.items hrejects, map_key_itemChanges]
    constructor
    · rintro ⟨hkey, q, hq, hbelow, hd⟩
      obtain ⟨id, hid, hsame⟩ := List.mem_map.mp hkey
      rw [← hsame] at hq hbelow hd
      cases (h.items id hid).1.symm.trans hq
      rw [given_itemChanges] at hbelow hd
      exact ⟨id, hid, hbelow, hd⟩
    · rintro ⟨id, hid, hbelow, rfl⟩
      refine ⟨List.mem_map_of_mem hid, items id, (h.items id hid).1, ?_, ?_⟩
      · rw [given_itemChanges]
        exact hbelow
      · rw [given_itemChanges]
  · intro d
    rw [hvariants.mem_iff_whole h.fitsOrder.variants hrejects, map_key_variantChanges]
    constructor
    · rintro ⟨hkey, q, hq, hbelow, hd⟩
      obtain ⟨p, hp, hsame⟩ := List.mem_map.mp hkey
      rw [← hsame] at hq hbelow hd
      cases (h.variants p hp).1.symm.trans hq
      rw [given_variantChanges] at hbelow hd
      exact ⟨p, hp, hbelow, hd⟩
    · rintro ⟨p, hp, hbelow, rfl⟩
      refine ⟨List.mem_map_of_mem hp, variants p.1 p.2, (h.variants p hp).1, ?_, ?_⟩
      · rw [given_variantChanges]
        exact hbelow
      · rw [given_variantChanges]

end Ledger

namespace Service.Request.MovesWell

variable {r : Request} {s : Store} {key : TabKey} {t : Tab} {o : Form.Order} {policy : RemovalPolicy}
  {day : Day} {selected : Selection} {items : Int → Int} {variants : Int → Int → Int}
  (h : r.MovesWell s key t o (.remove policy) day) (hlone : ¬ o.NamesLonePair)
  (hselect : selectBill t.config.billingTerms key day
    (attemptCount r.settings.billSelectionAttempts) 0 s = .ok selected)
  (hholds : Ledger.HoldsFor s key selected.billId o (.remove policy) items variants)
include h hlone hselect hholds

/-- Where enough is there, or the policy does not ask for it, the order is taken off the selected bill. -/
theorem removed (henough : policy = .reject → Ledger.IsEnough o items variants) :
    (r.outcome s).result = .ok (.ordered ⟨selected.billId, (distinct o.itemIds).length,
        (distinct o.variantPairs).length⟩) ∧
      (r.after s).bills = selected.store.bills ∧
      Ledger.LeavesFor s (r.after s) key selected.billId o (.remove policy) items variants := by
  obtain ⟨bills, hbills⟩ := (selectBill_selectable hselect).frame
  have hholds' : Ledger.HoldsFor selected.store key selected.billId o (.remove policy) items variants :=
    hholds.congr (by rw [hbills]) (by rw [hbills])
  have hcovers : (Direction.remove policy).rejects = true →
      Ledger.CoversOrder selected.store key selected.billId o := by
    intro hrejects
    rw [hholds'.coversOrder_iff hrejects]
    cases policy with
    | reject => exact henough rfl
    | _ => cases hrejects
  obtain ⟨s', hwritten, houtcome⟩ := h.moved hlone hselect hcovers
  have hleaves := hholds'.leavesFor hwritten
  obtain ⟨_, _, rfl⟩ := Ledger.write_frame hwritten
  refine ⟨by rw [houtcome], ?_, ?_⟩
  · rw [after, houtcome]
    rfl
  · rw [after, houtcome]
    rw [hbills] at hleaves
    exact ⟨hleaves.items, hleaves.variants, hleaves.otherItems, hleaves.otherVariants⟩

/-- Where not enough is there and the policy asks for it, the removal is refused with the lines that fall short,
and nothing is written. -/
theorem refused_with_short (hpolicy : policy = .reject) (hshort : ¬ Ledger.IsEnough o items variants) :
    ∃ shortItems shortVariants,
      r.outcome s = ⟨.error (.overdrawn shortItems shortVariants), s⟩ ∧
      ListsShort key selected.billId o items variants shortItems shortVariants := by
  subst hpolicy
  obtain ⟨bills, hbills⟩ := (selectBill_selectable hselect).frame
  have hholds' : Ledger.HoldsFor selected.store key selected.billId o (.remove .reject) items variants :=
    hholds.congr (by rw [hbills]) (by rw [hbills])
  have hcovers : ¬ Ledger.CoversOrder selected.store key selected.billId o := by
    rw [hholds'.coversOrder_iff rfl]
    exact hshort
  obtain ⟨shortItems, shortVariants, houtcome, hitems, hvariants⟩ :=
    h.refused_of_short hlone hselect rfl hcovers
  exact ⟨shortItems, shortVariants, houtcome, hholds'.listsShort rfl hitems hvariants⟩

end Service.Request.MovesWell

/-- Let a bill be selected for a removal against which nothing speaks, and let the lines that its order names on
the bill hold `items` and `variants`, zero where there is no line.  Unless the order names a lone pair, the
removal succeeds where its policy is not to reject, or no line holds less than the order takes in all.  Each
line that is named then holds the difference, or zero where the policy clamps what is below, and every other line
is left alone.  In the remaining case the removal is refused with the lines that hold less, and nothing is
written.  A lone pair is refused as unknown whatever the policy, though the shop has it. -/
theorem removal_follows_policy {r : Service.Request} {s : Store} {key : TabKey} {t : Tab}
    {o : Form.Order} {policy : RemovalPolicy} {day : Day} {selected : Selection} {items : Int → Int}
    {variants : Int → Int → Int} (hwell : r.MovesWell s key t o (.remove policy) day)
    (hselect : selectBill t.config.billingTerms key day
      (attemptCount r.settings.billSelectionAttempts) 0 s = .ok selected)
    (hholds : Ledger.HoldsFor s key selected.billId o (.remove policy) items variants) :
    (¬ o.NamesLonePair →
      ((∃ reply, (r.outcome s).result = .ok reply) ↔
        (policy = .reject → Ledger.IsEnough o items variants)) ∧
      ((policy = .reject → Ledger.IsEnough o items variants) →
        (r.outcome s).result = .ok (.ordered ⟨selected.billId, (distinct o.itemIds).length,
          (distinct o.variantPairs).length⟩) ∧
        (r.after s).bills = selected.store.bills ∧
        Ledger.LeavesFor s (r.after s) key selected.billId o (.remove policy) items variants) ∧
      (policy = .reject → ¬ Ledger.IsEnough o items variants → ∃ shortItems shortVariants,
        (r.outcome s).result = .error (.overdrawn shortItems shortVariants) ∧
        (Failure.overdrawn shortItems shortVariants).report? = some .validation ∧ r.after s = s ∧
        ListsShort key selected.billId o items variants shortItems shortVariants)) ∧
    (o.NamesLonePair → ∃ unknownItems unknownPairs,
      (r.outcome s).result = .error (.unknownReferences unknownItems unknownPairs) ∧ r.after s = s) := by
  refine ⟨fun hlone => ⟨?_, ?_, ?_⟩, ?_⟩
  · constructor
    · rintro ⟨reply, hreply⟩ hpolicy
      by_contra hshort
      obtain ⟨_, _, hrefused, _⟩ := hwell.refused_with_short hlone hselect hholds hpolicy hshort
      rw [hrefused] at hreply
      cases hreply
    · intro henough
      exact ⟨_, (hwell.removed hlone hselect hholds henough).1⟩
  · exact hwell.removed hlone hselect hholds
  · intro hpolicy hshort
    obtain ⟨shortItems, shortVariants, hrefused, hlists⟩ :=
      hwell.refused_with_short hlone hselect hholds hpolicy hshort
    refine ⟨shortItems, shortVariants, by rw [hrefused], rfl, ?_, hlists⟩
    rw [Service.Request.after, hrefused]
  · intro hlone
    have hrefused := hwell.refused_of_lonePair hlone
    refine ⟨_, _, by rw [hrefused], ?_⟩
    rw [Service.Request.after, hrefused]

/-- A coffee is ordered and taken back.  To take it back once more is refused with its line, which is at zero. -/
theorem removal_follows_policy_emptied :
    let reached := Sample.store.run [Sample.openTab 7, Sample.order 5, Sample.takeBack .reject 5]
    ∃ shortItems shortVariants, ((Sample.takeBack .reject 6).outcome reached).result =
        .error (.overdrawn shortItems shortVariants) ∧
      ∀ d, d ∈ shortItems ↔ d = ⟨⟨Sample.tab, 1, 1⟩, .whole 0, -1⟩ := by
  intro reached
  have hallowed : Service.authorizeTab (Sample.takeBack .reject 6).env
      (Sample.takeBack .reject 6).caller Sample.tab .order reached = .ok (Sample.openedTab 7) :=
    Service.authorizeTab_eq_ok.mpr ⟨by decide, by decide, by decide +kernel, ⟨1, 2, "Campus Cafe"⟩,
      by decide +kernel, by decide +kernel⟩
  have hwell : (Sample.takeBack .reject 6).MovesWell reached Sample.tab (Sample.openedTab 7)
      Sample.coffee (.remove .reject) (Sample.january 6) :=
    { asks := ⟨some (Sample.january 6), rfl, .remove rfl⟩
      allowed := hallowed
      known := ⟨by decide, by decide +kernel⟩
      orderable := ⟨by decide +kernel, by decide +kernel, by decide +kernel⟩
      offers := ⟨by decide +kernel, by decide +kernel⟩
      fits := Sample.coffee_fits }
  have hlatest : latestBill (reached.billsOf Sample.tab) =
      some ⟨1, Sample.tab, Sample.january 5, Sample.january 11, false⟩ := by decide +kernel
  have hselected : Selected (Sample.openedTab 7).config.billingTerms Sample.tab (Sample.january 6)
      reached ⟨1, reached, 0⟩ := .kept hlatest (by decide +kernel)
  have hselect := (selectBill_eq_ok (attemptCount_pos
    (Sample.takeBack .reject 6).settings.billSelectionAttempts)).mpr hselected
  have hholds : Ledger.HoldsFor reached Sample.tab 1 Sample.coffee (.remove .reject) (fun _ => 0)
      (fun _ _ => 0) := ⟨by decide +kernel, by decide +kernel⟩
  have hshort : ¬ Ledger.IsEnough Sample.coffee (fun _ => 0) (fun _ _ => 0) := by
    rintro ⟨hitems, _⟩
    exact absurd (hitems 1 (by decide)) (by decide)
  obtain ⟨shortItems, shortVariants, hresult, _, _, hlists⟩ :=
    ((removal_follows_policy hwell hselect hholds).1 Sample.coffee_not_lonePair).2.2 rfl hshort
  refine ⟨shortItems, shortVariants, hresult, ?_⟩
  intro d
  rw [hlists.items]
  simp [Form.Order.itemIds, Sample.coffee, Form.Order.itemAmounts]

end ShopTabs
