import ShopTabs.Proofs.Ledger.Fitting
/-!
What amounts leave of the lines they are given for.  A removal that clamps stops at zero; every other
direction adds or takes just what is given.  As no amount is below zero, two batches of amounts one after the
other leave what both leave at once, and the first fails only if both at once would.
-/

namespace ShopTabs

/-- What a direction leaves of a quantity by an amount. -/
def Direction.leaves : Direction → Int → Int → Int
  | add, q, n => q + n
  | remove .clamp, q, n => max 0 (q - n)
  | remove _, q, n => q - n

namespace Direction

variable {direction : Direction}

/-- A direction that clamps lifts what is left to zero; any other leaves the changed quantity. -/
theorem leaves_eq (direction : Direction) (q n : Int) : direction.leaves q n =
    if direction.clamps then max 0 (q + direction.change n) else q + direction.change n := by
  cases direction with
  | add => rfl
  | remove policy => cases policy <;> rfl

/-- Amounts moved one after the other leave what their sum leaves.  (What is below zero already is lifted by
the first.) -/
theorem leaves_leaves (direction : Direction) (q m : Int) {n : Int} (hn : 0 ≤ n) :
    direction.leaves (direction.leaves q m) n = direction.leaves q (m + n) := by
  simp only [leaves_eq, change_add]
  split
  · next hclamps =>
      have hchange : direction.change n = -n := by
        cases direction with
        | add => cases hclamps
        | remove policy => rfl
      omega
  · omega

variable {q m n : Int} (hn : 0 ≤ n) (hsum : isWord (q + direction.change (m + n)) = true)
include hn hsum

/-- Where two amounts do not lead out of 64 bits, the first does not. -/
theorem isWord_add_change (hm : 0 ≤ m) (hq : isWord q = true) : isWord (q + direction.change m) = true := by
  rw [change_add] at hsum
  rw [Ledger.isWord_iff] at *
  cases direction with
  | add =>
      simp only [change] at *
      omega
  | remove policy =>
      simp only [change] at *
      omega

theorem isWord_leaves (hm : 0 ≤ m) (hq : isWord q = true) : isWord (direction.leaves q m) = true := by
  have hchanged := isWord_add_change hn hsum hm hq
  rw [leaves_eq]
  split
  · rw [Ledger.isWord_iff] at *
    unfold wordBound at *
    omega
  · exact hchanged

/-- Neither does the second, from what the first leaves. -/
theorem isWord_leaves_add_change : isWord (direction.leaves q m + direction.change n) = true := by
  rw [change_add] at hsum
  rw [leaves_eq]
  split
  · next hclamps =>
      have hchange : ∀ k, direction.change k = -k := by
        cases direction with
        | add => cases hclamps
        | remove policy => exact fun _ => rfl
      rw [Ledger.isWord_iff] at *
      rw [hchange, hchange] at *
      unfold wordBound at *
      omega
  · rw [Int.add_assoc]
    exact hsum

end Direction

namespace Ledger

variable {κ : Type} [DecidableEq κ] {direction : Direction} {amounts first second : List (Change κ)}
  {lines lines' lines'' : List (Line κ)}

/-- Whole numbers of at most 64 bits are held under the keys of amounts, and the amounts do not lead out of
64 bits. -/
def Fits (direction : Direction) (amounts : List (Change κ)) (lines : List (Line κ)) : Prop :=
  ∀ k ∈ amounts.map (·.key), ∃ q, quantityOf lines k = .whole q ∧ isWord q = true ∧
    isWord (q + direction.change (given amounts k)) = true

/-- Lines after amounts were moved in a direction: under each of their keys stands what the direction leaves,
and under every other key what stood there. -/
structure Settled (direction : Direction) (amounts : List (Change κ)) (lines lines' : List (Line κ)) :
    Prop where
  nodup : (lines.map (·.key)).Nodup → (lines'.map (·.key)).Nodup
  mem_keys : ∀ k, k ∈ lines'.map (·.key) ↔ k ∈ lines.map (·.key) ∨ k ∈ amounts.map (·.key)
  moved : ∀ k ∈ amounts.map (·.key), ∃ q, quantityOf lines k = .whole q ∧
    quantityOf lines' k = .whole (direction.leaves q (given amounts k))
  others : ∀ k, k ∉ amounts.map (·.key) → quantityOf lines' k = quantityOf lines k

/-! ### One batch -/

/-- The quantity under a key after changes were settled. -/
theorem quantityOf_settle {changes totals : List (Change κ)} {k : κ} {q n : Int}
    (h : Ledger.totals changes = .ok totals) (hk : k ∈ changes.map (·.key))
    (hq : quantityOf lines k = .whole q) (hsum : (changesTo changes k).sum = direction.change n)
    (hword : isWord (q + direction.change n) = true) :
    quantityOf (settle direction changes totals lines) k = .whole (direction.leaves q n) := by
  have hmerged : quantityOf (merge lines totals) k = .whole (q + direction.change n) := by
    rw [quantityOf_merge h hk, hq, hsum, Quantity.add_whole hword]
  rw [settle, direction.leaves_eq]
  split
  · rw [quantityOf_clamp, hmerged, List.contains_iff_mem.mpr hk, Bool.and_true]
    split
    · next hbelow =>
        have hneg : q + direction.change n < 0 := by simpa [Quantity.isBelowZero] using hbelow
        rw [max_eq_left (by omega)]
    · next hbelow =>
        have hnonneg : 0 ≤ q + direction.change n := by simpa [Quantity.isBelowZero] using hbelow
        rw [max_eq_right hnonneg]
  · exact hmerged

theorem quantityOf_settle_of_not_mem {changes totals : List (Change κ)} {k : κ}
    (h : Ledger.totals changes = .ok totals) (hk : k ∉ changes.map (·.key)) :
    quantityOf (settle direction changes totals lines) k = quantityOf lines k := by
  rw [settle]
  split
  · have hcontains : (changes.map (·.key)).contains k = false := by
      rw [← Bool.not_eq_true, List.contains_iff_mem]
      exact hk
    rw [quantityOf_clamp, hcontains, Bool.and_false, if_neg Bool.false_ne_true,
      quantityOf_merge_of_not_mem h hk]
  · exact quantityOf_merge_of_not_mem h hk

/-- What is written of amounts that fit settles them. -/
theorem Rewritten.settled (h : Rewritten direction (changesIn direction amounts) lines lines')
    (hfits : Fits direction amounts lines) : Settled direction amounts lines lines' := by
  have hnodup := h.nodup
  obtain ⟨summed, _⟩ := h
  refine ⟨hnodup, ?_, ?_, ?_⟩
  · intro k
    rw [map_key_settle, ← map_key_merge, mem_keys_merge summed, map_key_changesIn]
  · intro k hk
    obtain ⟨q, hq, _, hword⟩ := hfits k hk
    refine ⟨q, hq, ?_⟩
    rw [← map_key_changesIn direction] at hk
    exact quantityOf_settle summed hk hq (sum_changesTo_changesIn k) hword
  · intro k hk
    rw [← map_key_changesIn direction] at hk
    exact quantityOf_settle_of_not_mem summed hk

/-! ### One batch after another -/

theorem given_append (k : κ) : given (first ++ second) k = given first k + given second k := by
  simp [given, changesTo, List.filter_append, List.map_append]

theorem given_of_not_mem {k : κ} (h : k ∉ amounts.map (·.key)) : given amounts k = 0 := by
  rw [given, changesTo_eq_nil h]
  rfl

theorem given_perm (h : first.Perm second) (k : κ) : given first k = given second k :=
  ((h.filter _).map _).sum_eq

namespace Settled

theorem refl : Settled direction [] lines lines := by
  refine ⟨fun h => h, ?_, ?_, fun _ _ => rfl⟩ <;> simp

/-- Two batches one after the other leave what both leave at once. -/
theorem trans (h : Settled direction first lines lines')
    (h' : Settled direction second lines' lines'') (hsecond : ∀ k, 0 ≤ given second k) :
    Settled direction (first ++ second) lines lines'' := by
  refine ⟨fun hnodup => h'.nodup (h.nodup hnodup), ?_, ?_, ?_⟩
  · intro k
    rw [h'.mem_keys, h.mem_keys, List.map_append, List.mem_append, or_assoc]
  · intro k hk
    rw [List.map_append, List.mem_append] at hk
    rw [given_append]
    by_cases hinFirst : k ∈ first.map (·.key)
    · obtain ⟨q, hq, hq'⟩ := h.moved k hinFirst
      refine ⟨q, hq, ?_⟩
      by_cases hinSecond : k ∈ second.map (·.key)
      · obtain ⟨r, hr, hr'⟩ := h'.moved k hinSecond
        cases hq'.symm.trans hr
        rw [hr', direction.leaves_leaves q _ (hsecond k)]
      · rw [h'.others k hinSecond, hq', given_of_not_mem hinSecond, Int.add_zero]
    · obtain ⟨q, hq, hq'⟩ := h'.moved k (hk.resolve_left hinFirst)
      rw [h.others k hinFirst] at hq
      refine ⟨q, hq, ?_⟩
      rw [hq', given_of_not_mem hinFirst, Int.zero_add]
  · intro k hk
    rw [List.map_append, List.mem_append, not_or] at hk
    rw [h'.others k hk.2, h.others k hk.1]

end Settled

/-- Lines with distinct keys are told by their keys and quantities. -/
theorem mem_iff_quantityOf (hnodup : (lines.map (·.key)).Nodup) {l : Line κ} :
    l ∈ lines ↔ l.key ∈ lines.map (·.key) ∧ quantityOf lines l.key = l.quantity := by
  constructor
  · intro hl
    exact ⟨List.mem_map_of_mem hl, quantityOf_of_mem hnodup hl⟩
  · rintro ⟨hkey, hquantity⟩
    obtain ⟨found, hfound, hsame⟩ := List.mem_map.mp hkey
    have hstands := quantityOf_of_mem hnodup hfound
    rw [hsame, hquantity] at hstands
    obtain ⟨key, quantity⟩ := found
    cases hsame
    cases hstands
    exact hfound

theorem perm_of_quantityOf (hnodup : (lines.map (·.key)).Nodup) (hnodup' : (lines'.map (·.key)).Nodup)
    (hkeys : ∀ k, k ∈ lines.map (·.key) ↔ k ∈ lines'.map (·.key))
    (hquantities : ∀ k, quantityOf lines k = quantityOf lines' k) : lines.Perm lines' := by
  rw [List.perm_ext_iff_of_nodup hnodup.of_map hnodup'.of_map]
  intro l
  rw [mem_iff_quantityOf hnodup, mem_iff_quantityOf hnodup', hkeys, hquantities]

/-- The order of amounts does not matter for what they leave. -/
theorem Settled.perm (h : Settled direction first lines lines')
    (h' : Settled direction second lines lines'') (hnodup : (lines.map (·.key)).Nodup)
    (hperm : first.Perm second) : lines'.Perm lines'' := by
  have hkeys : ∀ k, k ∈ first.map (·.key) ↔ k ∈ second.map (·.key) := fun _ => (hperm.map _).mem_iff
  refine perm_of_quantityOf (h.nodup hnodup) (h'.nodup hnodup) ?_ ?_
  · intro k
    rw [h.mem_keys, h'.mem_keys, hkeys]
  · intro k
    by_cases hk : k ∈ first.map (·.key)
    · obtain ⟨q, hq, hq'⟩ := h.moved k hk
      obtain ⟨r, hr, hr'⟩ := h'.moved k ((hkeys k).mp hk)
      cases hq.symm.trans hr
      rw [hq', hr', given_perm hperm]
    · rw [h.others k hk, h'.others k fun hin => hk ((hkeys k).mpr hin)]

theorem Fits.perm (h : Fits direction first lines) (hperm : first.Perm second) :
    Fits direction second lines := by
  intro k hk
  rw [← given_perm hperm]
  exact h k ((hperm.map _).mem_iff.mpr hk)

/-! ### Whether a batch is there to be taken -/

theorem Covers.perm (h : Covers lines first) (hperm : first.Perm second) : Covers lines second := by
  intro k hk
  rw [← given_perm hperm]
  exact h k ((hperm.map _).mem_iff.mpr hk)

/-- What is taken is there exactly where no line falls below zero by it. -/
theorem Fits.covers_iff (h : Fits direction amounts lines) (hrejects : direction.rejects = true) :
    Covers lines amounts ↔ ∀ k ∈ amounts.map (·.key), ∀ q, quantityOf lines k = .whole q →
      0 ≤ q - given amounts k := by
  have hsign : ∀ k ∈ amounts.map (·.key), ∀ q, quantityOf lines k = .whole q →
      (((quantityOf lines k).add (-given amounts k)).isBelowZero = false ↔ 0 ≤ q - given amounts k) := by
    intro k hk q hq
    obtain ⟨q', hq', _, hword⟩ := h k hk
    cases hq.symm.trans hq'
    rw [Direction.change_of_rejects hrejects] at hword
    rw [hq, Quantity.add_whole hword, ← Int.sub_eq_add_neg]
    simp [Quantity.isBelowZero]
  constructor
  · intro hcovers k hk q hq
    exact (hsign k hk q hq).mp (hcovers k hk)
  · intro hnonneg k hk
    obtain ⟨q, hq, _⟩ := h k hk
    exact (hsign k hk q hq).mpr (hnonneg k hk q hq)

section Append

variable (hfirst : ∀ k, 0 ≤ given first k) (hsecond : ∀ k, 0 ≤ given second k)
include hfirst hsecond

/-- Where both batches fit, the first fits. -/
theorem Fits.left (h : Fits direction (first ++ second) lines) : Fits direction first lines := by
  intro k hk
  obtain ⟨q, hq, hword, hsum⟩ := h k (by rw [List.map_append]; exact List.mem_append_left _ hk)
  rw [given_append] at hsum
  exact ⟨q, hq, hword, Direction.isWord_add_change (hsecond k) hsum (hfirst k) hword⟩

/-- Where both batches fit, the second fits what the first leaves. -/
theorem Fits.right (h : Fits direction (first ++ second) lines)
    (hsettled : Settled direction first lines lines') : Fits direction second lines' := by
  intro k hk
  obtain ⟨q, hq, hword, hsum⟩ := h k (by rw [List.map_append]; exact List.mem_append_right _ hk)
  rw [given_append] at hsum
  by_cases hinFirst : k ∈ first.map (·.key)
  · obtain ⟨q', hq', hleft⟩ := hsettled.moved k hinFirst
    cases hq.symm.trans hq'
    exact ⟨_, hleft, Direction.isWord_leaves (hsecond k) hsum (hfirst k) hword,
      Direction.isWord_leaves_add_change (hsecond k) hsum⟩
  · rw [given_of_not_mem hinFirst, Int.zero_add] at hsum
    rw [hsettled.others k hinFirst]
    exact ⟨q, hq, hword, hsum⟩

/-- Where both batches are there to be taken, the first is. -/
theorem Fits.covers_left (h : Fits direction (first ++ second) lines)
    (hrejects : direction.rejects = true) (hboth : Covers lines (first ++ second)) :
    Covers lines first := by
  rw [h.covers_iff hrejects] at hboth
  rw [(h.left hfirst hsecond).covers_iff hrejects]
  intro k hk q hq
  have hle := hboth k (by rw [List.map_append]; exact List.mem_append_left _ hk) q hq
  have hnonneg := hsecond k
  rw [given_append] at hle
  omega

/-- They are exactly where the first is and the second is still there after it. -/
theorem Fits.covers_append_iff (h : Fits direction (first ++ second) lines)
    (hrejects : direction.rejects = true) (hsettled : Settled direction first lines lines') :
    Covers lines (first ++ second) ↔ Covers lines first ∧ Covers lines' second := by
  have hleaves : ∀ q n, direction.leaves q n = q - n := by
    intro q n
    cases direction with
    | add => cases hrejects
    | remove policy =>
        cases policy with
        | clamp => cases hrejects
        | _ => rfl
  have hright := h.right hfirst hsecond hsettled
  constructor
  · intro hboth
    refine ⟨h.covers_left hfirst hsecond hrejects hboth, ?_⟩
    rw [h.covers_iff hrejects] at hboth
    rw [hright.covers_iff hrejects]
    intro k hk q hq
    have hin : k ∈ (first ++ second).map (·.key) := by
      rw [List.map_append]
      exact List.mem_append_right _ hk
    by_cases hinFirst : k ∈ first.map (·.key)
    · obtain ⟨q', hq', hleft⟩ := hsettled.moved k hinFirst
      have hle := hboth k hin q' hq'
      rw [hleaves] at hleft
      cases hq.symm.trans hleft
      rw [given_append] at hle
      omega
    · have hle := hboth k hin q ((hsettled.others k hinFirst).symm.trans hq)
      rw [given_append, given_of_not_mem hinFirst] at hle
      omega
  · rw [h.covers_iff hrejects, (h.left hfirst hsecond).covers_iff hrejects, hright.covers_iff hrejects]
    rintro ⟨hcoversFirst, hcoversSecond⟩ k hk q hq
    rw [List.map_append, List.mem_append] at hk
    rw [given_append]
    by_cases hinSecond : k ∈ second.map (·.key)
    · by_cases hinFirst : k ∈ first.map (·.key)
      · obtain ⟨q', hq', hleft⟩ := hsettled.moved k hinFirst
        cases hq.symm.trans hq'
        have hle := hcoversSecond k hinSecond _ hleft
        rw [hleaves] at hle
        omega
      · have hle := hcoversSecond k hinSecond q ((hsettled.others k hinFirst).trans hq)
        rw [given_of_not_mem hinFirst]
        omega
    · have hle := hcoversFirst k (hk.resolve_right hinSecond) q hq
      rw [given_of_not_mem hinSecond]
      omega

end Append

/-! ### The lines of an order -/

section Order

variable {o : Form.Order} {tab : TabKey} {billId : Int} {s s' : Store} {items : Int → Int}
  {variants : Int → Int → Int}

theorem given_itemChanges (tab : TabKey) (billId id : Int) :
    given (itemChanges o tab billId .add) ⟨tab, billId, id⟩ = (o.itemAmounts id).sum := by
  rw [given, changesTo_itemChanges, map_change_add]

theorem given_variantChanges (tab : TabKey) (billId item id : Int) :
    given (variantChanges o tab billId .add) ⟨tab, billId, item, id⟩ = (o.variantAmounts item id).sum := by
  rw [given, changesTo_variantChanges, map_change_add]

/-- The lines of a bill hold whole numbers of at most 64 bits under what an order names, and moving the order in
a direction does not lead out of 64 bits. -/
structure FitsOrder (s : Store) (tab : TabKey) (billId : Int) (o : Form.Order) (direction : Direction) :
    Prop where
  items : Fits direction (itemChanges o tab billId .add) s.itemLines
  variants : Fits direction (variantChanges o tab billId .add) s.variantLines

theorem FitsOrder.congr {direction : Direction} (h : FitsOrder s tab billId o direction)
    (hitems : s'.itemLines = s.itemLines) (hvariants : s'.variantLines = s.variantLines) :
    FitsOrder s' tab billId o direction := by
  refine ⟨?_, ?_⟩
  · rw [hitems]
    exact h.items
  · rw [hvariants]
    exact h.variants

/-- An order was moved in a direction on a bill, and nothing else is changed. -/
structure Moved (direction : Direction) (tab : TabKey) (billId : Int) (o : Form.Order) (s s' : Store) :
    Prop where
  items : Settled direction (itemChanges o tab billId .add) s.itemLines s'.itemLines
  variants : Settled direction (variantChanges o tab billId .add) s.variantLines s'.variantLines
  frame : ∃ itemLines variantLines, s' = (s.withItemLines itemLines).withVariantLines variantLines

/-- What is written of an order that fits moves it. -/
theorem FitsOrder.moved {n m : Nat} (h : FitsOrder s tab billId o direction)
    (hwritten : write s (itemChanges o tab billId direction) (variantChanges o tab billId direction)
      direction = .ok (n, m, s')) : Moved direction tab billId o s s' := by
  obtain ⟨itemLines, variantLines, hitems, hvariants, rfl⟩ := write_rewritten hwritten
  rw [itemChanges_eq] at hitems
  rw [variantChanges_eq] at hvariants
  exact ⟨hitems.settled h.items, hvariants.settled h.variants, itemLines, variantLines, rfl⟩

/-- The lines that an order names on a bill hold whole numbers of at most 64 bits, zero where there is no line,
and moving the order in a direction does not lead out of 64 bits. -/
structure HoldsFor (s : Store) (tab : TabKey) (billId : Int) (o : Form.Order) (direction : Direction)
    (items : Int → Int) (variants : Int → Int → Int) : Prop where
  items : ∀ id ∈ o.itemIds, quantityOf s.itemLines ⟨tab, billId, id⟩ = .whole (items id) ∧
    isWord (items id) = true ∧ isWord (items id + direction.change (o.itemAmounts id).sum) = true
  variants : ∀ p ∈ o.variantPairs,
    quantityOf s.variantLines ⟨tab, billId, p.1, p.2⟩ = .whole (variants p.1 p.2) ∧
      isWord (variants p.1 p.2) = true ∧
      isWord (variants p.1 p.2 + direction.change (o.variantAmounts p.1 p.2).sum) = true

namespace HoldsFor

variable (h : HoldsFor s tab billId o direction items variants)
include h

theorem congr (hitems : s'.itemLines = s.itemLines) (hvariants : s'.variantLines = s.variantLines) :
    HoldsFor s' tab billId o direction items variants := by
  refine ⟨?_, ?_⟩
  · rw [hitems]
    exact h.items
  · rw [hvariants]
    exact h.variants

theorem fitsOrder : FitsOrder s tab billId o direction := by
  refine ⟨?_, ?_⟩
  · intro k hk
    rw [map_key_itemChanges] at hk
    obtain ⟨id, hid, rfl⟩ := List.mem_map.mp hk
    obtain ⟨hq, hword, hsum⟩ := h.items id hid
    refine ⟨items id, hq, hword, ?_⟩
    rw [given_itemChanges]
    exact hsum
  · intro k hk
    rw [map_key_variantChanges] at hk
    obtain ⟨p, hp, rfl⟩ := List.mem_map.mp hk
    obtain ⟨hq, hword, hsum⟩ := h.variants p hp
    refine ⟨variants p.1 p.2, hq, hword, ?_⟩
    rw [given_variantChanges]
    exact hsum

end HoldsFor

/-- The lines that an order names on a bill hold what a direction leaves of what they held; all other lines
stay. -/
structure LeavesFor (s s' : Store) (tab : TabKey) (billId : Int) (o : Form.Order)
    (direction : Direction) (items : Int → Int) (variants : Int → Int → Int) : Prop where
  items : ∀ id ∈ o.itemIds, ⟨tab, billId, id⟩ ∈ s'.itemLines.map (·.key) ∧
    quantityOf s'.itemLines ⟨tab, billId, id⟩ =
      .whole (direction.leaves (items id) (o.itemAmounts id).sum)
  variants : ∀ p ∈ o.variantPairs, ⟨tab, billId, p.1, p.2⟩ ∈ s'.variantLines.map (·.key) ∧
    quantityOf s'.variantLines ⟨tab, billId, p.1, p.2⟩ =
      .whole (direction.leaves (variants p.1 p.2) (o.variantAmounts p.1 p.2).sum)
  otherItems : (s'.itemLines.filter fun l => l.key ∉ o.itemIds.map (ItemKey.mk tab billId)) =
    s.itemLines.filter fun l => l.key ∉ o.itemIds.map (ItemKey.mk tab billId)
  otherVariants : (s'.variantLines.filter fun l =>
      l.key ∉ o.variantPairs.map fun p => VariantKey.mk tab billId p.1 p.2) =
    s.variantLines.filter fun l =>
      l.key ∉ o.variantPairs.map fun p => VariantKey.mk tab billId p.1 p.2

/-- What is written of an order leaves just that. -/
theorem HoldsFor.leavesFor (h : HoldsFor s tab billId o direction items variants) {n m : Nat}
    (hwritten : write s (itemChanges o tab billId direction) (variantChanges o tab billId direction)
      direction = .ok (n, m, s')) :
    LeavesFor s s' tab billId o direction items variants := by
  obtain ⟨hsettledItems, hsettledVariants, _⟩ := h.fitsOrder.moved hwritten
  obtain ⟨itemLines, variantLines, hitems, hvariants, rfl⟩ := write_rewritten hwritten
  have hotherItems := hitems.filter_eq (p := fun k => k ∉ o.itemIds.map (ItemKey.mk tab billId)) (by
    intro c hc
    have hkey := List.mem_map_of_mem (f := Change.key) hc
    rw [map_key_itemChanges] at hkey
    simpa using hkey)
  have hotherVariants := hvariants.filter_eq
    (p := fun k => k ∉ o.variantPairs.map fun p => VariantKey.mk tab billId p.1 p.2) (by
      intro c hc
      have hkey := List.mem_map_of_mem (f := Change.key) hc
      rw [map_key_variantChanges] at hkey
      simpa using hkey)
  refine ⟨?_, ?_, hotherItems, hotherVariants⟩
  · intro id hid
    have hkey : ⟨tab, billId, id⟩ ∈ (itemChanges o tab billId .add).map (·.key) := by
      rw [map_key_itemChanges]
      exact List.mem_map_of_mem hid
    obtain ⟨q, hq, hleft⟩ := hsettledItems.moved _ hkey
    cases (h.items id hid).1.symm.trans hq
    rw [given_itemChanges] at hleft
    exact ⟨(hsettledItems.mem_keys _).mpr (Or.inr hkey), hleft⟩
  · intro p hp
    have hkey : ⟨tab, billId, p.1, p.2⟩ ∈ (variantChanges o tab billId .add).map (·.key) := by
      rw [map_key_variantChanges]
      exact List.mem_map_of_mem hp
    obtain ⟨q, hq, hleft⟩ := hsettledVariants.moved _ hkey
    cases (h.variants p hp).1.symm.trans hq
    rw [given_variantChanges] at hleft
    exact ⟨(hsettledVariants.mem_keys _).mpr (Or.inr hkey), hleft⟩

/-- What an order takes is not more than its lines hold. -/
def IsEnough (o : Form.Order) (items : Int → Int) (variants : Int → Int → Int) : Prop :=
  (∀ id ∈ o.itemIds, 0 ≤ items id - (o.itemAmounts id).sum) ∧
    ∀ p ∈ o.variantPairs, 0 ≤ variants p.1 p.2 - (o.variantAmounts p.1 p.2).sum

theorem HoldsFor.coversOrder_iff (h : HoldsFor s tab billId o direction items variants)
    (hrejects : direction.rejects = true) :
    CoversOrder s tab billId o ↔ IsEnough o items variants := by
  rw [CoversOrder, h.fitsOrder.items.covers_iff hrejects, h.fitsOrder.variants.covers_iff hrejects,
    map_key_itemChanges, map_key_variantChanges]
  constructor
  · rintro ⟨hitems, hvariants⟩
    refine ⟨?_, ?_⟩
    · intro id hid
      rw [← given_itemChanges tab billId]
      exact hitems _ (List.mem_map_of_mem hid) _ (h.items id hid).1
    · intro p hp
      rw [← given_variantChanges tab billId]
      exact hvariants _ (List.mem_map_of_mem hp) _ (h.variants p hp).1
  · rintro ⟨hitems, hvariants⟩
    refine ⟨?_, ?_⟩
    · intro k hk q hq
      obtain ⟨id, hid, rfl⟩ := List.mem_map.mp hk
      cases (h.items id hid).1.symm.trans hq
      rw [given_itemChanges]
      exact hitems id hid
    · intro k hk q hq
      obtain ⟨p, hp, rfl⟩ := List.mem_map.mp hk
      cases (h.variants p hp).1.symm.trans hq
      rw [given_variantChanges]
      exact hvariants p hp

end Order

end Ledger

end ShopTabs
