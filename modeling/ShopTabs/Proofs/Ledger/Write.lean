import ShopTabs.Proofs.Ledger.Merge
/-!
Writing an order's changes onto lines.  Nothing but lines is written.
-/

namespace ShopTabs

namespace Store

/-- The store with other lines of items. -/
def withItemLines (s : Store) (lines : List (Line ItemKey)) : Store := { s with itemLines := lines }

/-- The store with other lines of variants. -/
def withVariantLines (s : Store) (lines : List (Line VariantKey)) : Store :=
  { s with variantLines := lines }

variable {s s' : Store}

@[simp] theorem withItemLines_bills {lines : List (Line ItemKey)} :
    (s.withItemLines lines).bills = s.bills := rfl

@[simp] theorem withItemLines_tabs {lines : List (Line ItemKey)} :
    (s.withItemLines lines).tabs = s.tabs := rfl

@[simp] theorem withItemLines_pending {lines : List (Line ItemKey)} :
    (s.withItemLines lines).pending = s.pending := rfl

@[simp] theorem withVariantLines_bills {lines : List (Line VariantKey)} :
    (s.withVariantLines lines).bills = s.bills := rfl

@[simp] theorem withVariantLines_tabs {lines : List (Line VariantKey)} :
    (s.withVariantLines lines).tabs = s.tabs := rfl

@[simp] theorem withVariantLines_pending {lines : List (Line VariantKey)} :
    (s.withVariantLines lines).pending = s.pending := rfl

@[simp] theorem withItemLines_itemLines {lines : List (Line ItemKey)} :
    (s.withItemLines lines).itemLines = lines := rfl

@[simp] theorem withItemLines_variantLines {lines : List (Line ItemKey)} :
    (s.withItemLines lines).variantLines = s.variantLines := rfl

@[simp] theorem withVariantLines_itemLines {lines : List (Line VariantKey)} :
    (s.withVariantLines lines).itemLines = s.itemLines := rfl

@[simp] theorem withVariantLines_variantLines {lines : List (Line VariantKey)} :
    (s.withVariantLines lines).variantLines = lines := rfl

theorem mergeItems_eq_ok {changes : List (Change ItemKey)} {n : Nat} :
    s.mergeItems changes = .ok (n, s') ↔
      ∃ totals, Ledger.totals changes = .ok totals ∧
        (∀ k ∈ Ledger.newKeys s.itemLines totals,
          s.hasBill k.tab k.billId = true ∧ s.hasItem k.tab.shopId k.itemId = true) ∧
        n = totals.length ∧ s' = s.withItemLines (Ledger.merge s.itemLines totals) := by
  simp only [mergeItems, bind_eq_ok, ensure_eq_ok, pure_eq_ok, exists_const, Prod.mk.injEq,
    List.all_eq_true, Bool.and_eq_true, withItemLines]
  constructor
  · rintro ⟨totals, htotals, hnew, rfl, rfl⟩
    exact ⟨totals, htotals, hnew, rfl, rfl⟩
  · rintro ⟨totals, htotals, hnew, rfl, rfl⟩
    exact ⟨totals, htotals, hnew, rfl, rfl⟩

theorem mergeVariants_eq_ok {changes : List (Change VariantKey)} {n : Nat} :
    s.mergeVariants changes = .ok (n, s') ↔
      ∃ totals, Ledger.totals changes = .ok totals ∧
        (∀ k ∈ Ledger.newKeys s.variantLines totals, k.item ∈ s.itemLines.map (·.key) ∧
          s.hasVariant k.tab.shopId k.itemId k.variantId = true) ∧
        n = totals.length ∧ s' = s.withVariantLines (Ledger.merge s.variantLines totals) := by
  simp only [mergeVariants, bind_eq_ok, ensure_eq_ok, pure_eq_ok, exists_const, Prod.mk.injEq,
    List.all_eq_true, Bool.and_eq_true, List.contains_iff_mem, withVariantLines]
  constructor
  · rintro ⟨totals, htotals, hnew, rfl, rfl⟩
    exact ⟨totals, htotals, hnew, rfl, rfl⟩
  · rintro ⟨totals, htotals, hnew, rfl, rfl⟩
    exact ⟨totals, htotals, hnew, rfl, rfl⟩

end Store

namespace Ledger

variable {s s' : Store} {items : List (Change ItemKey)} {variants : List (Change VariantKey)}
  {direction : Direction} {itemLines variantLines : Nat}

theorem itemOverdrafts_eq_ok {totals : List (Change ItemKey)} {short : List (Overdraft ItemKey)}
    (h : Ledger.totals items = .ok totals) :
    s.itemOverdrafts items = .ok short ↔ overdrafts ItemKey.rank s.itemLines totals = short := by
  simp only [Store.itemOverdrafts, h, bind_eq_ok, pure_eq_ok, Except.ok.injEq, exists_eq_left']

theorem variantOverdrafts_eq_ok {totals : List (Change VariantKey)}
    {short : List (Overdraft VariantKey)} (h : Ledger.totals variants = .ok totals) :
    s.variantOverdrafts variants = .ok short ↔
      overdrafts VariantKey.rank s.variantLines totals = short := by
  simp only [Store.variantOverdrafts, h, bind_eq_ok, pure_eq_ok, Except.ok.injEq, exists_eq_left']

/-- Changes can be summed: their numbers and their sums have at most 64 bits. -/
structure Summed {κ : Type} [DecidableEq κ] (changes totals : List (Change κ)) : Prop where
  words : ∀ c ∈ changes, isWord c.amount = true
  totals : Ledger.totals changes = .ok totals

/-- Each line that totals would create finds what it refers to: the bill and the item of an item line, the
line of its item and the variant of a variant line. -/
structure Anchored (s : Store) (itemTotals : List (Change ItemKey))
    (variantTotals : List (Change VariantKey)) : Prop where
  items : ∀ k ∈ newKeys s.itemLines itemTotals,
    s.hasBill k.tab k.billId = true ∧ s.hasItem k.tab.shopId k.itemId = true
  variants : ∀ k ∈ newKeys s.variantLines variantTotals,
    k.item ∈ (merge s.itemLines itemTotals).map (·.key) ∧
      s.hasVariant k.tab.shopId k.itemId k.variantId = true

/-- The store with the lines of items and variants that a direction leaves. -/
def settled (s : Store) (direction : Direction) (items itemTotals : List (Change ItemKey))
    (variants variantTotals : List (Change VariantKey)) : Store :=
  (s.withItemLines (settle direction items itemTotals s.itemLines)).withVariantLines
    (settle direction variants variantTotals s.variantLines)

/-- Items and variants are merged, and perhaps clamped, exactly where their changes have sums and their new
lines are anchored. -/
theorem merged_iff :
    (∃ n s₁, s.mergeItems items = .ok (n, s₁) ∧ ∃ m s₂, s₁.mergeVariants variants = .ok (m, s₂) ∧
      n = itemLines ∧ m = variantLines ∧
      (if direction.clamps then ((s₂.clampItems items).2.clampVariants variants).2 else s₂) = s') ↔
    ∃ itemTotals variantTotals, Ledger.totals items = .ok itemTotals ∧
      Ledger.totals variants = .ok variantTotals ∧ Anchored s itemTotals variantTotals ∧
      itemLines = itemTotals.length ∧ variantLines = variantTotals.length ∧
      s' = settled s direction items itemTotals variants variantTotals := by
  have hsettled : ∀ itemTotals variantTotals,
      (if direction.clamps then
        ((((s.withItemLines (merge s.itemLines itemTotals)).withVariantLines
          (merge s.variantLines variantTotals)).clampItems items).2.clampVariants variants).2
      else (s.withItemLines (merge s.itemLines itemTotals)).withVariantLines
        (merge s.variantLines variantTotals)) =
        settled s direction items itemTotals variants variantTotals := by
    intro itemTotals variantTotals
    unfold settled settle
    split <;> rfl
  constructor
  · rintro ⟨n, s₁, hmergeItems, m, s₂, hmergeVariants, rfl, rfl, rfl⟩
    obtain ⟨_, hitems, hnewItems, rfl, rfl⟩ := Store.mergeItems_eq_ok.mp hmergeItems
    obtain ⟨_, hvariants, hnewVariants, rfl, rfl⟩ := Store.mergeVariants_eq_ok.mp hmergeVariants
    exact ⟨_, _, hitems, hvariants, ⟨hnewItems, hnewVariants⟩, rfl, rfl, hsettled _ _⟩
  · rintro ⟨itemTotals, variantTotals, hitems, hvariants, ⟨hnewItems, hnewVariants⟩, rfl, rfl, rfl⟩
    exact ⟨_, _, Store.mergeItems_eq_ok.mpr ⟨_, hitems, hnewItems, rfl, rfl⟩, _, _,
      Store.mergeVariants_eq_ok.mpr ⟨_, hvariants, hnewVariants, rfl, rfl⟩, rfl, rfl, hsettled _ _⟩

/-- Changes are written if they can be summed, nothing is overdrawn where this is refused, and new lines find
what they refer to. -/
theorem write_eq_ok : write s items variants direction = .ok (itemLines, variantLines, s') ↔
    ∃ itemTotals variantTotals, Summed items itemTotals ∧ Summed variants variantTotals ∧
      (direction.rejects = true → overdrafts ItemKey.rank s.itemLines itemTotals = [] ∧
        overdrafts VariantKey.rank s.variantLines variantTotals = []) ∧
      Anchored s itemTotals variantTotals ∧ itemLines = itemTotals.length ∧
      variantLines = variantTotals.length ∧
      s' = settled s direction items itemTotals variants variantTotals := by
  have hend : ∀ (n m : Nat) (s₂ : Store), (if direction.clamps = true then
        pure (n, m, ((s₂.clampItems items).2.clampVariants variants).2)
      else pure (n, m, s₂) : Except Failure (Nat × Nat × Store)) = .ok (itemLines, variantLines, s') ↔
      n = itemLines ∧ m = variantLines ∧
        (if direction.clamps then ((s₂.clampItems items).2.clampVariants variants).2 else s₂) = s' := by
    intro n m s₂
    split <;> simp [pure_eq_ok]
  unfold write
  by_cases hrejects : direction.rejects = true
  · simp only [hrejects, if_true, bind_eq_ok, forM_eq_ok, requireWord_eq_ok, ensure_eq_ok, hend,
      exists_const, Prod.exists, Bool.and_eq_true, List.isEmpty_iff, merged_iff, forall_const]
    constructor
    · rintro ⟨hitemWords, hvariantWords, _, hshortItems, _, hshortVariants, ⟨rfl, rfl⟩, itemTotals,
        variantTotals, hitems, hvariants, hrest⟩
      exact ⟨itemTotals, variantTotals, ⟨hitemWords, hitems⟩, ⟨hvariantWords, hvariants⟩,
        ⟨(itemOverdrafts_eq_ok hitems).mp hshortItems,
          (variantOverdrafts_eq_ok hvariants).mp hshortVariants⟩, hrest⟩
    · rintro ⟨itemTotals, variantTotals, ⟨hitemWords, hitems⟩, ⟨hvariantWords, hvariants⟩,
        ⟨hshortItems, hshortVariants⟩, hrest⟩
      exact ⟨hitemWords, hvariantWords, _, (itemOverdrafts_eq_ok hitems).mpr hshortItems, _,
        (variantOverdrafts_eq_ok hvariants).mpr hshortVariants, ⟨rfl, rfl⟩, itemTotals, variantTotals,
        hitems, hvariants, hrest⟩
  · simp only [hrejects, if_false, bind_eq_ok, forM_eq_ok, requireWord_eq_ok, hend, exists_const,
      Prod.exists, merged_iff, false_implies, true_and, Bool.false_eq_true]
    constructor
    · rintro ⟨hitemWords, hvariantWords, itemTotals, variantTotals, hitems, hvariants, hrest⟩
      exact ⟨itemTotals, variantTotals, ⟨hitemWords, hitems⟩, ⟨hvariantWords, hvariants⟩, hrest⟩
    · rintro ⟨itemTotals, variantTotals, ⟨hitemWords, hitems⟩, ⟨hvariantWords, hvariants⟩, hrest⟩
      exact ⟨hitemWords, hvariantWords, itemTotals, variantTotals, hitems, hvariants, hrest⟩

/-- Where something is overdrawn and this is refused, the overdrawn lines are what is reported. -/
theorem write_of_overdrawn {itemTotals : List (Change ItemKey)}
    {variantTotals : List (Change VariantKey)} (hrejects : direction.rejects = true)
    (hitems : Summed items itemTotals) (hvariants : Summed variants variantTotals)
    (hshort : ¬ (overdrafts ItemKey.rank s.itemLines itemTotals = [] ∧
      overdrafts VariantKey.rank s.variantLines variantTotals = [])) :
    write s items variants direction = .error (.overdrawn
      (overdrafts ItemKey.rank s.itemLines itemTotals)
      (overdrafts VariantKey.rank s.variantLines variantTotals)) := by
  have hitemWords : (items.forM fun c => requireWord c.amount) = .ok () :=
    forM_eq_ok.mpr fun c hc => requireWord_eq_ok.mpr (hitems.words c hc)
  have hvariantWords : (variants.forM fun c => requireWord c.amount) = .ok () :=
    forM_eq_ok.mpr fun c hc => requireWord_eq_ok.mpr (hvariants.words c hc)
  have hshortItems := (itemOverdrafts_eq_ok (s := s) hitems.totals).mpr rfl
  have hshortVariants := (variantOverdrafts_eq_ok (s := s) hvariants.totals).mpr rfl
  rw [← List.isEmpty_iff, ← List.isEmpty_iff, ← Bool.and_eq_true] at hshort
  simp only [write, hitemWords, hvariantWords, hrejects, hshortItems, hshortVariants, ensure, if_true,
    if_neg hshort, bind, Except.bind]

/-- Items and variants are written alike, and nothing else is written. -/
theorem write_rewritten (h : write s items variants direction = .ok (itemLines, variantLines, s')) :
    ∃ itemLines' variantLines', Rewritten direction items s.itemLines itemLines' ∧
      Rewritten direction variants s.variantLines variantLines' ∧
      s' = (s.withItemLines itemLines').withVariantLines variantLines' := by
  obtain ⟨itemTotals, variantTotals, hitems, hvariants, hcovered, _, _, _, rfl⟩ := write_eq_ok.mp h
  refine ⟨_, _, .intro hitems.totals ?_, .intro hvariants.totals ?_, rfl⟩
  · exact fun hrejects => covered_of_overdrafts hitems.totals (hcovered hrejects).1
  · exact fun hrejects => covered_of_overdrafts hvariants.totals (hcovered hrejects).2

theorem write_frame (h : write s items variants direction = .ok (itemLines, variantLines, s')) :
    ∃ itemLines' variantLines',
      s' = (s.withItemLines itemLines').withVariantLines variantLines' := by
  obtain ⟨itemLines', variantLines', _, _, rfl⟩ := write_rewritten h
  exact ⟨itemLines', variantLines', rfl⟩

end Ledger

end ShopTabs
