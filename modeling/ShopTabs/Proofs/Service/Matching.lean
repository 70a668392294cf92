import ShopTabs.Proofs.Service.Alike
/-!
Attempts that come to the same on two stores.  Where the stores agree on a tab, each step of an order on it
either succeeds on both, and leaves stores that agree, or fails on both for one cause.  Only a bill that is
opened in between may have different numbers.
-/

namespace ShopTabs

/-- The cause of a failure with other numbers of bills; no other cause names a bill. -/
def Failure.renumbered (ρ : Int → Int) : Failure → Failure
  | overdrawn items variants =>
    overdrawn (items.map (Overdraft.mapKey (·.renumbered ρ))) (variants.map (Overdraft.mapKey (·.renumbered ρ)))
  | cause => cause

/-- Two attempts both succeed, with results that are related, or both fail for one cause. -/
inductive Matches (ρ : Int → Int) {α β : Type} (R : α → β → Prop) :
    Except Failure α → Except Failure β → Prop where
  | ok {a : α} {b : β} (related : R a b) : Matches ρ R (.ok a) (.ok b)
  | error (cause : Failure) : Matches ρ R (.error cause) (.error (cause.renumbered ρ))

namespace Matches

variable {ρ : Int → Int} {α β γ δ : Type} {R : α → β → Prop} {S : γ → δ → Prop}

/-- Steps that match one after the other match as a whole. -/
theorem bind {x : Except Failure α} {y : Except Failure β} {next : α → Except Failure γ}
    {next' : β → Except Failure δ} (h : Matches ρ R x y)
    (hnext : ∀ a b, x = .ok a → R a b → Matches ρ S (next a) (next' b)) :
    Matches ρ S (x >>= next) (y >>= next') := by
  cases h with
  | ok related => exact hnext _ _ rfl related
  | error cause => exact .error cause

theorem map {x : Except Failure α} {y : Except Failure β} {f : α → γ} {g : β → δ} (h : Matches ρ R x y)
    (hmap : ∀ a b, R a b → S (f a) (g b)) : Matches ρ S (x.map f) (y.map g) := by
  cases h with
  | ok related => exact .ok (hmap _ _ related)
  | error cause => exact .error cause

/-! ### Checks -/

theorem requireWord (n : Int) : Matches ρ Eq (requireWord n) (requireWord n) := by
  rw [ShopTabs.requireWord]
  split
  · exact .ok rfl
  · exact .error .wideNumber

theorem requireWords (key : TabKey) : Matches ρ Eq (requireWords key) (requireWords key) :=
  (Matches.requireWord _).bind fun _ _ _ _ => .requireWord _

theorem ensure {c c' : Bool} (h : c' = c) (cause : Failure) :
    Matches ρ Eq (ensure c cause) (ensure c' (cause.renumbered ρ)) := by
  rw [h, ShopTabs.ensure, ShopTabs.ensure]
  split
  · exact .ok rfl
  · exact .error cause

theorem orFail {o o' : Option α} (h : o' = o) (cause : Failure) :
    Matches ρ Eq (orFail cause o) (orFail (cause.renumbered ρ) o') := by
  rw [h]
  cases o with
  | none => exact .error cause
  | some a => exact .ok rfl

theorem forM {check : α → Except Failure Unit} (hcheck : ∀ a, Matches ρ Eq (check a) (check a))
    (as : List α) : Matches ρ Eq (as.forM check) (as.forM check) := by
  induction as with
  | nil => exact .ok rfl
  | cons a rest ih => exact (hcheck a).bind fun _ _ _ _ => ih

theorem dayOr (env : Surroundings) (on : Option Day) : Matches ρ Eq (env.dayOr on) (env.dayOr on) := by
  cases on with
  | some day => exact .ok rfl
  | none =>
      rw [Surroundings.dayOr, Surroundings.today]
      split
      · next fault _ => exact .error (.zoneName fault _)
      · exact .orFail rfl (.span .outsideCalendar)

theorem ensureOrderable (t : Tab) (day : Day) :
    Matches ρ Eq (Ledger.ensureOrderable t day) (Ledger.ensureOrderable t day) :=
  (Matches.ensure rfl .tabClosed).bind fun _ _ _ _ =>
    (Matches.ensure rfl .tabNotActiveYet).bind fun _ _ _ _ => .ensure rfl .tabNoLongerActive

end Matches

/-! ### Quantities -/

theorem ItemKey.rankLe_renumbered {ρ : Int → Int} {k l : ItemKey} (htab : k.tab = l.tab)
    (hbill : k.billId = l.billId) :
    rankLe (k.renumbered ρ).rank (l.renumbered ρ).rank = rankLe k.rank l.rank := by
  simp [rank, renumbered, rankLe, htab, hbill]

theorem VariantKey.rankLe_renumbered {ρ : Int → Int} {k l : VariantKey} (htab : k.tab = l.tab)
    (hbill : k.billId = l.billId) :
    rankLe (k.renumbered ρ).rank (l.renumbered ρ).rank = rankLe k.rank l.rank := by
  simp [rank, ItemKey.rank, VariantKey.item, renumbered, rankLe, htab, hbill]

namespace Ledger

section Totals

variable {κ : Type} [DecidableEq κ] {changes : List (Change κ)}

/-- Sums fail only where they go beyond 64 bits. -/
theorem eq_sumOverflow_of_totals {cause : Failure} (h : Ledger.totals changes = .error cause) :
    cause = .sumOverflow := by
  unfold Ledger.totals at h
  generalize distinct (changes.map (·.key)) = keys at h
  induction keys with
  | nil => cases h
  | cons key rest ih =>
      rw [List.mapM_cons] at h
      cases hsum : sumOnto 0 (changesTo changes key) with
      | none =>
          rw [hsum] at h
          cases h
          rfl
      | some total =>
          simp only [hsum, bind, Except.bind] at h
          split at h
          · next hrest =>
              cases h
              exact ih hrest
          · cases h

theorem matches_totals {ρ : Int → Int} {f : κ → κ} (hf : Function.Injective f) :
    Matches ρ (fun totals totals' => totals' = totals.map (Change.mapKey f)) (Ledger.totals changes)
      (Ledger.totals (changes.map (Change.mapKey f))) := by
  rw [totals_mapKey hf]
  cases htotals : Ledger.totals changes with
  | ok totals => exact .ok rfl
  | error cause =>
      rw [eq_sumOverflow_of_totals htotals]
      exact .error .sumOverflow

theorem forall_mem_totals {totals : List (Change κ)} {P : κ → Prop} (h : Ledger.totals changes = .ok totals)
    (hchanges : ∀ c ∈ changes, P c.key) : ∀ t ∈ totals, P t.key := by
  intro t ht
  obtain ⟨c, hc, hkey⟩ := List.mem_map.mp ((mem_totals_iff h).mp (List.mem_map_of_mem ht))
  rw [← hkey]
  exact hchanges c hc

/-- The same is overdrawn on lines that answer to each other. -/
theorem Corresponds.matches_overdrafts {ρ : Int → Int} {f : κ → κ} {p : κ → Bool} {lines lines' : List (Line κ)}
    (h : Corresponds f p lines lines') (hf : Function.Injective f) (hp : ∀ key, p (f key) = p key)
    (hnodup : (lines.map (·.key)).Nodup) {rank : κ → List Int} (hchanges : ∀ c ∈ changes, p c.key = true)
    (hrank : ∀ c ∈ changes, ∀ d ∈ changes,
      rankLe (rank (f c.key)) (rank (f d.key)) = rankLe (rank c.key) (rank d.key)) :
    Matches ρ (fun found found' => found' = found.map (Overdraft.mapKey f))
      (do return Ledger.overdrafts rank lines (← Ledger.totals changes))
      (do return Ledger.overdrafts rank lines' (← Ledger.totals (changes.map (Change.mapKey f)))) := by
  refine (matches_totals hf).bind ?_
  rintro totals _ htotals rfl
  refine .ok (h.overdrafts hf hp hnodup
    (forall_mem_totals (P := fun key => p key = true) htotals hchanges) ?_)
  intro t ht
  have hleft := forall_mem_totals (P := fun key => ∀ d ∈ changes,
    rankLe (rank (f key)) (rank (f d.key)) = rankLe (rank key) (rank d.key)) htotals hrank t ht
  exact forall_mem_totals (P := fun key =>
    rankLe (rank (f t.key)) (rank (f key)) = rankLe (rank t.key) (rank key)) htotals hleft

end Totals

end Ledger

namespace Store.Agree

variable {ρ : Int → Int} {key : TabKey} {s s' : Store}

/-- The catalogues have the same of what an order refers to. -/
theorem ensureKnown (h : Agree ρ key s s') (shopId : Int) (o : Form.Order) :
    Matches ρ Eq (Catalog.ensureKnown s shopId o) (Catalog.ensureKnown s' shopId o) := by
  have hitems : Catalog.unknownItems s' shopId o = Catalog.unknownItems s shopId o := by
    simp only [Catalog.unknownItems, h.hasItem]
  have hpairs : Catalog.unknownPairs s' shopId o = Catalog.unknownPairs s shopId o := by
    simp only [Catalog.unknownPairs, Catalog.foundPairs, h.hasVariant]
  rw [Catalog.ensureKnown, Catalog.ensureKnown, hitems, hpairs]
  exact (Matches.requireWord _).bind fun _ _ _ _ => (Matches.forM .requireWord _).bind fun _ _ _ _ =>
    (Matches.forM (fun p => .requireWord p.2) _).bind fun _ _ _ _ => .ensure rfl (.unknownReferences _ _)

/-! ### The bill of a day -/

/-- A bill is opened in both stores or in neither; its numbers are the next ones. -/
theorem addBill (h : Agree ρ key s s')
    (hnext : ρ (nextId (s.bills.map (·.id))) = nextId (s'.bills.map (·.id))) (w : Window) :
    Matches ρ (fun a b => b.1 = ρ a.1 ∧ Agree ρ key a.2 b.2) (s.addBill key w false)
      (s'.addBill key w false) := by
  refine (Matches.requireWords key).bind fun _ _ _ _ =>
    (Matches.ensure (by rw [h.hasOpenStart]) .constraint).bind fun _ _ _ _ =>
    (Matches.ensure h.hasTab .constraint).bind fun _ _ _ _ => .ok ⟨hnext.symm, ?_⟩
  have hbill : (s.newBill key w false).renumbered ρ = s'.newBill key w false := by
    rw [newBill, newBill, Bill.renumbered, hnext]
  have hadded := h.withBill (b := s.newBill key w false) rfl
  rw [hbill] at hadded
  exact hadded

/-- The same bill is selected, or both stores open one. -/
theorem selectBill (h : Agree ρ key s s') (hbills : s'.billsOf key = s.billsOf key)
    (hstay : ∀ b ∈ s.billsOf key, ρ b.id = b.id)
    (hnext : ρ (nextId (s.bills.map (·.id))) = nextId (s'.bills.map (·.id))) (terms : BillingTerms)
    (day : Day) (attempts blindReads : Nat) :
    Matches ρ (fun a b => b.billId = ρ a.billId ∧ b.blindReads = a.blindReads ∧ Agree ρ key a.store b.store)
      (ShopTabs.selectBill terms key day attempts blindReads s)
      (ShopTabs.selectBill terms key day attempts blindReads s') := by
  induction attempts generalizing blindReads with
  | zero => exact .error .noBill
  | succ n ih =>
      simp only [ShopTabs.selectBill, hbills]
      cases hchoice : BillChoice.after terms
          (if blindReads = 0 then latestBill (s.billsOf key) else none) day with
      | error fault => exact .error (.span fault)
      | ok choice =>
          cases choice with
          | keep b =>
              have hmem : b ∈ s.billsOf key := by
                have hlatest := (BillChoice.after_eq_keep.mp hchoice).1
                split at hlatest
                · exact (latestBill_spec hlatest).1
                · cases hlatest
              exact .ok ⟨(hstay b hmem).symm, rfl, h⟩
          | openWindow w =>
              have hadd := h.addBill hnext w
              dsimp only
              generalize s.addBill key w false = added at hadd
              generalize s'.addBill key w false = added' at hadd
              cases hadd with
              | ok related => exact .ok ⟨related.1, rfl, related.2⟩
              | error cause =>
                  cases cause with
                  | constraint => exact ih _
                  | _ => exact .error _

/-! ### The lines of a bill -/

section Lines

variable {items : List (Change ItemKey)} {variants : List (Change VariantKey)} {billId : Int}

theorem itemOverdrafts (h : Agree ρ key s s') (hρ : Function.Injective ρ)
    (hkeys : (s.itemLines.map (·.key)).Nodup)
    (hitems : ∀ c ∈ items, c.key.tab = key ∧ c.key.billId = billId) :
    Matches ρ (fun found found' => found' = found.map (Overdraft.mapKey (·.renumbered ρ)))
      (s.itemOverdrafts items) (s'.itemOverdrafts (items.map (Change.mapKey (·.renumbered ρ)))) :=
  h.itemLines.matches_overdrafts (ItemKey.renumbered_injective hρ) (fun _ => rfl) hkeys
    (fun c hc => decide_eq_true (hitems c hc).1) fun c hc d hd =>
    ItemKey.rankLe_renumbered ((hitems c hc).1.trans (hitems d hd).1.symm)
      ((hitems c hc).2.trans (hitems d hd).2.symm)

theorem variantOverdrafts (h : Agree ρ key s s') (hρ : Function.Injective ρ)
    (hkeys : (s.variantLines.map (·.key)).Nodup)
    (hvariants : ∀ c ∈ variants, c.key.tab = key ∧ c.key.billId = billId) :
    Matches ρ (fun found found' => found' = found.map (Overdraft.mapKey (·.renumbered ρ)))
      (s.variantOverdrafts variants) (s'.variantOverdrafts (variants.map (Change.mapKey (·.renumbered ρ)))) :=
  h.variantLines.matches_overdrafts (VariantKey.renumbered_injective hρ) (fun _ => rfl) hkeys
    (fun c hc => decide_eq_true (hvariants c hc).1) fun c hc d hd =>
    VariantKey.rankLe_renumbered ((hvariants c hc).1.trans (hvariants d hd).1.symm)
      ((hvariants c hc).2.trans (hvariants d hd).2.symm)

/-- New item lines stand on bills of the tab, which are in both stores. -/
theorem mergeItems (h : Agree ρ key s s') (hρ : Function.Injective ρ)
    (hitems : ∀ c ∈ items, c.key.tab = key) :
    Matches ρ (fun a b => b.1 = a.1 ∧ Agree ρ key a.2 b.2) (s.mergeItems items)
      (s'.mergeItems (items.map (Change.mapKey (·.renumbered ρ)))) := by
  have hf := ItemKey.renumbered_injective hρ
  have hanchored : ∀ k : ItemKey, decide (k.tab = key) = true →
      (s'.hasBill k.tab (ρ k.billId) && s'.hasItem k.tab.shopId k.itemId) =
        (s.hasBill k.tab k.billId && s.hasItem k.tab.shopId k.itemId) := by
    intro k hk
    rw [of_decide_eq_true hk, h.hasBill hρ, h.hasItem]
  refine (Ledger.matches_totals hf).bind ?_
  rintro totals _ htotals rfl
  have htab := Ledger.forall_mem_totals (P := fun k => decide (k.tab = key) = true) htotals
    fun c hc => decide_eq_true (hitems c hc)
  refine (Matches.ensure (h.itemLines.all_newKeys hf (fun _ => rfl) htab hanchored) .constraint).bind
    fun _ _ _ _ => .ok ⟨List.length_map _, ?_⟩
  exact h.withItemLines (h.itemLines.merge hf (fun _ => rfl) htab)

/-- New variant lines stand beside lines of their items, which are in both stores. -/
theorem mergeVariants (h : Agree ρ key s s') (hρ : Function.Injective ρ)
    (hvariants : ∀ c ∈ variants, c.key.tab = key) :
    Matches ρ (fun a b => b.1 = a.1 ∧ Agree ρ key a.2 b.2) (s.mergeVariants variants)
      (s'.mergeVariants (variants.map (Change.mapKey (·.renumbered ρ)))) := by
  have hf := VariantKey.renumbered_injective hρ
  have hanchored : ∀ k : VariantKey, decide (k.tab = key) = true →
      ((s'.itemLines.map (·.key)).contains (k.item.renumbered ρ) &&
          s'.hasVariant k.tab.shopId k.itemId k.variantId) =
        ((s.itemLines.map (·.key)).contains k.item && s.hasVariant k.tab.shopId k.itemId k.variantId) := by
    intro k hk
    have hitem : k.item.renumbered ρ ∈ s'.itemLines.map (·.key) ↔ k.item ∈ s.itemLines.map (·.key) :=
      h.itemLines.mem_keys (ItemKey.renumbered_injective hρ) (fun _ => rfl) hk
    rw [Bool.eq_iff_iff, Bool.and_eq_true, Bool.and_eq_true, List.contains_iff_mem, List.contains_iff_mem,
      hitem, h.hasVariant]
  refine (Ledger.matches_totals hf).bind ?_
  rintro totals _ htotals rfl
  have htab := Ledger.forall_mem_totals (P := fun k => decide (k.tab = key) = true) htotals
    fun c hc => decide_eq_true (hvariants c hc)
  refine (Matches.ensure (h.variantLines.all_newKeys hf (fun _ => rfl) htab hanchored) .constraint).bind
    fun _ _ _ _ => .ok ⟨List.length_map _, ?_⟩
  exact h.withVariantLines (h.variantLines.merge hf (fun _ => rfl) htab)

theorem clampItems (h : Agree ρ key s s') (hρ : Function.Injective ρ) (items : List (Change ItemKey)) :
    Agree ρ key (s.clampItems items).2 (s'.clampItems (items.map (Change.mapKey (·.renumbered ρ)))).2 := by
  have hclamped := h.itemLines.clamp (ItemKey.renumbered_injective hρ) (items.map (·.key))
  rw [← map_key_mapKey_changes] at hclamped
  exact h.withItemLines hclamped

theorem clampVariants (h : Agree ρ key s s') (hρ : Function.Injective ρ) (variants : List (Change VariantKey)) :
    Agree ρ key (s.clampVariants variants).2
      (s'.clampVariants (variants.map (Change.mapKey (·.renumbered ρ)))).2 := by
  have hclamped := h.variantLines.clamp (VariantKey.renumbered_injective hρ) (variants.map (·.key))
  rw [← map_key_mapKey_changes] at hclamped
  exact h.withVariantLines hclamped

/-- The changes of an order are written, or refused for the same lines. -/
theorem write (h : Agree ρ key s s') (hρ : Function.Injective ρ)
    (hitemKeys : (s.itemLines.map (·.key)).Nodup) (hvariantKeys : (s.variantLines.map (·.key)).Nodup)
    (hitems : ∀ c ∈ items, c.key.tab = key ∧ c.key.billId = billId)
    (hvariants : ∀ c ∈ variants, c.key.tab = key ∧ c.key.billId = billId) (direction : Direction) :
    Matches ρ (fun a b => b.1 = a.1 ∧ b.2.1 = a.2.1 ∧ Agree ρ key a.2.2 b.2.2)
      (Ledger.write s items variants direction)
      (Ledger.write s' (items.map (Change.mapKey (·.renumbered ρ)))
        (variants.map (Change.mapKey (·.renumbered ρ))) direction) := by
  have hitemWords : (items.map (Change.mapKey (·.renumbered ρ))).forM (fun c => requireWord c.amount) =
      items.forM fun c => requireWord c.amount := List.forM_map
  have hvariantWords : (variants.map (Change.mapKey (·.renumbered ρ))).forM (fun c => requireWord c.amount) =
      variants.forM fun c => requireWord c.amount := List.forM_map
  unfold Ledger.write
  extract_lets written written'
  -- What is written once nothing is refused.
  have hwritten : Matches ρ (fun a b => b.1 = a.1 ∧ b.2.1 = a.2.1 ∧ Agree ρ key a.2.2 b.2.2)
      (written ()) (written' ()) := by
    refine (h.mergeItems hρ fun c hc => (hitems c hc).1).bind ?_
    rintro ⟨count, merged⟩ ⟨_, merged'⟩ _ ⟨rfl, hmerged⟩
    refine (hmerged.mergeVariants hρ fun c hc => (hvariants c hc).1).bind ?_
    rintro ⟨countVariants, after⟩ ⟨_, after'⟩ _ ⟨rfl, hafter⟩
    dsimp only
    split
    · exact .ok ⟨rfl, rfl, (hafter.clampItems hρ items).clampVariants hρ variants⟩
    · exact .ok ⟨rfl, rfl, hafter⟩
  rw [hitemWords, hvariantWords]
  refine (Matches.forM (fun c => .requireWord c.amount) items).bind fun _ _ _ _ =>
    (Matches.forM (fun c => .requireWord c.amount) variants).bind fun _ _ _ _ => ?_
  split
  · refine (h.itemOverdrafts hρ hitemKeys hitems).bind ?_
    rintro shortItems _ _ rfl
    refine (h.variantOverdrafts hρ hvariantKeys hvariants).bind ?_
    rintro shortVariants _ _ rfl
    refine (Matches.ensure ?_ (.overdrawn shortItems shortVariants)).bind fun _ _ _ _ => hwritten
    rw [List.isEmpty_map, List.isEmpty_map]
  · exact hwritten

end Lines

end Store.Agree

end ShopTabs
