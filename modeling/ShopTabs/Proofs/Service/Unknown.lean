import ShopTabs.Proofs.Service.Ordering
import ShopTabs.Proofs.Service.Rows
/-!
Orders that refer to what a shop does not have.  They are refused with all that is unknown before anything is
written.  The check asks no less than what is written later: once an order has passed it, each of its lines
finds its bill, its item and its variant, so that nothing it refers to can stop it any more.
-/

namespace ShopTabs

/-! ### What is reported -/

namespace Failure

/-- A request is refused as invalid in the given words. -/
def Refuses (failure : Failure) (words : String) : Prop :=
  failure.report? = some .validation ∧ failure.message = words

theorem refuses_unknown_iff {failure : Failure} :
    failure.Refuses "Order references unknown items" ↔
      ∃ items pairs, failure = .unknownReferences items pairs := by
  constructor
  · rintro ⟨hreport, hwords⟩
    cases failure with
    | unknownReferences items pairs => exact ⟨items, pairs, rfl⟩
    | invalidForm | tabClosed | tabNotActiveYet | tabNoLongerActive | overdrawn | conflict =>
        exact absurd hwords (of_decide_eq_false rfl)
    | _ => cases hreport
  · rintro ⟨items, pairs, rfl⟩
    exact ⟨rfl, rfl⟩

theorem refuses_conflict_iff {failure : Failure} :
    failure.Refuses "Request references missing or conflicting data" ↔ failure = .conflict := by
  constructor
  · rintro ⟨hreport, hwords⟩
    cases failure with
    | conflict => rfl
    | invalidForm | tabClosed | tabNotActiveYet | tabNoLongerActive | overdrawn | unknownReferences =>
        exact absurd hwords (of_decide_eq_false rfl)
    | _ => cases hreport
  · rintro rfl
    exact ⟨rfl, rfl⟩

/-- Something that is referred to is missing, by the check of an order or by the rules of the store. -/
def IsOfReferences : Failure → Prop
  | unknownReferences .. | constraint | conflict => True
  | _ => False

theorem IsOfReferences.of_reported {cause : Failure} (h : cause.reported.IsOfReferences) :
    cause.IsOfReferences := by
  cases cause <;> exact h

end Failure

/-! ### What is unknown -/

namespace Catalog

/-- The lists name what of an order a shop does not have, each reference once: items by increasing numbers,
pairs of item and variant in lexicographic order.  A lone pair is always among them. -/
structure ListsUnknown (s : Store) (shopId : Int) (o : Form.Order) (items : List Int)
    (pairs : List (Int × Int)) : Prop where
  items_increase : items.Pairwise (· < ·)
  mem_items : ∀ id, id ∈ items ↔ id ∈ o.itemIds ∧ s.hasItem shopId id = false
  pairs_increase : pairs.Pairwise fun p q => p.1 < q.1 ∨ p.1 = q.1 ∧ p.2 < q.2
  mem_pairs : ∀ p, p ∈ pairs ↔
    p ∈ o.variantPairs ∧ (s.hasVariant shopId p.1 p.2 = false ∨ o.NamesLonePair)

theorem pairwise_sortedIds (ids : List Int) : (sortedIds ids).Pairwise (· < ·) := by
  refine (pairwise_mergeSort_of_nodup (by simpa using fun a b c => Int.le_trans)
    (by simpa using Int.le_total) (nodup_distinct ids)).imp ?_
  rintro a b ⟨hle, hne⟩
  exact Int.lt_iff_le_and_ne.mpr ⟨of_decide_eq_true hle, hne⟩

theorem rankLe_pair_iff {p q : Int × Int} :
    rankLe [p.1, p.2] [q.1, q.2] = true ↔ p.1 < q.1 ∨ p.1 = q.1 ∧ p.2 ≤ q.2 := by
  simp only [rankLe, Bool.and_true, Bool.or_eq_true, Bool.and_eq_true, decide_eq_true_eq,
    Int.le_iff_lt_or_eq]

theorem pairwise_sortedPairs (pairs : List (Int × Int)) :
    (sortedPairs pairs).Pairwise fun p q => p.1 < q.1 ∨ p.1 = q.1 ∧ p.2 < q.2 := by
  have htrans : ∀ p q r : Int × Int, rankLe [p.1, p.2] [q.1, q.2] = true →
      rankLe [q.1, q.2] [r.1, r.2] = true → rankLe [p.1, p.2] [r.1, r.2] = true := by
    intro p q r
    rw [rankLe_pair_iff, rankLe_pair_iff, rankLe_pair_iff]
    omega
  have htotal : ∀ p q : Int × Int,
      (rankLe [p.1, p.2] [q.1, q.2] || rankLe [q.1, q.2] [p.1, p.2]) = true := by
    intro p q
    rw [Bool.or_eq_true, rankLe_pair_iff, rankLe_pair_iff]
    omega
  refine (pairwise_mergeSort_of_nodup htrans htotal (nodup_distinct pairs)).imp ?_
  rintro ⟨a, b⟩ ⟨c, d⟩ ⟨hle, hne⟩
  rw [rankLe_pair_iff] at hle
  rw [ne_eq, Prod.mk.injEq] at hne
  dsimp only at hle ⊢
  omega

/-- What the check of an order reports. -/
theorem listsUnknown (s : Store) (shopId : Int) (o : Form.Order) :
    ListsUnknown s shopId o (unknownItems s shopId o) (unknownPairs s shopId o) where
  items_increase := pairwise_sortedIds _
  mem_items _ := mem_unknownItems
  pairs_increase := pairwise_sortedPairs _
  mem_pairs _ := mem_unknownPairs

end Catalog

/-! ### Steps that find all they refer to -/

/-- A step does not fail because something that is referred to is missing. -/
def FindsAll {α : Type} (x : Except Failure α) : Prop :=
  ∀ cause, x = .error cause → ¬ cause.IsOfReferences

namespace FindsAll

variable {α β : Type}

theorem ok (a : α) : FindsAll (.ok a) := by
  intro cause hcause
  cases hcause

theorem error {cause : Failure} (h : ¬ cause.IsOfReferences) : FindsAll (.error cause : Except Failure α) := by
  rintro _ ⟨⟩
  exact h

theorem bind {x : Except Failure α} {next : α → Except Failure β} (h : FindsAll x)
    (hnext : ∀ a, x = .ok a → FindsAll (next a)) : FindsAll (x >>= next) := by
  intro cause hcause
  rcases bind_eq_error.mp hcause with hfirst | ⟨a, ha, hsecond⟩
  · exact h cause hfirst
  · exact hnext a ha cause hsecond

theorem map {x : Except Failure α} {f : α → β} (h : FindsAll x) : FindsAll (x.map f) := by
  cases x with
  | error cause => exact error (h cause rfl)
  | ok a => exact ok (f a)

theorem requireWord (n : Int) : FindsAll (requireWord n) := by
  rw [ShopTabs.requireWord]
  split
  · exact ok ()
  · exact error id

theorem forM {check : α → Except Failure Unit} (h : ∀ a, FindsAll (check a)) (as : List α) :
    FindsAll (as.forM check) := by
  induction as with
  | nil => exact ok ()
  | cons a rest ih => exact (h a).bind fun _ _ => ih

/-- A check finds all if it passes or is about something else. -/
theorem ensure {condition : Bool} {cause : Failure}
    (h : condition = true ∨ ¬ cause.IsOfReferences) : FindsAll (ensure condition cause) := by
  rw [ShopTabs.ensure]
  split
  · exact ok ()
  · next hnot => exact error (h.resolve_left hnot)

end FindsAll

namespace Ledger

section Lines

variable {κ : Type} [DecidableEq κ]

theorem totals_findsAll (changes : List (Change κ)) : FindsAll (totals changes) := by
  unfold totals
  generalize distinct (changes.map (·.key)) = keys
  induction keys with
  | nil => exact .ok []
  | cons key rest ih =>
      rw [List.mapM_cons]
      refine FindsAll.bind ?_ fun total _ => ih.bind fun rest _ => .ok _
      split
      · exact .ok _
      · exact .error id

end Lines

variable {s : Store} {items : List (Change ItemKey)} {variants : List (Change VariantKey)}

/-- Items whose bills and catalogue entries are there can be merged. -/
theorem mergeItems_findsAll (h : ∀ k ∈ items.map (·.key),
      s.hasBill k.tab k.billId = true ∧ s.hasItem k.tab.shopId k.itemId = true) :
    FindsAll (s.mergeItems items) := by
  refine (totals_findsAll items).bind fun totals htotals => ?_
  refine FindsAll.bind (.ensure (Or.inl ?_)) fun _ _ => .ok _
  rw [List.all_eq_true]
  intro k hk
  rw [Bool.and_eq_true]
  exact h k (mem_of_mem_newKeys htotals hk)

/-- So can variants, if the lines of their items are there. -/
theorem mergeVariants_findsAll (h : ∀ k ∈ variants.map (·.key),
      k.item ∈ s.itemLines.map (·.key) ∧ s.hasVariant k.tab.shopId k.itemId k.variantId = true) :
    FindsAll (s.mergeVariants variants) := by
  refine (totals_findsAll variants).bind fun totals htotals => ?_
  refine FindsAll.bind (.ensure (Or.inl ?_)) fun _ _ => .ok _
  rw [List.all_eq_true]
  intro k hk
  rw [Bool.and_eq_true, List.contains_iff_mem]
  exact h k (mem_of_mem_newKeys htotals hk)

/-- Changes are written without a missing reference if their bills, items and variants are there and each
variant comes with its item. -/
theorem write_findsAll (hitems : ∀ k ∈ items.map (·.key),
      s.hasBill k.tab k.billId = true ∧ s.hasItem k.tab.shopId k.itemId = true)
    (hvariants : ∀ k ∈ variants.map (·.key),
      k.item ∈ items.map (·.key) ∧ s.hasVariant k.tab.shopId k.itemId k.variantId = true)
    (direction : Direction) : FindsAll (write s items variants direction) := by
  unfold write
  extract_lets written
  have hwritten : FindsAll (written ()) := by
    refine (mergeItems_findsAll hitems).bind ?_
    rintro ⟨_, merged⟩ hmerged
    obtain ⟨totals, htotals, _, _, rfl⟩ := Store.mergeItems_eq_ok.mp hmerged
    refine FindsAll.bind (mergeVariants_findsAll fun k hk => ?_) fun _ _ => ?_
    · obtain ⟨hitem, hvariant⟩ := hvariants k hk
      exact ⟨(mem_keys_merge htotals).mpr (Or.inr hitem), hvariant⟩
    · dsimp only
      split <;> exact .ok _
  refine (FindsAll.forM (fun c => .requireWord c.amount) items).bind fun _ _ =>
    (FindsAll.forM (fun c => .requireWord c.amount) variants).bind fun _ _ => ?_
  split
  · refine ((totals_findsAll items).bind fun _ _ => .ok _).bind fun _ _ =>
      ((totals_findsAll variants).bind fun _ _ => .ok _).bind fun _ _ => ?_
    exact FindsAll.bind (.ensure (Or.inr id)) fun _ _ => hwritten
  · exact hwritten

/-- What a shop has can be written onto a bill that is there. -/
theorem write_order_findsAll {o : Form.Order} {tab : TabKey} {billId : Int}
    (hoffers : s.Offers tab.shopId o) (hbill : s.hasBill tab billId = true) (direction : Direction) :
    FindsAll (write s (itemChanges o tab billId direction) (variantChanges o tab billId direction)
      direction) :=
  write_findsAll (itemChanges_there hoffers hbill) (variantChanges_there hoffers) direction

end Ledger

/-- A bill that cannot be added has a number too large, or a rule of the store is broken. -/
theorem Store.addBill_eq_error {s : Store} {key : TabKey} {w : Window} {isPaid : Bool} {cause : Failure}
    (h : s.addBill key w isPaid = .error cause) : cause = .wideNumber ∨ cause = .constraint := by
  simp only [addBill, requireWords, bind_eq_error, requireWord_eq_error, ensure_eq_error] at h
  rcases h with (⟨_, hwide⟩ | ⟨_, _, _, hwide⟩) | ⟨_, _, ⟨_, hbroken⟩ | ⟨_, _, ⟨_, hbroken⟩ | ⟨_, _, hnone⟩⟩⟩
  · exact Or.inl hwide.symm
  · exact Or.inl hwide.symm
  · exact Or.inr hbroken.symm
  · exact Or.inr hbroken.symm
  · cases hnone

/-- Selecting a bill may come to nothing, but not over a missing reference: a bill that cannot be added is
looked for again. -/
theorem selectBill_findsAll (terms : BillingTerms) (key : TabKey) (day : Day)
    (attempts blindReads : Nat) (s : Store) :
    FindsAll (selectBill terms key day attempts blindReads s) := by
  induction attempts generalizing blindReads with
  | zero => exact .error id
  | succ n ih =>
      simp only [selectBill]
      split
      · exact .error id
      · exact .ok _
      · split
        · exact .ok _
        · exact ih _
        · next cause hother hadd =>
            rcases Store.addBill_eq_error hadd with rfl | rfl
            · exact .error id
            · exact absurd rfl hother

section Ask

variable {env : Surroundings} {caller : Caller} {key : TabKey} {o : Form.Order} {direction : Direction}
  {on : Option Day} {s : Store} {day : Day} {t : Tab} {ask : Submission}

/-- Nothing that an order refers to is missing once it is known. -/
theorem Ledger.apply_findsAll (direction : Direction) (hday : env.dayOr on = .ok day)
    (hwords : isWord key.shopId = true ∧ isWord key.tabId = true) (htab : s.tab? key = some t)
    (horderable : t.IsOrderable day) (hnames : o.NamesWords) (hoffers : s.Offers key.shopId o)
    (hlone : ¬ o.NamesLonePair) : FindsAll (apply env key o direction on s) := by
  have hknown := (Catalog.ensureKnown_eq_ok_iff hwords.1 hnames).mpr ⟨hoffers, hlone⟩
  rw [apply_of_known direction hday hwords htab horderable hknown]
  refine FindsAll.bind (selectBill_findsAll _ _ _ _ _ _) fun selected hselect => FindsAll.map ?_
  have hselectable := selectBill_selectable hselect
  obtain ⟨bills, hbills⟩ := hselectable.frame
  exact write_order_findsAll (hoffers.congr (by rw [hbills]) (by rw [hbills])) hselectable.hasBill direction

/-- An order fails in the ledger or when it is put on record. -/
theorem Service.order_eq_error (hallowed : authorizeTab env caller key .order s = .ok t) {cause : Failure}
    (h : order env caller key o direction on s = .error cause) :
    Ledger.apply env key o direction on s = .error cause ∨
      ∃ receipt, Ledger.apply env key o direction on s = .ok receipt ∧
        record caller key (orderEvent receipt.result.billId direction) receipt.store = .error cause := by
  simp only [order, bind_eq_error, hallowed, reduceCtorEq, false_or, Except.ok.injEq, exists_eq_left',
    pure, Except.pure, and_false, exists_false, or_false] at h
  exact h

/-- The caller's number is too large for the record, or it is nobody's. -/
theorem Service.record_eq_error {event : Event} {cause : Failure}
    (h : record caller key event s = .error cause) :
    cause = .wideNumber ∨ cause = .constraint ∧ s.hasUser caller.principal.id = false := by
  simp only [record, bind_eq_error, requireWord_eq_error, ensure_eq_error] at h
  rcases h with ⟨_, hwide⟩ | ⟨_, _, ⟨hnobody, hbroken⟩ | ⟨_, _, hnone⟩⟩
  · exact Or.inl hwide.symm
  · exact Or.inr ⟨hbroken.symm, hnobody⟩
  · cases hnone

variable (hasks : ask.Asks env.settings key o on direction)
  (hallowed : Service.authorizeTab env caller key .order s = .ok t)
  (hfindsAll : FindsAll (Ledger.apply env key o direction on s)) {failure : Failure}
include hasks hallowed hfindsAll

/-- An order that is known fails over a reference only for a caller who is nobody. -/
theorem Submission.Asks.conflict_of_known
    (hresult : (ask.perform env caller s).result = .error failure) (hrefers : failure.IsOfReferences) :
    failure = .conflict ∧ s.hasUser caller.principal.id = false := by
  rw [hasks.perform_eq] at hresult
  cases hordered : Service.order env caller key o direction on s with
  | ok done =>
      rw [hordered] at hresult
      cases hresult
  | error cause =>
      rw [hordered] at hresult
      cases hresult
      rcases Service.order_eq_error hallowed hordered with happly | ⟨receipt, happly, hrecord⟩
      · exact absurd hrefers.of_reported (hfindsAll cause happly)
      · rcases Service.record_eq_error hrecord with rfl | ⟨rfl, hnobody⟩
        · exact absurd hrefers id
        · obtain ⟨_, _, _, hstore⟩ := (Ledger.apply_eq_ok.mp happly).frame
          rw [hstore] at hnobody
          exact ⟨rfl, hnobody⟩

theorem Submission.Asks.not_unknown_of_known
    (hresult : (ask.perform env caller s).result = .error failure) :
    ¬ failure.Refuses "Order references unknown items" := by
  intro hrefuses
  obtain ⟨items, pairs, rfl⟩ := Failure.refuses_unknown_iff.mp hrefuses
  cases (hasks.conflict_of_known hallowed hfindsAll hresult trivial).1

theorem Submission.Asks.not_conflict_of_known (huser : s.hasUser caller.principal.id = true)
    (hresult : (ask.perform env caller s).result = .error failure) :
    ¬ failure.Refuses "Request references missing or conflicting data" := by
  intro hrefuses
  obtain rfl := Failure.refuses_conflict_iff.mp hrefuses
  rw [(hasks.conflict_of_known hallowed hfindsAll hresult trivial).2] at huser
  cases huser

end Ask

/-- A list under a name; left out where it is empty. -/
def Json.listField (name : String) : List Json → List (String × Json)
  | [] => []
  | elements => [(name, .arr elements)]

theorem Failure.details_unknownReferences (items : List Int) (pairs : List (Int × Int)) :
    (unknownReferences items pairs).details? = some (.obj
      (Json.listField "items" (items.map .int) ++ Json.listField "variants" (pairs.map fun p =>
        .obj [("item_id", .int p.1), ("variant_id", .int p.2)]))) := by
  cases items <;> cases pairs <;> rfl

/-- An order is moved on a tab that takes orders on the day, by somebody who may do so, whatever bills and
lines the store holds and however many reads are blind.  It is refused as referring to what is unknown
exactly where the shop lacks an item or a pair of item and variant that it names, or where it names one
pair only, of two different numbers.  The refusal lists each such item and pair once and in order, and
nothing is written.  Otherwise no reference can fail any more: for a caller who is a known person the order
does not end in a conflict with what is stored. -/
theorem unknown_references_refused {env : Surroundings} {caller : Caller} {ask : Submission} {key : TabKey}
    {o : Form.Order} {on : Option Day} {direction : Direction} {s : Store} {t : Tab} {day : Day}
    (hasks : ask.Asks env.settings key o on direction)
    (hallowed : Service.authorizeTab env caller key .order s = .ok t)
    (hday : env.dayOr on = .ok day) (horderable : t.IsOrderable day) (hnames : o.NamesWords) :
    let outcome := ask.perform env caller s
    ((∃ failure, outcome.result = .error failure ∧ failure.Refuses "Order references unknown items") ↔
      ¬ s.Offers key.shopId o ∨ o.NamesLonePair) ∧
    (∀ failure, outcome.result = .error failure → failure.Refuses "Order references unknown items" →
      outcome.store = s ∧ ∃ items pairs, Catalog.ListsUnknown s key.shopId o items pairs ∧
        failure.details? = some (.obj (Json.listField "items" (items.map .int) ++
          Json.listField "variants" (pairs.map fun p =>
            .obj [("item_id", .int p.1), ("variant_id", .int p.2)])))) ∧
    (s.hasUser caller.principal.id = true → ∀ failure, outcome.result = .error failure →
      ¬ failure.Refuses "Request references missing or conflicting data") := by
  intro outcome
  obtain ⟨hshop, htab, hfound, _⟩ := Service.authorizeTab_eq_ok.mp hallowed
  by_cases hknown : s.Offers key.shopId o ∧ ¬ o.NamesLonePair
  · have hfindsAll := Ledger.apply_findsAll direction hday ⟨hshop, htab⟩ hfound horderable hnames hknown.1
      hknown.2
    refine ⟨⟨?_, ?_⟩, ?_, ?_⟩
    · rintro ⟨failure, hresult, hrefuses⟩
      exact absurd hrefuses (hasks.not_unknown_of_known hallowed hfindsAll hresult)
    · rintro (hlacks | hlone)
      · exact absurd hknown.1 hlacks
      · exact absurd hlone hknown.2
    · intro failure hresult hrefuses
      exact absurd hrefuses (hasks.not_unknown_of_known hallowed hfindsAll hresult)
    · intro huser failure hresult
      exact hasks.not_conflict_of_known hallowed hfindsAll huser hresult
  · have hfailed := Ledger.apply_of_unknown direction hday ⟨hshop, htab⟩ hfound horderable hnames hknown
    have houtcome : outcome = ⟨.error _, s⟩ := hasks.perform_of_failed hallowed hfailed
    have hresult := congrArg Outcome.result houtcome
    refine ⟨⟨?_, ?_⟩, ?_, ?_⟩
    · intro _
      rwa [not_and_or, not_not] at hknown
    · intro _
      exact ⟨_, hresult, rfl, rfl⟩
    · intro failure hfailure _
      obtain rfl := Except.error.inj (hresult.symm.trans hfailure)
      exact ⟨congrArg Outcome.store houtcome, _, _, Catalog.listsUnknown s key.shopId o,
        Failure.details_unknownReferences _ _⟩
    · intro _ failure hfailure hrefuses
      obtain rfl := Except.error.inj (hresult.symm.trans hfailure)
      cases Failure.refuses_conflict_iff.mp hrefuses

namespace Sample

/-- An order of a bagel with oat milk, which goes with coffee only, and of something the shop does not have. -/
def wishes : Form.Order := ⟨[⟨2, 1, [⟨1, 1⟩, ⟨2, 1⟩]⟩, ⟨9, 1, []⟩]⟩

def wishesForm : Json :=
  let part (id : Int) (variants : List Json) : Json :=
    .obj [("id", .int id), ("quantity", .int 1), ("variants", .arr variants)]
  let variant (id : Int) : Json := .obj [("id", .int id), ("quantity", .int 1)]
  .obj [("items", .arr [part 2 [variant 1, variant 2], part 9 []])]

end Sample

/-- Of these wishes, the ninth item and the oat milk on the bagel are refused, and the cream cheese is not. -/
theorem unknown_references_refused_wishes :
    let reached := Sample.store.run [Sample.openTab 7]
    let outcome := (Submission.addOrder Sample.tab Sample.wishesForm (some (Sample.january 5))).perform
      (Sample.order 5).env (Sample.order 5).caller reached
    ∃ failure items pairs, outcome.result = .error failure ∧
      failure.Refuses "Order references unknown items" ∧ outcome.store = reached ∧
      Catalog.ListsUnknown reached 1 Sample.wishes items pairs ∧
      9 ∈ items ∧ 2 ∉ items ∧ (2, 1) ∈ pairs ∧ (2, 2) ∉ pairs := by
  intro reached outcome
  have hallowed : Service.authorizeTab (Sample.order 5).env (Sample.order 5).caller Sample.tab .order
      reached = .ok (Sample.openedTab 7) :=
    Service.authorizeTab_eq_ok.mpr ⟨by decide, by decide, by decide +kernel, ⟨1, 2, "Campus Cafe"⟩,
      by decide +kernel, by decide +kernel⟩
  have hread : Form.Order.read Sample.wishesForm = .ok Sample.wishes :=
    toOption_eq_some.mp (by decide +kernel)
  obtain ⟨hrefused, hlists, _⟩ := unknown_references_refused
    (Submission.Asks.add hread : Submission.Asks (Sample.order 5).env.settings Sample.tab Sample.wishes
      (some (Sample.january 5)) _ _) hallowed rfl
    ⟨by decide +kernel, by decide +kernel, by decide +kernel⟩ ⟨by decide, by decide⟩
  have hlacks : ¬ reached.Offers 1 Sample.wishes := fun hoffers =>
    absurd (hoffers.items 9 (by decide)) (by decide +kernel)
  obtain ⟨failure, hresult, hrefuses⟩ := hrefused.mpr (Or.inl hlacks)
  obtain ⟨hstore, items, pairs, hunknown, _⟩ := hlists failure hresult hrefuses
  have hseveral : ¬ Sample.wishes.NamesLonePair := by
    rintro ⟨item, variant, hpairs, _⟩
    have htwo : (distinct Sample.wishes.variantPairs).length = 2 := by decide
    rw [hpairs] at htwo
    cases htwo
  refine ⟨failure, items, pairs, hresult, hrefuses, hstore, hunknown, ?_, ?_, ?_, ?_⟩
  · exact (hunknown.mem_items 9).mpr ⟨by decide, by decide +kernel⟩
  · exact fun hmem => absurd ((hunknown.mem_items 2).mp hmem).2 (by decide +kernel)
  · exact (hunknown.mem_pairs (2, 1)).mpr ⟨by decide, Or.inl (by decide +kernel)⟩
  · exact fun hmem => ((hunknown.mem_pairs (2, 2)).mp hmem).2.elim (by decide +kernel) hseveral

end ShopTabs
