import ShopTabs.Proofs.Billing.Selection
import ShopTabs.Proofs.Service.Access
import ShopTabs.Service.Operation
/-!
What a successful operation does.  `Effect` has one case for each operation, with what was checked and
the store that is left; all that holds of every run follows from it by cases, without another look at
the operations.
-/

namespace ShopTabs

namespace Store

variable {s s' : Store} {key : TabKey}

/-- The store with a further tab. -/
def withTab (s : Store) (t : Tab) : Store := { s with tabs := s.tabs ++ [t] }

/-- The store with exactly the wanted addresses on a tab's verification list; without a list the one
that is there stays. -/
def withEmails (s : Store) (key : TabKey) : Option (List String) → Store
  | none => s
  | some wanted => { s with emails := Membership.replace s.emails key wanted }

/-- The store with exactly the wanted locations of a tab; without a list those that are there stay. -/
def withPlaces (s : Store) (key : TabKey) : Option (List Int) → Store
  | none => s
  | some wanted => { s with places := Membership.replace s.places key wanted }

@[simp] theorem withTab_bills {t : Tab} : (s.withTab t).bills = s.bills := rfl

@[simp] theorem withTab_tabs {t : Tab} : (s.withTab t).tabs = s.tabs ++ [t] := rfl

@[simp] theorem withTab_pending {t : Tab} : (s.withTab t).pending = s.pending := rfl

@[simp] theorem withEmails_bills {emails : Option (List String)} :
    (s.withEmails key emails).bills = s.bills := by cases emails <;> rfl

@[simp] theorem withEmails_tabs {emails : Option (List String)} :
    (s.withEmails key emails).tabs = s.tabs := by cases emails <;> rfl

@[simp] theorem withEmails_pending {emails : Option (List String)} :
    (s.withEmails key emails).pending = s.pending := by cases emails <;> rfl

@[simp] theorem withPlaces_bills {places : Option (List Int)} :
    (s.withPlaces key places).bills = s.bills := by cases places <;> rfl

@[simp] theorem withPlaces_tabs {places : Option (List Int)} :
    (s.withPlaces key places).tabs = s.tabs := by cases places <;> rfl

@[simp] theorem withPlaces_pending {places : Option (List Int)} :
    (s.withPlaces key places).pending = s.pending := by cases places <;> rfl

@[simp] theorem stage_bills {u : PendingUpdate} : (s.stage u).bills = s.bills := rfl

@[simp] theorem stage_tabs {u : PendingUpdate} : (s.stage u).tabs = s.tabs := rfl

@[simp] theorem unstage_bills : (s.unstage key).bills = s.bills := rfl

@[simp] theorem unstage_tabs : (s.unstage key).tabs = s.tabs := rfl

@[simp] theorem updateTab_bills {change : Tab → Tab} :
    (s.updateTab key change).bills = s.bills := rfl

@[simp] theorem updateTab_pending {change : Tab → Tab} :
    (s.updateTab key change).pending = s.pending := rfl

@[simp] theorem updateBill_tabs {id : Int} {change : Bill → Bill} :
    (s.updateBill key id change).tabs = s.tabs := rfl

@[simp] theorem updateBill_pending {id : Int} {change : Bill → Bill} :
    (s.updateBill key id change).pending = s.pending := rfl

@[simp] theorem withTab_itemLines {t : Tab} : (s.withTab t).itemLines = s.itemLines := rfl

@[simp] theorem withEmails_itemLines {emails : Option (List String)} :
    (s.withEmails key emails).itemLines = s.itemLines := by cases emails <;> rfl

@[simp] theorem withPlaces_itemLines {places : Option (List Int)} :
    (s.withPlaces key places).itemLines = s.itemLines := by cases places <;> rfl

@[simp] theorem stage_itemLines {u : PendingUpdate} : (s.stage u).itemLines = s.itemLines := rfl

@[simp] theorem unstage_itemLines : (s.unstage key).itemLines = s.itemLines := rfl

@[simp] theorem updateTab_itemLines {change : Tab → Tab} :
    (s.updateTab key change).itemLines = s.itemLines := rfl

@[simp] theorem updateBill_itemLines {id : Int} {change : Bill → Bill} :
    (s.updateBill key id change).itemLines = s.itemLines := rfl

@[simp] theorem withTab_variantLines {t : Tab} : (s.withTab t).variantLines = s.variantLines := rfl

@[simp] theorem withEmails_variantLines {emails : Option (List String)} :
    (s.withEmails key emails).variantLines = s.variantLines := by cases emails <;> rfl

@[simp] theorem withPlaces_variantLines {places : Option (List Int)} :
    (s.withPlaces key places).variantLines = s.variantLines := by cases places <;> rfl

@[simp] theorem stage_variantLines {u : PendingUpdate} : (s.stage u).variantLines = s.variantLines := rfl

@[simp] theorem unstage_variantLines : (s.unstage key).variantLines = s.variantLines := rfl

@[simp] theorem updateTab_variantLines {change : Tab → Tab} :
    (s.updateTab key change).variantLines = s.variantLines := rfl

@[simp] theorem updateBill_variantLines {id : Int} {change : Bill → Bill} :
    (s.updateBill key id change).variantLines = s.variantLines := rfl

theorem syncEmails_eq_ok {wanted : List String} {result : SyncResult} :
    s.syncEmails key wanted = .ok (result, s') ↔
      (isWord key.shopId = true ∧ isWord key.tabId = true) ∧
        (Membership.missing s.emails key wanted = [] ∨ s.hasTab key = true) ∧
        result = Membership.result s.emails key wanted ∧ s' = s.withEmails key (some wanted) := by
  simp only [syncEmails, bind_eq_ok, requireWords_eq_ok, ensure_eq_ok, pure_eq_ok, exists_const,
    Prod.mk.injEq, Bool.or_eq_true, List.isEmpty_iff, withEmails]
  constructor
  · rintro ⟨hwords, htab, rfl, rfl⟩
    exact ⟨hwords, htab, rfl, rfl⟩
  · rintro ⟨hwords, htab, rfl, rfl⟩
    exact ⟨hwords, htab, rfl, rfl⟩

theorem syncPlaces_eq_ok {wanted : List Int} {result : SyncResult} :
    s.syncPlaces key wanted = .ok (result, s') ↔
      (isWord key.shopId = true ∧ isWord key.tabId = true) ∧ (∀ id ∈ wanted, isWord id = true) ∧
        (Membership.missing s.places key wanted = [] ∨ s.hasTab key = true) ∧
        (∀ id ∈ Membership.missing s.places key wanted, s.hasLocation key.shopId id = true) ∧
        result = Membership.result s.places key wanted ∧ s' = s.withPlaces key (some wanted) := by
  simp only [syncPlaces, bind_eq_ok, requireWords_eq_ok, forM_eq_ok, requireWord_eq_ok,
    ensure_eq_ok, pure_eq_ok, exists_const, Prod.mk.injEq, Bool.or_eq_true, List.isEmpty_iff,
    List.all_eq_true, withPlaces]
  constructor
  · rintro ⟨hwords, hids, htab, hlocations, rfl, rfl⟩
    exact ⟨hwords, hids, htab, hlocations, rfl, rfl⟩
  · rintro ⟨hwords, hids, htab, hlocations, rfl, rfl⟩
    exact ⟨hwords, hids, htab, hlocations, rfl, rfl⟩

end Store

/-- The tab takes orders on a day. -/
def Tab.IsOrderable (t : Tab) (day : Day) : Prop :=
  t.status ≠ .closed ∧ t.config.startDate ≤ day ∧ day ≤ t.config.endDate

theorem Ledger.ensureOrderable_eq_ok {t : Tab} {day : Day} {u : Unit} :
    ensureOrderable t day = .ok u ↔ t.IsOrderable day := by
  simp only [ensureOrderable, bind_eq_ok, ensure_eq_ok, exists_const, decide_eq_true_eq,
    Tab.IsOrderable]

theorem Store.requireTab_eq_ok {s : Store} {key : TabKey} {t : Tab} :
    s.requireTab key = .ok t ↔
      (isWord key.shopId = true ∧ isWord key.tabId = true) ∧ s.tab? key = some t := by
  simp only [requireTab, bind_eq_ok, requireWords_eq_ok, orFail_eq_ok, exists_const]

/-- An order that is put on a bill or taken off it, step by step. -/
inductive Ledger.Applied (env : Surroundings) (key : TabKey) (o : Form.Order)
    (direction : Direction) (on : Option Day) (s : Store) : Receipt → Prop where
  | intro {day : Day} {t : Tab} {selected : Selection} {items variants : Nat} {s' : Store}
      (dayOr : env.dayOr on = .ok day)
      (words : isWord key.shopId = true ∧ isWord key.tabId = true)
      (tab : s.tab? key = some t) (orderable : t.IsOrderable day)
      (known : Catalog.ensureKnown s key.shopId o = .ok ())
      (select : selectBill t.config.billingTerms key day
        (attemptCount env.settings.billSelectionAttempts) env.blindReads s = .ok selected)
      (written : write selected.store (itemChanges o key selected.billId direction)
        (variantChanges o key selected.billId direction) direction = .ok (items, variants, s')) :
    Applied env key o direction on s ⟨⟨selected.billId, items, variants⟩, s', selected.blindReads⟩

theorem Ledger.apply_eq_ok {env : Surroundings} {key : TabKey} {o : Form.Order}
    {direction : Direction} {on : Option Day} {s : Store} {receipt : Receipt} :
    Ledger.apply env key o direction on s = .ok receipt ↔
      Ledger.Applied env key o direction on s receipt := by
  simp only [Ledger.apply, bind_eq_ok, pure_eq_ok, Prod.exists, Store.requireTab_eq_ok,
    Ledger.ensureOrderable_eq_ok, exists_const]
  constructor
  · rintro ⟨day, hday, t, ⟨hwords, htab⟩, horderable, ⟨⟩, hknown, selected, hselect, items, variants,
      s', hwritten, rfl⟩
    exact .intro hday hwords htab horderable hknown hselect hwritten
  · rintro ⟨hday, hwords, htab, horderable, hknown, hselect, hwritten⟩
    exact ⟨_, hday, _, ⟨hwords, htab⟩, horderable, (), hknown, _, hselect, _, _, _, hwritten, rfl⟩

/-! ### What each operation does -/

namespace Service

variable {env : Surroundings} {caller : Caller} {key : TabKey} {s s' : Store}

/-- A tab that is opened now. -/
def newTab (s : Store) (shopId ownerId : Int) (config : KeptConfig) : Tab :=
  ⟨nextId (s.tabs.map (·.id)), shopId, ownerId, .awaitingApproval, config⟩

theorem addTab_eq_ok {shopId ownerId : Int} {config : KeptConfig} :
    addTab shopId ownerId config s = .ok (key, s') ↔
      isWord ownerId = true ∧ s.hasUser ownerId = true ∧ config.fitsTab = true ∧
        key = (newTab s shopId ownerId config).key ∧
        s' = s.withTab (newTab s shopId ownerId config) := by
  simp only [addTab, bind_eq_ok, requireWord_eq_ok, ensure_eq_ok, pure_eq_ok, exists_const,
    Prod.mk.injEq]
  constructor
  · rintro ⟨hword, huser, hfits, rfl, rfl⟩
    exact ⟨hword, huser, hfits, rfl, rfl⟩
  · rintro ⟨hword, huser, hfits, rfl, rfl⟩
    exact ⟨hword, huser, hfits, rfl, rfl⟩

theorem ensureNotClosed_eq_ok {tab : Tab} {u : Unit} :
    ensureNotClosed tab = .ok u ↔ tab.status ≠ .closed := by
  simp [ensureNotClosed, ensure_eq_ok]

theorem replaceEmails_effect {emails : Option (List String)}
    (h : replaceEmails key emails s = .ok s') : s' = s.withEmails key emails := by
  cases emails with
  | none =>
      cases h
      rfl
  | some wanted =>
      obtain ⟨⟨result, s''⟩, hsync, rfl⟩ := map_eq_ok.mp h
      exact (Store.syncEmails_eq_ok.mp hsync).2.2.2

theorem replacePlaces_effect {places : Option (List Int)}
    (h : replacePlaces key places s = .ok s') : s' = s.withPlaces key places := by
  cases places with
  | none =>
      cases h
      rfl
  | some wanted =>
      obtain ⟨⟨result, s''⟩, hsync, rfl⟩ := map_eq_ok.mp h
      exact (Store.syncPlaces_eq_ok.mp hsync).2.2.2.2.2

end Service

open Service

/-- What a successful operation checked, what it answers and what it leaves. -/
inductive Effect (env : Surroundings) (caller : Caller) (s : Store) :
    Operation → Reply → Store → Prop where
  | tabCreated {shopId : Int} {form : Form.NewTab} {shop : Shop} {tab : Tab}
      (allowed : authorizeShop env caller shopId .create s = .ok shop)
      (opened : tab = newTab s shopId (ownerOf caller form) form.config.kept)
      (owned : s.hasUser tab.ownerId = true) :
    Effect env caller s (.createTab shopId form) (.created tab.id)
      ((((s.withTab tab).withEmails tab.key (some form.emails)).withPlaces tab.key
        (some form.locationIds)).audited caller tab.key .tabCreated)
  | updateSubmitted {key : TabKey} {form : Form.Revision} {tab : Tab}
      (allowed : authorizeTab env caller key .update s = .ok tab)
      (notClosed : tab.status ≠ .closed) :
    Effect env caller s (.submitUpdate key form) .done
      ((((s.stage ⟨key, form.config.kept, form.emails, form.locationIds⟩).withEmails key
        form.emails).withPlaces key form.locationIds).audited caller key .updateSubmitted)
  | tabApproved {key : TabKey} {tab : Tab}
      (allowed : authorizeTab env caller key .approve s = .ok tab)
      (notClosed : tab.status ≠ .closed) :
    Effect env caller s (.approveTab key) .done
      (((s.updateTab key (confirmed (s.pending? key))).unstage key).audited caller key
        (.tabApproved (s.pending? key).isSome))
  | tabClosed {key : TabKey} {tab : Tab}
      (allowed : authorizeTab env caller key .close s = .ok tab) :
    Effect env caller s (.closeTab key) .done
      (((s.updateTab key fun t => { t with status := .closed }).unstage key).audited caller key
        .tabClosed)
  | billPaid {key : TabKey} {billId : Int} {on : Option Day} {day : Day} {tab : Tab}
      (dayOr : env.dayOr on = .ok day)
      (allowed : authorizeTab env caller key .markBillPaid s = .ok tab)
      (found : s.hasBill key billId = true) :
    Effect env caller s (.markBillPaid key billId on) .done
      ((s.updateBill key billId fun b => b.closedOn day).audited caller key (.billPaid billId))
  | orderAdded {key : TabKey} {form : Form.Order} {on : Option Day} {tab : Tab} {receipt : Receipt}
      (allowed : authorizeTab env caller key .order s = .ok tab)
      (applied : Ledger.Applied env key form .add on s receipt) :
    Effect env caller s (.addOrder key form on) (.ordered receipt.result)
      (receipt.store.audited caller key (.orderAdded receipt.result.billId))
  | orderRemoved {key : TabKey} {form : Form.Order} {on : Option Day}
      {policy : Option RemovalPolicy} {tab : Tab} {receipt : Receipt}
      (allowed : authorizeTab env caller key .order s = .ok tab)
      (applied : Ledger.Applied env key form
        (.remove (policy.getD env.settings.orderRemovalPolicy)) on s receipt) :
    Effect env caller s (.removeOrder key form on policy) (.ordered receipt.result)
      (receipt.store.audited caller key (.orderRemoved receipt.result.billId))
  | verificationListSet {key : TabKey} {form : Form.EmailList} {tab : Tab} {result : SyncResult}
      (allowed : authorizeTab env caller key .update s = .ok tab)
      (notClosed : tab.status ≠ .closed)
      (counted : result = Membership.result s.emails key form.emails) :
    Effect env caller s (.setVerificationList key form) (.synced result)
      ((s.withEmails key (some form.emails)).audited caller key
        (.verificationListSet result.inserted result.deleted))
  | tabShown {key : TabKey} {tab : Tab}
      (allowed : authorizeTab env caller key .read s = .ok tab) :
    Effect env caller s (.showTab key) (.overview (s.overview tab)) s
  | tabsListed {shopId : Int} {shop : Shop}
      (allowed : authorizeShop env caller shopId .read s = .ok shop) :
    Effect env caller s (.listTabs shopId) (.tabs (s.tabViews shopId)) s

namespace Operation

variable {env : Surroundings} {caller : Caller} {s s' : Store} {reply : Reply}

theorem attempt_createTab {shopId : Int} {form : Form.NewTab}
    (h : (createTab shopId form).attempt env caller s = .ok (reply, s')) :
    Effect env caller s (.createTab shopId form) reply s' := by
  simp only [attempt, Service.createTab, bind_eq_ok, pure_eq_ok, Prod.exists, Prod.mk.injEq,
    addTab_eq_ok, Store.syncEmails_eq_ok, Store.syncPlaces_eq_ok, record_eq_ok] at h
  obtain ⟨_, _, ⟨shop, hallowed, key, s₁, ⟨_, huser, _, rfl, rfl⟩, _, _, ⟨_, _, _, rfl⟩, _, _,
    ⟨_, _, _, _, _, rfl⟩, _, ⟨_, rfl⟩, rfl, rfl⟩, rfl, rfl⟩ := h
  exact .tabCreated hallowed rfl huser

theorem attempt_submitUpdate {key : TabKey} {form : Form.Revision}
    (h : (submitUpdate key form).attempt env caller s = .ok (reply, s')) :
    Effect env caller s (.submitUpdate key form) reply s' := by
  simp only [attempt, Service.submitUpdate, bind_eq_ok, pure_eq_ok, Prod.mk.injEq,
    ensureNotClosed_eq_ok, ensure_eq_ok, record_eq_ok, exists_const] at h
  obtain ⟨_, ⟨tab, hallowed, hopen, _, s₁, hemails, s₂, hplaces, _, rfl⟩, rfl, rfl⟩ := h
  rw [replacePlaces_effect hplaces, replaceEmails_effect hemails]
  exact .updateSubmitted hallowed hopen

theorem attempt_markBillPaid {key : TabKey} {billId : Int} {on : Option Day}
    (h : (markBillPaid key billId on).attempt env caller s = .ok (reply, s')) :
    Effect env caller s (.markBillPaid key billId on) reply s' := by
  simp only [attempt, Service.markBillPaid, bind_eq_ok, pure_eq_ok, Prod.mk.injEq,
    requireWord_eq_ok, ensure_eq_ok, record_eq_ok, exists_const] at h
  obtain ⟨_, ⟨day, hday, tab, hallowed, _, hfound, _, rfl⟩, rfl, rfl⟩ := h
  exact .billPaid hday hallowed hfound

theorem service_order_eq_ok {key : TabKey} {form : Form.Order} {direction : Direction}
    {on : Option Day} {result : LedgerResult} :
    Service.order env caller key form direction on s = .ok (result, s') ↔
      ∃ tab receipt, authorizeTab env caller key .order s = .ok tab ∧
        Ledger.Applied env key form direction on s receipt ∧ caller.IsKnown receipt.store ∧
        result = receipt.result ∧
        s' = receipt.store.audited caller key (orderEvent receipt.result.billId direction) := by
  simp only [Service.order, bind_eq_ok, pure_eq_ok, Prod.mk.injEq, Ledger.apply_eq_ok,
    record_eq_ok]
  constructor
  · rintro ⟨tab, hallowed, receipt, happlied, _, ⟨hknown, rfl⟩, rfl, rfl⟩
    exact ⟨tab, receipt, hallowed, happlied, hknown, rfl, rfl⟩
  · rintro ⟨tab, receipt, hallowed, happlied, hknown, rfl, rfl⟩
    exact ⟨tab, hallowed, receipt, happlied, _, ⟨hknown, rfl⟩, rfl, rfl⟩

/-- An operation that succeeds has its effect. -/
theorem attempt_effect {op : Operation} (h : op.attempt env caller s = .ok (reply, s')) :
    Effect env caller s op reply s' := by
  cases op with
  | createTab shopId form => exact attempt_createTab h
  | submitUpdate key form => exact attempt_submitUpdate h
  | approveTab key =>
      simp only [attempt, Service.approveTab, bind_eq_ok, pure_eq_ok, Prod.mk.injEq,
        ensureNotClosed_eq_ok, ensure_eq_ok, record_eq_ok, exists_const] at h
      obtain ⟨_, ⟨tab, hallowed, hopen, _, _, rfl⟩, rfl, rfl⟩ := h
      exact .tabApproved hallowed hopen
  | closeTab key =>
      simp only [attempt, Service.closeTab, bind_eq_ok, pure_eq_ok, Prod.mk.injEq,
        record_eq_ok] at h
      obtain ⟨_, ⟨tab, hallowed, _, rfl⟩, rfl, rfl⟩ := h
      exact .tabClosed hallowed
  | markBillPaid key billId on => exact attempt_markBillPaid h
  | addOrder key form on =>
      simp only [attempt, bind_eq_ok, pure_eq_ok, Prod.exists, Prod.mk.injEq,
        service_order_eq_ok] at h
      obtain ⟨_, _, ⟨tab, receipt, hallowed, happlied, _, rfl, rfl⟩, rfl, rfl⟩ := h
      exact .orderAdded hallowed happlied
  | removeOrder key form on policy =>
      simp only [attempt, bind_eq_ok, pure_eq_ok, Prod.exists, Prod.mk.injEq,
        service_order_eq_ok] at h
      obtain ⟨_, _, ⟨tab, receipt, hallowed, happlied, _, rfl, rfl⟩, rfl, rfl⟩ := h
      exact .orderRemoved hallowed happlied
  | setVerificationList key form =>
      simp only [attempt, Service.setVerificationList, bind_eq_ok, pure_eq_ok, Prod.exists,
        Prod.mk.injEq, ensureNotClosed_eq_ok, Store.syncEmails_eq_ok, record_eq_ok,
        exists_const] at h
      obtain ⟨_, _, ⟨tab, hallowed, hopen, _, _, ⟨_, _, rfl, rfl⟩, _, ⟨_, rfl⟩, rfl, rfl⟩, rfl, rfl⟩ := h
      exact .verificationListSet hallowed hopen rfl
  | showTab key =>
      simp only [attempt, bind_eq_ok, pure_eq_ok, Prod.mk.injEq] at h
      obtain ⟨tab, hallowed, rfl, rfl⟩ := h
      exact .tabShown hallowed
  | listTabs shopId =>
      simp only [attempt, bind_eq_ok, pure_eq_ok, Prod.mk.injEq] at h
      obtain ⟨shop, hallowed, rfl, rfl⟩ := h
      exact .tabsListed hallowed

end Operation

end ShopTabs
