import ShopTabs.Proofs.Service.Rows
/-!
Operations on one tab do not touch another.  Whatever is asked for, on whatever tab and with whatever
arguments, the rows of every other tab stay as they are, and so do people and catalogues; a tab that is
opened gets a number that no tab has.  A tab of another shop is not found, and neither is a bill of another
tab.
-/

namespace ShopTabs

/-- What its columns guarantee of a store: no two tabs have one number, nor have two bills, and numbers
have at most 64 bits. -/
structure Store.Keyed (s : Store) : Prop where
  tabIds : (s.tabs.map (·.id)).Nodup
  billIds : (s.bills.map (·.id)).Nodup
  shopWords : ∀ shop ∈ s.shops, isWord shop.id = true
  tabWords : ∀ t ∈ s.tabs, isWord t.id = true
  billWords : ∀ b ∈ s.bills, isWord b.id = true

/-- The day of a payment can be told.  It is read before the tab is looked up; no other operation needs a
day for that. -/
def Operation.KnowsDay (env : Surroundings) : Operation → Prop
  | markBillPaid _ _ on => ∃ day, env.dayOr on = .ok day
  | _ => True

namespace Outcome

variable {α : Type}

/-- The outcome is a failure that is reported as something not found. -/
def IsNotFound (o : Outcome α) (failure : Failure) : Prop :=
  o.result = .error failure ∧ failure.report? = some .notFound

end Outcome

namespace Operation

variable {env : Surroundings} {caller : Caller} {op : Operation} {s : Store}

theorem perform_of_error {failure : Failure} (h : op.attempt env caller s = .error failure) :
    op.perform env caller s = ⟨.error failure.reported, s⟩ := by
  rw [perform, h]
  rfl

/-- Where nobody is let in to a tab, each operation on it fails for that reason. -/
theorem attempt_of_refused {key : TabKey} {failure : Failure} (hkey : op.tab? = some key)
    (hday : op.KnowsDay env)
    (h : ∀ action, Service.authorizeTab env caller key action s = .error failure) :
    op.attempt env caller s = .error failure := by
  cases op with
  | createTab => cases hkey
  | listTabs => cases hkey
  | markBillPaid =>
      cases hkey
      obtain ⟨day, hday⟩ := hday
      simp [attempt, Service.markBillPaid, hday, h, bind, Except.bind]
  | submitUpdate =>
      cases hkey
      simp [attempt, Service.submitUpdate, h, bind, Except.bind]
  | approveTab =>
      cases hkey
      simp [attempt, Service.approveTab, h, bind, Except.bind]
  | closeTab =>
      cases hkey
      simp [attempt, Service.closeTab, h, bind, Except.bind]
  | addOrder =>
      cases hkey
      simp [attempt, Service.order, h, bind, Except.bind]
  | removeOrder =>
      cases hkey
      simp [attempt, Service.order, h, bind, Except.bind]
  | setVerificationList =>
      cases hkey
      simp [attempt, Service.setVerificationList, h, bind, Except.bind]
  | showTab =>
      cases hkey
      simp [attempt, h, bind, Except.bind]

end Operation

namespace Service

variable {env : Surroundings} {caller : Caller} {key : TabKey} {s : Store}

theorem authorizeTab_of_no_tab (caller : Caller) {shop : Shop} (hshopWord : isWord key.shopId = true)
    (htabWord : isWord key.tabId = true) (hshop : s.shop? key.shopId = some shop)
    (hnone : s.tab? key = none) (action : Action) :
    authorizeTab env caller key action s = .error .tabNotFound := by
  simp [authorizeTab, findShop, findTab, requireWord, hshopWord, htabWord, hshop, hnone, orFail, bind,
    Except.bind]

theorem markBillPaid_of_no_bill {billId : Int} {on : Option Day} {day : Day} {tab : Tab}
    (hday : env.dayOr on = .ok day)
    (hallowed : authorizeTab env caller key .markBillPaid s = .ok tab)
    (hword : isWord billId = true) (hnone : s.hasBill key billId = false) :
    markBillPaid env caller key billId on s = .error .billNotFound := by
  simp [markBillPaid, hday, hallowed, requireWord, hword, hnone, ensure, bind, Except.bind]

end Service

namespace Store

variable {s : Store} {key : TabKey}

theorem mem_of_shop? {shopId : Int} {shop : Shop} (h : s.shop? shopId = some shop) :
    shop ∈ s.shops ∧ shop.id = shopId :=
  ⟨List.mem_of_find?_eq_some h, by simpa using List.find?_some h⟩

/-- A tab that is there is found by its key. -/
theorem tab?_eq_some (hids : (s.tabs.map (·.id)).Nodup) {t : Tab} (ht : t ∈ s.tabs) :
    s.tab? t.key = some t := by
  have hkeys : (s.tabs.map Tab.key).Nodup := by
    apply List.Nodup.of_map TabKey.tabId
    rw [List.map_map]
    exact hids
  exact find?_of_nodup hkeys ht

/-- A tab whose number another shop's tab has is not there. -/
theorem tab?_eq_none (hids : (s.tabs.map (·.id)).Nodup) {t : Tab} (ht : t ∈ s.tabs)
    (hid : t.id = key.tabId) (hshop : t.shopId ≠ key.shopId) : s.tab? key = none := by
  rw [tab?, List.find?_eq_none]
  intro u hu hkey
  have hukey : u.key = key := by simpa using hkey
  have hsame : u = t := by
    apply List.inj_on_of_nodup_map hids hu ht
    rw [hid, ← hukey]
    rfl
  apply hshop
  rw [← hsame, ← hukey]
  rfl

/-- A bill whose number another tab's bill has is not there. -/
theorem hasBill_eq_false (hids : (s.bills.map (·.id)).Nodup) {b : Bill} (hb : b ∈ s.bills)
    (hother : b.tab ≠ key) : s.hasBill key b.id = false := by
  rw [hasBill, List.any_eq_false]
  intro c hc hfound
  simp only [Bool.and_eq_true, decide_eq_true_eq] at hfound
  apply hother
  rw [← eq_of_id_eq hids hc hb hfound.2]
  exact hfound.1

end Store

/-- A tab that is opened is none of those that were there. -/
theorem Service.newTab_key_ne {s : Store} {t : Tab} (ht : t ∈ s.tabs) (shopId ownerId : Int)
    (config : KeptConfig) : (newTab s shopId ownerId config).key ≠ t.key := by
  intro hkey
  have hlt : t.id < nextId (s.tabs.map (·.id)) := Store.lt_nextId (List.mem_map_of_mem ht)
  have hid : nextId (s.tabs.map (·.id)) = t.id := congrArg TabKey.tabId hkey
  omega

namespace Effect

variable {env : Surroundings} {caller : Caller} {s s' : Store} {op : Operation} {reply : Reply}

theorem rowsOf_eq {other : TabKey} (h : Effect env caller s op reply s')
    (hother : op.target? reply ≠ some other) : s'.rowsOf other = s.rowsOf other := by
  apply h.rowsWhere_eq
  intro key hkey
  rw [decide_eq_false_iff_not]
  rintro rfl
  exact hother hkey

/-- The tab that an operation on none is carried out on is a new one. -/
theorem target?_ne_of_mem (h : Effect env caller s op reply s') (hnone : op.tab? = none) {t : Tab}
    (ht : t ∈ s.tabs) : op.target? reply ≠ some t.key := by
  cases h with
  | @tabCreated shopId form shop tab allowed opened owned =>
      have hfresh := Service.newTab_key_ne ht shopId (Service.ownerOf caller form) form.config.kept
      rw [← opened] at hfresh
      have hkey : tab.key = ⟨shopId, tab.id⟩ := by
        rw [opened]
        rfl
      rw [hkey] at hfresh
      exact fun htarget => hfresh (Option.some.inj htarget)
  | tabsListed => exact fun htarget => by cases htarget
  | _ => cases hnone

theorem target?_of_tab? (h : Effect env caller s op reply s') {key : TabKey}
    (hkey : op.tab? = some key) : op.target? reply = some key := by
  cases h with
  | tabCreated => cases hkey
  | _ => exact hkey

end Effect

namespace Submission

variable {env : Surroundings} {caller : Caller} {ask : Submission} {s : Store}

/-- What is asked for either leaves the store alone, or it was read as an operation that succeeded. -/
theorem perform_cases (env : Surroundings) (caller : Caller) (ask : Submission) (s : Store) :
    ((∃ failure, (ask.perform env caller s).result = .error failure) ∧
      (ask.perform env caller s).store = s) ∨
    ∃ op reply, ask.read env.shortening = .ok op ∧ (ask.perform env caller s).result = .ok reply ∧
      Effect env caller s op reply (ask.perform env caller s).store := by
  cases hresult : (ask.perform env caller s).result with
  | error failure => exact Or.inl ⟨⟨failure, rfl⟩, perform_eq_error hresult⟩
  | ok reply =>
      obtain ⟨op, s', hread, hattempt, hstore⟩ := perform_eq_ok.mp hresult
      rw [hstore]
      exact Or.inr ⟨op, reply, hread, rfl, Operation.attempt_effect hattempt⟩

theorem perform_of_read {op : Operation} (h : ask.read env.shortening = .ok op) :
    ask.perform env caller s = op.perform env caller s := by
  rw [perform, h]

end Submission

namespace Store.Keyed

variable {env : Surroundings} {caller : Caller} {key : TabKey} {s : Store}

/-- A tab of another shop is not found, whatever is asked of it. -/
theorem foreign_tab (hs : s.Keyed) {op : Operation} {shop : Shop}
    (hshop : s.shop? key.shopId = some shop) (hkey : op.tab? = some key) (hday : op.KnowsDay env)
    {t : Tab} (ht : t ∈ s.tabs) (hid : t.id = key.tabId) (hother : t.shopId ≠ key.shopId) :
    (op.perform env caller s).IsNotFound .tabNotFound := by
  have hshopWord : isWord key.shopId = true := by
    obtain ⟨hmem, hid⟩ := mem_of_shop? hshop
    rw [← hid]
    exact hs.shopWords shop hmem
  have htabWord : isWord key.tabId = true := by
    rw [← hid]
    exact hs.tabWords t ht
  have hnone : s.tab? key = none := tab?_eq_none hs.tabIds ht hid hother
  have hattempt : op.attempt env caller s = .error .tabNotFound :=
    Operation.attempt_of_refused hkey hday
      (Service.authorizeTab_of_no_tab caller hshopWord htabWord hshop hnone)
  rw [Operation.perform_of_error hattempt]
  exact ⟨rfl, rfl⟩

/-- A bill of another tab is not found by whoever pays it. -/
theorem foreign_bill (hs : s.Keyed) {on : Option Day} {b : Bill} {tab : Tab}
    (hday : (Operation.markBillPaid key b.id on).KnowsDay env) (hb : b ∈ s.bills) (hother : b.tab ≠ key)
    (hallowed : Service.authorizeTab env caller key .markBillPaid s = .ok tab) :
    ((Operation.markBillPaid key b.id on).perform env caller s).IsNotFound .billNotFound := by
  obtain ⟨day, hday⟩ := hday
  have hnone : s.hasBill key b.id = false := hasBill_eq_false hs.billIds hb hother
  have hpaid := Service.markBillPaid_of_no_bill hday hallowed (hs.billWords b hb) hnone
  have hattempt : (Operation.markBillPaid key b.id on).attempt env caller s =
      .error .billNotFound := by
    simp [Operation.attempt, hpaid, bind, Except.bind]
  rw [Operation.perform_of_error hattempt]
  exact ⟨rfl, rfl⟩

end Store.Keyed

/-- Whatever is asked for, successfully or not: people and catalogues stay as they are, so do the rows of
every tab that is not named, and where no tab is named, of every tab that is there.  An operation that
names a tab by the number of a tab of another shop finds none, and a payment that names a bill of another
tab finds no bill. -/
theorem operations_isolated (env : Surroundings) (caller : Caller) (ask : Submission) (s : Store) :
    (ask.perform env caller s).store.catalogue = s.catalogue ∧
    (∀ key other, ask.tab? = some key → other ≠ key →
      (ask.perform env caller s).store.rowsOf other = s.rowsOf other) ∧
    (ask.tab? = none → ∀ t ∈ s.tabs,
      (ask.perform env caller s).store.rowsOf t.key = s.rowsOf t.key) ∧
    (s.Keyed → ∀ op key shop, ask.read env.shortening = .ok op → op.tab? = some key → op.KnowsDay env →
      s.shop? key.shopId = some shop →
      (∀ t ∈ s.tabs, t.id = key.tabId → t.shopId ≠ key.shopId →
        (ask.perform env caller s).IsNotFound .tabNotFound) ∧
      ∀ b ∈ s.bills, b.tab ≠ key → ∀ on tab, op = .markBillPaid key b.id on →
        Service.authorizeTab env caller key .markBillPaid s = .ok tab →
        (ask.perform env caller s).IsNotFound .billNotFound) := by
  refine ⟨?_, ?_, ?_, ?_⟩
  · rcases ask.perform_cases env caller s with ⟨_, hstore⟩ | ⟨op, reply, _, _, heffect⟩
    · rw [hstore]
    · exact heffect.catalogue_eq
  · intro key other hkey hne
    rcases ask.perform_cases env caller s with ⟨_, hstore⟩ | ⟨op, reply, hread, _, heffect⟩
    · rw [hstore]
    · apply heffect.rowsOf_eq
      rw [heffect.target?_of_tab? ((Submission.tab?_of_read hread).trans hkey)]
      exact fun hsame => hne (Option.some.inj hsame).symm
  · intro hnone t ht
    rcases ask.perform_cases env caller s with ⟨_, hstore⟩ | ⟨op, reply, hread, _, heffect⟩
    · rw [hstore]
    · apply heffect.rowsOf_eq
      exact heffect.target?_ne_of_mem ((Submission.tab?_of_read hread).trans hnone) ht
  · intro hkeyed op key shop hread hkey hday hshop
    rw [Submission.perform_of_read hread]
    refine ⟨fun t ht => hkeyed.foreign_tab hshop hkey hday ht, ?_⟩
    rintro b hb hother on tab rfl hallowed
    exact hkeyed.foreign_bill hday hb hother hallowed

namespace Sample

/-- The first content with a second shop beside it. -/
def twoShops : Store := { store with shops := store.shops ++ [⟨2, 2, "Reading Room"⟩] }

/-- Two tabs at the first shop, of which the first has a bill. -/
def twoTabs : Store := twoShops.run [openTab 7, openTab 7, order 5]

theorem twoTabs_keyed : twoTabs.Keyed := by
  constructor <;> decide +kernel

end Sample

/-- An order on the second tab leaves the rows of the first alone, a payment on it does not find the bill
of the first, and the second shop does not have the first tab. -/
theorem operations_isolated_twoTabs :
    let perform := fun ask : Submission =>
      ask.perform (Sample.order 5).env (Sample.order 5).caller Sample.twoTabs
    (perform (.addOrder ⟨1, 2⟩ Sample.orderForm (some (Sample.january 5)))).store.rowsOf Sample.tab =
        Sample.twoTabs.rowsOf Sample.tab ∧
      (perform (.plain (.markBillPaid ⟨1, 2⟩ 1 (some (Sample.january 5))))).IsNotFound .billNotFound ∧
      (perform (.plain (.closeTab ⟨2, 1⟩))).IsNotFound .tabNotFound := by
  intro perform
  let pay : Operation := .markBillPaid ⟨1, 2⟩ 1 (some (Sample.january 5))
  let close : Operation := .closeTab ⟨2, 1⟩
  have hisolated := fun ask =>
    operations_isolated (Sample.order 5).env (Sample.order 5).caller ask Sample.twoTabs
  have hpay := (hisolated (.plain pay)).2.2.2 Sample.twoTabs_keyed pay ⟨1, 2⟩ ⟨1, 2, "Campus Cafe"⟩
    rfl rfl ⟨Sample.january 5, rfl⟩ (by decide +kernel)
  have hclose := (hisolated (.plain close)).2.2.2 Sample.twoTabs_keyed close ⟨2, 1⟩
    ⟨2, 2, "Reading Room"⟩ rfl rfl trivial (by decide +kernel)
  have hallowed : Service.authorizeTab (Sample.order 5).env (Sample.order 5).caller ⟨1, 2⟩
      .markBillPaid Sample.twoTabs = .ok { Sample.openedTab 7 with id := 2 } :=
    Service.authorizeTab_eq_ok.mpr ⟨by decide, by decide, by decide +kernel, ⟨1, 2, "Campus Cafe"⟩,
      by decide +kernel, by decide +kernel⟩
  refine ⟨(hisolated _).2.1 ⟨1, 2⟩ Sample.tab rfl (by decide), ?_, ?_⟩
  · exact hpay.2 ⟨1, Sample.tab, Sample.january 5, Sample.january 11, false⟩ (by decide +kernel)
      (by decide) _ _ rfl hallowed
  · exact hclose.1 (Sample.openedTab 7) (by decide +kernel) rfl (by decide)

end ShopTabs
