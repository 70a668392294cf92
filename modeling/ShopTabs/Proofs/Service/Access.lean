import ShopTabs.Proofs.Guard
import ShopTabs.Service.Access
/-!
When a caller is let in, and what is recorded of what he did.
-/

namespace ShopTabs

/-- The store with an entry for an event at the end of its audit log. -/
def Store.audited (s : Store) (caller : Caller) (tab : TabKey) (event : Event) : Store :=
  { s with
    audit := s.audit ++
      [⟨nextId (s.audit.map (·.id)), caller.principal.id, tab, caller.ip, event⟩] }

@[simp] theorem Store.audited_bills {s : Store} {caller : Caller} {tab : TabKey} {event : Event} :
    (s.audited caller tab event).bills = s.bills := rfl

@[simp] theorem Store.audited_tabs {s : Store} {caller : Caller} {tab : TabKey} {event : Event} :
    (s.audited caller tab event).tabs = s.tabs := rfl

@[simp] theorem Store.audited_pending {s : Store} {caller : Caller} {tab : TabKey}
    {event : Event} : (s.audited caller tab event).pending = s.pending := rfl

@[simp] theorem Store.audited_itemLines {s : Store} {caller : Caller} {tab : TabKey}
    {event : Event} : (s.audited caller tab event).itemLines = s.itemLines := rfl

@[simp] theorem Store.audited_variantLines {s : Store} {caller : Caller} {tab : TabKey}
    {event : Event} : (s.audited caller tab event).variantLines = s.variantLines := rfl

/-- The audit log will take entries of the caller: his number fits it and names a known person. -/
def Caller.IsKnown (caller : Caller) (s : Store) : Prop :=
  isWord caller.principal.id = true ∧ s.hasUser caller.principal.id = true

theorem Caller.IsKnown.congr {caller : Caller} {s s' : Store} (h : caller.IsKnown s)
    (husers : s'.users = s.users) : caller.IsKnown s' := by
  refine ⟨h.1, ?_⟩
  rw [Store.hasUser, husers]
  exact h.2

namespace Service

variable {env : Surroundings} {caller : Caller} {key : TabKey} {action : Action} {s s' : Store}

theorem findShop_eq_ok {shopId : Int} {shop : Shop} :
    findShop s shopId = .ok shop ↔ isWord shopId = true ∧ s.shop? shopId = some shop := by
  simp only [findShop, bind_eq_ok, requireWord_eq_ok, orFail_eq_ok, exists_const]

theorem findTab_eq_ok {tab : Tab} :
    findTab s key = .ok tab ↔ isWord key.tabId = true ∧ s.tab? key = some tab := by
  simp only [findTab, bind_eq_ok, requireWord_eq_ok, orFail_eq_ok, exists_const]

theorem authorizeShop_eq_ok {shopId : Int} {shop : Shop} :
    authorizeShop env caller shopId action s = .ok shop ↔
      isWord shopId = true ∧ s.shop? shopId = some shop ∧
        env.authorizer caller.principal ⟨shopId, shop.ownerId, none, none⟩ action = true := by
  simp only [authorizeShop, authorize, bind_eq_ok, findShop_eq_ok, ensure_eq_ok, pure_eq_ok,
    exists_const]
  constructor
  · rintro ⟨_, ⟨hword, hshop⟩, hallowed, rfl⟩
    exact ⟨hword, hshop, hallowed⟩
  · rintro ⟨hword, hshop, hallowed⟩
    exact ⟨shop, ⟨hword, hshop⟩, hallowed, rfl⟩

theorem authorizeTab_eq_ok {tab : Tab} :
    authorizeTab env caller key action s = .ok tab ↔
      isWord key.shopId = true ∧ isWord key.tabId = true ∧ s.tab? key = some tab ∧
        ∃ shop, s.shop? key.shopId = some shop ∧
          env.authorizer caller.principal
            ⟨key.shopId, shop.ownerId, some tab.id, some tab.ownerId⟩ action = true := by
  simp only [authorizeTab, authorize, bind_eq_ok, findShop_eq_ok, findTab_eq_ok, ensure_eq_ok,
    pure_eq_ok, exists_const]
  constructor
  · rintro ⟨shop, ⟨hshopWord, hshop⟩, _, ⟨htabWord, htab⟩, hallowed, rfl⟩
    exact ⟨hshopWord, htabWord, htab, shop, hshop, hallowed⟩
  · rintro ⟨hshopWord, htabWord, htab, shop, hshop, hallowed⟩
    exact ⟨shop, ⟨hshopWord, hshop⟩, tab, ⟨htabWord, htab⟩, hallowed, rfl⟩

theorem record_eq_ok {event : Event} :
    record caller key event s = .ok s' ↔ caller.IsKnown s ∧ s' = s.audited caller key event := by
  simp only [record, bind_eq_ok, requireWord_eq_ok, ensure_eq_ok, pure_eq_ok, exists_const]
  constructor
  · rintro ⟨hword, huser, rfl⟩
    exact ⟨⟨hword, huser⟩, rfl⟩
  · rintro ⟨⟨hword, huser⟩, rfl⟩
    exact ⟨hword, huser, rfl⟩

end Service

end ShopTabs
