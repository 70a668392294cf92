import ShopTabs.Ledger.Order
/-!
On whose behalf something is done, whether he may do it, and the audit log of what was done.
-/

namespace ShopTabs

/-- The person who asks for something, and the network address from which he does. -/
structure Caller where
  principal : Principal
  ip : Option String
deriving DecidableEq, Repr

namespace Service

/-- Fails unless the rule in force allows the caller an action. -/
def authorize (env : Surroundings) (caller : Caller) (resource : Resource) (action : Action) :
    Except Failure Unit :=
  ensure (env.authorizer caller.principal resource action) .unauthorized

def findShop (s : Store) (shopId : Int) : Except Failure Shop := do
  requireWord shopId
  orFail .shopNotFound (s.shop? shopId)

def findTab (s : Store) (key : TabKey) : Except Failure Tab := do
  requireWord key.tabId
  orFail .tabNotFound (s.tab? key)

/-- The shop at which the caller may act. -/
def authorizeShop (env : Surroundings) (caller : Caller) (shopId : Int) (action : Action)
    (s : Store) : Except Failure Shop := do
  let shop ← findShop s shopId
  authorize env caller ⟨shopId, shop.ownerId, none, none⟩ action
  return shop

/-- The tab on which the caller may act. -/
def authorizeTab (env : Surroundings) (caller : Caller) (key : TabKey) (action : Action)
    (s : Store) : Except Failure Tab := do
  let shop ← findShop s key.shopId
  let tab ← findTab s key
  authorize env caller ⟨key.shopId, shop.ownerId, some tab.id, some tab.ownerId⟩ action
  return tab

/-- Fails if the tab is closed. -/
def ensureNotClosed (tab : Tab) : Except Failure Unit := ensure (tab.status ≠ .closed) .tabClosed

/-- Adds an entry to the audit log; its actor has to be a known person. -/
def record (caller : Caller) (tab : TabKey) (event : Event) (s : Store) : Except Failure Store := do
  requireWord caller.principal.id
  ensure (s.hasUser caller.principal.id) .constraint
  let entry : AuditEntry :=
    ⟨nextId (s.audit.map (·.id)), caller.principal.id, tab, caller.ip, event⟩
  return { s with audit := s.audit ++ [entry] }

end Service

end ShopTabs
