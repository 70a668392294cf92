import ShopTabs.Service.Access
/-!
The life of a tab: it is opened, its settings are revised by proposal and approval, and it is closed.
-/

namespace ShopTabs.Service

/-- Whom a new tab belongs to: the caller, or the person that an administrator names. -/
def ownerOf (caller : Caller) (form : Form.NewTab) : Int :=
  if caller.principal.role = .admin then form.ownerId.getD caller.principal.id
  else caller.principal.id

/-- Adds a tab that waits for approval; its owner has to be a known person, and its settings have to fit a
tab. -/
def addTab (shopId ownerId : Int) (config : KeptConfig) (s : Store) :
    Except Failure (TabKey × Store) := do
  requireWord ownerId
  ensure (s.hasUser ownerId) .constraint
  ensure config.fitsTab .constraint
  let tab : Tab := ⟨nextId (s.tabs.map (·.id)), shopId, ownerId, .awaitingApproval, config⟩
  return (tab.key, { s with tabs := s.tabs ++ [tab] })

/-- Opens a tab with its verification list and its locations. -/
def createTab (env : Surroundings) (caller : Caller) (shopId : Int) (form : Form.NewTab)
    (s : Store) : Except Failure (Int × Store) := do
  let _ ← authorizeShop env caller shopId .create s
  let (key, s) ← addTab shopId (ownerOf caller form) form.config.kept s
  let (_, s) ← s.syncEmails key form.emails
  let (_, s) ← s.syncPlaces key form.locationIds
  let s ← record caller key .tabCreated s
  return (key.tabId, s)

/-- Makes the verification list hold the given addresses, if any are given. -/
def replaceEmails (key : TabKey) (emails : Option (List String)) (s : Store) :
    Except Failure Store :=
  match emails with
  | none => .ok s
  | some emails => (s.syncEmails key emails).map (·.2)

/-- Makes the locations the given ones, if any are given. -/
def replacePlaces (key : TabKey) (places : Option (List Int)) (s : Store) : Except Failure Store :=
  match places with
  | none => .ok s
  | some places => (s.syncPlaces key places).map (·.2)

/-- Proposes new settings for a tab in place of those proposed before.  The lists take effect at once,
the settings by approval. -/
def submitUpdate (env : Surroundings) (caller : Caller) (key : TabKey) (form : Form.Revision)
    (s : Store) : Except Failure Store := do
  let tab ← authorizeTab env caller key .update s
  ensureNotClosed tab
  ensure form.config.kept.isBillable .constraint
  let s := s.stage ⟨key, form.config.kept, form.emails, form.locationIds⟩
  let s ← replaceEmails key form.emails s
  let s ← replacePlaces key form.locationIds s
  record caller key .updateSubmitted s

/-- A tab with the settings proposed for it, if there are any, and confirmed. -/
def confirmed (pending : Option PendingUpdate) (tab : Tab) : Tab :=
  { tab with
    status := .confirmed
    config := match pending with
      | some update => update.config
      | none => tab.config }

/-- Puts the proposed settings in force, which have to fit a tab, and confirms the tab. -/
def approveTab (env : Surroundings) (caller : Caller) (key : TabKey) (s : Store) :
    Except Failure Store := do
  let tab ← authorizeTab env caller key .approve s
  ensureNotClosed tab
  let pending := s.pending? key
  ensure (pending.all (·.config.fitsTab)) .constraint
  let s := (s.updateTab key (confirmed pending)).unstage key
  record caller key (.tabApproved pending.isSome) s

/-- Closes a tab, whatever its status, and drops what is proposed for it. -/
def closeTab (env : Surroundings) (caller : Caller) (key : TabKey) (s : Store) :
    Except Failure Store := do
  let _ ← authorizeTab env caller key .close s
  let s := (s.updateTab key fun tab => { tab with status := .closed }).unstage key
  record caller key .tabClosed s

/-- Makes the verification list of a tab hold exactly the given addresses. -/
def setVerificationList (env : Surroundings) (caller : Caller) (key : TabKey)
    (form : Form.EmailList) (s : Store) : Except Failure (SyncResult × Store) := do
  let tab ← authorizeTab env caller key .update s
  ensureNotClosed tab
  let (result, s) ← s.syncEmails key form.emails
  let s ← record caller key (.verificationListSet result.inserted result.deleted) s
  return (result, s)

end ShopTabs.Service
