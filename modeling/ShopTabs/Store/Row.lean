import ShopTabs.Authority
import ShopTabs.Calendar.Instant
import ShopTabs.Number.Money
import ShopTabs.Number.Quantity
import ShopTabs.Tab.Config
/-!
The rows that a store holds.
-/

namespace ShopTabs

/-- A person who can sign in. -/
structure User where
  id : Int
  email : String
  name : String
  role : Role
  active : Bool
deriving DecidableEq, Repr

/-- A shop. -/
structure Shop where
  id : Int
  ownerId : Int
  name : String
deriving DecidableEq, Repr

/-- A place that belongs to a shop. -/
structure Location where
  id : Int
  shopId : Int
  name : String
deriving DecidableEq, Repr

/-- Something that a shop sells. -/
structure Item where
  id : Int
  shopId : Int
  name : String
  basePrice : Money
deriving DecidableEq, Repr

/-- A variant of an item. -/
structure Variant where
  id : Int
  shopId : Int
  itemId : Int
  name : String
  price : Money
deriving DecidableEq, Repr

/-- What names a tab: the number of its shop and its own. -/
structure TabKey where
  shopId : Int
  tabId : Int
deriving DecidableEq, Repr

/-- A tab. -/
structure Tab where
  id : Int
  shopId : Int
  ownerId : Int
  status : TabStatus
  config : KeptConfig
deriving DecidableEq, Repr

def Tab.key (t : Tab) : TabKey := ⟨t.shopId, t.id⟩

/-- A revision that waits for approval; the lists are those it was submitted with. -/
structure PendingUpdate where
  tab : TabKey
  config : KeptConfig
  emails : Option (List String)
  locationIds : Option (List Int)
deriving DecidableEq, Repr

/-- One element of a set that belongs to a tab. -/
structure Member (κ : Type) where
  tab : TabKey
  key : κ
deriving DecidableEq, Repr

/-- A bill of a tab: what is ordered from its first day to its last. -/
structure Bill where
  id : Int
  tab : TabKey
  startDate : Day
  endDate : Day
  isPaid : Bool
deriving DecidableEq, Repr

/-- An item on a bill. -/
structure ItemKey where
  tab : TabKey
  billId : Int
  itemId : Int
deriving DecidableEq, Repr

/-- A variant of an item on a bill. -/
structure VariantKey where
  tab : TabKey
  billId : Int
  itemId : Int
  variantId : Int
deriving DecidableEq, Repr

/-- The item that a variant belongs to. -/
def VariantKey.item (k : VariantKey) : ItemKey := ⟨k.tab, k.billId, k.itemId⟩

/-- The numbers by which items on bills are put in order. -/
def ItemKey.rank (k : ItemKey) : List Int := [k.tab.shopId, k.tab.tabId, k.billId, k.itemId]

/-- The numbers by which variants on bills are put in order. -/
def VariantKey.rank (k : VariantKey) : List Int := k.item.rank ++ [k.variantId]

def Quantity.toJson : Quantity → Json
  | whole n => .int n
  | beyond x => .real x

/-- A quantity under a key. -/
structure Line (κ : Type) where
  key : κ
  quantity : Quantity
deriving DecidableEq, Repr

/-- A number to be added to the quantity under a key. -/
structure Change (κ : Type) where
  key : κ
  amount : Int
deriving DecidableEq, Repr

/-- What a change to a tab did. -/
inductive Event where
  | tabCreated
  | updateSubmitted
  | tabApproved (appliedUpdate : Bool)
  | tabClosed
  | billPaid (billId : Int)
  | orderAdded (billId : Int)
  | orderRemoved (billId : Int)
  | verificationListSet (inserted deleted : Nat)
deriving DecidableEq, Repr

namespace Event

def name : Event → String
  | tabCreated => "TAB_CREATED"
  | updateSubmitted => "TAB_UPDATE_SUBMITTED"
  | tabApproved _ => "TAB_APPROVED"
  | tabClosed => "TAB_CLOSED"
  | billPaid _ => "TAB_BILL_PAID"
  | orderAdded _ => "TAB_ORDER_ADDED"
  | orderRemoved _ => "TAB_ORDER_REMOVED"
  | verificationListSet .. => "TAB_VERIFICATION_LIST_SET"

/-- The particulars of an event by name. -/
def particulars : Event → List (String × Json)
  | tabApproved applied => [("applied_update", .bool applied)]
  | billPaid b | orderAdded b | orderRemoved b => [("bill_id", .int b)]
  | verificationListSet i d => [("inserted", .int i), ("deleted", .int d)]
  | _ => []

end Event

/-- An entry of the audit log. -/
structure AuditEntry where
  id : Int
  actorId : Int
  tab : TabKey
  ip : Option String
  event : Event
deriving DecidableEq, Repr

/-- A web session. -/
structure Session where
  id : Int
  token : String
  userId : Int
  lastSeenAt : Instant
  expiresAt : Instant
  revokedAt : Option Instant
deriving DecidableEq, Repr

end ShopTabs
