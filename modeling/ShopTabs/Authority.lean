/-!
Who may do what.  An active administrator and the active owner of the shop may do everything; any
active person may open a tab, and the owner of a tab may read and revise it.
-/

namespace ShopTabs

/-- The role of a person. -/
inductive Role where
  | admin
  | user
deriving DecidableEq, Repr

namespace Role

def name : Role → String
  | admin => "ADMIN"
  | user => "USER"

def ofName? : String → Option Role
  | "ADMIN" => some admin
  | "USER" => some user
  | _ => none

end Role

/-- What can be done to a tab. -/
inductive Action where
  | create
  | read
  | update
  | approve
  | close
  | order
  | markBillPaid
deriving DecidableEq, Repr

namespace Action

def name : Action → String
  | create => "CREATE"
  | read => "READ"
  | update => "UPDATE"
  | approve => "APPROVE"
  | close => "CLOSE"
  | order => "ORDER"
  | markBillPaid => "MARK_BILL_PAID"

def all : List Action := [create, read, update, approve, close, order, markBillPaid]

end Action

/-- The person on whose behalf something is done. -/
structure Principal where
  id : Int
  email : String
  role : Role
  active : Bool
deriving DecidableEq, Repr

/-- What an action is aimed at: a shop, and perhaps one of its tabs. -/
structure Resource where
  shopId : Int
  shopOwnerId : Int
  tabId : Option Int
  tabOwnerId : Option Int
deriving DecidableEq, Repr

/-- A rule that allows or forbids an action. -/
abbrev Authorizer := Principal → Resource → Action → Bool

/-- The standing rule. -/
def standingAuthorizer : Authorizer := fun p r a =>
  p.active && (
    p.role = .admin ||
    p.id = r.shopOwnerId ||
    (if a = .create then r.tabId.isNone
     else r.tabId.isSome && r.tabOwnerId = some p.id && (a = .read || a = .update)))

end ShopTabs
