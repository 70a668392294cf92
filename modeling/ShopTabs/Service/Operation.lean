import ShopTabs.Overview
import ShopTabs.Service.Billing
import ShopTabs.Service.Lifecycle
/-!
Everything that the service can be asked for.  An operation either succeeds, with a reply and a new
store, or fails and leaves the store as it is.
-/

namespace ShopTabs

/-- What the service can be asked for, with its form in order. -/
inductive Operation where
  | createTab (shopId : Int) (form : Form.NewTab)
  | submitUpdate (tab : TabKey) (form : Form.Revision)
  | approveTab (tab : TabKey)
  | closeTab (tab : TabKey)
  | markBillPaid (tab : TabKey) (billId : Int) (on : Option Day)
  | addOrder (tab : TabKey) (form : Form.Order) (on : Option Day)
  /-- Without a policy the one of the settings holds. -/
  | removeOrder (tab : TabKey) (form : Form.Order) (on : Option Day) (policy : Option RemovalPolicy)
  | setVerificationList (tab : TabKey) (form : Form.EmailList)
  | showTab (tab : TabKey)
  | listTabs (shopId : Int)

/-- What a successful operation answers. -/
inductive Reply where
  | done
  | created (tabId : Int)
  | ordered (result : LedgerResult)
  | synced (result : SyncResult)
  | overview (tab : Overview)
  | tabs (views : List TabView)

/-- A result with what surrounds an operation: the reply, or why there is none, and the store. -/
structure Outcome (α : Type) where
  result : Except Failure α
  store : Store

/-- The outcome of an attempt that was made on a store: its failure leaves the store as it is. -/
def Outcome.ofAttempt {α : Type} (before : Store) : Except Failure (α × Store) → Outcome α
  | .ok (a, after) => ⟨.ok a, after⟩
  | .error failure => ⟨.error failure, before⟩

namespace Operation

open Service

/-- Carries out an operation; failures of the store are still in the store's own terms. -/
def attempt (env : Surroundings) (caller : Caller) (s : Store) :
    Operation → Except Failure (Reply × Store)
  | createTab shopId form => do
    let (id, s) ← Service.createTab env caller shopId form s
    return (.created id, s)
  | submitUpdate tab form => return (.done, ← Service.submitUpdate env caller tab form s)
  | approveTab tab => return (.done, ← Service.approveTab env caller tab s)
  | closeTab tab => return (.done, ← Service.closeTab env caller tab s)
  | markBillPaid tab billId on => return (.done, ← Service.markBillPaid env caller tab billId on s)
  | addOrder tab form on => do
    let (result, s) ← Service.order env caller tab form .add on s
    return (.ordered result, s)
  | removeOrder tab form on policy => do
    let policy := policy.getD env.settings.orderRemovalPolicy
    let (result, s) ← Service.order env caller tab form (.remove policy) on s
    return (.ordered result, s)
  | setVerificationList tab form => do
    let (result, s) ← Service.setVerificationList env caller tab form s
    return (.synced result, s)
  | showTab tab => do
    let tab ← authorizeTab env caller tab .read s
    return (.overview (s.overview tab), s)
  | listTabs shopId => do
    let _ ← authorizeShop env caller shopId .read s
    return (.tabs (s.tabViews shopId), s)

/-- Carries out an operation on a store. -/
def perform (env : Surroundings) (caller : Caller) (op : Operation) (s : Store) : Outcome Reply :=
  .ofAttempt s ((op.attempt env caller s).mapError Failure.reported)

end Operation

/-- What the service can be asked for, with submitted data in the place of forms. -/
inductive Submission where
  | createTab (shopId : Int) (data : Json)
  | submitUpdate (tab : TabKey) (data : Json)
  | addOrder (tab : TabKey) (data : Json) (on : Option Day)
  | removeOrder (tab : TabKey) (data : Json) (on : Option Day) (policy : Option RemovalPolicy)
  | setVerificationList (tab : TabKey) (data : Json)
  /-- An operation without submitted data. -/
  | plain (op : Operation)

namespace Submission

/-- The operation that is asked for, once its data was read. -/
def read (how : Decimal.Shortening) : Submission → Except Form.Refusal Operation
  | createTab shopId data => return .createTab shopId (← Form.NewTab.read how data)
  | submitUpdate tab data => return .submitUpdate tab (← Form.Revision.read how data)
  | addOrder tab data on => return .addOrder tab (← Form.Order.read data) on
  | removeOrder tab data on policy => return .removeOrder tab (← Form.Order.read data) on policy
  | setVerificationList tab data => return .setVerificationList tab (← Form.EmailList.read data)
  | plain op => .ok op

/-- Reads the data and carries out the operation on a store. -/
def perform (env : Surroundings) (caller : Caller) (ask : Submission) (s : Store) : Outcome Reply :=
  match ask.read env.shortening with
  | .ok op => op.perform env caller s
  | .error refusal => ⟨.error (.ofRefusal refusal), s⟩

end Submission

/-- A reply written out, amounts of money as given. -/
def Reply.toJson (amount : Money → Json) : Reply → Json
  | done => .null
  | created id => .int id
  | ordered r => .obj [("bill_id", .int r.billId), ("item_lines", .int r.itemLines),
      ("variant_lines", .int r.variantLines)]
  | synced r => .obj [("inserted", .int r.inserted), ("deleted", .int r.deleted)]
  | overview o => o.toJson amount
  | tabs views => .arr (views.map (TabView.toJson amount))

end ShopTabs
