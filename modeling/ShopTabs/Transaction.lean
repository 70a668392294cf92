import ShopTabs.Ledger.Batch
import ShopTabs.Service.Operation
/-!
Several calls on one store that take effect together or not at all: the first failure ends them.
-/

namespace ShopTabs

/-- A call within a transaction. -/
inductive Call where
  | addOrder (tab : TabKey) (data : Json) (on : Option Day)
  | removeOrder (tab : TabKey) (data : Json) (on : Option Day) (policy : Option RemovalPolicy)
  | selectBill (tab : TabKey) (on : Option Day)
  | putBill (tab : TabKey) (window : Window) (isPaid : Bool)
  | syncEmails (tab : TabKey) (wanted : List String)
  | syncPlaces (tab : TabKey) (wanted : List Int)
  | itemBatch (changes : List (Change ItemKey)) (steps : List BatchStep)
  | variantBatch (changes : List (Change VariantKey)) (steps : List BatchStep)

/-- What a call comes to. -/
inductive CallResult where
  | ordered (result : LedgerResult)
  | bill (id : Int)
  | synced (result : SyncResult)
  | items (results : List (BatchResult ItemKey))
  | variants (results : List (BatchResult VariantKey))

/-- What a call leaves behind: its result, the store, and how many reads are still blind. -/
structure CallReceipt where
  result : CallResult
  store : Store
  blindReads : Nat

namespace Call

/-- Reads the data of an order and puts it on the bill of its day, or takes it off; failures of the
store are reported as the service does. -/
def order (env : Surroundings) (tab : TabKey) (data : Json) (direction : Direction)
    (on : Option Day) (s : Store) : Except Failure CallReceipt := do
  let form ← (Form.Order.read data).mapError Failure.ofRefusal
  let receipt ← (Ledger.apply env tab form direction on s).mapError Failure.reported
  return ⟨.ordered receipt.result, receipt.store, receipt.blindReads⟩

/-- Carries out one call; all failures but those of orders are in the store's own terms. -/
def run (env : Surroundings) (s : Store) : Call → Except Failure CallReceipt
  | addOrder tab data on => order env tab data .add on s
  | removeOrder tab data on policy =>
    order env tab data (.remove (policy.getD env.settings.orderRemovalPolicy)) on s
  | selectBill tab on => do
    let t ← s.requireTab tab
    let day ← env.dayOr on
    let selected ← ShopTabs.selectBill t.config.billingTerms tab day
      (attemptCount env.settings.billSelectionAttempts) env.blindReads s
    return ⟨.bill selected.billId, selected.store, selected.blindReads⟩
  | putBill tab window isPaid => do
    let (id, s) ← s.addBill tab window isPaid
    return ⟨.bill id, s, env.blindReads⟩
  | syncEmails tab wanted => do
    let (result, s) ← s.syncEmails tab wanted
    return ⟨.synced result, s, env.blindReads⟩
  | syncPlaces tab wanted => do
    let (result, s) ← s.syncPlaces tab wanted
    return ⟨.synced result, s, env.blindReads⟩
  | itemBatch changes steps => do
    let (results, s) ← s.itemBatch changes steps
    return ⟨.items results, s, env.blindReads⟩
  | variantBatch changes steps => do
    let (results, s) ← s.variantBatch changes steps
    return ⟨.variants results, s, env.blindReads⟩

end Call

def CallResult.toJson : CallResult → Json
  | ordered r => (Reply.ordered r).toJson Money.textJson
  | bill id => .int id
  | synced r => (Reply.synced r).toJson Money.textJson
  | items results => .arr (results.map (BatchResult.toJson Failure.itemKeyFields))
  | variants results => .arr (results.map (BatchResult.toJson Failure.variantKeyFields))

namespace Transaction

/-- The results of calls up to the first failure, and the store after them if none failed. -/
def runCalls (env : Surroundings) : List Call → Store → List (Except Failure CallResult) × Option Store
  | [], s => ([], some s)
  | call :: rest, s =>
    match call.run env s with
    | .error failure => ([.error failure], none)
    | .ok receipt =>
      let (results, after) := runCalls { env with blindReads := receipt.blindReads } rest receipt.store
      (.ok receipt.result :: results, after)

/-- Carries out calls and keeps what they did, unless one fails or it is to be given up. -/
def perform (env : Surroundings) (calls : List Call) (giveUp : Bool) (s : Store) :
    List (Except Failure CallResult) × Store :=
  let (results, after) := runCalls env calls s
  (results, if giveUp then s else after.getD s)

end Transaction

end ShopTabs
