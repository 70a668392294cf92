import ShopTabs.Service.Access
/-!
Orders on a tab and the payment of its bills.
-/

namespace ShopTabs.Service

/-- The event of an order that is put on a bill or taken off it. -/
def orderEvent (billId : Int) : Direction → Event
  | .add => .orderAdded billId
  | .remove _ => .orderRemoved billId

/-- Puts an order on the bill of its day, or takes it off. -/
def order (env : Surroundings) (caller : Caller) (key : TabKey) (form : Form.Order)
    (direction : Direction) (on : Option Day) (s : Store) :
    Except Failure (LedgerResult × Store) := do
  let _ ← authorizeTab env caller key .order s
  let receipt ← Ledger.apply env key form direction on s
  let s ← record caller key (orderEvent receipt.result.billId direction) receipt.store
  return (receipt.result, s)

/-- Closes a bill: it is paid, and its window ends on the day. -/
def markBillPaid (env : Surroundings) (caller : Caller) (key : TabKey) (billId : Int)
    (on : Option Day) (s : Store) : Except Failure Store := do
  let day ← env.dayOr on
  let _ ← authorizeTab env caller key .markBillPaid s
  requireWord billId
  ensure (s.hasBill key billId) .billNotFound
  let s := s.updateBill key billId fun b => b.closedOn day
  record caller key (.billPaid billId) s

end ShopTabs.Service
