import ShopTabs.Billing.Window
import ShopTabs.Failure
import ShopTabs.Store.Basic
/-!
Selecting the bill that receives an order.  Only the latest bill counts: an unpaid one before a paid
one, then the one that ends last, of equals the first.  A bill is opened only where no unpaid bill of
the tab starts on the same day; where one does, the selection is made again, as often as is allowed.
-/

namespace ShopTabs

/-- The first bill stands before the second as the latest: unpaid before paid, then the later end. -/
def Bill.isLater (a b : Bill) : Bool :=
  (!a.isPaid && b.isPaid) || (a.isPaid == b.isPaid && b.endDate < a.endDate)

/-- The latest of a list of bills; of equals the first. -/
def latestBill (bills : List Bill) : Option Bill :=
  bills.foldl (fun best b => match best with
    | none => some b
    | some a => if b.isLater a then some b else some a) none

namespace Store

/-- The tab of a key, which has to be there. -/
def requireTab (s : Store) (key : TabKey) : Except Failure Tab := do
  requireWords key
  orFail .tabNotFound (s.tab? key)

/-- An unpaid bill of the tab starts on the day. -/
def hasOpenStart (s : Store) (tab : TabKey) (start : Day) : Bool :=
  s.bills.any fun b => b.tab = tab && b.startDate = start && !b.isPaid

/-- Adds a bill; of a tab's unpaid bills no two start on one day, and the tab has to exist. -/
def addBill (s : Store) (tab : TabKey) (window : Window) (isPaid : Bool) :
    Except Failure (Int × Store) := do
  requireWords tab
  ensure (isPaid || !s.hasOpenStart tab window.first) .constraint
  ensure (s.hasTab tab) .constraint
  let id := nextId (s.bills.map (·.id))
  return (id, { s with bills := s.bills ++ [⟨id, tab, window.first, window.last, isPaid⟩] })

end Store

/-- A selected bill, the store with it, and how many reads are still blind. -/
structure Selection where
  billId : Int
  store : Store
  blindReads : Nat

/-- Selects the bill for a day within a number of attempts.  A blind read finds no bill, as when another
writer opened the bill meanwhile. -/
def selectBill (terms : BillingTerms) (tab : TabKey) (day : Day) :
    (attempts blindReads : Nat) → Store → Except Failure Selection
  | 0, _, _ => .error .noBill
  | attempts + 1, blindReads, s =>
    let latest := if blindReads = 0 then latestBill (s.billsOf tab) else none
    match BillChoice.after terms latest day with
    | .error fault => .error (.span fault)
    | .ok (.keep bill) => .ok ⟨bill.id, s, blindReads - 1⟩
    | .ok (.openWindow window) => match s.addBill tab window false with
      | .ok (id, s) => .ok ⟨id, s, blindReads - 1⟩
      | .error .constraint => selectBill terms tab day attempts (blindReads - 1) s
      | .error failure => .error failure

/-- The attempts that a setting allows: at least one. -/
def attemptCount (setting : Int) : Nat := (max 1 setting).toNat

end ShopTabs
