import ShopTabs.Billing.Selection
import ShopTabs.Calendar.Zone
import ShopTabs.Ledger.Catalog
import ShopTabs.Settings
/-!
Orders put on bills and taken off them.  The day decides the bill; the quantities of the order are
summed by item and by variant and added to the bill's lines, or taken from them by a policy.
-/

namespace ShopTabs

/-- What surrounds an operation: the settings, the moment, the rule for who may do what, how the reader of
forms finds the short form of an amount, and how many of the next reads of a latest bill are blind. -/
structure Surroundings where
  settings : Settings
  now : Instant
  authorizer : Authorizer := standingAuthorizer
  shortening : Decimal.Shortening := .rounded
  blindReads : Nat := 0

/-- The day on which bills are written now, in the time zone of the settings. -/
def Surroundings.today (env : Surroundings) : Except Failure Day :=
  match Zone.ofName env.settings.billingTimezone with
  | .error fault => .error (.zoneName fault env.settings.billingTimezone)
  | .ok zone => orFail (.span .outsideCalendar) (zone.dayAt? env.now)

/-- The given day, or today. -/
def Surroundings.dayOr (env : Surroundings) : Option Day → Except Failure Day
  | some day => .ok day
  | none => env.today

/-- An order is put on a bill, or taken off it by a policy. -/
inductive Direction where
  | add
  | remove (policy : RemovalPolicy)
deriving DecidableEq, Repr

namespace Direction

/-- The change that a quantity of an order makes. -/
def change : Direction → Int → Int
  | add, q => q
  | remove _, q => -q

/-- Overdrawn lines are refused. -/
def rejects : Direction → Bool
  | remove .reject => true
  | _ => false

/-- Overdrawn lines are set to zero. -/
def clamps : Direction → Bool
  | remove .clamp => true
  | _ => false

end Direction

/-- What an order came to: the bill, and how many of its lines were written. -/
structure LedgerResult where
  billId : Int
  itemLines : Nat
  variantLines : Nat
deriving DecidableEq, Repr

/-- The result of an order, the store with it, and how many reads are still blind. -/
structure Receipt where
  result : LedgerResult
  store : Store
  blindReads : Nat

namespace Ledger

/-- A tab takes orders on a day: it is not closed, and the day is none before its first or after its
last. -/
def ensureOrderable (t : Tab) (day : Day) : Except Failure Unit := do
  ensure (t.status ≠ .closed) .tabClosed
  ensure (t.config.startDate ≤ day) .tabNotActiveYet
  ensure (day ≤ t.config.endDate) .tabNoLongerActive

/-- The changes that an order makes to the items on a bill. -/
def itemChanges (o : Form.Order) (tab : TabKey) (billId : Int) (direction : Direction) :
    List (Change ItemKey) :=
  o.items.map fun i => ⟨⟨tab, billId, i.id⟩, direction.change i.quantity⟩

/-- The changes that an order makes to the variants on a bill. -/
def variantChanges (o : Form.Order) (tab : TabKey) (billId : Int) (direction : Direction) :
    List (Change VariantKey) :=
  o.items.flatMap fun i =>
    i.variants.map fun v => ⟨⟨tab, billId, i.id, v.id⟩, direction.change v.quantity⟩

/-- Writes the changes of an order onto the lines of a bill. -/
def write (s : Store) (items : List (Change ItemKey)) (variants : List (Change VariantKey))
    (direction : Direction) : Except Failure (Nat × Nat × Store) := do
  items.forM fun c => requireWord c.amount
  variants.forM fun c => requireWord c.amount
  if direction.rejects then
    let shortItems ← s.itemOverdrafts items
    let shortVariants ← s.variantOverdrafts variants
    ensure (shortItems.isEmpty && shortVariants.isEmpty) (.overdrawn shortItems shortVariants)
  let (itemLines, s) ← s.mergeItems items
  let (variantLines, s) ← s.mergeVariants variants
  if direction.clamps then
    return (itemLines, variantLines, ((s.clampItems items).2.clampVariants variants).2)
  return (itemLines, variantLines, s)

/-- Puts an order on the bill of its day, or takes it off. -/
def apply (env : Surroundings) (tab : TabKey) (o : Form.Order) (direction : Direction)
    (on : Option Day) (s : Store) : Except Failure Receipt := do
  let day ← env.dayOr on
  let t ← s.requireTab tab
  ensureOrderable t day
  Catalog.ensureKnown s tab.shopId o
  let selected ← selectBill t.config.billingTerms tab day
    (attemptCount env.settings.billSelectionAttempts) env.blindReads s
  let (itemLines, variantLines, s) ← write selected.store
    (itemChanges o tab selected.billId direction) (variantChanges o tab selected.billId direction)
    direction
  return ⟨⟨selected.billId, itemLines, variantLines⟩, s, selected.blindReads⟩

end Ledger

end ShopTabs
