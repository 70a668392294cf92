import ShopTabs.Store.Row
/-!
The windows of bills.  A tab is billed in windows of its interval, each starting on the last day of the
one before it, the first on the tab's first day; no window reaches beyond the tab's last day.
-/

namespace ShopTabs

/-- The settings of a tab that its bills follow from. -/
structure BillingTerms where
  startDate : Day
  endDate : Day
  interval : Int
deriving DecidableEq, Repr

/-- The billing terms of a configuration. -/
def TabConfig.billingTerms {Time Amount : Type} (c : TabConfig Time Amount) : BillingTerms :=
  ⟨c.startDate, c.endDate, c.billingInterval⟩

/-- The days from the first to the last. -/
structure Window where
  first : Day
  last : Day
deriving DecidableEq, Repr

/-- The window that opens on a day: so many days long, but not beyond the end. -/
def Window.opening (start : Day) (interval : Int) (endDate : Day) : Except Day.SpanFault Window :=
  match start.shift (interval - 1) with
  | .ok last => .ok ⟨start, min last endDate⟩
  | .error fault => .error fault

/-- The window of a bill covers a day. -/
def Bill.covers (b : Bill) (day : Day) : Bool := b.startDate ≤ day && day ≤ b.endDate

/-- A bill takes orders on a day: it is unpaid and covers it. -/
def Bill.takes (b : Bill) (day : Day) : Bool := !b.isPaid && b.covers day

/-- A bill that is closed on a day: it is paid, and the day is its last. -/
def Bill.closedOn (b : Bill) (day : Day) : Bill := { b with isPaid := true, endDate := day }

/-- What an order's day calls for: a bill that is there, or a new window. -/
inductive BillChoice where
  | keep (bill : Bill)
  | openWindow (window : Window)
deriving DecidableEq, Repr

/-- The latest bill is kept where it takes orders on the day.  Otherwise the window after it is opened,
or the tab's first one. -/
def BillChoice.after (terms : BillingTerms) (latest : Option Bill) (day : Day) :
    Except Day.SpanFault BillChoice :=
  match latest with
  | none => (Window.opening terms.startDate terms.interval terms.endDate).map .openWindow
  | some bill =>
    if bill.takes day then .ok (.keep bill)
    else (Window.opening bill.endDate terms.interval terms.endDate).map .openWindow

end ShopTabs
