import ShopTabs.Calendar.Day
import ShopTabs.Calendar.TimeOfDay
import ShopTabs.Json.Value
import ShopTabs.Number.Money
/-!
What a tab is set up with.  A configuration comes in two forms: as it is submitted, with times that may
carry an offset and an amount as it was written, and as it is kept, with plain times and money.
-/

namespace ShopTabs

/-- How a tab's bills are paid. -/
inductive PaymentMethod where
  | inPerson
  | chartstring
deriving DecidableEq, Repr

namespace PaymentMethod

/-- The name of a payment method. -/
def name : PaymentMethod → String
  | inPerson => "IN_PERSON"
  | chartstring => "CHARTSTRING"

def all : List PaymentMethod := [inPerson, chartstring]

end PaymentMethod

/-- How those who order on a tab are verified. -/
inductive VerificationMethod where
  | specify
  | voucher
  | email
deriving DecidableEq, Repr

namespace VerificationMethod

/-- The name of a verification method. -/
def name : VerificationMethod → String
  | specify => "SPECIFY"
  | voucher => "VOUCHER"
  | email => "EMAIL"

def all : List VerificationMethod := [specify, voucher, email]

end VerificationMethod

/-- Where a tab stands: it waits for approval, takes orders by approval, or is closed for good. -/
inductive TabStatus where
  | awaitingApproval
  | confirmed
  | closed
deriving DecidableEq, Repr

def TabStatus.name : TabStatus → String
  | awaitingApproval => "AWAITING_APPROVAL"
  | confirmed => "CONFIRMED"
  | closed => "CLOSED"

/-- The twelve settings of a tab, with times and amounts of a given form. -/
structure TabConfig (Time Amount : Type) where
  paymentMethod : PaymentMethod
  organization : String
  displayName : String
  startDate : Day
  endDate : Day
  dailyStart : Time
  dailyEnd : Time
  /-- Seven bits, Monday the lowest. -/
  activeDays : Int
  orderLimit : Amount
  verificationMethod : VerificationMethod
  paymentDetails : String
  billingInterval : Int
deriving DecidableEq, Repr

/-- A configuration as it is submitted. -/
abbrev SubmittedConfig := TabConfig OffsetTime Decimal

/-- A configuration as it is kept. -/
abbrev KeptConfig := TabConfig TimeOfDay Money

namespace TabConfig

/-- The form in which a submitted configuration is kept: offsets are dropped, the amount is money. -/
def kept (c : SubmittedConfig) : KeptConfig :=
  { c with
    dailyStart := c.dailyStart.time
    dailyEnd := c.dailyEnd.time
    orderLimit := Money.ofDecimal c.orderLimit }

/-- Bills can follow from the settings: the billing interval is positive. -/
def isBillable {Time Amount : Type} (c : TabConfig Time Amount) : Bool := 0 < c.billingInterval

/-- The settings can be those of a tab: bills can follow from them, and the last day is not before the
first. -/
def fitsTab {Time Amount : Type} (c : TabConfig Time Amount) : Bool :=
  c.isBillable && c.startDate ≤ c.endDate

/-- The settings by name, times and amounts written as given. -/
def fields {Time Amount : Type} (time : Time → Json) (amount : Amount → Json)
    (c : TabConfig Time Amount) : List (String × Json) := [
  ("payment_method", .str c.paymentMethod.name),
  ("organization", .str c.organization),
  ("display_name", .str c.displayName),
  ("start_date", .str c.startDate.text),
  ("end_date", .str c.endDate.text),
  ("daily_start_time", time c.dailyStart),
  ("daily_end_time", time c.dailyEnd),
  ("active_days_of_wk", .int c.activeDays),
  ("dollar_limit_per_order", amount c.orderLimit),
  ("verification_method", .str c.verificationMethod.name),
  ("payment_details", .str c.paymentDetails),
  ("billing_interval_days", .int c.billingInterval)]

/-- The settings of a submitted configuration by name. -/
def submittedFields (c : SubmittedConfig) : List (String × Json) :=
  c.fields (fun t => .str t.text) (fun d => .str d.text)

/-- The settings of a kept configuration by name, with amounts written as given. -/
def keptFields (amount : Money → Json) (c : KeptConfig) : List (String × Json) :=
  c.fields (fun t => .str (String.ofList t.text)) amount

end TabConfig

end ShopTabs
