import ShopTabs.Form.Scalar
import ShopTabs.Tab.Config
/-!
The forms by which tabs are opened, revised and ordered on.  The ranges of days and times are looked at
only when every field is in order, the days first.
-/

namespace ShopTabs.Form

/-- Why submitted data is turned away. -/
inductive Refusal where
  /-- At least one finding. -/
  | findings (first : Finding) (others : List Finding)
  /-- One daily time has an offset and the other has none, so that they cannot be compared. -/
  | mixedOffsets

/-- The settings of a tab in their order. -/
def config (how : Decimal.Shortening) : Reader SubmittedConfig := fun record =>
  TabConfig.mk
    <$> field "payment_method" (oneOf PaymentMethod.all PaymentMethod.name) record
    <*> field "organization" (text 1 64) record
    <*> field "display_name" (text 1 64) record
    <*> field "start_date" day record
    <*> field "end_date" day record
    <*> field "daily_start_time" time record
    <*> field "daily_end_time" time record
    <*> field "active_days_of_wk" (integerBetween 1 127) record
    <*> field "dollar_limit_per_order" (amount how) record
    <*> field "verification_method" (oneOf VerificationMethod.all VerificationMethod.name) record
    <*> fieldOr "payment_details" "" (text 0 512) record
    <*> field "billing_interval_days" (positiveUpTo 365) record

/-- The last day is not before the first, and the daily end is after the daily start. -/
def checkRanges (c : SubmittedConfig) (input : Json) : Except Refusal Unit :=
  if c.endDate < c.startDate then .error (.findings ⟨[], .endDateBeforeStart, input⟩ [])
  else match OffsetTime.isAfter? c.dailyEnd c.dailyStart with
    | none => .error .mixedOffsets
    | some false => .error (.findings ⟨[], .endTimeNotAfterStart, input⟩ [])
    | some true => .ok ()

/-- The value of an accepted verdict, or its findings. -/
def settle {α : Type} : Verdict α → Except Refusal α
  | .accepted a => .ok a
  | .refused first others => .error (.findings first others)

/-- The form by which a tab is opened. -/
structure NewTab where
  config : SubmittedConfig
  emails : List String
  locationIds : List Int
  /-- Whom the tab shall belong to, if an administrator says so. -/
  ownerId : Option Int
deriving DecidableEq, Repr

/-- The fields of the form by which a tab is opened. -/
def NewTab.fields (how : Decimal.Shortening) : Reader NewTab :=
  recordOf "TabCreate" fun record =>
    NewTab.mk <$> Form.config how record
      <*> fieldOr "verification_list" [] (listOf email) record
      <*> fieldOr "location_ids" [] (listOf integer) record
      <*> fieldOr "owner_id" none (nullable integer) record

/-- Reads the form by which a tab is opened. -/
def NewTab.read (how : Decimal.Shortening) (input : Json) : Except Refusal NewTab := do
  let form ← settle (NewTab.fields how input)
  checkRanges form.config input
  return form

/-- The form by which a tab's settings are revised; a list that is left out stays as it is. -/
structure Revision where
  config : SubmittedConfig
  emails : Option (List String)
  locationIds : Option (List Int)
deriving DecidableEq, Repr

/-- The fields of the form by which a tab's settings are revised. -/
def Revision.fields (how : Decimal.Shortening) : Reader Revision :=
  recordOf "TabUpdate" fun record =>
    Revision.mk <$> Form.config how record
      <*> fieldOr "verification_list" none (nullable (listOf email)) record
      <*> fieldOr "location_ids" none (nullable (listOf integer)) record

/-- Reads the form by which a tab's settings are revised. -/
def Revision.read (how : Decimal.Shortening) (input : Json) : Except Refusal Revision := do
  let form ← settle (Revision.fields how input)
  checkRanges form.config input
  return form

/-- A variant ordered with an item. -/
structure OrderVariant where
  id : Int
  quantity : Int
deriving DecidableEq, Repr

/-- An ordered item; quantity zero orders its variants only. -/
structure OrderItem where
  id : Int
  quantity : Int
  variants : List OrderVariant
deriving DecidableEq, Repr

/-- An order: what is put on a bill or taken off it. -/
structure Order where
  items : List OrderItem
deriving DecidableEq, Repr

def orderVariant : Reader OrderVariant := recordOf "OrderVariantIn" fun record =>
  OrderVariant.mk <$> field "id" integer record <*> field "quantity" positive record

def orderItem : Reader OrderItem := recordOf "OrderItemIn" fun record =>
  OrderItem.mk <$> field "id" integer record
    <*> field "quantity" nonNegative record
    <*> fieldOr "variants" [] (listOf orderVariant) record

/-- Reads a list that is not empty. -/
def nonEmptyListOf {α : Type} (read : Reader α) : Reader (List α) := fun input =>
  (listOf read input).test input fun items =>
    if items.isEmpty then some (.shortList 1 0) else none

/-- Reads an order of at least one item. -/
def Order.read (input : Json) : Except Refusal Order :=
  settle (recordOf "BillOrder" (fun record =>
    Order.mk <$> field "items" (nonEmptyListOf orderItem) record) input)

/-- The form by which a verification list is replaced. -/
structure EmailList where
  emails : List String
deriving DecidableEq, Repr

/-- Reads the form by which a verification list is replaced. -/
def EmailList.read (input : Json) : Except Refusal EmailList :=
  settle (recordOf "VerificationList" (fun record =>
    EmailList.mk <$> field "emails" (listOf email) record) input)

end ShopTabs.Form
