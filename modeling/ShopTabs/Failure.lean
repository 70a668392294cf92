import ShopTabs.Calendar.Zone
import ShopTabs.Form.Tab
import ShopTabs.Store.Row
/-!
Why something is not done.  A failure is its cause; how it is reported, its words and its particulars
are computed from that.
-/

namespace ShopTabs

open Text

/-- A line of which more would be taken than there is. -/
structure Overdraft (κ : Type) where
  key : κ
  current : Quantity
  delta : Int
deriving DecidableEq, Repr

/-- The cause of a failure. -/
inductive Failure where
  /-- Submitted data has findings. -/
  | invalidForm (first : Form.Finding) (others : List Form.Finding)
  | shopNotFound
  | tabNotFound
  | billNotFound
  | unauthorized
  | tabClosed
  | tabNotActiveYet
  | tabNoLongerActive
  /-- Items and pairs of item and variant that the shop does not have. -/
  | unknownReferences (items : List Int) (variants : List (Int × Int))
  /-- Lines that would fall below zero. -/
  | overdrawn (items : List (Overdraft ItemKey)) (variants : List (Overdraft VariantKey))
  /-- A request is at odds with what is stored. -/
  | conflict
  /-- The store could not carry out a request. -/
  | storage
  /-- No bill could be found or opened for an order. -/
  | noBill
  /-- A row would refer to nothing, or repeat what has to be unique. -/
  | constraint
  /-- A sum goes beyond 64 bits. -/
  | sumOverflow
  /-- A number beyond 64 bits was sent to the store. -/
  | wideNumber
  /-- A day or a moment cannot be moved by a span. -/
  | span (fault : Day.SpanFault)
  /-- Times with and without an offset cannot be compared. -/
  | mixedOffsets
  /-- The name of a zone is that of none. -/
  | zoneName (fault : Zone.NameFault) (name : String)
  /-- The engine cannot insert rows and skip those that are there. -/
  | unsupportedEngine (name : String)
  /-- One row was looked for and several were found. -/
  | severalFound
deriving Inhabited

/-- How a failure is reported to those who use the service. -/
inductive Report where
  /-- What was asked for does not fit the rules or what is stored. -/
  | validation
  | notFound
  | unauthorized
  /-- The service could not do what it should. -/
  | internal
deriving DecidableEq, Repr

namespace Failure

/-- What a failure is reported as; failures in the store's own terms, in settings and in times are not
reported to those who use the service. -/
def report? : Failure → Option Report
  | invalidForm .. | tabClosed | tabNotActiveYet | tabNoLongerActive | unknownReferences ..
  | overdrawn .. | conflict => some .validation
  | shopNotFound | tabNotFound | billNotFound => some .notFound
  | unauthorized => some .unauthorized
  | storage | noBill => some .internal
  | _ => none

def spanMessage : Day.SpanFault → String
  | .tooLong days => "days=" ++ intText days ++ "; must have magnitude <= " ++ intText Day.longestSpan
  | .tooWide => "number of minutes out of range"
  | .outsideCalendar => "date value out of range"

def message : Failure → String
  | invalidForm .. => "Invalid request data"
  | shopNotFound => "Shop not found"
  | tabNotFound => "Tab not found"
  | billNotFound => "Bill not found"
  | unauthorized => "Not authorized"
  | tabClosed => "Tab is closed"
  | tabNotActiveYet => "Tab is not active yet"
  | tabNoLongerActive => "Tab is no longer active"
  | unknownReferences .. => "Order references unknown items"
  | overdrawn .. => "Removal exceeds the quantity on the bill"
  | conflict => "Request references missing or conflicting data"
  | storage => "Internal server error"
  | noBill => "Could not select a bill for the order"
  | constraint => "A row refers to nothing or repeats what has to be unique"
  | sumOverflow => "A sum has more than 64 bits"
  | wideNumber => "A number has more than 64 bits"
  | span fault => spanMessage fault
  | mixedOffsets => "Times with and without an offset cannot be compared"
  | zoneName .unknown name => "No time zone found with key " ++ name
  | zoneName .absolute name => "A zone has a name without a slash in front: " ++ name
  | zoneName .roundabout name => "A zone has a name without needless parts: " ++ name
  | zoneName .outside name => "A zone has a name that leads to no other place: " ++ name
  | unsupportedEngine name => "Set synchronization is not supported on " ++ name
  | severalFound => "Several rows were found where one was looked for"

/-- The findings on submitted data, by place. -/
def findingMap (findings : List Form.Finding) : Json :=
  .obj (findings.foldl (fun fields f => Json.setField f.place (.str f.problem.message) fields) [])

/-- The parts of a key of an item on a bill, by name. -/
def itemKeyFields (k : ItemKey) : List (String × Json) := [
  ("shop_id", .int k.tab.shopId), ("tab_id", .int k.tab.tabId), ("bill_id", .int k.billId),
  ("item_id", .int k.itemId)]

/-- The parts of a key of a variant on a bill, by name. -/
def variantKeyFields (k : VariantKey) : List (String × Json) :=
  itemKeyFields k.item ++ [("variant_id", .int k.variantId)]

def overdraftJson {κ : Type} (fields : κ → List (String × Json)) (o : Overdraft κ) : Json :=
  .obj (fields o.key ++ [("current", o.current.toJson), ("delta", .int o.delta)])

/-- The particulars of a failure that has any. -/
def details? : Failure → Option Json
  | invalidForm first others => some (findingMap (first :: others))
  | unknownReferences items variants =>
    some (.obj (
      (if items.isEmpty then [] else [("items", .arr (items.map .int))]) ++
      (if variants.isEmpty then []
       else [("variants", .arr (variants.map fun v =>
         .obj [("item_id", .int v.1), ("variant_id", .int v.2)]))])))
  | overdrawn items variants =>
    some (.obj [
      ("items", .arr (items.map (overdraftJson itemKeyFields))),
      ("variants", .arr (variants.map (overdraftJson variantKeyFields)))])
  | _ => none

/-- A failure as the service reports it: what the store does not take is a conflict, and what it cannot
do is a failure of the store. -/
def reported : Failure → Failure
  | constraint => conflict
  | sumOverflow => storage
  | severalFound => storage
  | f => f

/-- The failure that submitted data comes to. -/
def ofRefusal : Form.Refusal → Failure
  | .findings first others => invalidForm first others
  | .mixedOffsets => mixedOffsets

end Failure

/-- Fails unless a number has at most 64 bits. -/
def requireWord (n : Int) : Except Failure Unit :=
  if isWord n then .ok () else .error .wideNumber

/-- Fails unless both numbers of a tab's key have at most 64 bits. -/
def requireWords (key : TabKey) : Except Failure Unit := do
  requireWord key.shopId
  requireWord key.tabId

/-- Fails with a cause unless a condition holds. -/
def ensure (condition : Bool) (cause : Failure) : Except Failure Unit :=
  if condition then .ok () else .error cause

/-- The value, or the cause why there is none. -/
def orFail {α : Type} (cause : Failure) : Option α → Except Failure α
  | some a => .ok a
  | none => .error cause

theorem requireWord_eq_ok {n : Int} {u : Unit} : requireWord n = .ok u ↔ isWord n = true := by
  unfold requireWord
  split <;> simp_all

theorem ensure_eq_ok {condition : Bool} {cause : Failure} {u : Unit} :
    ensure condition cause = .ok u ↔ condition = true := by
  unfold ensure
  split <;> simp_all

theorem orFail_eq_ok {α : Type} {cause : Failure} {o : Option α} {a : α} :
    orFail cause o = .ok a ↔ o = some a := by
  cases o <;> simp [orFail]

/-- A sequence of two steps succeeds exactly when both do. -/
theorem bind_eq_ok {α β : Type} {x : Except Failure α} {next : α → Except Failure β} {b : β} :
    (x >>= next) = .ok b ↔ ∃ a, x = .ok a ∧ next a = .ok b := by
  cases x with
  | error failure => simp [bind, Except.bind]
  | ok a => simp [bind, Except.bind]

end ShopTabs
