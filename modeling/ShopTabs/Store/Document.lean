import ShopTabs.Calendar.Reading
import ShopTabs.Form.Scalar
import ShopTabs.Store.Table
/-!
The people, the catalogue and the sessions of a store as a document: an object with lists of people,
shops, locations, items, variants and sessions.  A list that is missing is empty, and a field that is
missing has its standing value; what cannot be read makes the whole document unreadable.
-/

namespace ShopTabs.Document

/-- A field that has to be there. -/
def field {α : Type} (read : Json → Option α) (name : String) (row : Json) : Option α :=
  row.get? name >>= read

/-- A field that may be missing and then has a standing value. -/
def fieldOr {α : Type} (read : Json → Option α) (name : String) (standing : α) (row : Json) :
    Option α :=
  match row.get? name with
  | none => some standing
  | some value => read value

def number? : Json → Option Int
  | .int n => some n
  | _ => none

def text? : Json → Option String
  | .str s => some s
  | _ => none

def flag? : Json → Option Bool
  | .bool b => some b
  | _ => none

def role? (value : Json) : Option Role := text? value >>= Role.ofName?

/-- An amount of money, written as a number or as a text. -/
def money? (value : Json) : Option Money := (Form.readDecimal value).toOption.map Money.ofDecimal

/-- The clock time of a timestamp, whatever its offset. -/
def clockTime? (value : Json) : Option Instant := do
  let timestamp ← (Calendar.readTimestamp (← text? value).toList).toOption
  return .ofDayTime (← Day.ofCivil? timestamp.date) timestamp.micros

/-- The clock time of a timestamp or nothing. -/
def clockTimeOrNull? : Json → Option (Option Instant)
  | .null => some none
  | value => (clockTime? value).map some

/-- The rows of a list; there are none where it is missing. -/
def rows {α : Type} (read : Json → Option α) (name : String) (document : Json) : Option (List α) :=
  match document.get? name with
  | none => some []
  | some (.arr items) => items.mapM read
  | some _ => none

def user? (row : Json) : Option User := do
  return ⟨← field number? "id" row, ← field text? "email" row, ← fieldOr text? "name" "User" row,
    ← fieldOr role? "role" .user row, ← fieldOr flag? "active" true row⟩

def shop? (row : Json) : Option Shop := do
  return ⟨← field number? "id" row, ← field number? "owner_id" row, ← field text? "name" row⟩

def location? (row : Json) : Option Location := do
  return ⟨← field number? "id" row, ← field number? "shop_id" row, ← field text? "name" row⟩

def item? (row : Json) : Option Item := do
  return ⟨← field number? "id" row, ← field number? "shop_id" row, ← field text? "name" row,
    ← fieldOr money? "base_price" (.ofCents 0) row⟩

def variant? (row : Json) : Option Variant := do
  return ⟨← field number? "id" row, ← field number? "shop_id" row, ← field number? "item_id" row,
    ← field text? "name" row, ← fieldOr money? "price" (.ofCents 0) row⟩

/-- A session without its number, which its place in the list gives. -/
def session? (lastSeenAt : Instant) (row : Json) : Option Session := do
  return ⟨0, ← field text? "token" row, ← field number? "user_id" row, lastSeenAt,
    ← field clockTime? "expires_at" row, ← fieldOr clockTimeOrNull? "revoked_at" none row⟩

/-- Sessions with their numbers from 1 on. -/
def numbered (sessions : List Session) : List Session :=
  sessions.zipIdx.map fun (session, index) => { session with id := index + 1 }

/-- The store of a document; its sessions count as last seen at the given moment. -/
def read (lastSeenAt : Instant) (document : Json) : Option Store := do
  let sessions ← rows (session? lastSeenAt) "sessions" document
  return {
    users := ← rows user? "users" document
    shops := ← rows shop? "shops" document
    locations := ← rows location? "locations" document
    items := ← rows item? "items" document
    variants := ← rows variant? "variants" document
    sessions := numbered sessions }

/-- A session without its number and its last use. -/
def sessionFields (s : Session) : List (String × Json) := [
  ("token", .str s.token), ("user_id", .int s.userId), ("expires_at", .str s.expiresAt.text),
  ("revoked_at", Form.orNull (fun t => .str t.text) s.revokedAt)]

/-- Rows as a list of objects. -/
def listOf {α : Type} (fields : α → List (String × Json)) (rows : List α) : Json :=
  .arr (rows.map fun row => .obj (fields row))

def write (s : Store) : Json := .obj [
  ("users", listOf Row.user s.users),
  ("shops", listOf Row.shop s.shops),
  ("locations", listOf Row.location s.locations),
  ("items", listOf Row.item s.items),
  ("variants", listOf Row.variant s.variants),
  ("sessions", listOf sessionFields s.sessions)]

end ShopTabs.Document
