import ShopTabs.Form.Printer
import ShopTabs.Ledger.Line
/-!
The tables in which a store is written out: their names, and their rows in the order of their keys.
Amounts of money have two places, and what the clock of a database sets is left out.
-/

namespace ShopTabs

open Text

/-- The tables of a store. -/
inductive Table where
  | users
  | shops
  | locations
  | items
  | variants
  | tabs
  | pending
  | emails
  | places
  | bills
  | itemLines
  | variantLines
  | audit
  | sessions
deriving DecidableEq, Repr

namespace Table

def name : Table → String
  | users => "users"
  | shops => "shops"
  | locations => "locations"
  | items => "items"
  | variants => "item_variants"
  | tabs => "tabs"
  | pending => "tab_updates"
  | emails => "tab_users"
  | places => "tab_locations"
  | bills => "tab_bills"
  | itemLines => "order_items"
  | variantLines => "order_variants"
  | audit => "audit_log"
  | sessions => "web_sessions"

/-- The tables of people and of what shops have. -/
def catalogue : List Table := [users, shops, locations, items, variants]

/-- The tables that operations write. -/
def working : List Table :=
  [tabs, pending, emails, places, bills, itemLines, variantLines, audit, sessions]

def all : List Table := catalogue ++ working

def ofName? (s : String) : Option Table := all.find? fun t => t.name = s

end Table

/-- Rows in the order of a numeric key. -/
def sortedByRank {α : Type} (rank : α → List Int) (rows : List α) : List α :=
  rows.mergeSort fun a b => rankLe (rank a) (rank b)

/-- The first key stands before the second or is the same: by the tab, then by the address. -/
def emailLe (a b : Member String) : Bool :=
  if a.tab = b.tab then a.key ≤ b.key
  else rankLe [a.tab.shopId, a.tab.tabId] [b.tab.shopId, b.tab.tabId]

namespace Row

def tabKey (key : TabKey) : List (String × Json) :=
  [("shop_id", .int key.shopId), ("tab_id", .int key.tabId)]

def user (u : User) : List (String × Json) := [
  ("id", .int u.id), ("email", .str u.email), ("name", .str u.name), ("role", .str u.role.name),
  ("active", .bool u.active)]

def shop (s : Shop) : List (String × Json) := [
  ("id", .int s.id), ("owner_id", .int s.ownerId), ("name", .str s.name)]

def location (l : Location) : List (String × Json) := [
  ("id", .int l.id), ("shop_id", .int l.shopId), ("name", .str l.name)]

def item (i : Item) : List (String × Json) := [
  ("id", .int i.id), ("shop_id", .int i.shopId), ("name", .str i.name),
  ("base_price", .str i.basePrice.text)]

def variant (v : Variant) : List (String × Json) := [
  ("id", .int v.id), ("shop_id", .int v.shopId), ("item_id", .int v.itemId), ("name", .str v.name),
  ("price", .str v.price.text)]

def config (c : KeptConfig) : List (String × Json) := c.keptFields fun m => .str m.text

def tab (t : Tab) : List (String × Json) := [
  ("id", .int t.id), ("shop_id", .int t.shopId), ("owner_id", .int t.ownerId),
  ("status", .str t.status.name)] ++ config t.config

def pending (u : PendingUpdate) : List (String × Json) :=
  tabKey u.tab ++ config u.config ++ [
    ("verification_list", Form.orNull Form.textList u.emails),
    ("location_ids", Form.orNull Form.numberList u.locationIds)]

def bill (b : Bill) : List (String × Json) :=
  ("id", .int b.id) :: tabKey b.tab ++ [
    ("start_date", .str b.startDate.text), ("end_date", .str b.endDate.text),
    ("is_paid", .bool b.isPaid)]

def audit (e : AuditEntry) : List (String × Json) := [
  ("id", .int e.id), ("actor_user_id", .int e.actorId), ("action", .str e.event.name)]
  ++ tabKey e.tab ++ [
  ("ip", Form.orNull .str e.ip), ("metadata", .obj e.event.particulars)]

def session (s : Session) : List (String × Json) := [
  ("id", .int s.id), ("session_token", .str s.token), ("user_id", .int s.userId),
  ("last_seen_at", .str s.lastSeenAt.text), ("expires_at", .str s.expiresAt.text),
  ("revoked_at", Form.orNull (fun t => .str t.text) s.revokedAt)]

end Row

/-- The rows of a table in the order of their keys. -/
def Table.rows (s : Store) : Table → List (List (String × Json))
  | users => (sortedByRank (fun u => [u.id]) s.users).map Row.user
  | shops => (sortedByRank (fun x => [x.id]) s.shops).map Row.shop
  | locations => (sortedByRank (fun l => [l.id]) s.locations).map Row.location
  | items => (sortedByRank (fun i => [i.id]) s.items).map Row.item
  | variants => (sortedByRank (fun v => [v.id]) s.variants).map Row.variant
  | tabs => (sortedByRank (fun t => [t.id]) s.tabs).map Row.tab
  | pending =>
    (sortedByRank (fun u => [u.tab.shopId, u.tab.tabId]) s.pending).map Row.pending
  | emails => (s.emails.mergeSort emailLe).map fun m => Row.tabKey m.tab ++ [("email", .str m.key)]
  | places =>
    (sortedByRank (fun m => [m.tab.shopId, m.tab.tabId, m.key]) s.places).map fun m =>
      Row.tabKey m.tab ++ [("location_id", .int m.key)]
  | bills => (sortedByRank (fun b => [b.id]) s.bills).map Row.bill
  | itemLines => (sortedByRank (fun l => l.key.rank) s.itemLines).map fun l =>
      Failure.itemKeyFields l.key ++ [("quantity", l.quantity.toJson)]
  | variantLines => (sortedByRank (fun l => l.key.rank) s.variantLines).map fun l =>
      Failure.variantKeyFields l.key ++ [("quantity", l.quantity.toJson)]
  | audit => (sortedByRank (fun e => [e.id]) s.audit).map Row.audit
  | sessions => (sortedByRank (fun x => [x.id]) s.sessions).map Row.session

/-- The rows of tables under the names of the tables. -/
def Store.dump (s : Store) (tables : List Table) : Json :=
  .obj (tables.map fun t => (t.name, .arr ((t.rows s).map .obj)))

/-- The tables that operations write and whose rows differ between two stores. -/
def Store.changedTables (before after : Store) : List Table :=
  Table.working.filter fun t => t.rows before != t.rows after

end ShopTabs
