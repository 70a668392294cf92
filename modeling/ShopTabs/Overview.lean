import ShopTabs.Form.Printer
import ShopTabs.Membership
import ShopTabs.Store.Basic
/-!
Tabs as they are shown: the settings with what is proposed, the sets that belong to the tab, and its
bills with everything ordered on them.  Names come in the order of their characters, and what has the
same name in the order of its numbers.

Two values are shown besides and left out here: the moments at which a tab was opened (`created_at`) and at
which an update was submitted (`submitted_at`).  The clock of the database sets them, and nothing reads them.
-/

namespace ShopTabs

/-- A variant on a bill with its name and price. -/
structure VariantView where
  id : Int
  name : String
  price : Money
  quantity : Quantity
deriving DecidableEq, Repr

/-- An item on a bill with its name, its price and its variants. -/
structure ItemView where
  id : Int
  name : String
  basePrice : Money
  quantity : Quantity
  variants : List VariantView
deriving DecidableEq, Repr

/-- A bill with its items. -/
structure BillView where
  bill : Bill
  items : List ItemView
deriving DecidableEq, Repr

/-- A tab without its bills. -/
structure TabView where
  tab : Tab
  pending : Option PendingUpdate
  hasOpenBalance : Bool
  emails : List String
  locations : List (Int × String)
deriving DecidableEq, Repr

/-- A tab with its bills. -/
structure Overview where
  view : TabView
  bills : List BillView
deriving DecidableEq, Repr

/-- The first name and number stand before the second or are the same. -/
def nameIdLe (a b : String × Int) : Bool := a.1 < b.1 || (a.1 = b.1 && a.2 ≤ b.2)

/-- The tab is one of a shop's that have the given numbers. -/
def TabKey.isAmong (key : TabKey) (shopId : Int) (tabIds : List Int) : Bool :=
  key.shopId = shopId && tabIds.contains key.tabId

/-- Of rows that come with the numbers of tabs, those of one tab. -/
def rowsFor {α : Type} (tabId : Int) (rows : List (Int × α)) : List α :=
  (rows.filter (·.1 = tabId)).map (·.2)

namespace Store

/-- A variant line of a bill with the name and price from the catalogue. -/
def variantView? (s : Store) (l : Line VariantKey) : Option VariantView :=
  (s.variants.find? fun v =>
    v.shopId = l.key.tab.shopId && v.itemId = l.key.itemId && v.id = l.key.variantId).map
    fun v => ⟨v.id, v.name, v.price, l.quantity⟩

/-- The variants of an item on a bill. -/
def variantViews (s : Store) (key : ItemKey) : List VariantView :=
  ((s.variantLines.filter fun l => l.key.item = key).filterMap s.variantView?).mergeSort
    fun a b => nameIdLe (a.name, a.id) (b.name, b.id)

/-- An item line of a bill with the name and price from the catalogue. -/
def itemView? (s : Store) (l : Line ItemKey) : Option ItemView :=
  (s.items.find? fun i => i.shopId = l.key.tab.shopId && i.id = l.key.itemId).map
    fun i => ⟨i.id, i.name, i.basePrice, l.quantity, s.variantViews l.key⟩

def itemViews (s : Store) (tab : TabKey) (billId : Int) : List ItemView :=
  ((s.itemLines.filter fun l => l.key.tab = tab && l.key.billId = billId).filterMap
    s.itemView?).mergeSort fun a b => nameIdLe (a.name, a.id) (b.name, b.id)

/-- The bills of a tab by their first days, those of one day by their numbers. -/
def sortedBills (s : Store) (tab : TabKey) : List Bill :=
  (s.billsOf tab).mergeSort fun a b =>
    a.startDate < b.startDate || (a.startDate = b.startDate && a.id ≤ b.id)

/-- The bills of a tab with their items. -/
def billViews (s : Store) (tab : TabKey) : List BillView :=
  (s.sortedBills tab).map fun b => ⟨b, s.itemViews tab b.id⟩

/-- The verification list of a tab in the order of its characters. -/
def sortedEmails (s : Store) (tab : TabKey) : List String :=
  (s.emailsOf tab).mergeSort fun a b => a ≤ b

/-- The locations of a tab with their names. -/
def locationViews (s : Store) (tab : TabKey) : List (Int × String) :=
  ((s.placesOf tab).filterMap fun id =>
    (s.locations.find? fun l => l.shopId = tab.shopId && l.id = id).map
      fun l => (l.id, l.name)).mergeSort fun a b => nameIdLe (a.2, a.1) (b.2, b.1)

/-- A tab without its bills, of which is known whether one is unpaid. -/
def tabView (s : Store) (hasOpenBalance : Bool) (tab : Tab) : TabView :=
  ⟨tab, s.pending? tab.key, hasOpenBalance, s.sortedEmails tab.key, s.locationViews tab.key⟩

def overview (s : Store) (tab : Tab) : Overview :=
  let bills := s.billViews tab.key
  ⟨s.tabView (bills.any fun b => !b.bill.isPaid) tab, bills⟩

/-- The tabs of a shop by their numbers. -/
def tabsOf (s : Store) (shopId : Int) : List Tab :=
  (s.tabs.filter (·.shopId = shopId)).mergeSort fun a b => a.id ≤ b.id

/-! ### Several tabs at once -/

/-- Of the tabs of a shop that have the given numbers, those with an unpaid bill, by their numbers. -/
def openBalances (s : Store) (shopId : Int) (tabIds : List Int) : List Int :=
  distinct ((s.bills.filter fun b => b.tab.isAmong shopId tabIds && !b.isPaid).map (·.tab.tabId))

/-- What is proposed for several tabs of a shop. -/
def pendingRows (s : Store) (shopId : Int) (tabIds : List Int) : List (Int × PendingUpdate) :=
  (s.pending.filter (·.tab.isAmong shopId tabIds)).map fun u => (u.tab.tabId, u)

/-- The verification lists of several tabs of a shop, all in the order of their characters. -/
def emailRows (s : Store) (shopId : Int) (tabIds : List Int) : List (Int × String) :=
  ((s.emails.filter (·.tab.isAmong shopId tabIds)).map fun m => (m.tab.tabId, m.key)).mergeSort
    fun a b => a.2 ≤ b.2

/-- The locations of several tabs of a shop with their names. -/
def locationRows (s : Store) (shopId : Int) (tabIds : List Int) : List (Int × Int × String) :=
  ((s.places.filter (·.tab.isAmong shopId tabIds)).filterMap fun m =>
    (s.locations.find? fun l => l.shopId = m.tab.shopId && l.id = m.key).map
      fun l => (m.tab.tabId, l.id, l.name)).mergeSort
        fun a b => nameIdLe (a.2.2, a.2.1) (b.2.2, b.2.1)

/-- The tabs of a shop without their bills: what belongs to them is read for all of them at once and then
sorted out by tab. -/
def tabViews (s : Store) (shopId : Int) : List TabView :=
  let tabs := s.tabsOf shopId
  let tabIds := tabs.map (·.id)
  let openTabs := s.openBalances shopId tabIds
  let pending := s.pendingRows shopId tabIds
  let emails := s.emailRows shopId tabIds
  let locations := s.locationRows shopId tabIds
  tabs.map fun tab =>
    ⟨tab, (rowsFor tab.id pending).getLast?, openTabs.contains tab.id, rowsFor tab.id emails,
      rowsFor tab.id locations⟩

end Store

/-- The fields of a variant on a bill. -/
def VariantView.toJson (amount : Money → Json) (v : VariantView) : Json := .obj [
  ("id", .int v.id), ("name", .str v.name), ("price", amount v.price), ("quantity", v.quantity.toJson)]

/-- The fields of an item on a bill. -/
def ItemView.toJson (amount : Money → Json) (i : ItemView) : Json := .obj [
  ("id", .int i.id), ("name", .str i.name), ("base_price", amount i.basePrice),
  ("quantity", i.quantity.toJson), ("variants", .arr (i.variants.map (VariantView.toJson amount)))]

def BillView.toJson (amount : Money → Json) (b : BillView) : Json := .obj [
  ("id", .int b.bill.id), ("start_date", .str b.bill.startDate.text),
  ("end_date", .str b.bill.endDate.text), ("is_paid", .bool b.bill.isPaid),
  ("items", .arr (b.items.map (ItemView.toJson amount)))]

/-- What is proposed for a tab. -/
def PendingUpdate.toJson (amount : Money → Json) (u : PendingUpdate) : Json :=
  .obj (u.config.keptFields amount ++ [
    ("verification_list", Form.orNull Form.textList u.emails),
    ("location_ids", Form.orNull Form.numberList u.locationIds)])

/-- The numbers, the status and the settings of a tab. -/
def Tab.fields (amount : Money → Json) (t : Tab) : List (String × Json) := [
  ("id", .int t.id), ("shop_id", .int t.shopId), ("owner_id", .int t.ownerId),
  ("status", .str t.status.name)] ++ t.config.keptFields amount

def locationJson (l : Int × String) : Json := .obj [("id", .int l.1), ("name", .str l.2)]

/-- The fields of a tab, with further ones between its balance and its sets. -/
def TabView.fields (amount : Money → Json) (between : List (String × Json)) (v : TabView) :
    List (String × Json) :=
  v.tab.fields amount ++ [
    ("pending_update", Form.orNull (PendingUpdate.toJson amount) v.pending),
    ("is_pending_balance", .bool v.hasOpenBalance)] ++ between ++ [
    ("verification_list", Form.textList v.emails),
    ("locations", .arr (v.locations.map locationJson))]

def TabView.toJson (amount : Money → Json) (v : TabView) : Json := .obj (v.fields amount [])

def Overview.toJson (amount : Money → Json) (o : Overview) : Json :=
  .obj (o.view.fields amount [("bills", .arr (o.bills.map (BillView.toJson amount)))])

/-- An amount of money as a text with two places. -/
def Money.textJson (m : Money) : Json := .str m.text

/-- An amount of money as a number. -/
def Money.numberJson (m : Money) : Json := .real m.toBinary64

end ShopTabs
