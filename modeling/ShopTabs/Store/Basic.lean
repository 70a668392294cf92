import ShopTabs.Store.Row
/-!
The store: one list of rows for each kind, and the questions that are asked of it.  A new row gets the
largest number of its kind plus one, so rows of bills, tabs and audit entries stand in the order of
their numbers.
-/

namespace ShopTabs

/-- All that is kept. -/
structure Store where
  users : List User := []
  shops : List Shop := []
  locations : List Location := []
  items : List Item := []
  variants : List Variant := []
  tabs : List Tab := []
  pending : List PendingUpdate := []
  emails : List (Member String) := []
  places : List (Member Int) := []
  bills : List Bill := []
  itemLines : List (Line ItemKey) := []
  variantLines : List (Line VariantKey) := []
  audit : List AuditEntry := []
  sessions : List Session := []
deriving DecidableEq, Repr

/-- The number of the next row: one more than the largest, and 1 for the first. -/
def nextId (ids : List Int) : Int :=
  match ids.max? with
  | some n => n + 1
  | none => 1

namespace Store

def user? (s : Store) (id : Int) : Option User := s.users.find? (·.id = id)

def shop? (s : Store) (id : Int) : Option Shop := s.shops.find? (·.id = id)

def tab? (s : Store) (key : TabKey) : Option Tab := s.tabs.find? (·.key = key)

/-- The revision of a tab that waits for approval. -/
def pending? (s : Store) (key : TabKey) : Option PendingUpdate := s.pending.find? (·.tab = key)

def billsOf (s : Store) (key : TabKey) : List Bill := s.bills.filter (·.tab = key)

/-- A person of this number exists. -/
def hasUser (s : Store) (id : Int) : Bool := s.users.any (·.id = id)

/-- A tab of this key exists. -/
def hasTab (s : Store) (key : TabKey) : Bool := s.tabs.any (·.key = key)

/-- The shop has a location of this number. -/
def hasLocation (s : Store) (shopId id : Int) : Bool :=
  s.locations.any fun l => l.shopId = shopId && l.id = id

/-- The shop has an item of this number. -/
def hasItem (s : Store) (shopId id : Int) : Bool :=
  s.items.any fun i => i.shopId = shopId && i.id = id

/-- The shop has a variant of this number for the item. -/
def hasVariant (s : Store) (shopId itemId id : Int) : Bool :=
  s.variants.any fun v => v.shopId = shopId && v.itemId = itemId && v.id = id

/-- The tab has a bill of this number. -/
def hasBill (s : Store) (key : TabKey) (id : Int) : Bool :=
  s.bills.any fun b => b.tab = key && b.id = id

/-- The set of addresses on a tab's verification list. -/
def emailsOf (s : Store) (key : TabKey) : List String :=
  (s.emails.filter (·.tab = key)).map (·.key)

/-- The numbers of a tab's locations. -/
def placesOf (s : Store) (key : TabKey) : List Int :=
  (s.places.filter (·.tab = key)).map (·.key)

/-- Puts a revision in the place of the one that waits for the same tab, or behind all others. -/
def stage (s : Store) (u : PendingUpdate) : Store :=
  { s with
    pending :=
      if s.pending.any (·.tab = u.tab) then s.pending.map fun p => if p.tab = u.tab then u else p
      else s.pending ++ [u] }

/-- Drops the revision of a tab. -/
def unstage (s : Store) (key : TabKey) : Store :=
  { s with pending := s.pending.filter (·.tab ≠ key) }

/-- Changes the tab of a key. -/
def updateTab (s : Store) (key : TabKey) (change : Tab → Tab) : Store :=
  { s with tabs := s.tabs.map fun t => if t.key = key then change t else t }

/-- Changes the bill of a number on a tab. -/
def updateBill (s : Store) (key : TabKey) (id : Int) (change : Bill → Bill) : Store :=
  { s with bills := s.bills.map fun b => if b.tab = key && b.id = id then change b else b }

end Store

end ShopTabs
