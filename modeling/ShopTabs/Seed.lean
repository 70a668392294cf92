import ShopTabs.Failure
import ShopTabs.Store.Basic
/-!
The first content of a store: an administrator, the owner of a shop, and the shop with two locations and
two items.  What is there already is left as it is, so seeding can be repeated.
-/

namespace ShopTabs

/-- The one row that has a property, if there is any; several are a failure. -/
def onlyOne {α : Type} (rows : List α) : Except Failure (Option α) :=
  match rows with
  | [] => .ok none
  | [row] => .ok (some row)
  | _ => .error .severalFound

namespace Seed

/-- The shop that is put into a store. -/
def shopName : String := "Campus Cafe"

/-- Adds a person with the next number. -/
def addUser (s : Store) (email name : String) (role : Role) : User × Store :=
  let user : User := ⟨nextId (s.users.map (·.id)), email, name, role, true⟩
  (user, { s with users := s.users ++ [user] })

/-- The person of an address, who is added if there is none. -/
def ensureUser (s : Store) (email name : String) (role : Role) : Except Failure (User × Store) := do
  match ← onlyOne (s.users.filter (·.email = email)) with
  | some user => return (user, s)
  | none => return addUser s email name role

/-- Adds the shop with its locations, its items and one variant of each item. -/
def addShop (s : Store) (ownerId : Int) : Store :=
  let shopId := nextId (s.shops.map (·.id))
  let place := nextId (s.locations.map (·.id))
  let coffee := nextId (s.items.map (·.id))
  let bagel := coffee + 1
  let extra := nextId (s.variants.map (·.id))
  { s with
    shops := s.shops ++ [⟨shopId, ownerId, shopName⟩]
    locations := s.locations ++ [⟨place, shopId, "Main Hall"⟩, ⟨place + 1, shopId, "Library"⟩]
    items := s.items ++ [
      ⟨coffee, shopId, "Coffee", .ofCents 200⟩,
      ⟨bagel, shopId, "Bagel", .ofCents 300⟩]
    variants := s.variants ++ [
      ⟨extra, shopId, coffee, "Oat milk", .ofCents 100⟩,
      ⟨extra + 1, shopId, bagel, "Cream cheese", .ofCents 100⟩] }

end Seed

/-- Adds what is missing of the first content, or nothing at all. -/
def Store.seed (s : Store) : Except Failure Store := do
  let (_, s) ← Seed.ensureUser s "admin@example.com" "Admin" .admin
  let (owner, s) ← Seed.ensureUser s "owner@example.com" "Shop Owner" .user
  match ← onlyOne (s.shops.filter (·.name = Seed.shopName)) with
  | some _ => return s
  | none => return Seed.addShop s owner.id

end ShopTabs
