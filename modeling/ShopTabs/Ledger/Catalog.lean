import ShopTabs.Ledger.Line
import ShopTabs.Store.Basic
/-!
What an order refers to on a shop's catalogue, and which of it the catalogue does not have.
-/

namespace ShopTabs

namespace Form.Order

/-- The numbers of the ordered items. -/
def itemIds (o : Order) : List Int := o.items.map (·.id)

/-- The ordered pairs of item and variant. -/
def variantPairs (o : Order) : List (Int × Int) :=
  o.items.flatMap fun i => i.variants.map fun v => (i.id, v.id)

end Form.Order

namespace Catalog

/-- The distinct numbers in increasing order. -/
def sortedIds (ids : List Int) : List Int := (distinct ids).mergeSort (· ≤ ·)

/-- The distinct pairs in lexicographic order. -/
def sortedPairs (pairs : List (Int × Int)) : List (Int × Int) :=
  (distinct pairs).mergeSort fun a b => rankLe [a.1, a.2] [b.1, b.2]

/-- The pairs that the catalogue's lookup answers for.  Several distinct pairs are each looked up by
item and variant; the lookup of a single pair also asks that its two numbers are the same.  That is not
the service's doing but that of the SQLite library under it, as it was observed to answer: standard SQL
and PostgreSQL find a single pair as they find several, and other versions of SQLite miss more. -/
def foundPairs (s : Store) (shopId : Int) (pairs : List (Int × Int)) : List (Int × Int) :=
  match distinct pairs with
  | [(item, variant)] =>
    if item = variant ∧ s.hasVariant shopId item variant then [(item, variant)] else []
  | several => several.filter fun p => s.hasVariant shopId p.1 p.2

/-- The ordered items that the shop does not have. -/
def unknownItems (s : Store) (shopId : Int) (o : Form.Order) : List Int :=
  sortedIds (o.itemIds.filter fun id => !s.hasItem shopId id)

/-- The ordered pairs that the catalogue's lookup does not answer for. -/
def unknownPairs (s : Store) (shopId : Int) (o : Form.Order) : List (Int × Int) :=
  let found := foundPairs s shopId o.variantPairs
  sortedPairs (o.variantPairs.filter fun p => !found.contains p)

/-- Fails unless the catalogue has everything that an order refers to. -/
def ensureKnown (s : Store) (shopId : Int) (o : Form.Order) : Except Failure Unit := do
  requireWord shopId
  o.itemIds.forM requireWord
  o.variantPairs.forM fun p => requireWord p.2
  let items := unknownItems s shopId o
  let pairs := unknownPairs s shopId o
  ensure (items.isEmpty && pairs.isEmpty) (.unknownReferences items pairs)

end Catalog

end ShopTabs
