import ShopTabs.Failure
import ShopTabs.Membership
/-!
Quantities under keys, and changes to them.  Changes to one key are summed before they are applied; a
key that is not there yet counts as zero and gets a line of its own.
-/

namespace ShopTabs

/-- The first list of numbers is before the second or equal to it, compared from the left. -/
def rankLe : List Int → List Int → Bool
  | [], _ => true
  | _ :: _, [] => false
  | a :: as, b :: bs => a < b || (a = b && rankLe as bs)

/-- Sums numbers onto a first one; nothing if a partial sum goes beyond 64 bits. -/
def sumOnto : Int → List Int → Option Int
  | total, [] => some total
  | total, n :: rest => if isWord (total + n) then sumOnto (total + n) rest else none

namespace Ledger

variable {κ : Type} [DecidableEq κ]

/-- The quantity under a key; zero where there is no line. -/
def quantityOf (lines : List (Line κ)) (key : κ) : Quantity :=
  ((lines.find? (·.key = key)).map (·.quantity)).getD (.whole 0)

/-- The amount by which a key is changed; zero where there is no change. -/
def amountFor (changes : List (Change κ)) (key : κ) : Int :=
  ((changes.find? (·.key = key)).map (·.amount)).getD 0

/-- The amounts of the changes to one key. -/
def changesTo (changes : List (Change κ)) (key : κ) : List Int :=
  (changes.filter (·.key = key)).map (·.amount)

/-- The sum of the changes to each key, the keys in the order of their first change. -/
def totals (changes : List (Change κ)) : Except Failure (List (Change κ)) :=
  (distinct (changes.map (·.key))).mapM fun key =>
    match sumOnto 0 (changesTo changes key) with
    | some total => .ok ⟨key, total⟩
    | none => .error .sumOverflow

/-- The keys that have a total and no line yet. -/
def newKeys (lines : List (Line κ)) (totals : List (Change κ)) : List κ :=
  (totals.map (·.key)).filter fun key => key ∉ lines.map (·.key)

/-- A line after the total of its key was added to it; without a total it stays as it is. -/
def addTotal (totals : List (Change κ)) (l : Line κ) : Line κ :=
  match totals.find? (·.key = l.key) with
  | some total => ⟨l.key, l.quantity.add total.amount⟩
  | none => l

/-- The lines after a total was added to each of its keys. -/
def merge (lines : List (Line κ)) (totals : List (Change κ)) : List (Line κ) :=
  lines.map (addTotal totals)
    ++ (newKeys lines totals).map fun key => ⟨key, .whole (amountFor totals key)⟩

/-- The lines that totals would bring below zero, in the order of their ranks. -/
def overdrafts (rank : κ → List Int) (lines : List (Line κ)) (totals : List (Change κ)) :
    List (Overdraft κ) :=
  (totals.filterMap fun t =>
    let current := quantityOf lines t.key
    if (current.add t.amount).isBelowZero then some ⟨t.key, current, t.amount⟩
    else none).mergeSort fun a b => rankLe (rank a.key) (rank b.key)

/-- A line below zero whose key is among the given ones. -/
def isShort (keys : List κ) (l : Line κ) : Bool := l.quantity.isBelowZero && keys.contains l.key

/-- The lines with those of the given keys that are below zero set to zero. -/
def clamp (lines : List (Line κ)) (keys : List κ) : List (Line κ) :=
  lines.map fun l => if isShort keys l then ⟨l.key, .whole 0⟩ else l

/-- How many lines clamping would change. -/
def clampCount (lines : List (Line κ)) (keys : List κ) : Nat := lines.countP (isShort keys)

end Ledger

namespace Store

/-- Adds changes to the items on bills; a new line needs its bill and an item of the shop.  The number
of lines written is counted. -/
def mergeItems (s : Store) (changes : List (Change ItemKey)) : Except Failure (Nat × Store) := do
  let totals ← Ledger.totals changes
  ensure ((Ledger.newKeys s.itemLines totals).all fun k =>
    s.hasBill k.tab k.billId && s.hasItem k.tab.shopId k.itemId) .constraint
  return (totals.length, { s with itemLines := Ledger.merge s.itemLines totals })

/-- Adds changes to the variants on bills; a new line needs the line of its item and a variant of it. -/
def mergeVariants (s : Store) (changes : List (Change VariantKey)) : Except Failure (Nat × Store) := do
  let totals ← Ledger.totals changes
  ensure ((Ledger.newKeys s.variantLines totals).all fun k =>
    (s.itemLines.map (·.key)).contains k.item && s.hasVariant k.tab.shopId k.itemId k.variantId)
    .constraint
  return (totals.length, { s with variantLines := Ledger.merge s.variantLines totals })

/-- The items on bills that changes would overdraw. -/
def itemOverdrafts (s : Store) (changes : List (Change ItemKey)) :
    Except Failure (List (Overdraft ItemKey)) := do
  return Ledger.overdrafts ItemKey.rank s.itemLines (← Ledger.totals changes)

/-- The variants on bills that changes would overdraw. -/
def variantOverdrafts (s : Store) (changes : List (Change VariantKey)) :
    Except Failure (List (Overdraft VariantKey)) := do
  return Ledger.overdrafts VariantKey.rank s.variantLines (← Ledger.totals changes)

/-- Sets the changed items that are below zero to zero. -/
def clampItems (s : Store) (changes : List (Change ItemKey)) : Nat × Store :=
  let keys := changes.map (·.key)
  (Ledger.clampCount s.itemLines keys, { s with itemLines := Ledger.clamp s.itemLines keys })

/-- Sets the changed variants that are below zero to zero. -/
def clampVariants (s : Store) (changes : List (Change VariantKey)) : Nat × Store :=
  let keys := changes.map (·.key)
  (Ledger.clampCount s.variantLines keys,
    { s with variantLines := Ledger.clamp s.variantLines keys })

end Store

end ShopTabs
