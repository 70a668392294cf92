import ShopTabs.Form.Tab
/-!
Accepted forms written out as JSON values.
-/

namespace ShopTabs.Form

def textList (texts : List String) : Json := .arr (texts.map .str)

def numberList (numbers : List Int) : Json := .arr (numbers.map .int)

def orNull {α : Type} (print : α → Json) : Option α → Json
  | some a => print a
  | none => .null

/-- A form for a new tab with all its fields. -/
def NewTab.toJson (f : NewTab) : Json :=
  .obj (f.config.submittedFields ++ [
    ("verification_list", textList f.emails),
    ("location_ids", numberList f.locationIds),
    ("owner_id", orNull .int f.ownerId)])

/-- A form for a revision with all its fields. -/
def Revision.toJson (f : Revision) : Json :=
  .obj (f.config.submittedFields ++ [
    ("verification_list", orNull textList f.emails),
    ("location_ids", orNull numberList f.locationIds)])

def OrderVariant.toJson (v : OrderVariant) : Json :=
  .obj [("id", .int v.id), ("quantity", .int v.quantity)]

/-- An ordered item with its variants. -/
def OrderItem.toJson (i : OrderItem) : Json :=
  .obj [("id", .int i.id), ("quantity", .int i.quantity),
    ("variants", .arr (i.variants.map OrderVariant.toJson))]

def Order.toJson (o : Order) : Json := .obj [("items", .arr (o.items.map OrderItem.toJson))]

def EmailList.toJson (l : EmailList) : Json := .obj [("emails", textList l.emails)]

end ShopTabs.Form
