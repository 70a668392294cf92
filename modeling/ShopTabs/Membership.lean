import ShopTabs.Failure
import ShopTabs.Store.Basic
/-!
Sets that belong to tabs, and how one is made to hold exactly the wanted keys: missing keys are added,
keys that are not wanted are dropped, and everything else stays where it is.
-/

namespace ShopTabs

/-- The elements of a list without repetitions, each where it first stands. -/
def distinct {α : Type} [DecidableEq α] : List α → List α
  | [] => []
  | a :: rest => a :: (distinct rest).filter (· ≠ a)

@[simp] theorem mem_distinct {α : Type} [DecidableEq α] {a : α} {as : List α} :
    a ∈ distinct as ↔ a ∈ as := by
  induction as with
  | nil => simp [distinct]
  | cons b rest ih =>
    by_cases h : a = b
    · simp [distinct, h]
    · simp [distinct, h, ih]

theorem nodup_distinct {α : Type} [DecidableEq α] (as : List α) : (distinct as).Nodup := by
  induction as with
  | nil => simp [distinct]
  | cons b rest ih =>
    simp only [distinct, List.nodup_cons]
    exact ⟨by simp, ih.filter _⟩

/-- How many keys were added and how many were dropped. -/
structure SyncResult where
  inserted : Nat
  deleted : Nat
deriving DecidableEq, Repr

namespace Membership

variable {κ : Type} [DecidableEq κ]

/-- The keys in the set of a tab. -/
def keysOf (rows : List (Member κ)) (tab : TabKey) : List κ :=
  (rows.filter (·.tab = tab)).map (·.key)

/-- The wanted keys that a tab's set does not hold yet. -/
def missing (rows : List (Member κ)) (tab : TabKey) (wanted : List κ) : List κ :=
  (distinct wanted).filter fun k => k ∉ keysOf rows tab

/-- The keys of a tab's set that are not wanted. -/
def surplus (rows : List (Member κ)) (tab : TabKey) (wanted : List κ) : List κ :=
  (keysOf rows tab).filter fun k => k ∉ wanted

/-- The rows after a tab's set was made to hold the wanted keys. -/
def replace (rows : List (Member κ)) (tab : TabKey) (wanted : List κ) : List (Member κ) :=
  rows.filter (fun r => r.tab ≠ tab ∨ r.key ∈ wanted) ++ (missing rows tab wanted).map (Member.mk tab)

/-- The numbers of keys that are added and dropped. -/
def result (rows : List (Member κ)) (tab : TabKey) (wanted : List κ) : SyncResult :=
  ⟨(missing rows tab wanted).length, (surplus rows tab wanted).length⟩

end Membership

namespace Store

/-- Makes a tab's verification list hold exactly the wanted addresses. -/
def syncEmails (s : Store) (tab : TabKey) (wanted : List String) :
    Except Failure (SyncResult × Store) := do
  requireWords tab
  ensure ((Membership.missing s.emails tab wanted).isEmpty || s.hasTab tab) .constraint
  return (Membership.result s.emails tab wanted,
    { s with emails := Membership.replace s.emails tab wanted })

/-- Makes a tab's locations exactly the wanted ones, which have to be the shop's. -/
def syncPlaces (s : Store) (tab : TabKey) (wanted : List Int) :
    Except Failure (SyncResult × Store) := do
  requireWords tab
  wanted.forM requireWord
  let missing := Membership.missing s.places tab wanted
  ensure (missing.isEmpty || s.hasTab tab) .constraint
  ensure (missing.all (s.hasLocation tab.shopId)) .constraint
  return (Membership.result s.places tab wanted,
    { s with places := Membership.replace s.places tab wanted })

end Store

end ShopTabs
