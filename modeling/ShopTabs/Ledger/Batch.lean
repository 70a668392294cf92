import ShopTabs.Ledger.Line
/-!
Steps that are taken one after the other on the same changes to quantities.
-/

namespace ShopTabs

/-- A step on changes: find what they would overdraw, add them, or set what is below zero to zero. -/
inductive BatchStep where
  | overdrafts
  | merge
  | clamp
deriving DecidableEq, Repr

/-- What a step comes to. -/
inductive BatchResult (κ : Type) where
  | overdrafts (found : List (Overdraft κ))
  | written (lines : Nat)
  | reset (lines : Nat)
deriving DecidableEq, Repr

namespace Ledger

variable {κ : Type}

/-- Fails unless all numbers of changes have at most 64 bits. -/
def requireWords (rank : κ → List Int) (changes : List (Change κ)) : Except Failure Unit :=
  changes.forM fun c => (rank c.key ++ [c.amount]).forM requireWord

/-- Takes steps one after the other. -/
def takeSteps (take : BatchStep → Store → Except Failure (BatchResult κ × Store)) :
    List BatchStep → Store → Except Failure (List (BatchResult κ) × Store)
  | [], s => .ok ([], s)
  | step :: rest, s => do
    let (result, s) ← take step s
    let (results, s) ← takeSteps take rest s
    return (result :: results, s)

/-- One step on changes to the items on bills. -/
def itemStep (changes : List (Change ItemKey)) (step : BatchStep) (s : Store) :
    Except Failure (BatchResult ItemKey × Store) :=
  match step with
  | .overdrafts => do return (.overdrafts (← s.itemOverdrafts changes), s)
  | .merge => do
    let (lines, s) ← s.mergeItems changes
    return (.written lines, s)
  | .clamp =>
    let (lines, s) := s.clampItems changes
    .ok (.reset lines, s)

/-- One step on changes to the variants on bills. -/
def variantStep (changes : List (Change VariantKey)) (step : BatchStep) (s : Store) :
    Except Failure (BatchResult VariantKey × Store) :=
  match step with
  | .overdrafts => do return (.overdrafts (← s.variantOverdrafts changes), s)
  | .merge => do
    let (lines, s) ← s.mergeVariants changes
    return (.written lines, s)
  | .clamp =>
    let (lines, s) := s.clampVariants changes
    .ok (.reset lines, s)

end Ledger

namespace Store

/-- Takes steps on changes to the items on bills. -/
def itemBatch (s : Store) (changes : List (Change ItemKey)) (steps : List BatchStep) :
    Except Failure (List (BatchResult ItemKey) × Store) := do
  Ledger.requireWords ItemKey.rank changes
  Ledger.takeSteps (Ledger.itemStep changes) steps s

/-- Takes steps on changes to the variants on bills. -/
def variantBatch (s : Store) (changes : List (Change VariantKey)) (steps : List BatchStep) :
    Except Failure (List (BatchResult VariantKey) × Store) := do
  Ledger.requireWords VariantKey.rank changes
  Ledger.takeSteps (Ledger.variantStep changes) steps s

end Store

/-- The result of a step, an overdrawn line with the parts of its key. -/
def BatchResult.toJson {κ : Type} (fields : κ → List (String × Json)) : BatchResult κ → Json
  | .overdrafts found => .arr (found.map (Failure.overdraftJson fields))
  | .written lines => .int lines
  | .reset lines => .int lines

end ShopTabs
