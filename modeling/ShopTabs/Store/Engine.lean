import ShopTabs.Failure
/-!
The engines on which a store may run, by what they can do.
-/

namespace ShopTabs

/-- An engine that can insert rows and skip or merge those that are there already. -/
inductive Engine where
  | postgresql
  | sqlite
deriving DecidableEq, Repr

namespace Engine

def name : Engine → String
  | postgresql => "postgresql"
  | sqlite => "sqlite"

/-- The engine of a name; sets cannot be kept in step on any other. -/
def ofName (s : String) : Except Failure Engine :=
  orFail (.unsupportedEngine s) ([postgresql, sqlite].find? fun e => e.name = s)

end Engine

end ShopTabs
