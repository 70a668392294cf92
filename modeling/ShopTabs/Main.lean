import ShopTabs.Command
import ShopTabs.Json.Printer
import ShopTabs.Json.Reader
import ShopTabs.Store.Document
import ShopTabs.Store.Table
/-!
The program that manages a database kept in a file.
-/

namespace ShopTabs

/-- The file in which the database is kept. -/
def databaseFile : String := "shop-tabs.json"

/-- The database that a file holds; there is none where the file is missing. -/
def loadDatabase : IO Database := do
  match ← (IO.FS.readFile databaseFile).toBaseIO with
  | .error _ => return none
  | .ok text =>
    match (Json.read text).toOption >>= Document.read ⟨0⟩ with
    | some s => return some s
    | none => throw (IO.userError ("cannot read " ++ databaseFile))

/-- Keeps a database in its file. -/
def saveDatabase : Database → IO Unit
  | some s => IO.FS.writeFile databaseFile (Document.write s).render
  | none => do
    let _ ← (IO.FS.removeFile databaseFile).toBaseIO

/-- How the program is called. -/
def usageText : String := "usage: shop-tabs [-h] \x7bcreate,drop,seed\x7d"

end ShopTabs

open ShopTabs

/-- Reads the command line, carries out its command and keeps the database. -/
def main (arguments : List String) : IO UInt32 := do
  match Command.read arguments with
  | .error e =>
    IO.eprintln usageText
    return UInt32.ofNat e.code
  | .ok command =>
    let (result, db) := (← loadDatabase).run command
    saveDatabase db
    match result with
    | .ok () => return 0
    | .error failure =>
      IO.eprintln failure.message
      return 1
