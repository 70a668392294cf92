import ShopTabs.Seed
import ShopTabs.Text.Digit
/-!
The command line by which a database is managed.  A database may have no schema yet; a store is there
once it has one.
-/

namespace ShopTabs

open Text

/-- What can be done to a database. -/
inductive Command where
  | create
  | drop
  | seed
deriving DecidableEq, Repr

/-- Why a command line leads to no command. -/
inductive Exit where
  /-- Help was asked for. -/
  | help
  /-- The arguments are not those of a command. -/
  | usage
deriving DecidableEq, Repr

/-- The code with which a program ends. -/
def Exit.code : Exit → Nat
  | help => 0
  | usage => 2

/-- An argument by its form. -/
inductive Argument where
  | word
  /-- It asks for help. -/
  | help
  /-- It gives a value to the option for help, which takes none. -/
  | helpValue
  | unknownOption
deriving DecidableEq, Repr

namespace Argument

/-- The long name of the option for help. -/
def longHelp : List Char := "--help".toList

/-- The long name of the option for help, or a beginning of it. -/
def isLongHelp (cs : List Char) : Bool := 2 ≤ cs.length && cs.isPrefixOf longHelp

/-- The short option for help with more letters behind it, each of which asks for help again. -/
def withLetters : List Char → Argument
  | [] => help
  | 'h' :: rest => withLetters rest
  | _ => helpValue

/-- The short option for help with what stands behind it; letters may follow an equals sign. -/
def withShortHelp : List Char → Argument
  | '=' :: letters => if letters.isEmpty then helpValue else withLetters letters
  | letters => withLetters letters

/-- A number below zero, which is no option. -/
def isNegativeNumber : List Char → Bool
  | '-' :: cs =>
    let isDigit := fun c => (digitValue? c).isSome
    let whole := cs.takeWhile isDigit
    match cs.dropWhile isDigit with
    | [] => !whole.isEmpty
    | '.' :: fraction => !fraction.isEmpty && fraction.all isDigit
    | _ => false
  | _ => false

/-- The form of an argument that is not the double dash itself and stands in front of it. -/
def ofChars (cs : List Char) : Argument :=
  match cs with
  | ['-'] => word
  | '-' :: rest =>
    let name := cs.takeWhile (· ≠ '=')
    if isLongHelp name then (if name = cs then help else helpValue)
    else if rest.head? = some 'h' then withShortHelp (rest.drop 1)
    else if isNegativeNumber cs || cs.contains ' ' then word
    else unknownOption
  | _ => word

end Argument

namespace Command

def name : Command → String
  | create => "create"
  | drop => "drop"
  | seed => "seed"

def ofName (s : String) : Except Exit Command :=
  match [create, drop, seed].find? fun c => c.name = s with
  | some c => .ok c
  | none => .error .usage

/-- The command of words that are no options, behind one that was read before. -/
def ofWords : Option Command → List String → Except Exit Command
  | some c, [] => .ok c
  | none, [a] => ofName a
  | _, _ => .error .usage

/-- Reads arguments behind a command that was read before; `surplus` says that something was there that
belongs to no command. -/
def readFrom (before : Option Command) (surplus : Bool) : List String → Except Exit Command
  | [] => if surplus then .error .usage else ofWords before []
  | a :: rest =>
    if a = "--" then (if surplus then .error .usage else ofWords before rest)
    else match Argument.ofChars a.toList with
      | .help => .error .help
      | .helpValue => .error .usage
      | .unknownOption => readFrom before true rest
      | .word => match before with
        | some _ => readFrom before true rest
        | none => match ofName a with
          | .ok c => readFrom (some c) surplus rest
          | .error e => .error e

/-- Reads a command line: exactly one command. -/
def read (arguments : List String) : Except Exit Command := readFrom none false arguments

end Command

/-- A database: a store, once the schema is there. -/
abbrev Database := Option Store

namespace Database

/-- The store of a database, empty where the schema was missing. -/
def withSchema (db : Database) : Store := db.getD {}

/-- Carries out a command; seeding that fails leaves the schema behind. -/
def run (db : Database) : Command → Except Failure Unit × Database
  | .create => (.ok (), some db.withSchema)
  | .drop => (.ok (), none)
  | .seed => match db.withSchema.seed with
    | .ok s => (.ok (), some s)
    | .error failure => (.error failure, some db.withSchema)

end Database

example : Command.read ["seed"] = .ok .seed := by rfl
example : Command.read ["seed", "--he"] = .error .help := by rfl
example : Command.read ["Seed", "-h"] = .error .usage := by rfl

end ShopTabs
