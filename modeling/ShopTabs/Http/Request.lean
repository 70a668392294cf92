import ShopTabs.Http.Path
import ShopTabs.Json.Value
import ShopTabs.Text.Blank
/-!
A request and what its headers say: the cookies it carries, the address it comes from and whether its
body is to be read as JSON.
-/

namespace ShopTabs.Http

open Text

/-- A request. -/
structure Request where
  method : String
  target : String
  headers : List (String × String) := []
  body : String := ""
  /-- The address from which the request was received. -/
  peer : String
deriving DecidableEq, Repr

/-- A text with its ASCII letters in lower case. -/
def lowerAscii (s : String) : List Char := s.toList.map Char.toLower

/-- The values of the headers of a name, which may be written in any case. -/
def Request.headerValues (r : Request) (name : String) : List (List Char) :=
  (r.headers.filter fun h => lowerAscii h.1 = name.toList).map (·.2.toList)

/-- The value of the first header of a name. -/
def Request.header? (r : Request) (name : String) : Option (List Char) :=
  (r.headerValues name).head?

/-- The value of an octal digit. -/
def octalValue? (c : Char) : Option Nat :=
  if '0' ≤ c ∧ c ≤ '7' then some (c.toNat - 0x30) else none

/-- The code of a character written with three octal digits, the first at most three. -/
def octalCode? (a b c : Char) : Option Nat := do
  let a ← octalValue? a
  let b ← octalValue? b
  let c ← octalValue? c
  if a ≤ 3 then some (a * 64 + b * 8 + c) else none

/-- The inside of a quoted cookie value: a backslash stands before a character or three octal digits. -/
def unescaped : List Char → List Char
  | [] => []
  | '\\' :: a :: b :: c :: rest =>
    match octalCode? a b c with
    | some n => Char.ofNat n :: unescaped rest
    | none => a :: unescaped (b :: c :: rest)
  | '\\' :: c :: rest => c :: unescaped rest
  | c :: rest => c :: unescaped rest
termination_by cs => cs.length

/-- A cookie value without the quotes that may stand around it. -/
def unquoted (cs : List Char) : List Char :=
  match cs with
  | '"' :: rest => if rest.getLast? = some '"' then unescaped rest.dropLast else cs
  | _ => cs

/-- A cookie: a name and a value with an equals sign between them.  Without one there is no name, and
where nothing is written there is no cookie. -/
def readCookie? (cs : List Char) : Option (List Char × List Char) :=
  let (name, value) :=
    if cs.contains '=' then (cs.takeWhile (· ≠ '='), (cs.dropWhile (· ≠ '=')).drop 1) else ([], cs)
  match trim isBlank name, trim isBlank value with
  | [], [] => none
  | name, value => some (name, unquoted value)

/-- The cookies of a request, in the order in which its headers name them. -/
def Request.cookies (r : Request) : List (List Char × List Char) :=
  (r.headerValues "cookie").flatMap fun line => (pieces ';' line).filterMap readCookie?

/-- The value of a cookie; of several of one name the last counts. -/
def Request.cookie? (r : Request) (name : String) : Option String :=
  (r.cookies.reverse.find? fun c => c.1 = name.toList).map fun c => String.ofList c.2

/-- The address of the client: the first that a forwarding header names, or the peer. -/
def Request.clientAddress (r : Request) : String :=
  match r.header? "x-forwarded-for" with
  | none => r.peer
  | some [] => r.peer
  | some line => String.ofList (trim isBlank (line.takeWhile (· ≠ ',')))

/-- A type of content, without its parameters, is that of a JSON text. -/
def isJsonType (kind : List Char) : Bool :=
  match pieces '/' kind with
  | [main, sub] =>
    main == "application".toList && (sub == "json".toList || "+json".toList.isSuffixOf sub)
  | _ => false

/-- The body is to be read as JSON: the header for the type of content says so. -/
def Request.announcesJson (r : Request) : Bool :=
  match r.header? "content-type" with
  | some value => isJsonType ((trim isBlank (value.takeWhile (· ≠ ';'))).map Char.toLower)
  | none => false

example : isJsonType "application/vnd.api+json".toList = true := by decide +kernel
example : isJsonType "text/json".toList = false := by decide +kernel

end ShopTabs.Http
