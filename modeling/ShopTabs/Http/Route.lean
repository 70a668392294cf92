import ShopTabs.Http.Path
/-!
What the paths of the service name, and by which methods it is asked for.
-/

namespace ShopTabs.Http

open Text

/-- What a request can be aimed at. -/
inductive Endpoint where
  | createTab
  | listTabs
  | showTab
  | submitUpdate
  | approveTab
  | closeTab
  | setVerificationList
  | addOrder
  | removeOrder
  | closeBill
  | health
  /-- A page that describes the service; what it says is no concern of the service. -/
  | page
deriving DecidableEq, Repr

/-- One part of a path's pattern: a word, or a parameter that any text but the empty one fills. -/
inductive Part where
  | word (text : String)
  | parameter (name : String)
deriving DecidableEq, Repr

/-- A method, the pattern of a path, and what they name together. -/
structure Route where
  method : String
  pattern : List Part
  endpoint : Endpoint
deriving DecidableEq, Repr

def shopTabs : List Part := [.word "shops", .parameter "shop_id", .word "tabs"]

def shopTab : List Part := shopTabs ++ [.parameter "tab_id"]

/-- The paths of the pages that describe the service. -/
def pagePaths : List (List Part) := [
  [.word "openapi.json"],
  [.word "docs"],
  [.word "docs", .word "oauth2-redirect"],
  [.word "redoc"]]

/-- The routes of the pages, of which the head alone can be asked for, too. -/
def pageRoutes : List Route := pagePaths.flatMap fun path => [⟨"GET", path, .page⟩, ⟨"HEAD", path, .page⟩]

def routes : List Route := pageRoutes ++ [
  ⟨"POST", shopTabs, .createTab⟩,
  ⟨"GET", shopTabs, .listTabs⟩,
  ⟨"GET", shopTab, .showTab⟩,
  ⟨"PATCH", shopTab, .submitUpdate⟩,
  ⟨"POST", shopTab ++ [.word "approve"], .approveTab⟩,
  ⟨"POST", shopTab ++ [.word "close"], .closeTab⟩,
  ⟨"PUT", shopTab ++ [.word "verification-list"], .setVerificationList⟩,
  ⟨"POST", shopTab ++ [.word "add-order"], .addOrder⟩,
  ⟨"POST", shopTab ++ [.word "remove-order"], .removeOrder⟩,
  ⟨"POST", shopTab ++ [.word "bills", .parameter "bill_id", .word "close"], .closeBill⟩,
  ⟨"GET", [.word "health"], .health⟩]

/-- The texts that fill the parameters of a pattern.  One line break behind the last word of a path does
not matter. -/
def fill : List Part → List (List Char) → Option (List (String × String))
  | [], [] => some []
  | [.word w], [piece] => if piece = w.toList ∨ piece = w.toList ++ ['\n'] then some [] else none
  | .word w :: parts, piece :: rest => if piece = w.toList then fill parts rest else none
  | .parameter name :: parts, piece :: rest =>
    if piece.isEmpty then none
    else (fill parts rest).map ((name, String.ofList piece) :: ·)
  | _, _ => none

/-- The texts that fill the parameters of a route's pattern, if it has the form of the path. -/
def Route.fill? (r : Route) (path : List Char) : Option (List (String × String)) :=
  match path with
  | '/' :: rest => fill r.pattern (pieces '/' rest)
  | _ => none

/-- Where a request leads. -/
inductive Destination where
  | endpoint (e : Endpoint) (parameters : List (String × String))
  /-- The path is known, but not with this method. -/
  | otherMethod
  /-- The path would be known without its final slashes. -/
  | withoutSlash
  | unknown
deriving DecidableEq, Repr

/-- A path without the slashes at its end. -/
def trimSlashes (path : List Char) : List Char := (path.reverse.dropWhile (· = '/')).reverse

/-- Some route has the form of the path. -/
def isKnown (path : List Char) : Bool := routes.any fun r => (r.fill? path).isSome

/-- Where a method and a path lead. -/
def destination (method : String) (path : List Char) : Destination :=
  let hit := routes.findSome? fun r =>
    if r.method = method then (r.fill? path).map fun ps => Destination.endpoint r.endpoint ps else none
  match hit with
  | some d => d
  | none =>
    if isKnown path then .otherMethod
    else if path.getLast? = some '/' && path ≠ ['/'] && isKnown (trimSlashes path) then .withoutSlash
    else .unknown

example : destination "POST" "/shops/1/tabs".toList = .endpoint .createTab [("shop_id", "1")] := by
  decide +kernel
example : destination "PUT" "/shops/1/tabs".toList = .otherMethod := by decide +kernel
example : destination "GET" "/health/".toList = .withoutSlash := by decide +kernel
example : destination "POST" "/docs".toList = .otherMethod := by decide +kernel

end ShopTabs.Http
