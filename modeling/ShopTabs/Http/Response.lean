import ShopTabs.Failure
/-!
Responses: a status and a body, and how failures and findings are answered.
-/

namespace ShopTabs.Http

/-- The body of a response. -/
inductive Body where
  | empty
  | text (s : String)
  | json (value : Json)

/-- A response. -/
structure Response where
  status : Nat
  body : Body

namespace Response

/-- A response that says what is the matter. -/
def detail (status : Nat) (text : String) : Response := ⟨status, .json (.obj [("detail", .str text)])⟩

/-- The answer where nothing else was provided for. -/
def serverError : Response := ⟨500, .text "Internal Server Error"⟩

/-- The answer where nothing is to be said. -/
def noContent : Response := ⟨204, .empty⟩

end Response

/-- The status by which a failure is answered. -/
def statusOf : Report → Nat
  | .validation => 400
  | .notFound => 404
  | .unauthorized => 403
  | .internal => 500

/-- The answer to a failure that is reported: its words and its particulars. -/
def ofFailure (failure : Failure) : Response :=
  match failure.report? with
  | some report =>
    ⟨statusOf report, .json (.obj (("detail", .str failure.message) :: (match failure.details? with
      | some details => [("errors", details)]
      | none => [])))⟩
  | none => .serverError

/-- A problem in words; of an object with fields it is only said that one was expected. -/
def problemText : Form.Problem → String
  | .notRecord _ => "Input should be a valid dictionary or object to extract fields from"
  | problem => problem.message

/-- One step of the way to a value. -/
def stepJson : Form.Step → Json
  | .field name => .str name
  | .item index => .int index

/-- A finding: the way to the value and what is wrong with it. -/
def findingJson (path : List Json) (message : String) : Json :=
  .obj [("loc", .arr path), ("msg", .str message)]

/-- The answer to findings; each has to say what was sent, so all of that has to be printable. -/
def ofFindings (findings : List Form.Finding) : Response :=
  if findings.all (·.input.printable) then
    ⟨422, .json (.obj [("detail", .arr (findings.map fun f =>
      findingJson (f.path.map stepJson) (problemText f.problem)))])⟩
  else .serverError

/-- The answer to a body that is no JSON text. -/
def malformedBody : Response :=
  ⟨422, .json (.obj [("detail", .arr [findingJson [.str "body"] "JSON decode error"])])⟩

/-- The answer to a body that cannot be taken in. -/
def unreadableBody : Response := .detail 400 "There was an error parsing the body"

end ShopTabs.Http
