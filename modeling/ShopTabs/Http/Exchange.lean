import ShopTabs.Http.Request
import ShopTabs.Http.Response
import ShopTabs.Http.Route
import ShopTabs.Json.Encoding
import ShopTabs.Service.Operation
import ShopTabs.Session
/-!
The service over HTTP.  The session that a request names is renewed first, whatever the request is for.
Then a body that ought to be a JSON text and is none is turned away, then a person who may not use the
service, then a path or a body with findings, and only then the operation is carried out.
-/

namespace ShopTabs.Http

/-- What the body of a request holds: nothing where it is empty, and otherwise a value.  A body that is
not announced as JSON is a text as it stands. -/
def Request.content (r : Request) : Except Response (Option Json) :=
  if r.body.isEmpty then .ok none
  else if !r.announcesJson then .ok (some (.str r.body))
  else match Json.readBytes r.body.toUTF8.toList with
    | .ok value => .ok (some value)
    | .error .malformed => .error malformedBody
    | .error _ => .error unreadableBody

def Endpoint.takesBody : Endpoint → Bool
  | .createTab | .submitUpdate | .setVerificationList | .addOrder | .removeOrder => true
  | _ => false

/-- The number that fills a parameter of a path. -/
def pathNumber (parameters : List (String × String)) (name : String) : Form.Verdict Int :=
  let text := ((parameters.find? (·.1 = name)).map (·.2)).getD ""
  ((Form.integer (.str text)).under (.field name)).under (.field "path")

/-- The form that a body holds, or the findings on it. -/
def bodyForm {α : Type} (read : Json → Except Form.Refusal α) (body : Option Json) :
    Except Form.Refusal (Form.Verdict α) :=
  match body with
  | none => .ok ((Form.Verdict.finding .required .null).under (.field "body"))
  | some data => match read data with
    | .ok form => .ok (.accepted form)
    | .error (.findings first others) => .ok ((Form.Verdict.refused first others).under (.field "body"))
    | .error .mixedOffsets => .error .mixedOffsets

/-- The operation that an endpoint stands for, with the findings on its path in front of those on its
body; the health of the service and the pages about it are no operations. -/
def Endpoint.operation (how : Decimal.Shortening) (e : Endpoint) (parameters : List (String × String))
    (body : Option Json) : Except Form.Refusal (Option (Form.Verdict Operation)) := do
  let shopId := pathNumber parameters "shop_id"
  let tab := TabKey.mk <$> shopId <*> pathNumber parameters "tab_id"
  match e with
  | .createTab =>
    return some (Operation.createTab <$> shopId <*> (← bodyForm (Form.NewTab.read how) body))
  | .listTabs => return some (Operation.listTabs <$> shopId)
  | .showTab => return some (Operation.showTab <$> tab)
  | .submitUpdate =>
    return some (Operation.submitUpdate <$> tab <*> (← bodyForm (Form.Revision.read how) body))
  | .approveTab => return some (Operation.approveTab <$> tab)
  | .closeTab => return some (Operation.closeTab <$> tab)
  | .setVerificationList =>
    return some (Operation.setVerificationList <$> tab <*> (← bodyForm Form.EmailList.read body))
  | .addOrder =>
    let form ← bodyForm Form.Order.read body
    return some ((fun key order => Operation.addOrder key order none) <$> tab <*> form)
  | .removeOrder =>
    let form ← bodyForm Form.Order.read body
    return some ((fun key order => Operation.removeOrder key order none none) <$> tab <*> form)
  | .closeBill =>
    return some ((fun key bill => Operation.markBillPaid key bill none) <$> tab
      <*> pathNumber parameters "bill_id")
  | .health | .page => return none

/-- The answer to a reply of the service; all of it has to be printable. -/
def ofReply : Reply → Response
  | .done => .noContent
  | .created id => ⟨201, .json (.obj [("id", .int id)])⟩
  | .ordered result => ⟨200, .json (.obj [("bill_id", .int result.billId)])⟩
  | .synced _ => .noContent
  | reply =>
    let value := reply.toJson Money.numberJson
    if value.printable then ⟨200, .json value⟩ else .serverError

/-- The answer to a request at an endpoint on behalf of a person, and the store after it. -/
def atEndpoint (env : Surroundings) (request : Request) (principal : Option Principal)
    (e : Endpoint) (parameters : List (String × String)) (s : Store) : Response × Store :=
  if e = .health then (⟨200, .json (.obj [("status", .str "ok")])⟩, s)
  else if e = .page then (⟨200, .text ""⟩, s)
  else match if e.takesBody then request.content else .ok none with
    | .error response => (response, s)
    | .ok body => match principal with
      | none => (.detail 401 "Unauthorized", s)
      | some principal =>
        if !principal.active then (.detail 403 "Forbidden", s)
        else match e.operation env.shortening parameters body with
          | .ok (some (.accepted op)) =>
            let outcome := op.perform env ⟨principal, some request.clientAddress⟩ s
            (match outcome.result with
              | .ok reply => ofReply reply
              | .error failure => ofFailure failure, outcome.store)
          | .ok (some (.refused first others)) => (ofFindings (first :: others), s)
          | _ => (Response.serverError, s)

/-- The answer to a request wherever it leads, and the store after it. -/
def dispatch (env : Surroundings) (request : Request) (principal : Option Principal) (s : Store) :
    Response × Store :=
  match destination request.method (pathOf request.target) with
  | .endpoint e parameters => atEndpoint env request principal e parameters s
  | .otherMethod => (.detail 405 "Method Not Allowed", s)
  | .withoutSlash => (⟨307, .empty⟩, s)
  | .unknown => (.detail 404 "Not Found", s)

/-- A response without its body where only its head was asked for. -/
def Response.forMethod (method : String) (response : Response) : Response :=
  if method = "HEAD" then { response with body := .empty } else response

/-- Answers a request: the session is looked up and renewed, then the request is led where it goes. -/
def answer (env : Surroundings) (request : Request) (s : Store) : Response × Store :=
  let method := request.method.toUpper
  let (response, s) := match s.signIn env (request.cookie? env.settings.sessionCookieName) with
    | .error _ => (Response.serverError, s)
    | .ok (principal, s) => dispatch env { request with method := method } principal s
  (response.forMethod method, s)

end ShopTabs.Http
