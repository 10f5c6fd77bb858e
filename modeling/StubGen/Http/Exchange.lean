import StubGen.Http.Route
import StubGen.Json.Reader
import StubGen.Service.Handler
import StubGen.Text.Blank
import StubGen.Text.Wide

/-!
# Requests over HTTP

A request is routed to an endpoint, whose response is sent as JSON. Paths of the interface that no
endpoint serves get a JSON envelope: status 405 if a rule has exactly the text of the path, and 404
otherwise. The page answers everything else, and none of that is JSON.
-/

namespace StubGen.Http

structure Body where
  contentType : String
  text : String
  deriving DecidableEq, Repr, Inhabited

structure Request where
  method : String
  /-- The path with an optional query. -/
  target : String
  body : Option Body
  deriving DecidableEq, Repr, Inhabited

/-- A reply; only replies with a JSON content type have a payload. -/
structure Reply where
  status : Nat
  isJson : Bool
  /-- The payload, unless the reply has none or is the reply to a `HEAD` request. -/
  payload : Option Json
  deriving Repr, Inhabited

def Reply.plain (status : Nat) : Reply := ⟨status, false, none⟩

def Reply.ofResponse (response : Response) : Reply := ⟨response.status, true, some response.payload⟩

/-- Whether a media type, its parameters and the blanks around it aside, is that of JSON. -/
def isJsonType (contentType : String) : Bool :=
  let bare := (contentType.toList.takeWhile (· ≠ ';')).dropWhile Text.isBlank
  let bare := (bare.reverse.dropWhile Text.isBlank).reverse.map Char.toLower
  bare == "application/json".toList ||
    ((after? "application/".toList bare).any fun subtype =>
      (after? "nosj+".toList subtype.reverse).isSome)

/-- The value that a body spells. A mark of the byte order in front does not count. -/
def Body.json? (body : Body) : Option Json :=
  match body.text.toList with
  | '\uFEFF' :: rest => (Json.parse (String.ofList rest)).toOption
  | _ => (Text.decodeAny? body.text.toUTF8.toList).bind fun text => (Json.parse text).toOption

/-- The object that the body of a request holds. -/
def Request.object? (q : Request) : Option Json :=
  match q.body with
  | none => none
  | some body =>
    if isJsonType body.contentType then
      match body.json? with
      | some (.obj fields) => some (.obj fields)
      | _ => none
    else none

/-- The answer to a body that is no JSON object. -/
def invalidBody : Response :=
  ⟨400, .obj [("error", .str "Invalid JSON"),
    ("message", .str "Request body must be a valid JSON object")]⟩

/-- The methods of the rules whose text is the path, in alphabetical order. -/
def allowedMethods (path : List Char) : List String :=
  let methods := (rules.filter fun rule => rule.text.toList = path).flatMap Rule.methods
  ["DELETE", "GET", "PATCH", "POST", "PUT"].filter fun m => methods.contains m

/-- The answer to a path of the interface that no endpoint serves. -/
def unmatchedResponse (method : String) (path : List Char) : Response :=
  let shown := String.ofList path
  match allowedMethods path with
  | [] =>
    ⟨404, .obj [("error", .str "Not Found"), ("message", .str ("No API endpoint at " ++ shown))]⟩
  | allowed =>
    ⟨405, .obj [("error", .str "Method Not Allowed"),
      ("message", .str ("Method " ++ method ++ " is not allowed for " ++ shown)),
      ("allowed_methods", Json.strings allowed)]⟩

/-- A served request as a response. -/
def settle (settings : Settings) : Except Refusal Response → Response
  | .ok response => response
  | .error refusal => refusal.failure.response settings

def serveEndpoint (r : Registry) (settings : Settings) (moment : Moment) (q : Request)
    (path : List Char) : Endpoint → Log.Logged Response
  | .template =>
    match q.object? with
    | some data => (r.serveTemplate settings moment data).map (settle settings)
    | none => Log.silent invalidBody
  | .validation =>
    match q.object? with
    | some data => Log.silent (settle settings (r.serveValidation settings data))
    | none => Log.silent invalidBody
  | .languages => Log.silent ⟨200, settings.languagesPayload⟩
  | .table language => Log.silent (r.serveTable settings language)
  | .stats => Log.silent ⟨200, r.statsPayload settings moment⟩
  | .health name =>
    let probe := Probe.ofName name
    let status := if probe = .readiness ∧ r.isReady settings = false then 503 else 200
    Log.silent ⟨status, r.healthPayload settings moment probe⟩
  | .unmatched => Log.silent (unmatchedResponse q.method path)

/-- Without the payload, as the reply to a `HEAD` request. -/
def Reply.headOnly (reply : Reply) : Reply := { reply with payload := none }

def serve (r : Registry) (settings : Settings) (moment : Moment) (q : Request) :
    Log.Logged Reply :=
  if q.method = "OPTIONS" then Log.silent (.plain 200)
  else
    let path := pathOf q.target
    match route q.method path with
    | .endpoint e =>
      (serveEndpoint r settings moment q path e).map fun response =>
        let reply := Reply.ofResponse response
        if q.method = "HEAD" then reply.headOnly else reply
    | .page => Log.silent (.plain 200)
    | .redirect => Log.silent (.plain 308)
    | .wrongMethod =>
      Log.silent
        (if (after? apiStem path).isSome then .ofResponse (unmatchedResponse q.method path)
        else .plain 405)

end StubGen.Http
