import StubGen.Http.Path

/-!
# Routes

The service declares a table of rules. A rule matches a path literally, except for a placeholder at
its end: one segment without slashes, or a non-empty rest. A literal rule is preferred to a
placeholder, and the rest of the interface comes last. Paths outside all rules belong to the page.
-/

namespace StubGen.Http

/-- What a request can ask for. -/
inductive Endpoint where
  | template
  | validation
  | languages
  | table (language : String)
  | stats
  | health (probe : String)
  /-- A path of the interface that no other rule declares. -/
  | unmatched
  deriving DecidableEq, Repr, Inhabited

structure Rule where
  /-- The rule as it is declared. -/
  text : String
  /-- The methods that the rule declares. -/
  methods : List String
  deriving DecidableEq, Repr, Inhabited

/-- The rules in the order of their declaration. -/
def rules : List Rule :=
  [⟨"/api/v1/template", ["POST"]⟩,
   ⟨"/api/v1/template/validate", ["POST"]⟩,
   ⟨"/api/v1/languages", ["GET"]⟩,
   ⟨"/api/v1/types/<language>", ["GET"]⟩,
   ⟨"/api/v1/stats", ["GET"]⟩,
   ⟨"/health", ["GET"]⟩,
   ⟨"/health/ready", ["GET"]⟩,
   ⟨"/health/live", ["GET"]⟩,
   ⟨"/api/v1/<path:rest>", ["GET"]⟩]

/-- What the paths of the interface start with. -/
def apiStem : List Char := "/api/v1".toList

/-- The endpoint that a literal rule declares for a path. -/
def literalEndpoint? (path : List Char) : Option (String × Endpoint) :=
  if path = "/api/v1/template".toList then some ("POST", .template)
  else if path = "/api/v1/template/validate".toList then some ("POST", .validation)
  else if path = "/api/v1/languages".toList then some ("GET", .languages)
  else if path = "/api/v1/stats".toList then some ("GET", .stats)
  else if path = "/health".toList then some ("GET", .health "health")
  else if path = "/health/ready".toList then some ("GET", .health "ready")
  else if path = "/health/live".toList then some ("GET", .health "live")
  else none

/-- What follows a beginning of a text. -/
def after? : List Char → List Char → Option (List Char)
  | [], text => some text
  | b :: beginning, c :: text => if b = c then after? beginning text else none
  | _ :: _, [] => none

/-- The language that a path of the type tables names: one segment, not empty. -/
def tableLanguage? (path : List Char) : Option (List Char) :=
  match after? "/api/v1/types/".toList path with
  | some rest => if rest.isEmpty || rest.contains '/' then none else some rest
  | none => none

/-- Whether the path has a non-empty rest after the stem of the interface, not starting with another
slash. -/
def isApiRest (path : List Char) : Bool :=
  match after? "/api/v1/".toList path with
  | some (c :: _) => c ≠ '/'
  | _ => false

/-- What the rules make of a method and a path. -/
inductive Match where
  | endpoint (e : Endpoint)
  /-- No rule of the service; the page answers. -/
  | page
  /-- Rules match the path, or would after merging slashes, but none of them for the method. -/
  | wrongMethod
  /-- The request is sent on to the path with merged slashes. -/
  | redirect
  deriving DecidableEq, Repr, Inhabited

/-- The endpoint of a rule that declares the method for the path; every path matches a rule of the
page for the method `GET`. -/
def matchExact (method : String) (path : List Char) : Option Match :=
  match literalEndpoint? path with
  | some (m, e) =>
    if m = method then some (.endpoint e)
    else if method = "GET" then
      if isApiRest path then some (.endpoint .unmatched) else some .page
    else none
  | none =>
    if method = "GET" then
      match tableLanguage? path with
      | some language => some (.endpoint (.table (String.ofList language)))
      | none => if isApiRest path then some (.endpoint .unmatched) else some .page
    else none

/-- Finds the rule for a method, `HEAD` standing for `GET`, and a path. -/
def route (method : String) (path : List Char) : Match :=
  let method := if method = "HEAD" then "GET" else method
  match matchExact method path with
  | some found => found
  | none =>
    let merged := mergeSlashes path
    if merged ≠ path ∧ (matchExact method merged).isSome = true then .redirect else .wrongMethod

end StubGen.Http
