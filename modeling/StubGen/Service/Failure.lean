import StubGen.Service.Response

/-!
# Failures

A request that cannot be served is answered with an error envelope: status 400 if the request is to
blame, and 500 otherwise. In production the message of an internal failure is not shown.
-/

namespace StubGen

structure TypeReport where
  field : String
  text : RawText
  message : RawText
  deriving DecidableEq, Repr, Inhabited

/-- Why a request was not served. -/
inductive Failure where
  /-- The document does not match its schema; the faults are given as they are reported. -/
  | malformed (faults : List Json)
  | unsupportedTypes (types : List TypeReport)
  /-- A single unsupported language or type. -/
  | unsupported (what : Unsupported)
  /-- A failure of the service itself; an unexpected one is logged. -/
  | internal (message : String) (expected : Bool)
  deriving Repr, Inhabited

/-- An unsupported type of a signature as it is reported. -/
def TypeFault.report (f : TypeFault) : TypeReport := ⟨f.position.field, f.text, f.message⟩

def Refusal.failure : Refusal → Failure
  | unsupportedLanguage l => .unsupported (.language l)
  | malformed faults => .malformed (faults.map Fault.toJson)
  | unsupportedTypes faults => .unsupportedTypes (faults.map TypeFault.report)
  | unsupportedType text l => .unsupported (.type text l)

namespace Failure

/-- The text about an internal failure that is shown. -/
def internalMessage (settings : Settings) (message : String) : String :=
  if settings.environment = "production" then "Internal Server Error" else message

/-- The error envelope of a failure. -/
def response (settings : Settings) : Failure → Response
  | malformed faults =>
    ⟨400, .obj [("error", .str "Validation Error"), ("details", .arr faults)]⟩
  | unsupportedTypes types =>
    ⟨400, .obj [("error", .str "Type Validation Error"),
      ("message", .str (RawText.joined "; " (types.map TypeReport.message))),
      ("errors", .arr (types.map fun t =>
        .obj [("field", .str t.field), ("dsl_type", .str t.text), ("message", .str t.message)]))]⟩
  | unsupported what =>
    ⟨400, .obj [("error", .str "Type Validation Error"), ("message", .str what.message)]⟩
  | internal message _ =>
    ⟨500, .obj [("error", .str "Internal Server Error"),
      ("message", .str (internalMessage settings message))]⟩

/-- What is logged about a failure. -/
def records : Failure → List Log.Record
  | internal _ false =>
    [⟨.error, "codestub.api.handlers", "Unhandled error while serving a request"⟩]
  | _ => []

end Failure

end StubGen
