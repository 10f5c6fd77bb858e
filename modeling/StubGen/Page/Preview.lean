import StubGen.Json.Reader
import StubGen.Service.Handler

/-!
# The preview pane

The pane shows the stub file of the request that the user types, in the language that is chosen
there, or a readable error. Only a request text with an integer of too many digits leaves it without
a text.
-/

namespace StubGen

/-- An integer with more digits than are converted. -/
structure LongInteger where
  digits : Nat
  deriving DecidableEq, Repr, Inhabited

/-- The wording of the refusal of such an integer. -/
def LongInteger.message (e : LongInteger) : String := Text.longIntegerMessage e.digits

namespace Registry

/-- The text of the pane for a template request. -/
def previewText (settings : Settings) : Except Refusal Response → String
  | .ok response => ((response.payload.field? "template").bind Json.asString?).getD ""
  | .error refusal => "Error: " ++ Json.pretty (refusal.failure.response settings).payload

/-- The text of the pane for a request text and a chosen language. -/
def preview (r : Registry) (settings : Settings) (moment : Moment) (text language : String) :
    Log.Logged (Except LongInteger String) :=
  if text = "" ∨ language = "" then Log.silent (.ok "")
  else match Json.parse text with
    | .error (.longInteger digits) => Log.silent (.error ⟨digits⟩)
    | .error e => Log.silent (.ok ("Error: invalid JSON: " ++ e.message text.toList))
    | .ok (.obj fields) =>
      (r.serveTemplate settings moment (.obj (Json.assign "language" (.str language) fields))).map
        fun served => .ok (previewText settings served)
    | .ok _ => Log.silent (.ok "Error: request must be a JSON object")

end Registry

end StubGen
