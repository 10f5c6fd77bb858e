import StubGen.Schema.Reader
import StubGen.Signature.Basic

/-!
# Signatures as JSON

The schema of a signature: identifiers of limited length, at most twenty parameters, a type text for
each parameter and for the result. Unknown fields are ignored and every fault is reported.
-/

namespace StubGen

def TextRule.functionName : TextRule := ⟨100, some .identifier⟩

def TextRule.parameterName : TextRule := ⟨50, some .identifier⟩

def maxParameters : Nat := 20

namespace Parameter

def ofJson : Json → Checked Parameter
  | .obj fields =>
    ((Json.required fields "name" TextRule.parameterName.read).both
      (Json.required fields "type" Json.anyText)).map fun (name, type) => ⟨name, type⟩
  | j => (Problem.notRecord "Parameter").at j

def toJson (p : Parameter) : Json := .obj [("name", .str p.name), ("type", .str p.type)]

end Parameter

namespace Signature

/-- Reads the items of a list that starts at position `i`. -/
def readItems (i : Nat) : List Json → Checked (List Parameter)
  | [] => .ok []
  | j :: rest =>
    (((Parameter.ofJson j).under (.index i)).both (readItems (i + 1) rest)).map
      fun (p, ps) => p :: ps

def countValid (items : List Json) : Nat :=
  (items.filter fun j => (Parameter.ofJson j).isOk).length

/-- Reads the parameters; too many valid ones are a fault of the list that hides those of its items.
-/
def readParameters : Json → Checked (List Parameter)
  | .arr items =>
    if maxParameters < countValid items then
      (Problem.tooManyItems maxParameters items.length).at (.arr items)
    else readItems 0 items
  | j => Problem.notTuple.at j

/-- Reads the field of the parameters, which may be left out. -/
def parametersField (fields : Json.Fields) : Checked (List Parameter) :=
  match Json.lookup "parameters" fields with
  | none => .ok []
  | some value => (readParameters value).under (.key "parameters")

def readReturns : Json → Checked RawText
  | .obj fields => Json.required fields "type" Json.anyText
  | j => (Problem.notRecord "ReturnSpec").at j

def ofFields (fields : Json.Fields) : Checked Signature :=
  (((Json.required fields "function_name" TextRule.functionName.read).both
    (parametersField fields)).both
      (Json.required fields "returns" readReturns)).map
        fun ((functionName, parameters), returns) => ⟨functionName, parameters, returns⟩

def ofJson : Json → Checked Signature
  | .obj fields => ofFields fields
  | j => (Problem.notRecord "FunctionSignature").at j

def returnsToJson (type : RawText) : Json := .obj [("type", .str type)]

def toJson (s : Signature) : Json :=
  .obj [("function_name", .str s.functionName),
    ("parameters", .arr (s.parameters.map Parameter.toJson)),
    ("returns", returnsToJson s.returns)]

end Signature

end StubGen
