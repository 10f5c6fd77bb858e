import StubGen.Stub.Context
import StubGen.TypeExpr.Parser

/-!
# Signatures

A signature names a function, its parameters and its types. The types are kept as the texts that
were given, so that all unreadable ones can be reported together; `Signature.typed` reads them. A
text with a lone half of a surrogate pair is no type.
-/

namespace StubGen

/-- A parameter with the text of its type. -/
structure Parameter where
  name : String
  type : RawText
  deriving DecidableEq, Repr, Inhabited

/-- A signature with the texts of its types. -/
structure Signature where
  functionName : String
  parameters : List Parameter
  returns : RawText
  deriving DecidableEq, Repr, Inhabited

/-- The type texts of a signature, apart from its names. -/
structure TypeTexts where
  parameters : List RawText
  returns : RawText
  deriving DecidableEq, Repr, Inhabited

namespace TypeTexts

/-- All type texts, the return type last. -/
def all (t : TypeTexts) : List RawText := t.parameters ++ [t.returns]

def readable (t : TypeTexts) : List TypeExpr := t.all.filterMap TypeExpr.ofText?

end TypeTexts

namespace Signature

def typeTexts (s : Signature) : TypeTexts := ⟨s.parameters.map Parameter.type, s.returns⟩

/-- Reads a type text; the error is the text. -/
def readType (text : RawText) : Except RawText TypeExpr :=
  match TypeExpr.ofText? text with
  | some t => .ok t
  | none => .error text

def readParameter (p : Parameter) : Except RawText TypedParameter :=
  (readType p.type).map fun t => ⟨p.name, t⟩

/-- Reads all types of the signature; the error is the first text that is no type. -/
def typed (s : Signature) : Except RawText TypedSignature := do
  let parameters ← s.parameters.mapM readParameter
  let returns ← readType s.returns
  return ⟨s.functionName, parameters, returns⟩

end Signature

end StubGen
