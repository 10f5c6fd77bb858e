import StubGen.Registry
import StubGen.Target.Default
import StubGen.TypeExpr.Enumeration
import StubGen.TypeExpr.Parser

/-!
# Supported types

A text is a supported type of a language when the language is registered, the text is a canonical
spelling, its nesting is within the limit, and the target has a rendering of it. The type table
lists all supported types. The limit may be any integer: the recursion limit that an interpreter
would set to nested calls is ignored.
-/

namespace StubGen

/-- Why a text has no description in a language. -/
inductive Unsupported where
  | language (language : String)
  | type (text : RawText) (language : String)
  deriving DecidableEq, Repr, Inhabited

/-- The wording of an unsupported language or type. -/
def Unsupported.message : Unsupported → RawText
  | language l => ("Unsupported language: " ++ l : String)
  | type text l => "Unsupported type: " ++ text ++ (" for language: " ++ l : String)

/-- The type that a text denotes, if the target supports it within the limit. -/
def Target.resolve (target : Target) (text : RawText) (maxDepth : Int) : Option TypeExpr :=
  match TypeExpr.ofText? text with
  | some t =>
    if text = t.spelling ∧ (t.depth : Int) ≤ maxDepth ∧ target.supports t = true then some t
    else none
  | none => none

def Target.supportedTypes (target : Target) (maxDepth : Int) : List TypeExpr :=
  (TypeExpr.upTo maxDepth.toNat).filter target.supports

namespace Registry

/-- The target of a language, or the reason that there is none. -/
def target (r : Registry) (language : String) : Except Unsupported Target :=
  match r.find? language with
  | some target => .ok target
  | none => .error (.language language)

/-- The type that a text denotes, if the language supports it within the limit. -/
def resolve (r : Registry) (text : RawText) (language : String) (maxDepth : Int) :
    Option TypeExpr :=
  match r.find? language with
  | some target => target.resolve text maxDepth
  | none => none

def describe (r : Registry) (text : RawText) (language : String) (maxDepth : Int) :
    Except Unsupported MappedType :=
  match r.find? language with
  | none => .error (.language language)
  | some target =>
    match target.resolve text maxDepth with
    | some t => .ok (target.mapType t)
    | none => .error (.type text language)

/-- The spelling of the type in the language; a text that is not supported stands for itself. -/
def spellingOf (r : Registry) (text : RawText) (language : String) (maxDepth : Int) : RawText :=
  match r.describe text language maxDepth with
  | .ok m => m.syntaxText
  | .error _ => text

/-- The supported types of a language, each with its spelling there. -/
def typeTable (r : Registry) (language : String) (maxDepth : Int) : List (String × String) :=
  match r.find? language with
  | none => []
  | some target =>
    (target.supportedTypes maxDepth).map fun t => (t.spelling, target.family.spell t)

end Registry

end StubGen
