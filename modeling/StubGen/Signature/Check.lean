import StubGen.Settings.Basic
import StubGen.Signature.Basic
import StubGen.Support

/-!
# Checking the types of a signature

Every position of a signature whose type is not supported is reported, the parameters in order and
the return type last.
-/

namespace StubGen

/-- A position of a signature that holds a type. -/
inductive TypePosition where
  | parameter (index : Nat)
  | returns
  deriving DecidableEq, Repr, Inhabited

/-- The path of a position in a signature. -/
def TypePosition.field : TypePosition → String
  | parameter index => "parameters[" ++ toString index ++ "].type"
  | returns => "returns.type"

def TypePosition.role : TypePosition → String
  | parameter _ => "parameter"
  | returns => "return"

/-- A type that a language does not support, and where it stands. -/
structure TypeFault where
  position : TypePosition
  text : RawText
  language : String
  deriving DecidableEq, Repr, Inhabited

/-- The wording of an unsupported type in a signature. -/
def TypeFault.message (f : TypeFault) : RawText :=
  ("Unsupported " ++ f.position.role ++ " type: " : String) ++ f.text
    ++ (" for language: " ++ f.language : String)

namespace TypeTexts

/-- The texts with their positions, the first parameter being at `i`. -/
def positionsFrom (i : Nat) : List RawText → List (TypePosition × RawText)
  | [] => []
  | text :: rest => (.parameter i, text) :: positionsFrom (i + 1) rest

/-- All type texts with their positions, the return type last. -/
def positions (t : TypeTexts) : List (TypePosition × RawText) :=
  positionsFrom 0 t.parameters ++ [(.returns, t.returns)]

end TypeTexts

namespace Registry

/-- Whether a text is a type that the language supports. With settings, the language has to be
enabled and the nesting limit is theirs. -/
def isSupported (r : Registry) (settings : Option Settings) (text : RawText)
    (language : String) : Bool :=
  match settings with
  | none => (r.resolve text language defaultMaxNestingDepth).isSome
  | some s => s.languages.contains language && (r.resolve text language s.maxNestingDepth).isSome

/-- The unsupported types of a signature. -/
def typeFaults (r : Registry) (settings : Option Settings) (types : TypeTexts)
    (language : String) : List TypeFault :=
  (types.positions.filter fun (_, text) => !r.isSupported settings text language).map
    fun (position, text) => ⟨position, text, language⟩

end Registry

end StubGen
