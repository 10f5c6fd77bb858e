import StubGen.Target.Spelling

/-!
# Default return statements

The body of a stub returns a default value, chosen by the first shape that applies: null, an empty
collection, zero, false, the empty string. A type without any of these shapes gets the target's
fallback statement.
-/

namespace StubGen

/-- Writes a zero into the first pair of empty square brackets. -/
def sizeFirstDimension : List Char → List Char
  | '[' :: ']' :: rest => '[' :: '0' :: ']' :: rest
  | c :: rest => c :: sizeFirstDimension rest
  | [] => []

namespace Family

def returnStatement : Family → String → String
  | python, expression => "return " ++ expression
  | _, expression => "return " ++ expression ++ ";"

def emptyCollection : Family → MappedType → String
  | java, m =>
    if m.category = .list then "new ArrayList<>()"
    else "new " ++ String.ofList (sizeFirstDimension m.syntaxText.toList)
  | cpp, _ => "\x7b\x7d"
  | python, _ | javascript, _ => "[]"

end Family

namespace Target

def primitiveDefault (target : Target) (p : Primitive) : String :=
  match p.shape with
  | .boolean => target.literals.falseValue
  | .string => target.literals.emptyString
  | _ => target.literals.zero

def defaultReturn (target : Target) (m : MappedType) : String :=
  let give := target.family.returnStatement
  if m.has .nullable then give target.literals.nullValue
  else if m.has .collection then give (target.family.emptyCollection m)
  else if m.has .numeric then give target.literals.zero
  else if m.has .boolean then give target.literals.falseValue
  else if m.has .string then give target.literals.emptyString
  else target.literals.fallback

end Target

end StubGen
