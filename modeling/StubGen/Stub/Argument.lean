import StubGen.Stub.Context

/-!
# Arguments of the call in a stub file

The harness of a stub file decodes its input as JSON and calls the user's function. `Decoding` is an
expression that picks a parameter out of the decoded object and rebuilds the trees in it; in Python
every tree is rebuilt, at any depth, through comprehensions whose variables are numbered by depth,
and in JavaScript a parameter that is a tree itself. Java leaves the decoding to its JSON library,
and C++ has no decoder.
-/

namespace StubGen

/-- An expression over the decoded input object. -/
inductive Decoding where
  /-- The value stored under a name. -/
  | field (name : String)
  /-- The variable of the comprehension at a depth. -/
  | item (depth : Nat)
  | buildTree (source : Decoding)
  /-- The list of the values of `body`, while the variable at `depth` runs through `source`. -/
  | collect (body : Decoding) (depth : Nat) (source : Decoding)
  deriving DecidableEq, Repr, Inhabited

namespace Decoding

/-- Rebuilds every tree in a value of the type; `depth` numbers the next comprehension. -/
def rebuild (depth : Nat) (source : Decoding) : TypeExpr → Decoding
  | .tree _ => buildTree source
  | .array element | .list element =>
    if element.contains .tree then collect (rebuild (depth + 1) (item depth) element) depth source
    else source
  | _ => source

/-- The name of the variable of a comprehension. -/
def itemName (depth : Nat) : String := "item" ++ toString depth

def pythonText : Decoding → String
  | field name => "data[\"" ++ name ++ "\"]"
  | item depth => itemName depth
  | buildTree source => "_build_tree(" ++ source.pythonText ++ ")"
  | collect body depth source =>
    "[" ++ body.pythonText ++ " for " ++ itemName depth ++ " in " ++ source.pythonText ++ "]"

end Decoding

namespace MappedParameter

/-- The expression that rebuilds the trees of a parameter. -/
def decoding (p : MappedParameter) : Decoding := .rebuild 0 (.field p.name) p.type

def pythonArgument (p : MappedParameter) : String := p.decoding.pythonText

/-- The argument in JavaScript; a tree is rebuilt only where the parameter itself is one. -/
def javascriptArgument (p : MappedParameter) : String :=
  if p.type.category = .tree then "buildTree(data." ++ p.name ++ ")" else "data." ++ p.name

/-- The argument in Java; a generic type is passed as a type token. -/
def javaArgument (p : MappedParameter) : String :=
  let element := "data.get(\"" ++ p.name ++ "\")"
  let type := p.mapped.syntaxText
  if p.type.contains .list then
    "gson.fromJson(" ++ element ++ ", new TypeToken<" ++ type ++ ">()\x7b\x7d.getType())"
  else "gson.fromJson(" ++ element ++ ", " ++ type ++ ".class)"

/-- The line that stands for the argument in C++. -/
def cppPlaceholder (p : MappedParameter) : String :=
  "    // " ++ p.mapped.syntaxText ++ " " ++ p.name ++ " = /* input[\"" ++ p.name ++ "\"] */;"

end MappedParameter

end StubGen
