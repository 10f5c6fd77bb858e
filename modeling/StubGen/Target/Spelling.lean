import StubGen.Target.Basic

/-!
# Types in a target language

`Family.spell` derives the spelling of a type from its structure. `TypeExpr.shapes` classifies it
for default values: a type that holds a tree at any depth is nullable, and arrays, lists and graphs
are collections.
-/

namespace StubGen

/-- What kind of value a type has, as far as default values are concerned. -/
inductive Shape where
  | boolean | collection | nullable | numeric | string
  deriving DecidableEq, Repr, Inhabited

namespace Shape

/-- All shapes, ordered by name. -/
def all : List Shape := [boolean, collection, nullable, numeric, string]

def name : Shape → String
  | boolean => "boolean"
  | collection => "collection"
  | nullable => "nullable"
  | numeric => "numeric"
  | string => "string"

def ofName? (text : String) : Option Shape := all.find? fun s => s.name = text

end Shape

def Primitive.shape : Primitive → Shape
  | int | long | float | double => .numeric
  | bool => .boolean
  | string => .string

def TypeExpr.shapes : TypeExpr → List Shape
  | primitive p => [p.shape]
  | array element | list element =>
    if .nullable ∈ element.shapes then [.collection, .nullable] else [.collection]
  | tree _ => [.nullable]
  | graph => [.collection]

namespace Family

def primitive : Family → Primitive → String
  | java, .int => "int"
  | java, .long => "long"
  | java, .float => "float"
  | java, .double => "double"
  | java, .bool => "boolean"
  | java, .string => "String"
  | python, .int | python, .long => "int"
  | python, .float | python, .double => "float"
  | python, .bool => "bool"
  | python, .string => "str"
  | cpp, .int => "int"
  | cpp, .long => "long long"
  | cpp, .float => "float"
  | cpp, .double => "double"
  | cpp, .bool => "bool"
  | cpp, .string => "string"
  | javascript, .bool => "boolean"
  | javascript, .string => "string"
  | javascript, _ => "number"

/-- The reference type that stands for a primitive as a Java type argument. -/
def boxed : Primitive → String
  | .int => "Integer"
  | .long => "Long"
  | .float => "Float"
  | .double => "Double"
  | .bool => "Boolean"
  | .string => "String"

/-- The spelling of an array whose element has the given spelling. -/
def arrayOf : Family → String → String
  | java, element | javascript, element => element ++ "[]"
  | python, element => "List[" ++ element ++ "]"
  | cpp, element => "vector<" ++ element ++ ">"

/-- The spelling of a list of `element`, whose own spelling is given. -/
def listOf : Family → TypeExpr → String → String
  | java, .primitive p, _ => "List<" ++ boxed p ++ ">"
  | java, _, element => "List<" ++ element ++ ">"
  | family, _, element => family.arrayOf element

def treeName : Family → String
  | java | javascript => "TreeNode"
  | python => "Optional[TreeNode]"
  | cpp => "TreeNode*"

def graphName : Family → String
  | java => "int[][]"
  | python => "List[List[int]]"
  | cpp => "vector<vector<int>>"
  | javascript => "number[][]"

def spell (family : Family) : TypeExpr → String
  | .primitive p => family.primitive p
  | .array element => family.arrayOf (spell family element)
  | .list element => family.listOf element (spell family element)
  | .tree _ => family.treeName
  | .graph => family.graphName

end Family

/-- A type as a target language sees it. -/
structure MappedType where
  syntaxText : String
  category : Category
  shapes : List Shape
  deriving DecidableEq, Repr, Inhabited

def MappedType.has (m : MappedType) (shape : Shape) : Bool := m.shapes.contains shape

def Target.mapType (target : Target) (t : TypeExpr) : MappedType :=
  ⟨target.family.spell t, t.category, t.shapes⟩

end StubGen
