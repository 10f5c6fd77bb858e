/-!
# Type expressions

The types of a signature: six primitives, arrays `T[]`, lists `List<T>`, binary trees `Tree<P>` over
a primitive, and `Graph`. An array holds primitives or arrays only; `WellFormed` says so, and the
parser and the JSON reader establish it. `spelling` is the canonical text, `depth` counts the
constructors around the innermost atom, and `walk` lists a type with all types nested in it.
-/

namespace StubGen

inductive Primitive where
  | int | long | float | double | bool | string
  deriving DecidableEq, Repr, Inhabited

namespace Primitive

/-- All primitives, in declaration order. -/
def all : List Primitive := [int, long, float, double, bool, string]

/-- The name of a primitive in a type's spelling. -/
def name : Primitive → String
  | int => "int"
  | long => "long"
  | float => "float"
  | double => "double"
  | bool => "bool"
  | string => "string"

def ofName? (text : String) : Option Primitive := all.find? fun p => p.name = text

theorem mem_all (p : Primitive) : p ∈ all := by cases p <;> decide

theorem ofName?_name (p : Primitive) : ofName? p.name = some p := by cases p <;> decide

theorem name_of_ofName? {text : String} {p : Primitive} (h : ofName? text = some p) :
    p.name = text := by
  simpa using List.find?_some h

end Primitive

/-- What a type expression is outermost. -/
inductive Category where
  | primitive | array | list | tree | graph
  deriving DecidableEq, Repr, Inhabited

namespace Category

/-- All categories, in declaration order. -/
def all : List Category := [primitive, array, list, tree, graph]

def name : Category → String
  | primitive => "primitive"
  | array => "array"
  | list => "list"
  | tree => "tree"
  | graph => "graph"

def ofName? (text : String) : Option Category := all.find? fun c => c.name = text

end Category

inductive TypeExpr where
  | primitive (p : Primitive)
  | array (element : TypeExpr)
  | list (element : TypeExpr)
  | tree (value : Primitive)
  | graph
  deriving DecidableEq, Repr, Inhabited

namespace TypeExpr

def category : TypeExpr → Category
  | primitive _ => .primitive
  | array _ => .array
  | list _ => .list
  | tree _ => .tree
  | graph => .graph

/-- The types that an array may hold: primitives and arrays. -/
def isArrayElement : TypeExpr → Bool
  | primitive _ | array _ => true
  | _ => false

/-- Every array in the type holds a primitive or an array. -/
def WellFormed : TypeExpr → Prop
  | array element => element.isArrayElement = true ∧ element.WellFormed
  | list element => element.WellFormed
  | _ => True

def spellingChars : TypeExpr → List Char
  | primitive p => p.name.toList
  | array element => element.spellingChars ++ ['[', ']']
  | list element => "List<".toList ++ element.spellingChars ++ ['>']
  | tree value => "Tree<".toList ++ value.name.toList ++ ['>']
  | graph => "Graph".toList

@[simp] theorem spellingChars_primitive (p : Primitive) :
    (primitive p).spellingChars = p.name.toList := rfl

@[simp] theorem spellingChars_array (element : TypeExpr) :
    (array element).spellingChars = element.spellingChars ++ ['[', ']'] := rfl

@[simp] theorem spellingChars_list (element : TypeExpr) :
    (list element).spellingChars = "List<".toList ++ element.spellingChars ++ ['>'] := rfl

@[simp] theorem spellingChars_tree (value : Primitive) :
    (tree value).spellingChars = "Tree<".toList ++ value.name.toList ++ ['>'] := rfl

@[simp] theorem spellingChars_graph : graph.spellingChars = "Graph".toList := rfl

/-- The canonical spelling, such as `List<int[]>`. -/
def spelling (t : TypeExpr) : String := String.ofList t.spellingChars

/-- How many constructors wrap the innermost primitive or graph. -/
def depth : TypeExpr → Nat
  | array element => element.depth + 1
  | list element => element.depth + 1
  | tree _ => 1
  | _ => 0

/-- The type followed by every type nested in it, outermost first. -/
def walk : TypeExpr → List TypeExpr
  | array element => array element :: element.walk
  | list element => list element :: element.walk
  | t => [t]

/-- Whether the type, or a type nested in it, is of the category. -/
def contains (t : TypeExpr) (category : Category) : Bool :=
  t.walk.any fun inner => inner.category == category

def decideWellFormed : (t : TypeExpr) → Decidable t.WellFormed
  | array element =>
    have := decideWellFormed element
    inferInstanceAs (Decidable (_ ∧ _))
  | list element => decideWellFormed element
  | primitive _ | tree _ | graph => isTrue trivial

instance : DecidablePred WellFormed := decideWellFormed

end TypeExpr

end StubGen
