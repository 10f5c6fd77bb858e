import StubGen.Schema.Reader
import StubGen.TypeExpr.Basic

/-!
# Types as JSON

A type is encoded as an object whose `kind` names its category. At the top the category is given and
`kind` may be left out; below, `kind` says which category to read. Reading establishes
well-formedness: no array holds a list, a tree or a graph.
-/

namespace StubGen.TypeExpr

def toJson : TypeExpr → Json
  | primitive p => .obj [("kind", .str "primitive"), ("primitive", .str p.name)]
  | array element => .obj [("kind", .str "array"), ("element_type", element.toJson)]
  | list element => .obj [("kind", .str "list"), ("element_type", element.toJson)]
  | tree value => .obj [("kind", .str "tree"), ("value_type", .str value.name)]
  | graph => .obj [("kind", .str "graph")]

def readPrimitive (j : Json) : Checked Primitive :=
  match j.asString?.bind Primitive.ofName? with
  | some p => .ok p
  | none => Problem.notPrimitive.at j

/-- Reads `kind` where the category is known; it may be left out. -/
def readKind (category : Category) (fields : Json.Fields) : Checked Unit :=
  match Json.lookup "kind" fields with
  | none => .ok ()
  | some j =>
    if j.asString? = some category.name then .ok ()
    else (Problem.wrongKind category.name |>.at j).under (.key "kind")

/-- The field `element_type` with its reading, or the fault of its absence. -/
def requireElement (fields : Json.Fields) :
    Option (Json × Checked TypeExpr) → Checked (Json × TypeExpr)
  | none => .error [⟨[.key "element_type"], .missing, .obj fields⟩]
  | some (j, reading) => Checked.under (.key "element_type") (reading.map fun t => (j, t))

/-- An array of the element, if it may stand in an array. -/
def arrayOf (element : Json × TypeExpr) : Checked TypeExpr :=
  if element.2.isArrayElement then .ok (array element.2)
  else (Problem.arrayElement.at element.1).under (.key "element_type")

/-- Reads the parts of a type of a known category; `element` is the reading of `element_type`. -/
def readParts (fields : Json.Fields) (element : Option (Json × Checked TypeExpr)) :
    Category → Checked TypeExpr
  | .primitive => (Json.required fields "primitive" readPrimitive).map primitive
  | .array =>
    match requireElement fields element with
    | .ok element => arrayOf element
    | .error faults => .error faults
  | .list => (requireElement fields element).map fun element => list element.2
  | .tree => (Json.required fields "value_type" readPrimitive).map tree
  | .graph => .ok graph

def readFields (category : Category) (fields : Json.Fields)
    (element : Option (Json × Checked TypeExpr)) : Checked TypeExpr :=
  ((readKind category fields).both (readParts fields element category)).map Prod.snd

mutual

/-- Reads a type whose category is given by `kind`. -/
def ofTagged : Json → Checked TypeExpr
  | .obj fields =>
    match Json.lookup "kind" fields with
    | none => Problem.noTag.at (.obj fields)
    | some kind =>
      match kind.asString?.bind Category.ofName? with
      | none => (Problem.unknownTag kind.label).at (.obj fields)
      | some category =>
        (readFields category fields (ofElementField fields)).under (.key category.name)
  | j => Problem.notTagged.at j

/-- The first field `element_type` and its reading. -/
def ofElementField : Json.Fields → Option (Json × Checked TypeExpr)
  | [] => none
  | (name, value) :: rest =>
    if name = .whole "element_type" then some (value, ofTagged value) else ofElementField rest

end

/-- The name under which a category's encoding appears in messages. -/
def recordName : Category → String
  | .primitive => "PrimitiveTypeRef"
  | .array => "ArrayTypeRef"
  | .list => "ListTypeRef"
  | .tree => "TreeTypeRef"
  | .graph => "GraphTypeRef"

def ofJson (category : Category) : Json → Checked TypeExpr
  | .obj fields => readFields category fields (ofElementField fields)
  | j => (Problem.notRecord (recordName category)).at j

end StubGen.TypeExpr
