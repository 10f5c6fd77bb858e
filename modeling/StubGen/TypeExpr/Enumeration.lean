import StubGen.TypeExpr.Basic

/-!
# Enumeration of types

`TypeExpr.upTo d` lists the well-formed types of depth at most `d`: shallower types first, and
within one depth arrays, then lists, then trees, each in the order of the layer below.
-/

namespace StubGen.TypeExpr

/-- The types of depth zero. -/
def atoms : List TypeExpr := Primitive.all.map primitive ++ [graph]

/-- The types whose depth is one more than that of the types in `layer`, trees aside. -/
def wrapped (layer : List TypeExpr) : List TypeExpr :=
  (layer.filter isArrayElement).map array ++ layer.map list

/-- The types of depth exactly `d`. -/
def ofDepth : Nat → List TypeExpr
  | 0 => atoms
  | 1 => wrapped atoms ++ Primitive.all.map tree
  | d + 2 => wrapped (ofDepth (d + 1))

/-- The types of depth at most `d`, shallower types first. -/
def upTo : Nat → List TypeExpr
  | 0 => ofDepth 0
  | d + 1 => upTo d ++ ofDepth (d + 1)

end StubGen.TypeExpr
