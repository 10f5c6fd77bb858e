import StubGen.Target.Import
import StubGen.Target.TreeNode

/-!
# The parts of a stub file

A typed signature is a signature whose types have been read. `Target.context` gathers all that a
stub file of the target is made of: the mapped types, the imports, the tree node definition and the
default return statement.
-/

namespace StubGen

/-- A parameter whose type has been read. -/
structure TypedParameter where
  name : String
  type : TypeExpr
  deriving DecidableEq, Repr, Inhabited

/-- A signature whose types have been read. -/
structure TypedSignature where
  functionName : String
  parameters : List TypedParameter
  returns : TypeExpr
  deriving DecidableEq, Repr, Inhabited

/-- The types of a signature, the return type last. -/
def TypedSignature.types (s : TypedSignature) : List TypeExpr :=
  s.parameters.map TypedParameter.type ++ [s.returns]

/-- A parameter as a target language sees it. -/
structure MappedParameter extends TypedParameter where
  mapped : MappedType
  deriving DecidableEq, Repr, Inhabited

/-- What a stub file is made of. -/
structure Context where
  functionName : String
  parameters : List MappedParameter
  returns : TypeExpr
  returnMapped : MappedType
  imports : List String
  /-- The tree node definition, empty if no type holds a tree. -/
  treeNode : String
  defaultReturn : String
  deriving DecidableEq, Repr, Inhabited

namespace Context

def names (c : Context) : List String := c.parameters.map fun p => p.name

/-- The parameters as declared in languages that put the type first. -/
def typedNames (c : Context) : List String :=
  c.parameters.map fun p => p.mapped.syntaxText ++ " " ++ p.name

end Context

/-- A parameter as the target language sees it. -/
def Target.mapParameter (target : Target) (p : TypedParameter) : MappedParameter :=
  ⟨p, target.mapType p.type⟩

/-- The parts of the stub file of a signature. -/
def Target.context (target : Target) (s : TypedSignature) : Context where
  functionName := s.functionName
  parameters := s.parameters.map target.mapParameter
  returns := s.returns
  returnMapped := target.mapType s.returns
  imports := target.imports s.types
  treeNode := target.treeNodeFor s.types
  defaultReturn := target.defaultReturn (target.mapType s.returns)

end StubGen
