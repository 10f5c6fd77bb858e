import StubGen.Signature.Basic
import StubGen.Support

/-!
# Single parts of a stub file

A caller can ask for one part of a stub file without generating it. The type texts are read one by
one, and those that are no types are passed over.
-/

namespace StubGen

namespace TypeTexts

/-- Whether a stub file for these types needs a tree node definition. -/
def needsTreeNode (types : TypeTexts) : Bool := Target.treeNodeFor.anyTree types.readable

/-- The type of the values that tree nodes hold. -/
def treeValue (types : TypeTexts) : Primitive := firstTreeValue types.readable

end TypeTexts

namespace Registry

def importsFor (r : Registry) (types : TypeTexts) (language : String) :
    Except Unsupported (List String) :=
  (r.target language).map fun target => target.imports types.readable

/-- The tree node definition that the types need in a language, empty if they need none. -/
def treeNodeFor (r : Registry) (types : TypeTexts) (language : String) :
    Except Unsupported String :=
  (r.target language).map fun target => target.treeNodeFor types.readable

/-- The default return statement of a mapped type in a language. -/
def defaultReturn (r : Registry) (m : MappedType) (language : String) :
    Except Unsupported String :=
  (r.target language).map fun target => target.defaultReturn m

end Registry

end StubGen
