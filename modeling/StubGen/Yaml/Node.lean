import StubGen.Yaml.Tag
import StubGen.Yaml.Timestamp

/-!
# Graphs of nodes

A document is a graph of nodes. Each node has a place in the graph, and collections refer to their
parts by place, so that an alias can lead to a node from several others, even from inside itself.
-/

namespace StubGen.Yaml

/-- A place of a node in a graph. -/
abbrev Place := Nat

inductive Node where
  | scalar (tag : Tag) (text : RawText)
  | sequence (tag : Tag) (items : List Place)
  | mapping (tag : Tag) (entries : List (Place × Place))
  deriving DecidableEq, Repr, Inhabited

namespace Node

def tag : Node → Tag
  | scalar tag _ | sequence tag _ | mapping tag _ => tag

def withTag (tag : Tag) : Node → Node
  | scalar _ text => scalar tag text
  | sequence _ items => sequence tag items
  | mapping _ entries => mapping tag entries

def empty : Node := scalar .null ""

end Node

/-- The tag that a text without quotes has of itself. A line break at its end does not count. -/
def Tag.ofText (text : RawText) : Tag :=
  match text.toString? with
  | none => .text
  | some s =>
    let chars := withoutFinalBreak s.toList
    let bare := String.ofList chars
    if s = "\n" then .text
    else if isTruth bare then .truth
    else if isFloat chars then .float
    else if isInteger chars then .integer
    else if bare = "<<" then .merge
    else if isNull bare then .null
    else if Timestamp.isTimestamp chars then .timestamp
    else if bare = "=" then .value
    else if ["!", "&", "*"].contains bare then .unknown
    else .text

/-- The nodes of a document by place. -/
structure Graph where
  nodes : Array Node
  deriving Repr, Inhabited

namespace Graph

def empty : Graph := ⟨#[]⟩

def size (g : Graph) : Nat := g.nodes.size

def node (g : Graph) (p : Place) : Node := g.nodes.getD p .empty

/-- Adds a node, at the place of the graph's size. -/
def push (g : Graph) (n : Node) : Graph := ⟨g.nodes.push n⟩

def set (g : Graph) (p : Place) (n : Node) : Graph := ⟨g.nodes.setIfInBounds p n⟩

def entries (g : Graph) (p : Place) : List (Place × Place) :=
  match g.node p with
  | .mapping _ entries => entries
  | _ => []

def setEntries (g : Graph) (p : Place) (entries : List (Place × Place)) : Graph :=
  g.set p (.mapping (g.node p).tag entries)

end Graph

end StubGen.Yaml
