import StubGen.Yaml.Error
import StubGen.Yaml.Node

/-!
# Merging mappings

An entry under the merge sign stands for the entries of the mapping that is its value, or of the
mappings of a sequence, the last of which come first. `Graph.merged` puts such entries in front of
the others of a mapping. What is merged has its own merges behind it, also where a mapping merges
itself.
-/

namespace StubGen.Yaml.Graph

def isMerge (g : Graph) (entry : Place × Place) : Bool := (g.node entry.1).tag = .merge

def mergeCount (g : Graph) : Nat :=
  (g.nodes.toList.map fun
    | .mapping _ entries => entries.countP g.isMerge
    | _ => 0).foldr (· + ·) 0

/-- Takes the first entry that merges others out of a mapping, and gives its value. -/
def takeMerge? (g : Graph) (p : Place) : Option (Place × Graph) :=
  let entries := g.entries p
  (entries.find? g.isMerge).map fun entry =>
    (entry.2, g.setEntries p (entries.eraseP g.isMerge))

def isMapping (g : Graph) (p : Place) : Bool :=
  match g.node p with
  | .mapping _ _ => true
  | _ => false

/-- The mappings that a value merges. -/
def sources (g : Graph) (value : Place) : Except Error (List Place) :=
  match g.node value with
  | .mapping _ _ => .ok [value]
  | .sequence _ items => if items.all g.isMapping then .ok items else .error .markup
  | .scalar _ _ => .error .markup

/-- A key that is the sign of a default value becomes a text. -/
def settleKey (g : Graph) (key : Place) : Graph :=
  let n := g.node key
  if n.tag = .value then g.set key (n.withTag .text) else g

/-- Merges what a mapping asks for; `fuel` bounds the nesting. -/
def flatten : Nat → Place → Graph → Except Error Graph
  | 0, _, _ => .error .markup
  | fuel + 1, p, g =>
    match g.takeMerge? p with
    | none => .ok ((g.entries p).foldl (fun g (key, _) => g.settleKey key) g)
    | some (value, g) => do
      let step := fun (merged, g) source => do
        let g ← flatten fuel source g
        return (g.entries source ++ merged, g)
      let (merged, g) ← (← g.sources value).foldlM step ([], g)
      let g ← flatten fuel p g
      return g.setEntries p (merged ++ g.entries p)

/-- The graph after the merges of a mapping. -/
def merged (g : Graph) (p : Place) : Except Error Graph :=
  let merges := if (g.entries p).any g.isMerge then g.mergeCount else 0
  flatten (merges + 1) p g

end StubGen.Yaml.Graph
