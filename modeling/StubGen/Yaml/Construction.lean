import StubGen.Text.Base64
import StubGen.Yaml.Composition
import StubGen.Yaml.Document
import StubGen.Yaml.Merge
import StubGen.Yaml.Number
import StubGen.Yaml.Slot

/-!
# Values of nodes

The tag of a node says which value it stands for. The content of a collection is looked at after
everything that stands beside it, so of several nodes without a value the first of those that are
nested the least is reported. A node has one value, from wherever it is reached.
-/

namespace StubGen.Yaml

def truthOf (text : RawText) : Except Error Bool :=
  let lower := text.mapParts Text.lower
  match lower.toString?.bind fun s => List.lookup s truthTexts with
  | some b => .ok b
  | none => .error (.truth lower)

/-- The bytes that a text of base 64 encodes. -/
def bytesOf (text : RawText) : Except Error (List UInt8) :=
  match text.toString? with
  | none => .error .markup
  | some s =>
    if s.toList.any fun c => 128 ≤ c.toNat then .error .markup
    else match Text.Base64.decode? s.toList with
      | some content => .ok content
      | none => .error .markup

/-- The date that a text denotes. A line break at its end does not count. -/
def timestampOf (text : RawText) : Except Error Timestamp :=
  match text.toString?.bind fun s => Timestamp.read (withoutFinalBreak s.toList) with
  | none => .error .notADate
  | some t =>
    match t.defect? with
    | some part => .error (.date part)
    | none => .ok t

namespace Graph

/-- The text of a scalar, or that of the default value of a mapping; `fuel` bounds the nesting. -/
def textAt (g : Graph) : Nat → Place → Except Error RawText
  | 0, _ => .error .endless
  | fuel + 1, p =>
    match g.node p with
    | .scalar _ text => .ok text
    | .sequence _ _ => .error .markup
    | .mapping _ entries =>
      match entries.find? fun (k, _) => (g.node k).tag = .value with
      | some (_, value) => g.textAt fuel value
      | none => .error .markup

def scalarAt (g : Graph) (p : Place) (tag : Tag) : Except Error Data := do
  let text := g.textAt (g.size + 1) p
  match tag with
  | .null => text.map fun _ => .null
  | .truth => return .bool (← truthOf (← text))
  | .integer => return .int (← integerOf (← text))
  | .float =>
    let text ← text
    match ← floatOf text with
    | .nan => return if isUsualNan text then .real .nan else .noNumber p
    | x => return .real x
  | .text => return .str (← text)
  | .binary => return .bytes (← bytesOf (← text))
  | .timestamp =>
    let text ← text
    if g.isMapping p then throw .mappingForDate
    return .time (← timestampOf text)
  | _ => throw .markup

end Graph

/-- The state while values are built. -/
structure Builder where
  graph : Graph
  /-- The values of the nodes that have been looked at. -/
  values : Array (Option Data)
  collections : Array Collection
  /-- The collections whose content has not been looked at. -/
  waiting : List Place
  deriving Repr, Inhabited

abbrev Build := StateT Builder (Except Error)

namespace Build

def value (p : Place) : Build Data := do
  match (← get).values.getD p none with
  | some d => return d
  | none =>
    let tag := ((← get).graph.node p).tag
    let isCollection := [Tag.sequence, .mapping, .set, .orderedMap, .pairs].contains tag
    let d ← if isCollection then pure (.collection p) else (← get).graph.scalarAt p tag
    modify fun b => { b with
      values := b.values.setIfInBounds p (some d)
      waiting := if isCollection then b.waiting ++ [p] else b.waiting }
    return d

def entry (e : Place × Place) : Build (Data × Data) := do
  let key ← value e.1
  if !key.isKey then throw .markup
  return (key, ← value e.2)

/-- The entries of a mapping after its merges. -/
def entries (p : Place) : Build (List (Data × Data)) := do
  let g ← (← get).graph.merged p
  modify fun b => { b with graph := g }
  return Data.entriesOf (← (g.entries p).mapM entry)

/-- The pair that a mapping with one entry stands for. -/
def pair (p : Place) : Build (Data × Data) := do
  match (← get).graph.entries p with
  | [(k, v)] => return (← value k, ← value v)
  | _ => throw .markup

def content (p : Place) : Build Collection := do
  let n := (← get).graph.node p
  match n.tag, n with
  | .sequence, .sequence _ items => return .list (← items.mapM value)
  | .orderedMap, .sequence _ items | .pairs, .sequence _ items => return .pairs (← items.mapM pair)
  | .mapping, .mapping _ _ => return .map (← entries p)
  | .set, .mapping _ _ => return .set (Data.setOrder ((← entries p).map Prod.fst))
  | _, _ => throw .markup

/-- Looks at the content of the collections that wait, of which there are as many as `fuel` at most.
-/
def rest : Nat → Build Unit
  | 0 => return
  | fuel + 1 => do
    match (← get).waiting with
    | [] => return
    | p :: waiting =>
      modify fun b => { b with waiting := waiting }
      let c ← content p
      modify fun b => { b with collections := b.collections.setIfInBounds p c }
      rest fuel

/-- The document whose outermost node is at a place. -/
def document (p : Place) : Build Document := do
  let root ← value p
  rest (← get).graph.size
  return ⟨root, (← get).collections⟩

end Build

/-- The document in a text; an empty text holds null. -/
def load (text : String) : Except Error Document := do
  match ← Graph.ofText? text.toList with
  | none => return .empty
  | some (p, g) =>
    let start : Builder :=
      ⟨g, Array.replicate g.size none, Array.replicate g.size (.list []), []⟩
    return (← (Build.document p).run start).1

end StubGen.Yaml
