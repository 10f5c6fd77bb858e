import StubGen.Yaml.Lexer
import StubGen.Yaml.Node

/-!
# Composing nodes

`Graph.ofText?` builds the graph that the tokens of a text describe. A text holds at most one
document. A collection has its place before its parts have theirs, so that they can refer to it.
Every function that builds nodes takes a bound on the number of steps; the number of tokens gives
one that is never reached.
-/

namespace StubGen.Yaml

/-- The state while nodes are built. -/
structure Composer where
  tokens : List Token
  /-- The error that stands behind the tokens. -/
  failure : Error
  /-- The beginnings of tags that handles stand for. -/
  handles : List (String × String)
  anchors : List (String × Place)
  graph : Graph
  deriving Repr, Inhabited

namespace Composer

/-- The handles that need no directive. -/
def defaultHandles : List (String × String) := [("!", "!"), ("!!", Tag.beginning)]

def peek (p : Composer) : Except Error Token :=
  match p.tokens with
  | t :: _ => .ok t
  | [] => .error p.failure

/-- The state after the next token. -/
def advance (p : Composer) : Composer := { p with tokens := p.tokens.drop 1 }

/-- Whether the next token is one of the given ones. -/
def isAt (p : Composer) (ts : List Token) : Except Error Bool := do
  let t ← p.peek
  return ts.contains t

/-- The parts of a tag, if one stands here. -/
def readTag (p : Composer) : Except Error (Option (Option String × String) × Composer) := do
  match ← p.peek with
  | .tag handle suffix => return (some (handle, suffix), p.advance)
  | _ => return (none, p)

/-- Reads an anchor, if one stands here. -/
def readAnchor (p : Composer) : Except Error (Option String × Composer) := do
  match ← p.peek with
  | .anchor name => return (some name, p.advance)
  | _ => return (none, p)

def fullName (p : Composer) : Option (Option String × String) → Except Error (Option String)
  | none => .ok none
  | some (none, suffix) => .ok (some suffix)
  | some (some handle, suffix) =>
    match p.handles.lookup handle with
    | some beginning => .ok (some (beginning ++ suffix))
    | none => .error .markup

/-- Reads an anchor and a tag in either order. -/
def properties (p : Composer) : Except Error ((Option String × Option String) × Composer) := do
  match ← p.readAnchor with
  | (some anchor, p) =>
    let (tag, p) ← p.readTag
    return ((some anchor, ← p.fullName tag), p)
  | (none, p) =>
    match ← p.readTag with
    | (none, p) => return ((none, none), p)
    | (some tag, p) =>
      let (anchor, p) ← p.readAnchor
      return ((anchor, ← p.fullName (some tag)), p)

/-- Fails if a node of the name is there already. -/
def checkNew (p : Composer) : Option String → Except Error Unit
  | none => .ok ()
  | some name => if (p.anchors.lookup name).isSome then .error .markup else .ok ()

def add (p : Composer) (n : Node) : Place × Composer :=
  (p.graph.size, { p with graph := p.graph.push n })

/-- Adds a node under a name, which must be new. -/
def addNamed (p : Composer) (anchor : Option String) (n : Node) :
    Except Error (Place × Composer) := do
  p.checkNew anchor
  let (place, p) := p.add n
  return match anchor with
    | some name => (place, { p with anchors := (name, place) :: p.anchors })
    | none => (place, p)

def replace (p : Composer) (place : Place) (n : Node) : Composer :=
  { p with graph := p.graph.set place n }

/-- The place of the node that an alias names. -/
def aliased (p : Composer) (name : String) : Except Error Place :=
  match p.anchors.lookup name with
  | some place => .ok place
  | none => .error .markup

/-- The tag of a scalar; `implicit` says whether its text may give it one. -/
def scalarTag (tag : Option String) (implicit : Bool) (text : RawText) : Tag :=
  match tag with
  | none => if implicit then Tag.ofText text else .text
  | some "!" => Tag.ofText text
  | some name => Tag.ofName name

def collectionTag (tag : Option String) (otherwise : Tag) : Tag :=
  match tag with
  | none | some "!" => otherwise
  | some name => Tag.ofName name

/-- Takes the wanted token. -/
def take (p : Composer) (t : Token) : Except Error Composer := do
  if ← p.isAt [t] then return p.advance else throw .markup

def emptyScalar (anchor tag : Option String) (p : Composer) : Except Error (Place × Composer) := do
  if anchor.isNone && tag.isNone then throw .markup
  p.addNamed anchor (.scalar (scalarTag tag true "") "")

/-- A sequence whose items a function reads. -/
def sequence (anchor tag : Option String) (p : Composer)
    (read : Composer → Except Error (List Place × Composer)) : Except Error (Place × Composer) := do
  let tag := collectionTag tag .sequence
  let (place, p) ← p.addNamed anchor (.sequence tag [])
  let (items, p) ← read p
  return (place, p.replace place (.sequence tag items))

/-- A mapping whose entries a function reads. -/
def mapping (anchor tag : Option String) (p : Composer)
    (read : Composer → Except Error (List (Place × Place) × Composer)) :
    Except Error (Place × Composer) := do
  let tag := collectionTag tag .mapping
  let (place, p) ← p.addNamed anchor (.mapping tag [])
  let (entries, p) ← read p
  return (place, p.replace place (.mapping tag entries))

mutual

/-- Builds a node. In block style it may be a block collection, and where `indentless` holds, the
entries of a sequence may stand without an indentation of their own. -/
def node : Nat → Bool → Bool → Composer → Except Error (Place × Composer)
  | 0, _, _, _ => .error .markup
  | fuel + 1, block, indentless, p => do
    if let .alias name ← p.peek then
      return (← p.aliased name, p.advance)
    let ((anchor, tag), p) ← p.properties
    match ← p.peek with
    | .blockEntry =>
      if indentless then sequence anchor tag p (indentlessEntries fuel)
      else emptyScalar anchor tag p
    | .scalar text plain =>
      p.advance.addNamed anchor (.scalar (scalarTag tag plain text) text)
    | .flowSequenceStart => sequence anchor tag p.advance (flowItems fuel true)
    | .flowMappingStart => mapping anchor tag p.advance (flowEntries fuel true)
    | .blockSequenceStart =>
      if block then sequence anchor tag p.advance (blockEntries fuel) else emptyScalar anchor tag p
    | .blockMappingStart =>
      if block then mapping anchor tag p.advance (blockPairs fuel) else emptyScalar anchor tag p
    | _ => emptyScalar anchor tag p

/-- Builds a node unless one of the given tokens shows that it is missing. -/
def nodeUnless : Nat → List Token → Bool → Bool → Composer → Except Error (Place × Composer)
  | 0, _, _, _, _ => .error .markup
  | fuel + 1, ts, block, indentless, p => do
    if ← p.isAt ts then return p.add .empty else node fuel block indentless p

def blockEntries : Nat → Composer → Except Error (List Place × Composer)
  | 0, _ => .error .markup
  | fuel + 1, p => do
    if ← p.isAt [.blockEntry] then
      let (n, p) ← nodeUnless fuel [.blockEntry, .blockEnd] true false p.advance
      let (more, p) ← blockEntries fuel p
      return (n :: more, p)
    else return ([], ← p.take .blockEnd)

def indentlessEntries : Nat → Composer → Except Error (List Place × Composer)
  | 0, _ => .error .markup
  | fuel + 1, p => do
    if ← p.isAt [.blockEntry] then
      let (n, p) ← nodeUnless fuel [.blockEntry, .key, .value, .blockEnd] true false p.advance
      let (more, p) ← indentlessEntries fuel p
      return (n :: more, p)
    else return ([], p)

/-- The value after a key of a block mapping. -/
def blockValue : Nat → Composer → Except Error (Place × Composer)
  | 0, _ => .error .markup
  | fuel + 1, p => do
    if ← p.isAt [.value] then nodeUnless fuel [.key, .value, .blockEnd] true true p.advance
    else return p.add .empty

/-- The entries of a block mapping. -/
def blockPairs : Nat → Composer → Except Error (List (Place × Place) × Composer)
  | 0, _ => .error .markup
  | fuel + 1, p => do
    if ← p.isAt [.key] then
      let (k, p) ← nodeUnless fuel [.key, .value, .blockEnd] true true p.advance
      let (v, p) ← blockValue fuel p
      let (more, p) ← blockPairs fuel p
      return ((k, v) :: more, p)
    else return ([], ← p.take .blockEnd)

/-- A key in brackets that end with the given token, and its value if there is one. -/
def flowPair : Nat → Token → Composer → Except Error ((Place × Place) × Composer)
  | 0, _, _ => .error .markup
  | fuel + 1, close, p => do
    let (k, p) ← nodeUnless fuel [.value, .flowEntry, close] false false p
    let (v, p) ←
      if ← p.isAt [.value] then nodeUnless fuel [.flowEntry, close] false false p.advance
      else pure (p.add .empty)
    return ((k, v), p)

/-- The items of a sequence in brackets; `first` says that no comma has to stand before the next. -/
def flowItems : Nat → Bool → Composer → Except Error (List Place × Composer)
  | 0, _, _ => .error .markup
  | fuel + 1, first, p => do
    if ← p.isAt [.flowSequenceEnd] then return ([], p.advance)
    let p ← if first then pure p else p.take .flowEntry
    if ← p.isAt [.flowSequenceEnd] then return ([], p.advance)
    let (n, p) ←
      if ← p.isAt [.key] then
        mapping none none p.advance fun p => do
          let (pair, p) ← flowPair fuel .flowSequenceEnd p
          return ([pair], p)
      else node fuel false false p
    let (more, p) ← flowItems fuel false p
    return (n :: more, p)

/-- The entries of a mapping in braces; `first` says that no comma has to stand before the next. -/
def flowEntries : Nat → Bool → Composer → Except Error (List (Place × Place) × Composer)
  | 0, _, _ => .error .markup
  | fuel + 1, first, p => do
    if ← p.isAt [.flowMappingEnd] then return ([], p.advance)
    let p ← if first then pure p else p.take .flowEntry
    if ← p.isAt [.flowMappingEnd] then return ([], p.advance)
    let (pair, p) ←
      if ← p.isAt [.key] then flowPair fuel .flowMappingEnd p.advance
      else do
        let (k, p) ← node fuel false false p
        let (v, p) := p.add .empty
        pure ((k, v), p)
    let (more, p) ← flowEntries fuel false p
    return (pair :: more, p)

end

/-- A bound on the number of steps for the tokens that are left. -/
def bound (p : Composer) : Nat := 3 * p.tokens.length + 3

/-- Reads directives; `version` says whether one has given the version. -/
def directives : Nat → Bool → List (String × String) → Composer →
    Except Error (List (String × String) × Composer)
  | 0, _, _, _ => .error .markup
  | fuel + 1, version, handles, p => do
    match ← p.peek with
    | .directive (.version major) =>
      if version || major ≠ 1 then throw .markup
      directives fuel true handles p.advance
    | .directive (.tag handle beginning) =>
      if (handles.lookup handle).isSome then throw .markup
      directives fuel version ((handle, beginning) :: handles) p.advance
    | .directive .other => directives fuel version handles p.advance
    | _ => return (handles, p)

/-- Reads the directives and the mark that introduce a document. -/
def introduction (p : Composer) : Except Error Composer := do
  let (handles, p) ← directives p.bound false [] p
  let p ← p.take .documentStart
  return { p with handles := handles ++ defaultHandles }

/-- Builds a document that a mark introduces. -/
def markedDocument (p : Composer) : Except Error (Option Place × Composer) := do
  if ← p.isAt [.streamEnd] then return (none, p)
  let p ← p.introduction
  match ← p.peek with
  | .directive _ | .documentStart | .documentEnd | .streamEnd =>
    let (n, p) := p.add .empty
    return (some n, p)
  | _ => (node p.bound true false p).map fun (n, p) => (some n, p)

/-- Builds the first document. -/
def document (p : Composer) : Except Error (Option Place × Composer) := do
  match ← p.peek with
  | .directive _ | .documentStart | .streamEnd => p.markedDocument
  | _ => (node p.bound true false p).map fun (n, p) => (some n, p)

/-- Fails unless nothing but marks that end documents is left. A further document is refused once
its introduction has been read. -/
def finish (p : Composer) : Except Error Unit := do
  let p := { p with tokens := p.tokens.dropWhile (· == Token.documentEnd) }
  if !(← p.isAt [.streamEnd]) then
    let _ ← p.introduction
    throw .markup

end Composer

/-- The document that a text holds, if it holds one: the nodes and the place of the outermost one.
-/
def Graph.ofText? (text : List Char) : Except Error (Option (Place × Graph)) := do
  if !text.all isAllowed then throw .markup
  let (tokens, failure) := Lexer.tokens text
  let (root, p) ← (Composer.mk tokens failure Composer.defaultHandles [] .empty).document
  p.finish
  return root.map fun place => (place, p.graph)

end StubGen.Yaml
