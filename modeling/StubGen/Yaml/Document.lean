import StubGen.Yaml.Data

/-!
# YAML documents

A document holds a value and the collections that it refers to. A collection may hold itself:
`Document.label` shows a document in a message, with a mark where a collection stands inside itself,
and `Document.toJson` follows it only as deep as asked for.
-/

namespace StubGen.Yaml

/-- A value, with collections by place. -/
structure Document where
  root : Data
  collections : Array Collection
  deriving DecidableEq, Repr, Inhabited

namespace Document

def empty : Document := ⟨.null, #[]⟩

def collection (d : Document) (p : Place) : Collection := d.collections.getD p (.list [])

def entries? (d : Document) : Data → Option (List (Data × Data))
  | .collection p =>
    match d.collection p with
    | .map entries => some entries
    | _ => none
  | _ => none

def get? (d : Document) (mapping : Data) (name : String) : Option Data := do
  let entries ← d.entries? mapping
  (entries.find? fun (k, _) => k = .str name).map Prod.snd

/-- Assigns a value to a key of the outermost mapping. -/
def assign (d : Document) (name : String) (value : Data) : Document :=
  match d.root, d.entries? d.root with
  | .collection p, some entries =>
    { d with collections :=
        d.collections.setIfInBounds p (.map (Data.assign (.str name) value entries)) }
  | _, _ => d

/-- A value inside the collections at the places of a path, as a literal; `fuel` bounds the number
of collections around it. -/
def literalIn (d : Document) : Nat → List Place → Data → String
  | fuel + 1, path, .collection p =>
    let c := d.collection p
    if path.contains p then c.cycleMark else c.literal (d.literalIn fuel (p :: path))
  | _, _, v => v.literal

def literal (d : Document) (v : Data) : String := d.literalIn (d.collections.size + 1) [] v

/-- A value as it is shown: texts and times stand as they are, all else as a literal. -/
def label (d : Document) : Data → RawText
  | .str t => t
  | .time t => t.text
  | v => d.literal v

/-- A value as a schema sees it that looks at collections up to a depth. What JSON does not have
counts as null. -/
def toJson (d : Document) : Nat → Data → Json
  | depth, v =>
    match v with
    | .null | .time _ => .null
    | .bool b => .bool b
    | .int n => .int n
    | .real x => .real x
    | .noNumber _ => .real .nan
    | .str t => .str t
    | .bytes content => .bytes content
    | .collection p =>
      match depth with
      | 0 => .null
      | depth + 1 => (d.collection p).toJson (d.toJson depth)

end Document

end StubGen.Yaml
