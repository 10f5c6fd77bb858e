import StubGen.Json.Literal
import StubGen.Number.Arithmetic
import StubGen.Yaml.Node

/-!
# YAML values

A value is a scalar, or the place of a collection; `Data.isSame` says when two of them are the same
key.
-/

namespace StubGen.Yaml

inductive Data where
  | null
  | bool (b : Bool)
  | int (n : Int)
  | real (x : Binary64)
  /-- A value that is no number and the same as no other value, from the node at a place. -/
  | noNumber (p : Place)
  | str (t : RawText)
  | bytes (content : List UInt8)
  | time (t : Timestamp)
  | collection (p : Place)
  deriving DecidableEq, Repr, Inhabited

inductive Collection where
  | list (items : List Data)
  | pairs (entries : List (Data × Data))
  | set (items : List Data)
  | map (entries : List (Data × Data))
  deriving DecidableEq, Repr, Inhabited

namespace Data

/-- Truth values and whole numbers as integers, all else as it is. -/
def normal : Data → Data
  | bool b => int (if b then 1 else 0)
  | real x => (x.integer?.map int).getD (real x)
  | d => d

/-- Whether two values are the same: numbers of one value are, and so are times of one moment. -/
def isSame (a b : Data) : Bool :=
  match a, b with
  | time t, time u => t.isSame u
  | _, _ => a.normal = b.normal

/-- Assigns a value to a key: in its place if the key is there, else at the end. -/
def assign (key value : Data) : List (Data × Data) → List (Data × Data)
  | [] => [(key, value)]
  | (k, v) :: rest => if k.isSame key then (k, value) :: rest else (k, v) :: assign key value rest

/-- The entries of a mapping, in which later values replace earlier ones of the same key. -/
def entriesOf (entries : List (Data × Data)) : List (Data × Data) :=
  entries.foldl (fun done (k, v) => assign k v done) []

def isKey : Data → Bool
  | collection _ => false
  | _ => true

def literal : Data → String
  | null => "None"
  | bool b => if b then "True" else "False"
  | int n => toString n
  | real x => x.text .plain
  | noNumber _ => Binary64.nan.text .plain
  | str t => t.quoted
  | bytes content => Json.bytesLiteral content
  | time t => t.literal
  | collection _ => ""

end Data

namespace Collection

/-- What stands for a collection inside itself. -/
def cycleMark : Collection → String
  | list _ | pairs _ => "[...]"
  | set _ | map _ => "\x7b...\x7d"

/-- A collection as a literal, for a function that gives those of the parts. -/
def literal (part : Data → String) : Collection → String
  | list items => "[" ++ Text.joined ", " (items.map part) ++ "]"
  | pairs entries =>
    "[" ++ Text.joined ", " (entries.map fun (k, v) => "(" ++ part k ++ ", " ++ part v ++ ")")
      ++ "]"
  | set [] => "set()"
  | set items => "\x7b" ++ Text.joined ", " (items.map part) ++ "\x7d"
  | map entries =>
    "\x7b" ++ Text.joined ", " (entries.map fun (k, v) => part k ++ ": " ++ part v) ++ "\x7d"

/-- A collection as a schema sees it, for a function that gives its view of the parts: sets and
pairs count as lists, and only texts are names of fields. -/
def toJson (part : Data → Json) : Collection → Json
  | list items | set items => .arr (items.map part)
  | pairs entries => .arr (entries.map fun (k, v) => .arr [part k, part v])
  | map entries =>
    .obj (entries.filterMap fun
      | (.str name, v) => some (name, part v)
      | _ => none)

end Collection

end StubGen.Yaml
