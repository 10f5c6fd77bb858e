import StubGen.Number.Binary64
import StubGen.Text.Raw

/-!
# JSON values

Values as a decoder delivers them: integers of any size apart from the other numbers, and objects
whose fields keep the order of their first occurrence.
-/

namespace StubGen

inductive Json where
  | null
  | bool (b : Bool)
  | int (n : Int)
  | real (x : Binary64)
  | str (t : RawText)
  /-- Bytes, which no JSON text can spell but a document of another kind may hold. -/
  | bytes (content : List UInt8)
  | arr (items : List Json)
  | obj (fields : List (RawText × Json))
  deriving Repr, Inhabited, BEq

namespace Json

/-- The fields of an object, in order. -/
abbrev Fields := List (RawText × Json)

/-- Assigns a field: in its place if the name is there, else at the end. -/
def assign (name : RawText) (value : Json) : Fields → Fields
  | [] => [(name, value)]
  | (n, v) :: rest => if n = name then (n, value) :: rest else (n, v) :: assign name value rest

/-- The fields that remain when later values replace earlier ones of the same name. -/
def dedup (fields : Fields) : Fields := fields.foldl (fun done (n, v) => assign n v done) []

def lookup (name : RawText) : Fields → Option Json
  | [] => none
  | (n, v) :: rest => if n = name then some v else lookup name rest

def field? (name : String) : Json → Option Json
  | obj fields => lookup name fields
  | _ => none

/-- The text of a string value in which no half of a pair stands alone. -/
def asString? : Json → Option String
  | str t => t.toString?
  | _ => none

def strings (items : List String) : Json := arr (items.map fun (s : String) => str s)

/-- An optional value, `null` if absent. -/
def ofOption : Option Json → Json
  | some j => j
  | none => null

end Json

end StubGen
