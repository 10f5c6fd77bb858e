import StubGen.Json.Basic
import StubGen.Number.Shortest
import StubGen.Text.Block
import StubGen.Text.Quoted

/-!
# Writing JSON text

`compact` writes a value on one line; `pretty` puts each item and field on a line of its own, two
spaces further in than its container. Strings are written in ASCII; characters beyond the basic
plane become surrogate pairs. Bytes have no form of their own and are written as `null`.
-/

namespace StubGen.Json

def charText (c : Char) : List Char :=
  if c = '"' ∨ c = '\\' then ['\\', c]
  else if c = '\n' then ['\\', 'n']
  else if c = '\r' then ['\\', 'r']
  else if c = '\t' then ['\\', 't']
  else if c = '\x08' then ['\\', 'b']
  else if c = '\x0c' then ['\\', 'f']
  else if 0x20 ≤ c.toNat ∧ c.toNat < 0x7f then [c]
  else if c.toNat < 0x10000 then Text.unitEscape c.toNat
  else
    let (high, low) := Text.halves c
    Text.unitEscape high ++ Text.unitEscape low

/-- What stands between the quotes of a string. -/
def charsText : RawText → List Char
  | .whole s => s.toList.flatMap charText
  | .broken before h rest =>
    before.toList.flatMap charText ++ Text.unitEscape h.code ++ charsText rest

/-- A string between double quotes. -/
def stringText (t : RawText) : String := String.ofList ('"' :: (charsText t ++ ['"']))

/-- The names of the numbers that JSON itself does not have. -/
def specialNames : Binary64.SpecialNames := ⟨"Infinity", "NaN"⟩

def atomText : Json → String
  | null => "null"
  | bool b => if b then "true" else "false"
  | int n => toString n
  | real x => x.text specialNames
  | str t => stringText t
  | bytes _ => "null"
  | arr _ => "[]"
  | obj _ => "\x7b\x7d"

mutual

def compact : Json → String
  | arr items => "[" ++ Text.joined "," (compactItems items) ++ "]"
  | obj fields => "\x7b" ++ Text.joined "," (compactFields fields) ++ "\x7d"
  | atom => atomText atom

def compactItems : List Json → List String
  | [] => []
  | j :: rest => compact j :: compactItems rest

def compactFields : Fields → List String
  | [] => []
  | (name, value) :: rest => (stringText name ++ ":" ++ compact value) :: compactFields rest

end

/-- A line break and the indentation of a level. -/
def newline (level : Nat) : String := String.ofList ('\n' :: List.replicate (2 * level) ' ')

def enclosed (level : Nat) (opening closing : String) (lines : List String) : String :=
  opening ++ newline (level + 1) ++ Text.joined ("," ++ newline (level + 1)) lines
    ++ newline level ++ closing

mutual

/-- A value over several lines, its first line at the given level. -/
def prettyAt (level : Nat) : Json → String
  | arr [] => "[]"
  | arr items => enclosed level "[" "]" (prettyItems (level + 1) items)
  | obj [] => "\x7b\x7d"
  | obj fields => enclosed level "\x7b" "\x7d" (prettyFields (level + 1) fields)
  | atom => atomText atom

def prettyItems (level : Nat) : List Json → List String
  | [] => []
  | j :: rest => prettyAt level j :: prettyItems level rest

def prettyFields (level : Nat) : Fields → List String
  | [] => []
  | (name, value) :: rest =>
    (stringText name ++ ": " ++ prettyAt level value) :: prettyFields level rest

end

/-- A value over several lines. -/
def pretty (j : Json) : String := prettyAt 0 j

end StubGen.Json
