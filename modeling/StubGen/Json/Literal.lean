import StubGen.Json.Printer
import StubGen.Text.Quoted

/-!
# Values in messages

A message shows a value the way a script would write it: `None`, `True`, quoted strings, lists in
square brackets. `label` is the same except that a string stands alone, without quotes.
-/

namespace StubGen.Json

def escapedByte (quote : UInt8) (b : UInt8) : List Char :=
  if b == quote || b == 92 then ['\\', Char.ofNat b.toNat]
  else if b == 10 then ['\\', 'n']
  else if b == 13 then ['\\', 'r']
  else if b == 9 then ['\\', 't']
  else if 32 ≤ b && b < 127 then [Char.ofNat b.toNat]
  else '\\' :: 'x' :: Text.hex 2 b.toNat

def bytesLiteral (content : List UInt8) : String :=
  let quote : UInt8 := if content.contains 39 && !content.contains 34 then 34 else 39
  let mark := Char.ofNat quote.toNat
  String.ofList ('b' :: mark :: (content.flatMap (escapedByte quote) ++ [mark]))

mutual

def literal : Json → String
  | null => "None"
  | bool b => if b then "True" else "False"
  | int n => toString n
  | real x => x.text .plain
  | str t => t.quoted
  | bytes content => bytesLiteral content
  | arr items => "[" ++ Text.joined ", " (literalItems items) ++ "]"
  | obj fields => "\x7b" ++ Text.joined ", " (literalFields fields) ++ "\x7d"

def literalItems : List Json → List String
  | [] => []
  | j :: rest => literal j :: literalItems rest

def literalFields : Fields → List String
  | [] => []
  | (name, value) :: rest => (name.quoted ++ ": " ++ literal value) :: literalFields rest

end

/-- A value as a literal, a string without its quotes. -/
def label : Json → RawText
  | str t => t
  | j => literal j

end StubGen.Json
