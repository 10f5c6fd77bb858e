import StubGen.Text.Hex
import StubGen.Text.Printable
import StubGen.Text.Raw

/-!
# Quoted text

`quoted t` shows a text between quotes in error messages. The quote is `'`, or `"` when the text
holds `'` and no `"`. The quote in use, the backslash, unprintable characters and halves of pairs
are escaped.
-/

namespace StubGen.Text

def escaped (quote c : Char) : List Char :=
  if c = quote ∨ c = '\\' then ['\\', c]
  else if c = '\n' then ['\\', 'n']
  else if c = '\r' then ['\\', 'r']
  else if c = '\t' then ['\\', 't']
  else if isPrintable c then [c]
  else if c.toNat < 0x100 then '\\' :: 'x' :: hex 2 c.toNat
  else if c.toNat < 0x10000 then '\\' :: 'u' :: hex 4 c.toNat
  else '\\' :: 'U' :: hex 8 c.toNat

def unitEscape (n : Nat) : List Char := '\\' :: 'u' :: hex 4 n

end StubGen.Text

namespace StubGen.RawText

def quote (t : RawText) : Char := if t.contains '\'' && !t.contains '"' then '"' else '\''

def escaped (quote : Char) : RawText → List Char
  | whole s => s.toList.flatMap (Text.escaped quote)
  | broken before h rest =>
    before.toList.flatMap (Text.escaped quote) ++ Text.unitEscape h.code ++ rest.escaped quote

def quoted (t : RawText) : String := String.ofList (t.quote :: (t.escaped t.quote ++ [t.quote]))

end StubGen.RawText

namespace StubGen.Text

def quoted (s : String) : String := RawText.quoted s

end StubGen.Text
