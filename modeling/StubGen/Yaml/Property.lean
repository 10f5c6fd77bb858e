import StubGen.Text.Digit
import StubGen.Text.Utf8
import StubGen.Yaml.Cursor
import StubGen.Yaml.Error
import StubGen.Yaml.Token

/-!
# Directives, anchors and tags

What stands before a document or in front of a value.
-/

namespace StubGen.Yaml

/-- A character of a name: letters, digits, hyphen and underscore of ASCII. -/
def isNameChar (c : Char) : Bool := c.isAlphanum || c == '-' || c == '_'

def isTagChar (c : Char) : Bool := c.isAlphanum || "-;/?:@&=+$,_.!~*'()[]%".toList.contains c

namespace Cursor

/-- Fails unless the next character satisfies `p`. -/
def demand (c : Cursor) (p : Char → Bool) : Except Error Unit :=
  if p c.char then .ok () else .error .markup

/-- Passes a comment, if one starts here, and a line break. -/
def restOfLine (c : Cursor) : Except Error Cursor := do
  let c := c.pass (· == ' ')
  let c := if c.char == '#' then c.pass (!endsLine ·) else c
  c.demand endsLine
  return match c.lineBreak? with
    | some (_, c) => c
    | none => c

/-- Reads the name of an alias or an anchor. -/
def anchorName (c : Cursor) : Except Error (String × Cursor) := do
  let (name, c) := c.run isNameChar
  if name.isEmpty then throw .markup
  c.demand fun ch => isGap ch || "?:,]\x7d%@`".toList.contains ch
  return (String.ofList name, c)

/-- Reads percent escapes; `fuel` bounds their number. -/
def tagEscapes : Nat → Cursor → Except Error (List UInt8 × Cursor)
  | 0, c => .ok ([], c)
  | fuel + 1, c =>
    if c.char == '%' then
      match Text.ofHex? [c.peek 1, c.peek 2] with
      | some n =>
        (tagEscapes fuel (c.skip 3)).map fun (bytes, d) => (UInt8.ofNat n :: bytes, d)
      | none => .error .markup
    else .ok ([], c)

/-- Reads the characters of a tag; `fuel` bounds their number. -/
def tagChars : Nat → Cursor → Except Error (List Char × Cursor)
  | 0, c => .ok ([], c)
  | fuel + 1, c =>
    if c.char == '%' then do
      let (bytes, c) ← c.tagEscapes (fuel + 1)
      match Text.Utf8.decode bytes with
      | .ok text =>
        let (more, c) ← tagChars fuel c
        return (text.toList ++ more, c)
      | .error _ => throw .markup
    else if isTagChar c.char then
      (tagChars fuel c.next).map fun (more, d) => (c.char :: more, d)
    else .ok ([], c)

/-- Reads the rest of a tag after its handle. -/
def tagSuffix (c : Cursor) : Except Error (String × Cursor) := do
  if !isTagChar c.char then throw .markup
  let (text, c) ← c.tagChars c.rest.length
  return (String.ofList text, c)

/-- Reads a handle: an exclamation mark, alone or with a name and another one. -/
def tagHandle (c : Cursor) : Except Error (String × Cursor) := do
  c.demand (· == '!')
  let (name, d) := c.next.run isNameChar
  if d.char == '!' then return (String.ofList ('!' :: name ++ ['!']), d.next)
  else if name.isEmpty && d.char == ' ' then return ("!", d)
  else throw .markup

def tag (c : Cursor) : Except Error (Token × Cursor) := do
  let (token, d) ←
    if c.peek 1 == '<' then do
      let (suffix, d) ← (c.skip 2).tagSuffix
      d.demand (· == '>')
      pure (Token.tag none suffix, d.next)
    else if isGap (c.peek 1) then pure (Token.tag none "!", c.next)
    else if (c.next.rest.takeWhile (!endsWord ·)).contains '!' then do
      let (handle, d) ← c.tagHandle
      let (suffix, d) ← d.tagSuffix
      pure (Token.tag (some handle) suffix, d)
    else do
      let (suffix, d) ← c.next.tagSuffix
      pure (Token.tag (some "!") suffix, d)
  d.demand endsWord
  return (token, d)

def versionNumber (c : Cursor) : Except Error (Nat × Cursor) := do
  let (digits, d) := c.run Char.isDigit
  if digits.isEmpty then throw .markup
  if Text.maxIntegerDigits < digits.length then throw (.integerLength digits.length)
  return (Text.ofDecimal digits, d)

/-- Reads the rest of a directive of the given name. -/
def directiveValue (c : Cursor) (name : String) : Except Error (Directive × Cursor) := do
  if name = "YAML" then
    let (major, c) ← (c.pass (· == ' ')).versionNumber
    c.demand (· == '.')
    let (_, c) ← c.next.versionNumber
    c.demand endsWord
    return (.version major, c)
  else if name = "TAG" then
    let (handle, c) ← (c.pass (· == ' ')).tagHandle
    c.demand (· == ' ')
    let (beginning, c) ← (c.pass (· == ' ')).tagSuffix
    c.demand endsWord
    return (.tag handle beginning, c)
  else return (.other, c.pass (!endsLine ·))

/-- Reads a directive after its percent sign. -/
def directive (c : Cursor) : Except Error (Token × Cursor) := do
  let (name, c) := c.run isNameChar
  if name.isEmpty then throw .markup
  c.demand endsWord
  let (d, c) ← c.directiveValue (String.ofList name)
  return (.directive d, ← c.restOfLine)

end Cursor

end StubGen.Yaml
