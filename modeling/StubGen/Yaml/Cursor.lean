/-!
# Positions in a YAML text

A cursor is what is still to be read, with the column of its first character and the number of lines
and characters before it. Past the end a cursor shows the character NUL, which no YAML text holds.
-/

namespace StubGen.Yaml

def endMark : Char := '\x00'

def isBreak (c : Char) : Bool :=
  c == '\n' || c == '\r' || c == '\x85' || c == '\u2028' || c == '\u2029'

/-- A line break, or the end of the text. -/
def endsLine (c : Char) : Bool := c == endMark || isBreak c

/-- A space, a line break, or the end of the text. -/
def endsWord (c : Char) : Bool := c == ' ' || endsLine c

/-- A space or a tab, a line break, or the end of the text. -/
def isGap (c : Char) : Bool := c == '\t' || endsWord c

/-- A character that a YAML text may hold. -/
def isAllowed (c : Char) : Bool :=
  c == '\t' || c == '\n' || c == '\r' || (0x20 ≤ c.toNat && c.toNat ≤ 0x7e) || c == '\x85' ||
    (0xa0 ≤ c.toNat && c.toNat ≤ 0xfffd) || 0x10000 ≤ c.toNat

/-- The mark that may stand at the start of a text. -/
def byteOrderMark : Char := '\uFEFF'

/-- A position in a text. -/
structure Cursor where
  rest : List Char
  index : Nat
  line : Nat
  column : Nat
  deriving Repr, Inhabited

namespace Cursor

def start (text : List Char) : Cursor := ⟨text, 0, 0, 0⟩

/-- The character `k` places ahead. -/
def peek (c : Cursor) (k : Nat) : Char := (c.rest.drop k).headD endMark

def char (c : Cursor) : Char := c.rest.headD endMark

/-- The position after the next character; the break between a carriage return and a line feed is
after the line feed. -/
def next (c : Cursor) : Cursor :=
  match c.rest with
  | [] => c
  | ch :: rest =>
    if isBreak ch && !(ch == '\r' && rest.head? == some '\n') then
      ⟨rest, c.index + 1, c.line + 1, 0⟩
    else if ch == byteOrderMark then ⟨rest, c.index + 1, c.line, c.column⟩
    else ⟨rest, c.index + 1, c.line, c.column + 1⟩

/-- The position `n` characters on. -/
def skip (c : Cursor) : Nat → Cursor
  | 0 => c
  | n + 1 => c.next.skip n

/-- The longest run of characters that satisfy `p`, and the position after it. -/
def run (c : Cursor) (p : Char → Bool) : List Char × Cursor :=
  let found := c.rest.takeWhile p
  (found, c.skip found.length)

/-- The position after the longest run of characters that satisfy `p`. -/
def pass (c : Cursor) (p : Char → Bool) : Cursor := (c.run p).2

/-- The line break at the cursor, if there is one: the common ones all count as a line feed. -/
def lineBreak? (c : Cursor) : Option (Char × Cursor) :=
  if c.char == '\u2028' || c.char == '\u2029' then some (c.char, c.next)
  else if isBreak c.char then
    if c.char == '\r' && c.peek 1 == '\n' then some ('\n', c.skip 2) else some ('\n', c.next)
  else none

/-- Whether three marks stand at the cursor with a gap behind them. -/
def atMarks (c : Cursor) (mark : Char) : Bool :=
  c.char == mark && c.peek 1 == mark && c.peek 2 == mark && isGap (c.peek 3)

/-- Whether a document starts or ends at the cursor, apart from the column. -/
def atDocumentMarks (c : Cursor) : Bool := c.atMarks '-' || c.atMarks '.'

end Cursor

end StubGen.Yaml
