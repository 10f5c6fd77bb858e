import StubGen.Yaml.Scalar

/-!
# Cutting a YAML text into tokens

In block style the indentation of a line opens and closes collections. A scalar, an alias, or a
collection in brackets may turn out to be a key when a colon follows on the same line; the token
that says so is then put in front of it. Such a pending key is kept for each level of brackets. An
error hides the tokens before it from the first pending key on.
-/

namespace StubGen.Yaml

/-- Something that becomes a key if a colon follows. -/
structure PendingKey where
  level : Nat
  before : Nat
  /-- Whether it has to become a key, as everything at the indentation of a block mapping. -/
  required : Bool
  index : Nat
  line : Nat
  column : Nat
  deriving Repr, Inhabited

structure Lexer where
  cursor : Cursor
  level : Nat
  /-- The column of the innermost block collection. -/
  indent : Int
  /-- The columns of the collections around it. -/
  outer : List Int
  mayStartKey : Bool
  pending : List PendingKey
  /-- The tokens, the last one first. -/
  emitted : List Token
  count : Nat
  finished : Bool
  deriving Repr, Inhabited

namespace Lexer

def start (text : List Char) : Lexer := ⟨.start text, 0, -1, [], true, [], [], 0, false⟩

/-- Whether the lexer is inside brackets. -/
def inFlow (l : Lexer) : Bool := l.level != 0

def emit (l : Lexer) (t : Token) : Lexer :=
  { l with emitted := t :: l.emitted, count := l.count + 1 }

/-- Puts a token behind the first `before` tokens. -/
def insert (l : Lexer) (before : Nat) (t : Token) : Lexer :=
  let later := l.count - before
  { l with
    emitted := l.emitted.take later ++ t :: l.emitted.drop later
    count := l.count + 1 }

def pendingHere? (l : Lexer) : Option PendingKey := l.pending.find? fun k => k.level == l.level

/-- Forgets the pending key at the level of the lexer. -/
def forgetPending (l : Lexer) : Lexer :=
  { l with pending := l.pending.filter fun k => k.level != l.level }

/-- Gives up the pending key at the level of the lexer; a required one must not be given up. -/
def dropPending (l : Lexer) : Except Error Lexer :=
  match l.pendingHere? with
  | some k => if k.required then .error .markup else .ok l.forgetPending
  | none => .ok l

/-- Whether a key can no longer follow: the line has ended, or it is too far away. -/
def isStale (l : Lexer) (k : PendingKey) : Bool :=
  k.line != l.cursor.line || 1024 < l.cursor.index - k.index

/-- Gives up the keys that can no longer follow. -/
def dropStale (l : Lexer) : Except Error Lexer :=
  if l.pending.any fun k => l.isStale k && k.required then .error .markup
  else .ok { l with pending := l.pending.filter fun k => !l.isStale k }

/-- Notes that what starts here may be a key. -/
def notePending (l : Lexer) : Except Error Lexer := do
  if l.mayStartKey then
    let l ← l.dropPending
    let c := l.cursor
    let required := !l.inFlow && l.indent == c.column
    let key := ⟨l.level, l.count, required, c.index, c.line, c.column⟩
    return { l with pending := key :: l.pending }
  else return l

/-- Closes the block collections that are indented deeper than a column. -/
def closeDeeper (column : Int) : Nat → Lexer → Lexer
  | 0, l => l
  | fuel + 1, l =>
    if l.indent > column then
      match l.outer with
      | [] => { l with indent := -1 }
      | i :: outer =>
        closeDeeper column fuel ({ l with indent := i, outer := outer }.emit .blockEnd)
    else l

/-- Closes the block collections that end before a column; brackets keep them open. -/
def unwind (l : Lexer) (column : Int) : Lexer :=
  if l.inFlow then l else l.closeDeeper column (l.outer.length + 1)

/-- Opens a block collection at a column, unless one is open there. -/
def openBlock? (l : Lexer) (column : Nat) : Option Lexer :=
  if l.indent < column then some { l with indent := column, outer := l.indent :: l.outer } else none

/-- Passes blanks, comments and line breaks. `fuel` bounds the number of lines. -/
def toNextToken : Nat → Lexer → Lexer
  | 0, l => l
  | fuel + 1, l =>
    let c := l.cursor.pass (· == ' ')
    let c := if c.char == '#' then c.pass (!endsLine ·) else c
    match c.lineBreak? with
    | some (_, c) =>
      toNextToken fuel { l with cursor := c, mayStartKey := l.mayStartKey || !l.inFlow }
    | none => { l with cursor := c }

/-- The lexer at another position, after a token there. -/
def move (l : Lexer) (c : Cursor) (t : Token) : Lexer := { l with cursor := c }.emit t

/-- Forbids or allows a key at the next token. -/
def allowKey (l : Lexer) (allowed : Bool) : Lexer := { l with mayStartKey := allowed }

/-- A token that is read at the cursor and may turn out to be a key. -/
def atom (l : Lexer) (read : Cursor → Except Error (Token × Cursor)) : Except Error Lexer := do
  let l ← l.notePending
  let (t, c) ← read l.cursor
  return (l.allowKey false).move c t

def atEnd (l : Lexer) : Except Error Lexer := do
  let l ← (l.unwind (-1)).dropPending
  return { (l.emit .streamEnd) with pending := [], finished := true }

/-- A token on a line that is not part of any document content. -/
def betweenDocuments (l : Lexer) (read : Cursor → Except Error (Token × Cursor)) :
    Except Error Lexer := do
  let l ← (l.unwind (-1)).dropPending
  let (t, c) ← read l.cursor
  return (l.allowKey false).move c t

def openBracket (l : Lexer) (t : Token) : Except Error Lexer := do
  let l ← l.notePending
  return ({ l with level := l.level + 1 }.allowKey true).move l.cursor.next t

def closeBracket (l : Lexer) (t : Token) : Except Error Lexer := do
  let l ← l.dropPending
  return ({ l with level := l.level - 1 }.allowKey false).move l.cursor.next t

/-- Where a block collection may start, opens one at the column of the cursor with the given token.
-/
def openHere (l : Lexer) (t : Token) : Except Error Lexer :=
  if l.inFlow then .ok l
  else if l.mayStartKey then
    match l.openBlock? l.cursor.column with
    | some l => .ok (l.emit t)
    | none => .ok l
  else .error .markup

/-- The sign of an entry of a block sequence. -/
def blockEntry (l : Lexer) : Except Error Lexer := do
  let l ← l.openHere .blockSequenceStart
  let l ← (l.allowKey true).dropPending
  return l.move l.cursor.next .blockEntry

def explicitKey (l : Lexer) : Except Error Lexer := do
  let l ← l.openHere .blockMappingStart
  let l ← (l.allowKey (!l.inFlow)).dropPending
  return l.move l.cursor.next .key

/-- A colon: what is pending becomes a key. -/
def colon (l : Lexer) : Except Error Lexer := do
  match l.pendingHere? with
  | some k =>
    let l := l.forgetPending.insert k.before .key
    let l := if l.inFlow then l
      else match l.openBlock? k.column with
        | some l => l.insert k.before .blockMappingStart
        | none => l
    return (l.allowKey false).move l.cursor.next .value
  | none =>
    let l ← l.openHere .blockMappingStart
    let l ← (l.allowKey (!l.inFlow)).dropPending
    return l.move l.cursor.next .value

def blockText (l : Lexer) (fold : Bool) : Except Error Lexer := do
  let l ← (l.allowKey true).dropPending
  let (t, c) ← l.cursor.next.blockScalar fold l.indent
  return l.move c t

def plain (l : Lexer) : Except Error Lexer := do
  let l ← l.notePending
  let (t, c, crossed) := l.cursor.plainScalar l.inFlow (l.indent + 1)
  return (l.allowKey crossed).move c t

/-- Whether a plain scalar starts at the cursor. -/
def startsPlain (l : Lexer) : Bool :=
  let ch := l.cursor.char
  !(isGap ch || "-?:,[]\x7b\x7d#&*!|>'\"%@`".toList.contains ch) ||
    (!isGap (l.cursor.peek 1) && (ch == '-' || (!l.inFlow && (ch == '?' || ch == ':'))))

/-- Reads the next token at a position where one starts. -/
def readToken (l : Lexer) : Except Error Lexer :=
  let c := l.cursor
  let ch := c.char
  let alone := isGap (c.peek 1)
  if ch == endMark then l.atEnd
  else if ch == '%' && c.column == 0 then l.betweenDocuments fun c => c.next.directive
  else if c.column == 0 && c.atMarks '-' then
    l.betweenDocuments fun c => .ok (.documentStart, c.skip 3)
  else if c.column == 0 && c.atMarks '.' then
    l.betweenDocuments fun c => .ok (.documentEnd, c.skip 3)
  else if ch == '[' then l.openBracket .flowSequenceStart
  else if ch == '\x7b' then l.openBracket .flowMappingStart
  else if ch == ']' then l.closeBracket .flowSequenceEnd
  else if ch == '\x7d' then l.closeBracket .flowMappingEnd
  else if ch == ',' then do
    let l ← (l.allowKey true).dropPending
    return l.move l.cursor.next .flowEntry
  else if ch == '-' && alone then l.blockEntry
  else if ch == '?' && (l.inFlow || alone) then l.explicitKey
  else if ch == ':' && (l.inFlow || alone) then l.colon
  else if ch == '*' then
    l.atom fun c => c.next.anchorName.map fun (name, d) => (.alias name, d)
  else if ch == '&' then
    l.atom fun c => c.next.anchorName.map fun (name, d) => (.anchor name, d)
  else if ch == '!' then l.atom Cursor.tag
  else if ch == '|' && !l.inFlow then l.blockText false
  else if ch == '>' && !l.inFlow then l.blockText true
  else if ch == '\'' || ch == '"' then l.atom Cursor.quotedScalar
  else if l.startsPlain then l.plain
  else .error .markup

/-- Moves on to the next token and reads it. -/
def step (l : Lexer) : Except Error Lexer := do
  let l ← (l.toNextToken (l.cursor.rest.length + 1)).dropStale
  (l.unwind l.cursor.column).readToken

/-- How many tokens are certain, because nothing can be put in front of them any more. -/
def settled (l : Lexer) : Nat :=
  (l.pending.filter fun k => !l.isStale k).foldl (fun n k => min n k.before) l.count

/-- Reads all tokens up to the end, or those that are certain before an error. -/
def runAll : Nat → Lexer → List Token × Error
  | 0, l => (l.emitted.reverse, .markup)
  | fuel + 1, l =>
    if l.finished then (l.emitted.reverse, .markup)
    else match l.step with
      | .ok l => runAll fuel l
      | .error e => (l.emitted.reverse.take l.settled, e)

/-- The tokens of a text, and the error behind them if the last one is not the end of the text. -/
def tokens (text : List Char) : List Token × Error :=
  let text := match text with
    | c :: rest => if c == byteOrderMark then rest else text
    | [] => []
  runAll (text.length + 2) (.start text)

end Lexer

end StubGen.Yaml
