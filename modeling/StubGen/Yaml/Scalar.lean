import StubGen.Text.Raw
import StubGen.Yaml.Property

/-!
# Texts of scalars

The text of a scalar is read in one of four styles: in single or double quotes, as a block whose
lines are kept or folded, or plain. Line breaks inside quoted and plain texts are folded: a single
one becomes a space, and of several all but the first are kept.
-/

namespace StubGen.Yaml

/-- What a run of blanks with the line breaks in it becomes. -/
def folded (lineBreak : Char) (breaks : List Char) : List Char :=
  (if lineBreak != '\n' then [lineBreak] else if breaks.isEmpty then [' '] else []) ++ breaks

def escapes : List (Char × Char) :=
  [('0', '\x00'), ('a', '\x07'), ('b', '\x08'), ('t', '\t'), ('\t', '\t'), ('n', '\n'),
   ('v', '\x0b'), ('f', '\x0c'), ('r', '\r'), ('e', '\x1b'), (' ', ' '), ('"', '"'), ('\\', '\\'),
   ('/', '/'), ('N', '\x85'), ('_', '\u00a0'), ('L', '\u2028'), ('P', '\u2029')]

/-- How many digits follow the letter of a numeric escape. -/
def escapeWidth? (c : Char) : Option Nat := [('x', 2), ('u', 4), ('U', 8)].lookup c

def ofCode (n : Nat) : Except Error CodePoint :=
  if Nat.pow 2 31 ≤ n then .error .characterWidth
  else match CodePoint.ofNat? n with
    | some p => .ok p
    | none => .error .character

namespace Cursor

/-- The line breaks up to the next text of a quoted scalar, and the position of that text; a
document mark may not stand at the start of a line. `fuel` bounds the number of lines. -/
def quotedBreaks : Nat → Cursor → Except Error (List Char × Cursor)
  | 0, c => .ok ([], c)
  | fuel + 1, c =>
    if c.atDocumentMarks then .error .markup
    else
      let c := c.pass fun ch => ch == ' ' || ch == '\t'
      match c.lineBreak? with
      | some (b, c) => (quotedBreaks fuel c).map fun (more, d) => (b :: more, d)
      | none => .ok ([], c)

/-- Reads an escape after its backslash. -/
def escape (c : Cursor) : Except Error (List CodePoint × Cursor) :=
  match escapes.lookup c.char, escapeWidth? c.char with
  | some ch, _ => .ok ([.char ch], c.next)
  | none, some width =>
    let digits := c.next.rest.take width
    match digits.length == width, Text.ofHex? digits with
    | true, some code => (ofCode code).map fun p => ([p], c.next.skip width)
    | _, _ => .error .markup
  | none, none =>
    match c.lineBreak? with
    | some (_, c) =>
      (c.quotedBreaks (c.rest.length + 1)).map fun (breaks, d) => (breaks.map .char, d)
    | none => .error .markup

/-- Reads what stands between quotes, up to the closing one; `fuel` bounds the number of characters.
-/
def quotedText (double : Bool) : Nat → Cursor → Except Error (List CodePoint × Cursor)
  | 0, _ => .error .markup
  | fuel + 1, c =>
    let ch := c.char
    if !double && ch == '\'' && c.peek 1 == '\'' then
      (quotedText double fuel (c.skip 2)).map fun (more, d) => (.char '\'' :: more, d)
    else if ch == (if double then '"' else '\'') then .ok ([], c)
    else if double && ch == '\\' then do
      let (text, c) ← c.next.escape
      let (more, c) ← quotedText double fuel c
      return (text ++ more, c)
    else if isGap ch then
      let (blanks, c) := c.run fun ch => ch == ' ' || ch == '\t'
      if c.char == endMark then .error .markup
      else match c.lineBreak? with
        | some (b, c) => do
          let (breaks, c) ← c.quotedBreaks (c.rest.length + 1)
          let (more, c) ← quotedText double fuel c
          return ((folded b breaks).map .char ++ more, c)
        | none => (quotedText double fuel c).map fun (more, d) => (blanks.map .char ++ more, d)
    else (quotedText double fuel c.next).map fun (more, d) => (.char ch :: more, d)

def quotedScalar (c : Cursor) : Except Error (Token × Cursor) := do
  let double := c.char == '"'
  let (text, d) ← c.next.quotedText double (c.rest.length + 1)
  return (.scalar (.ofPoints text) false, d.next)

/-- The line breaks before the next line of a block, and the position in that line after at most
`indent` spaces. `fuel` bounds the number of lines. -/
def blockBreaks (indent : Nat) : Nat → Cursor → List Char × Cursor
  | 0, c => ([], c)
  | fuel + 1, c =>
    let spaces := (c.rest.takeWhile (· == ' ')).length
    let c := c.skip (min spaces (indent - c.column))
    match c.lineBreak? with
    | some (b, c) =>
      let (more, d) := blockBreaks indent fuel c
      (b :: more, d)
    | none => ([], c)

/-- The line breaks before the first line of a block, the position after them, and the largest
number of spaces on the way. `fuel` bounds the number of characters. -/
def blockIndentation : Nat → Nat → Cursor → List Char × Cursor × Nat
  | 0, widest, c => ([], c, widest)
  | fuel + 1, widest, c =>
    if c.char == ' ' then blockIndentation fuel (max widest c.next.column) c.next
    else match c.lineBreak? with
      | some (b, d) =>
        let (more, rest) := blockIndentation fuel widest d
        (b :: more, rest)
      | none => ([], c, widest)

/-- The lines of a block from a position at its indentation on; `breaks` are the line breaks before.
The results are the text, the last line break, and the line breaks after it. -/
def blockLines (fold : Bool) (indent : Nat) :
    Nat → List Char → Cursor → (List Char × List Char × List Char) × Cursor
  | 0, breaks, c => (([], [], breaks), c)
  | fuel + 1, breaks, c =>
    if c.column = indent ∧ c.char ≠ endMark then
      let opensWithBlank := c.char == ' ' || c.char == '\t'
      let (line, c) := c.run (!endsLine ·)
      let (lineBreak, c) := match c.lineBreak? with
        | some (b, d) => ([b], d)
        | none => ([], c)
      let (next, c) := c.blockBreaks indent (c.rest.length + 1)
      if c.column = indent ∧ c.char ≠ endMark then
        let glue :=
          if fold && lineBreak == ['\n'] && !opensWithBlank && c.char != ' ' && c.char != '\t' then
            if next.isEmpty then [' '] else []
          else lineBreak
        let ((text, last, after), c) := blockLines fold indent fuel next c
        ((breaks ++ line ++ glue ++ text, last, after), c)
      else ((breaks ++ line, lineBreak, next), c)
    else (([], [], breaks), c)

/-- What happens to the line breaks at the end of a block. -/
inductive Chomping where
  | clip | strip | keep
  deriving DecidableEq, Repr, Inhabited

/-- The end that a sign asks for. -/
def chomping? (c : Char) : Option Chomping :=
  if c == '+' then some .keep else if c == '-' then some .strip else none

/-- Reads the digit that gives the indentation of a block. -/
def blockDigit? (c : Cursor) : Except Error (Option Nat × Cursor) :=
  if c.char == '0' then .error .markup
  else if c.char.isDigit then .ok (some (c.char.toNat - 48), c.next)
  else .ok (none, c)

/-- Reads the sign and the digit of a block, in either order. -/
def blockHeader (c : Cursor) : Except Error ((Chomping × Option Nat) × Cursor) := do
  match chomping? c.char with
  | some ending =>
    let (digit, c) ← c.next.blockDigit?
    return ((ending, digit), c)
  | none =>
    match ← c.blockDigit? with
    | (some digit, c) =>
      match chomping? c.char with
      | some ending => return ((ending, some digit), c.next)
      | none => return ((.clip, some digit), c)
    | (none, c) => return ((.clip, none), c)

/-- Reads a block after its sign; `parent` is the indentation around it. -/
def blockScalar (c : Cursor) (fold : Bool) (parent : Int) : Except Error (Token × Cursor) := do
  let ((ending, digit), c) ← c.blockHeader
  c.demand endsWord
  let c ← c.restOfLine
  let least := (max (parent + 1) 1).toNat
  let fuel := c.rest.length + 1
  let (breaks, c, indent) := match digit with
    | some n =>
      let indent := least + n - 1
      let (breaks, c) := c.blockBreaks indent fuel
      (breaks, c, indent)
    | none =>
      let (breaks, c, widest) := c.blockIndentation fuel 0
      (breaks, c, max least widest)
  let ((text, last, after), c) := c.blockLines fold indent fuel breaks
  let text := text ++ (if ending = .strip then [] else last)
  let text := text ++ (if ending = .keep then after else [])
  return (.scalar (String.ofList text) false, c)

/-- The characters of a plain scalar that stand together: up to a blank, a line break, or a sign
that means something in flow or block style. -/
def plainRun (flow : Bool) : List Char → List Char
  | [] => []
  | ch :: rest =>
    let next := rest.headD endMark
    let closesKey := ch == ':' && (isGap next || (flow && ",[]\x7b\x7d".toList.contains next))
    if isGap ch || closesKey || (flow && ",?[]\x7b\x7d".toList.contains ch) then []
    else ch :: plainRun flow rest

/-- The line breaks up to the next text of a plain scalar, unless a document mark ends it. `fuel`
bounds the number of characters. -/
def plainBreaks : Nat → Cursor → Option (List Char) × Cursor
  | 0, c => (some [], c)
  | fuel + 1, c =>
    if c.char == ' ' then plainBreaks fuel c.next
    else match c.lineBreak? with
      | some (b, c) =>
        if c.atDocumentMarks then (none, c)
        else
          let (more, c) := plainBreaks fuel c
          (more.map (b :: ·), c)
      | none => (some [], c)

/-- What the blanks after a part of a plain scalar become, if it may go on; the last result says
whether a line break was passed. -/
def plainBlanks (c : Cursor) : Option (List Char) × Cursor × Bool :=
  let (blanks, c) := c.run (· == ' ')
  match c.lineBreak? with
  | some (b, c) =>
    if c.atDocumentMarks then (none, c, true)
    else
      let (breaks, c) := c.plainBreaks (c.rest.length + 1)
      (breaks.map (folded b), c, true)
  | none => (some blanks, c, false)

/-- Reads the parts of a plain scalar, whose lines stand at `indent` or deeper; `blanks` stand
before the part at the cursor. The last result says whether a line break follows the last part. -/
def plainText (flow : Bool) (indent : Int) :
    Nat → List Char → Bool → Cursor → List Char × Cursor × Bool
  | 0, _, crossed, c => ([], c, crossed)
  | fuel + 1, blanks, crossed, c =>
    let part := plainRun flow c.rest
    if c.char == '#' || part.isEmpty then ([], c, crossed)
    else
      let (between, c, crossed) := (c.skip part.length).plainBlanks
      let between := between.getD []
      if between.isEmpty || c.char == '#' || (!flow && c.column < indent) then
        (blanks ++ part, c, crossed)
      else
        let (more, c, crossed) := plainText flow indent fuel between crossed c
        (blanks ++ part ++ more, c, crossed)

def plainScalar (c : Cursor) (flow : Bool) (indent : Int) : Token × Cursor × Bool :=
  let (text, c, crossed) := c.plainText flow indent (c.rest.length + 1) [] false
  (.scalar (String.ofList text) true, c, crossed)

end Cursor

end StubGen.Yaml
