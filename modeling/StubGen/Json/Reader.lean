import StubGen.Json.Basic
import StubGen.Text.Digit
import StubGen.Text.Hex

/-!
# Reading JSON text

The grammar of JSON with three additional literals `NaN`, `Infinity` and `-Infinity`. An error names
what was expected at which character; the position of an unterminated string is its opening quote.
Only an integer with too many digits is refused without a position. Nesting is read with a budget
that grows with the text, so that it never runs out: the recursion limit that an interpreter would
set to nested calls is ignored.
-/

namespace StubGen.Json

/-- What is wrong with a JSON text. -/
inductive Problem where
  | value
  | propertyName
  | colon
  | comma
  | extraData
  | unterminatedString
  | controlCharacter
  | escape
  | unicodeEscape
  | byteOrderMark
  deriving DecidableEq, Repr, Inhabited

def Problem.text : Problem → String
  | value => "Expecting value"
  | propertyName => "Expecting property name enclosed in double quotes"
  | colon => "Expecting ':' delimiter"
  | comma => "Expecting ',' delimiter"
  | extraData => "Extra data"
  | unterminatedString => "Unterminated string starting at"
  | controlCharacter => "Invalid control character at"
  | escape => "Invalid \\escape"
  | unicodeEscape => "Invalid \\uXXXX escape"
  | byteOrderMark => "Unexpected UTF-8 BOM (decode using utf-8-sig)"

/-- Why a text is not read. -/
inductive ReadError where
  /-- A problem with the number of characters before it. -/
  | malformed (problem : Problem) (position : Nat)
  /-- An integer has more digits than are converted. -/
  | longInteger (digits : Nat)
  deriving DecidableEq, Repr, Inhabited

/-- The line of a position, from one. -/
def lineOf (text : List Char) (position : Nat) : Nat := (text.take position).count '\n' + 1

/-- The column of a position in its line, from one. -/
def columnOf (text : List Char) (position : Nat) : Nat :=
  ((text.take position).reverse.takeWhile (· ≠ '\n')).length + 1

def ReadError.message (text : List Char) : ReadError → String
  | malformed problem position =>
    problem.text ++ ": line " ++ toString (lineOf text position) ++ " column "
      ++ toString (columnOf text position) ++ " (char " ++ toString position ++ ")"
  | longInteger digits => Text.longIntegerMessage digits

/-- The text still to be read and the number of characters read before it. -/
structure Cursor where
  position : Nat
  rest : List Char
  deriving Repr, Inhabited

/-- Moves on by `n` characters. -/
def Cursor.skip (c : Cursor) (n : Nat) : Cursor := ⟨c.position + n, c.rest.drop n⟩

/-- The white space of the grammar. -/
def isSpace (c : Char) : Bool := c = ' ' || c = '\t' || c = '\n' || c = '\r'

/-- Moves past white space. -/
def Cursor.trim (c : Cursor) : Cursor :=
  let blank := c.rest.takeWhile isSpace
  ⟨c.position + blank.length, c.rest.dropWhile isSpace⟩

def Cursor.fail {α : Type} (c : Cursor) (problem : Problem) : Except ReadError α :=
  .error (.malformed problem c.position)

/-- The number of exactly four hexadecimal digits that are followed by more text. -/
def hex4? : List Char → Option Nat
  | a :: b :: c :: d :: _ :: _ => Text.ofHex? [a, b, c, d]
  | _ => none

def escapeChar? : Char → Option Char
  | '"' => some '"'
  | '\\' => some '\\'
  | '/' => some '/'
  | 'b' => some '\x08'
  | 'f' => some '\x0c'
  | 'n' => some '\n'
  | 'r' => some '\r'
  | 't' => some '\t'
  | _ => none

/-- The second half of a surrogate pair written as an escape. -/
def lowSurrogate? : List Char → Option Nat
  | '\\' :: 'u' :: rest => (hex4? rest).filter Text.isLowHalf
  | _ => none

/-- Reads the rest of a string whose opening quote is at `opening`; `done` holds the code points so
far, last one first. A high half followed by a low one makes a character. -/
def readString (opening : Nat) : Nat → List CodePoint → Cursor → Except ReadError (RawText × Cursor)
  | 0, _, _ => .error (.malformed .unterminatedString opening)
  | fuel + 1, done, cursor =>
    match cursor.rest with
    | [] => .error (.malformed .unterminatedString opening)
    | '"' :: _ => .ok (.ofPoints done.reverse, cursor.skip 1)
    | '\\' :: rest =>
      match rest with
      | [] => .error (.malformed .unterminatedString opening)
      | 'u' :: digits =>
        match hex4? digits with
        | none => .error (.malformed .unicodeEscape (cursor.position + 1))
        | some n =>
          match Text.isHighHalf n, lowSurrogate? (digits.drop 4), CodePoint.ofNat? n with
          | true, some low, _ =>
            readString opening fuel (Text.ofHalves n low :: done) (cursor.skip 12)
          | _, _, some p => readString opening fuel (p :: done) (cursor.skip 6)
          | _, _, none => .error (.malformed .unicodeEscape (cursor.position + 1))
      | e :: _ =>
        match escapeChar? e with
        | some c => readString opening fuel (c :: done) (cursor.skip 2)
        | none => cursor.fail .escape
    | c :: _ =>
      if c.toNat < 0x20 then cursor.fail .controlCharacter
      else readString opening fuel (c :: done) (cursor.skip 1)

def digitRun (text : List Char) : List Char := text.takeWhile Char.isDigit

/-- The fraction at the start of a text: a point and at least one digit. -/
def fractionRun : List Char → List Char
  | '.' :: rest => digitRun rest
  | _ => []

/-- The exponent at the start of a text: its length, whether it is negative, and its digits. -/
def exponentRun : List Char → Nat × Bool × List Char
  | e :: rest =>
    if e = 'e' ∨ e = 'E' then
      let (sign, negative, digits) := match rest with
        | '+' :: digits => (1, false, digitRun digits)
        | '-' :: digits => (1, true, digitRun digits)
        | digits => (0, false, digitRun digits)
      if digits.isEmpty then (0, false, []) else (1 + sign + digits.length, negative, digits)
    else (0, false, [])
  | [] => (0, false, [])

/-- The integer part at the start of a text: a zero alone, or digits without a leading zero. -/
def integerRun (text : List Char) : List Char :=
  match digitRun text with
  | '0' :: _ => ['0']
  | digits => digits

def readNumber (cursor : Cursor) : Except ReadError (Json × Cursor) :=
  let (negative, unsigned) := match cursor.rest with
    | '-' :: rest => (true, rest)
    | rest => (false, rest)
  let whole := integerRun unsigned
  if whole.isEmpty then cursor.fail .value
  else
    let signLength := if negative then 1 else 0
    let fraction := fractionRun (unsigned.drop whole.length)
    let fractionLength := if fraction.isEmpty then 0 else fraction.length + 1
    let (exponentLength, exponentNegative, exponent) :=
      exponentRun (unsigned.drop (whole.length + fractionLength))
    let next := cursor.skip (signLength + whole.length + fractionLength + exponentLength)
    if fractionLength = 0 ∧ exponentLength = 0 then
      let n := Text.ofDecimal whole
      if Text.maxIntegerDigits < whole.length then .error (.longInteger whole.length)
      else .ok (int (if negative then -(n : Int) else n), next)
    else
      let magnitude : Int := Text.ofDecimal exponent
      let e := (if exponentNegative then -magnitude else magnitude) - fraction.length
      let digits := whole ++ fraction
      .ok (real (Binary64.ofDecimal negative (Text.ofDecimal digits) digits.length e), next)

def literals : List (List Char × Json) :=
  [("null".toList, null), ("true".toList, bool true), ("false".toList, bool false),
   ("NaN".toList, real .nan), ("Infinity".toList, real (.infinity false)),
   ("-Infinity".toList, real (.infinity true))]

/-- Reads a literal, or else a number. -/
def readAtom (cursor : Cursor) : Except ReadError (Json × Cursor) :=
  match literals.find? fun (word, _) => word.isPrefixOf cursor.rest with
  | some (word, value) => .ok (value, cursor.skip word.length)
  | none => readNumber cursor

mutual

def readValue : Nat → Cursor → Except ReadError (Json × Cursor)
  | 0, cursor => cursor.fail .value
  | fuel + 1, cursor =>
    match cursor.rest with
    | '"' :: rest => do
      let (s, next) ← readString cursor.position (rest.length + 1) [] (cursor.skip 1)
      return (str s, next)
    | '{' :: _ =>
      let inside := (cursor.skip 1).trim
      match inside.rest with
      | '}' :: _ => .ok (obj [], inside.skip 1)
      | _ => do
        let (fields, next) ← readFields fuel inside
        return (obj (dedup fields), next)
    | '[' :: _ =>
      let inside := (cursor.skip 1).trim
      match inside.rest with
      | ']' :: _ => .ok (arr [], inside.skip 1)
      | _ => do
        let (items, next) ← readItems fuel inside
        return (arr items, next)
    | _ => readAtom cursor

/-- Reads the items of an array up to its closing bracket. -/
def readItems : Nat → Cursor → Except ReadError (List Json × Cursor)
  | 0, cursor => cursor.fail .value
  | fuel + 1, cursor => do
    let (item, next) ← readValue fuel cursor
    let next := next.trim
    match next.rest with
    | ']' :: _ => return ([item], next.skip 1)
    | ',' :: _ => do
      let (items, next) ← readItems fuel (next.skip 1).trim
      return (item :: items, next)
    | _ => next.fail .comma

/-- Reads the fields of an object up to its closing brace. -/
def readFields : Nat → Cursor → Except ReadError (Fields × Cursor)
  | 0, cursor => cursor.fail .value
  | fuel + 1, cursor =>
    match cursor.rest with
    | '"' :: rest => do
      let (name, next) ← readString cursor.position (rest.length + 1) [] (cursor.skip 1)
      let next := next.trim
      match next.rest with
      | ':' :: _ => do
        let (value, next) ← readValue fuel (next.skip 1).trim
        let next := next.trim
        match next.rest with
        | '}' :: _ => return ([(name, value)], next.skip 1)
        | ',' :: _ => do
          let (fields, next) ← readFields fuel (next.skip 1).trim
          return ((name, value) :: fields, next)
        | _ => next.fail .comma
      | _ => next.fail .colon
    | _ => cursor.fail .propertyName

end

def read (text : List Char) : Except ReadError Json :=
  match text with
  | '\uFEFF' :: _ => .error (.malformed .byteOrderMark 0)
  | _ => do
    let (value, next) ← readValue (2 * text.length + 2) (Cursor.trim ⟨0, text⟩)
    let next := next.trim
    match next.rest with
    | [] => return value
    | _ => next.fail .extraData

def parse (text : String) : Except ReadError Json := read text.toList

end StubGen.Json
