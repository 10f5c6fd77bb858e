import StubGen.Text.Letter
import StubGen.Text.Quoted

/-!
# Tokens of a type spelling

A spelling is cut into the four brackets and names. A name starts with a letter or an underscore and
goes on, as far as possible, with letters, numerals and underscores; nothing else, blanks included,
may stand in a spelling. Columns count characters from one.
-/

namespace StubGen

/-- The brackets of a type spelling. -/
inductive Bracket where
  | openAngle | closeAngle | openSquare | closeSquare
  deriving DecidableEq, Repr, Inhabited

namespace Bracket

def char : Bracket → Char
  | openAngle => '<'
  | closeAngle => '>'
  | openSquare => '['
  | closeSquare => ']'

def ofChar? (c : Char) : Option Bracket :=
  [openAngle, closeAngle, openSquare, closeSquare].find? fun b => b.char = c

end Bracket

/-- The characters of which names are made. -/
structure Alphabet where
  /-- The characters that start a name, besides the underscore. -/
  isLetter : Char → Bool
  /-- The characters that continue a name, besides the underscore. -/
  isAlphanumeric : Char → Bool

namespace Alphabet

/-- Letters and numerals of all scripts. -/
def unicode : Alphabet := ⟨Text.isLetter, Text.isAlphanumeric⟩

def starts (a : Alphabet) (c : Char) : Bool := a.isLetter c || c == '_'

/-- Whether a name may go on with the character. -/
def continues (a : Alphabet) (c : Char) : Bool := a.isAlphanumeric c || c == '_'

end Alphabet

inductive Token.Kind where
  | bracket (b : Bracket)
  | name (text : List Char)
  | endOfInput
  deriving DecidableEq, Repr, Inhabited

/-- A token and the column of its first character. -/
structure Token where
  kind : Token.Kind
  column : Nat
  deriving DecidableEq, Repr, Inhabited

namespace Token

def chars (t : Token) : List Char :=
  match t.kind with
  | .bracket b => [b.char]
  | .name text => text
  | .endOfInput => []

def text (t : Token) : String := String.ofList t.chars

end Token

/-- A character with which no token starts, and its column. -/
structure StrayCharacter where
  char : Char
  column : Nat
  deriving DecidableEq, Repr, Inhabited

/-- The tokens of a spelling, and the column just after it. -/
structure Tokens where
  list : List Token
  endColumn : Nat
  deriving DecidableEq, Repr, Inhabited

namespace Tokens

/-- The tokens with the end of the input as the last one. -/
def closed (ts : Tokens) : List Token := ts.list ++ [⟨.endOfInput, ts.endColumn⟩]

/-- Puts a token in front. -/
def cons (t : Token) (ts : Tokens) : Tokens := { ts with list := t :: ts.list }

end Tokens

namespace Alphabet

/-- Cuts the characters from `column` on into tokens. -/
def scan (a : Alphabet) (column : Nat) (text : List Char) : Except StrayCharacter Tokens :=
  match text with
  | [] => .ok ⟨[], column⟩
  | c :: rest =>
    match Bracket.ofChar? c with
    | some b => (a.scan (column + 1) rest).map (.cons ⟨.bracket b, column⟩)
    | none =>
      if a.starts c then
        let name := c :: rest.takeWhile a.continues
        (a.scan (column + name.length) (rest.dropWhile a.continues)).map (.cons ⟨.name name, column⟩)
      else .error ⟨c, column⟩
termination_by text.length
decreasing_by
  · simp
  · exact Nat.lt_succ_of_le (List.dropWhile_suffix _).length_le

end Alphabet

def tokenize (spelling : String) : Except StrayCharacter Tokens :=
  Alphabet.unicode.scan 1 spelling.toList

end StubGen
