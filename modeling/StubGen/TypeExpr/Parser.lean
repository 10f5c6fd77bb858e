import StubGen.TypeExpr.Basic
import StubGen.TypeExpr.Token

/-!
# Reading a type spelling

`TypeExpr.parse` accepts the canonical spellings and nothing else. Every constructor has one
operand, so that the text still open to the left is a stack of frames, and one pass over the tokens
suffices: `start` expects a type, `resume` holds a finished type that a bracket may extend or close.

Spellings of any depth are read. The recursion limit that an interpreter would set to nested calls
is ignored, here and wherever types are followed into their elements.
-/

namespace StubGen

/-- Why a text is no type spelling. -/
inductive SyntaxError where
  /-- No token starts with the character. -/
  | strayCharacter (char : Char) (column : Nat)
  /-- A bracket, or a name for `none`, had to come; the token found is the end of input for `none`.
  -/
  | expected (wanted : Option Bracket) (found : Option (List Char)) (column : Nat)
  | unknownName (name : List Char) (column : Nat)
  /-- A complete type is followed by another token. -/
  | trailing (text : List Char) (column : Nat)
  /-- `[]` follows a type that is neither a primitive nor an array; the column is that of the type.
  -/
  | arrayElement (column : Nat)
  /-- A tree holds a type that is no primitive; the column is that of the type. -/
  | treeValue (column : Nat)
  deriving DecidableEq, Repr, Inhabited

namespace SyntaxError

def column : SyntaxError → Nat
  | strayCharacter _ column | expected _ _ column | unknownName _ column | trailing _ column
  | arrayElement column | treeValue column => column

/-- What is wrong, without the place. -/
def reason : SyntaxError → String
  | strayCharacter c _ => "Unexpected character: " ++ Text.quoted (String.ofList [c])
  | expected wanted found _ =>
    let wanted := match wanted with
      | some b => String.ofList [b.char]
      | none => "IDENTIFIER"
    let found := match found with
      | some text => String.ofList text
      | none => "end of input"
    "Expected " ++ Text.quoted wanted ++ ", got " ++ Text.quoted found
  | unknownName name _ => "Unknown type name " ++ Text.quoted (String.ofList name)
  | trailing text _ => "Unexpected trailing input " ++ Text.quoted (String.ofList text)
  | arrayElement _ => "Array element type must be a primitive or an array"
  | treeValue _ => "Tree value type must be a primitive"

def message (e : SyntaxError) : String := "Column " ++ toString e.column ++ ": " ++ e.reason

end SyntaxError

namespace TypeExpr

/-- A type constructor whose closing bracket is still to come. -/
inductive Opener where
  | list | tree
  deriving DecidableEq, Repr, Inhabited

/-- An open constructor and the column where its type starts. -/
structure Frame where
  opener : Opener
  column : Nat
  deriving DecidableEq, Repr, Inhabited

inductive Head where
  | atom (t : TypeExpr)
  /-- A constructor that wants an operand in angle brackets. -/
  | opener (o : Opener)
  deriving DecidableEq, Repr, Inhabited

def Head.ofName? (name : List Char) : Option Head :=
  match Primitive.ofName? (String.ofList name) with
  | some p => some (.atom (.primitive p))
  | none =>
    if name = "Graph".toList then some (.atom .graph)
    else if name = "List".toList then some (.opener .list)
    else if name = "Tree".toList then some (.opener .tree)
    else none

/-- Closes an open constructor around a type that started at `column`. -/
def close (opener : Opener) (t : TypeExpr) (column : Nat) : Except SyntaxError TypeExpr :=
  match opener, t with
  | .list, t => .ok (.list t)
  | .tree, .primitive p => .ok (.tree p)
  | .tree, _ => .error (.treeValue column)

def mismatch (wanted : Option Bracket) (t : Token) : SyntaxError :=
  .expected wanted (some t.chars) t.column

mutual

/-- Reads a type inside the open frames, then the rest. -/
def start (frames : List Frame) (finish : Nat) : List Token → Except SyntaxError TypeExpr
  | [] => .error (.expected none none finish)
  | ⟨.name name, column⟩ :: rest =>
    match Head.ofName? name with
    | some (.atom t) => resume frames finish t column rest
    | some (.opener o) =>
      match rest with
      | [] => .error (.expected (some .openAngle) none finish)
      | ⟨.bracket .openAngle, _⟩ :: rest => start (⟨o, column⟩ :: frames) finish rest
      | t :: _ => .error (mismatch (some .openAngle) t)
    | none => .error (.unknownName name column)
  | t :: _ => .error (mismatch none t)

/-- Goes on after the type `t` that started at `column`. -/
def resume (frames : List Frame) (finish : Nat) (t : TypeExpr) (column : Nat) :
    List Token → Except SyntaxError TypeExpr
  | [] =>
    match frames with
    | [] => .ok t
    | _ => .error (.expected (some .closeAngle) none finish)
  | ⟨.bracket .openSquare, _⟩ :: rest =>
    match rest with
    | [] => .error (.expected (some .closeSquare) none finish)
    | ⟨.bracket .closeSquare, _⟩ :: rest =>
      if t.isArrayElement then resume frames finish (.array t) column rest
      else .error (.arrayElement column)
    | next :: _ => .error (mismatch (some .closeSquare) next)
  | next :: rest =>
    match frames with
    | [] => .error (.trailing next.chars next.column)
    | frame :: frames =>
      match next.kind with
      | .bracket .closeAngle =>
        match close frame.opener t column with
        | .ok closed => resume frames finish closed frame.column rest
        | .error e => .error e
      | _ => .error (mismatch (some .closeAngle) next)

end

def ofTokens (ts : Tokens) : Except SyntaxError TypeExpr := start [] ts.endColumn ts.list

def parse (spelling : String) : Except SyntaxError TypeExpr :=
  match tokenize spelling with
  | .ok tokens => ofTokens tokens
  | .error e => .error (.strayCharacter e.char e.column)

/-- Reads a type from its spelling, or `none`. -/
def parse? (spelling : String) : Option TypeExpr := (parse spelling).toOption

/-- Reads a type from a text; one in which a half of a pair stands alone spells none. -/
def ofText? (text : RawText) : Option TypeExpr := text.toString?.bind parse?

end TypeExpr

end StubGen
