import StubGen.Command.UsageFault
import StubGen.Text.Digit

/-!
# Words of a command line

`wordsOf` says of each argument whether a scope sees a flag in it or an operand. Long spellings may
be shortened as long as they stay unique, and a value may follow after an equals sign. What looks
like a negative number or holds a space is an operand, and so is everything after a lone double
dash.
-/

namespace StubGen.Command

inductive FlagUse where
  /-- A call for help, with the attached text that help has no use for. -/
  | help (attached : Option String)
  /-- A flag with a value, which may be attached. -/
  | valued (flag : Flag) (attached : Option String)
  deriving DecidableEq, Repr, Inhabited

/-- An argument as a scope sees it. -/
inductive Word where
  | operand (text : String)
  /-- The double dash that ends the flags. -/
  | separator
  | flag (text : String) (use : FlagUse)
  /-- An argument in the form of a flag that the scope does not have. -/
  | unknownFlag (text : String)
  deriving DecidableEq, Repr, Inhabited

def doubleDash : String := "--"

def Word.text : Word → String
  | operand t => t
  | separator => doubleDash
  | flag t _ => t
  | unknownFlag t => t

/-- The use of a flag by a full or unique spelling. -/
def Flag.use (flag : Flag) (attached : Option String) : FlagUse :=
  match flag with
  | .help => .help attached
  | _ => .valued flag attached

/-- The text before the first equals sign, and the one after it if there is one. -/
def splitValue (text : List Char) : List Char × Option (List Char) :=
  match text.dropWhile (· != '=') with
  | [] => (text, none)
  | _ :: value => (text.takeWhile (· != '='), some value)

/-- What help cannot use of the letters behind its short spelling: repeated spellings are fine, and
so are unknown letters, but neither a value nor a dash is. -/
def helpExcess : List Char → Option (List Char)
  | 'h' :: rest => helpExcess rest
  | '=' :: value => some value
  | '-' :: rest => some ('-' :: rest)
  | _ => none

/-- Whether a text is made of digits, perhaps with a point before the last ones. -/
def isDecimal (text : List Char) : Bool :=
  let isDigit (c : Char) : Bool := (Text.digitValue? c).isSome
  match text.dropWhile isDigit with
  | [] => !text.isEmpty
  | '.' :: fraction => !fraction.isEmpty && fraction.all isDigit
  | _ => false

/-- Whether a text looks like a negative number; a line break may follow. -/
def isNegativeNumber : List Char → Bool
  | '-' :: text =>
    match text.getLast? with
    | some '\n' => isDecimal text.dropLast
    | _ => isDecimal text
  | _ => false

/-- The spellings that an argument may be short for. -/
def candidates (scope : Scope) (name : List Char) : List (String × Flag) :=
  match name with
  | '-' :: '-' :: _ => scope.spellings.filter fun (spelling, _) => name.isPrefixOf spelling.toList
  | _ => []

/-- An argument in the form of a flag that has no full spelling. -/
def abbreviated (scope : Scope) (text : String) : Except UsageFault Word :=
  let (name, value) := splitValue text.toList
  match candidates scope name with
  | [(_, flag)] => .ok (.flag text (flag.use (value.map String.ofList)))
  | _ :: _ :: _ => .error (.ambiguous text ((candidates scope name).map Prod.fst))
  | [] =>
    if isNegativeNumber text.toList || text.toList.contains ' ' then .ok (.operand text)
    else .ok (.unknownFlag text)

/-- The word that an argument is before the double dash. -/
def wordOf (scope : Scope) (text : String) : Except UsageFault Word :=
  match text.toList with
  | [] | ['-'] => .ok (.operand text)
  | '-' :: 'h' :: rest =>
    .ok (.flag text (.help ((helpExcess rest).map String.ofList)))
  | '-' :: _ =>
    let (name, value) := splitValue text.toList
    match scope.spellings.lookup (String.ofList name) with
    | some flag => .ok (.flag text (flag.use (value.map String.ofList)))
    | none => abbreviated scope text
  | _ => .ok (.operand text)

def wordsOf (scope : Scope) : List String → Except UsageFault (List Word)
  | [] => .ok []
  | text :: rest =>
    if text = doubleDash then .ok (.separator :: rest.map .operand)
    else
      match wordOf scope text with
      | .error e => .error e
      | .ok word => (wordsOf scope rest).map (word :: ·)

end StubGen.Command
