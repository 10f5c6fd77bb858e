import StubGen.Command.Word
import StubGen.Text.Upper

/-!
# Arguments of a scope

`Arguments.read` goes through the words of a scope from left to right. A later value of a flag
replaces an earlier one, and the first word that cannot be accepted, or that calls for help, ends
the reading.
-/

namespace StubGen.Command

/-- What ends the reading of a command line. -/
inductive Stop where
  | help (scope : Scope)
  | refused (scope : Scope) (fault : UsageFault)
  deriving DecidableEq, Repr, Inhabited

/-- What a scope wants besides flags. -/
inductive Wanted where
  | nothing
  | operand
  | verb
  deriving DecidableEq, Repr, Inhabited

/-- What a scope wants besides flags. -/
def Scope.wanted : Scope → Wanted
  | none => .verb
  | some v => if v.needsOperand then .operand else .nothing

structure Arguments where
  config : Option String
  logLevel : Option String
  language : Option String
  port : Option Int
  host : Option String
  operand : Option String
  /-- The word that should be a verb, and the words after it. -/
  verb : Option (String × List String)
  /-- Words without a use. -/
  unused : List String
  deriving DecidableEq, Repr, Inhabited

namespace Arguments

def empty : Arguments := ⟨none, none, none, none, none, none, none, []⟩

def assign (a : Arguments) (value : String) : Flag → Except UsageFault Arguments
  | .help => .ok a
  | .config => .ok { a with config := some value }
  | .logLevel =>
    let level := Text.upper value
    if logLevels.contains level then .ok { a with logLevel := some level }
    else .error (.unknownLogLevel level)
  | .language => .ok { a with language := some value }
  | .port =>
    match Text.readInt value with
    | some n => .ok { a with port := some n }
    | none => .error (.notAPort value)
  | .host => .ok { a with host := some value }

/-- Adds a word without a use. -/
def skip (a : Arguments) (text : String) : Arguments := { a with unused := a.unused ++ [text] }

def read (scope : Scope) : List Word → Arguments → Except Stop Arguments
  | [], a => .ok a
  | .flag _ (.help none) :: _, _ => .error (.help scope)
  | .flag _ (.help (some attached)) :: _, _ =>
    .error (.refused scope (.unexpectedValue .help attached))
  | .flag _ (.valued flag (some value)) :: rest, a =>
    match a.assign value flag with
    | .ok a => read scope rest a
    | .error fault => .error (.refused scope fault)
  | .flag _ (.valued flag none) :: .operand value :: rest, a =>
    match a.assign value flag with
    | .ok a => read scope rest a
    | .error fault => .error (.refused scope fault)
  | .flag _ (.valued flag none) :: _, _ => .error (.refused scope (.missingValue flag))
  | .unknownFlag text :: rest, a => read scope rest (a.skip text)
  | .operand text :: .separator :: rest, a =>
    match scope.wanted, a.operand with
    | .verb, _ => .ok { a with verb := some (text, doubleDash :: rest.map Word.text) }
    | .operand, none => read scope rest { a with operand := some text }
    | _, _ => read scope rest ((a.skip text).skip doubleDash)
  | .operand text :: rest, a =>
    match scope.wanted, a.operand with
    | .verb, _ => .ok { a with verb := some (text, rest.map Word.text) }
    | .operand, none => read scope rest { a with operand := some text }
    | _, _ => read scope rest (a.skip text)
  | .separator :: .operand text :: rest, a =>
    match scope.wanted, a.operand with
    | .verb, _ => .ok { a with verb := some (doubleDash, text :: rest.map Word.text) }
    | .operand, none => read scope rest { a with operand := some text }
    | _, _ => read scope rest ((a.skip doubleDash).skip text)
  | .separator :: rest, a => read scope rest (a.skip doubleDash)

def ofList (scope : Scope) (line : List String) : Except Stop Arguments :=
  match wordsOf scope line with
  | .error fault => .error (.refused scope fault)
  | .ok words => read scope words empty

end Arguments

end StubGen.Command
