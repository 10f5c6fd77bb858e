import StubGen.Command.Flag
import StubGen.Text.Quoted
import StubGen.Text.Block

/-!
# Faults of a command line

A fault is reported in the scope in which it is found, with the usage of that scope.
-/

namespace StubGen.Command

/-- Why a command line is refused. -/
inductive UsageFault where
  /-- The beginning of several spellings. -/
  | ambiguous (word : String) (spellings : List String)
  | missingValue (flag : Flag)
  | unexpectedValue (flag : Flag) (value : String)
  | unknownLogLevel (level : String)
  | notAPort (text : String)
  | unknownVerb (word : String)
  | missingOperand (name : String)
  /-- Words that no scope has a use for. -/
  | unrecognized (words : List String)
  deriving DecidableEq, Repr, Inhabited

def invalidChoice (word : String) (choices : List String) : String :=
  "invalid choice: " ++ Text.quoted word ++ " (choose from "
    ++ Text.joined ", " (choices.map Text.quoted) ++ ")"

def UsageFault.message : UsageFault → String
  | ambiguous word spellings =>
    "ambiguous option: " ++ word ++ " could match " ++ Text.joined ", " spellings
  | missingValue flag => "argument " ++ flag.title ++ ": expected one argument"
  | unexpectedValue flag value =>
    "argument " ++ flag.title ++ ": ignored explicit argument " ++ Text.quoted value
  | unknownLogLevel level =>
    "argument " ++ Flag.logLevel.title ++ ": " ++ invalidChoice level logLevels
  | notAPort text =>
    "argument " ++ Flag.port.title ++ ": invalid int value: " ++ Text.quoted text
  | unknownVerb word => "argument COMMAND: " ++ invalidChoice word (Verb.all.map Verb.name)
  | missingOperand name => "the following arguments are required: " ++ name
  | unrecognized words => "unrecognized arguments: " ++ " ".intercalate words

end StubGen.Command
