import StubGen.Log.Record
import StubGen.Settings.Basic

/-!
# Outcomes

The outcome of a command is what it prints and its exit code. Log records stand between the lines of
the error output.
-/

namespace StubGen.Command

inductive Output where
  | standard (text : RawText)
  | error (text : RawText)
  | record (r : Log.Record)
  deriving DecidableEq, Repr, Inhabited

namespace Output

def line (text : RawText) : Output := standard (text ++ RawText.whole "\n")

/-- A line of the error output that reports a failure. -/
def failure (message : RawText) : Output :=
  error (RawText.whole "Error: " ++ message ++ RawText.whole "\n")

/-- The text that a piece puts on the standard output. -/
def standardText : Output → RawText
  | standard text => text
  | _ => .whole ""

/-- The text that a piece puts on the error output, where log records start with the time. -/
def errorText (time : String) : Output → RawText
  | standard _ => .whole ""
  | error text => text
  | record r =>
    RawText.whole (time ++ " - " ++ r.source ++ " - " ++ r.level.name ++ " - ") ++ r.message
      ++ RawText.whole "\n"

end Output

structure Service where
  settings : Settings
  host : RawText
  port : Int
  deriving DecidableEq, Repr, Inhabited

structure Outcome where
  exitCode : Nat
  output : List Output
  service : Option Service
  deriving DecidableEq, Repr, Inhabited

namespace Outcome

def success (output : List Output) : Outcome := ⟨0, output, none⟩

def failure (messages : List RawText) : Outcome := ⟨1, messages.map Output.failure, none⟩

def after (before : List Output) (o : Outcome) : Outcome := { o with output := before ++ o.output }

def standardOutput (o : Outcome) : RawText := RawText.joined "" (o.output.map Output.standardText)

/-- The error output, with one time for all log records. -/
def errorOutput (time : String) (o : Outcome) : RawText :=
  RawText.joined "" (o.output.map (Output.errorText time))

end Outcome

end StubGen.Command
