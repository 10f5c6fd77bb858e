import StubGen.Text.Raw

/-!
# Log records

A record has a level, the name of the part that wrote it, and a message.
-/

namespace StubGen.Log

/-- The levels of records and thresholds, without the alternative names. -/
inductive Level where
  | notset | debug | info | warning | error | critical
  deriving DecidableEq, Repr, Inhabited

namespace Level

/-- The number of a level; records below a threshold's number are dropped. -/
def number : Level → Nat
  | notset => 0
  | debug => 10
  | info => 20
  | warning => 30
  | error => 40
  | critical => 50

def name : Level → String
  | notset => "NOTSET"
  | debug => "DEBUG"
  | info => "INFO"
  | warning => "WARNING"
  | error => "ERROR"
  | critical => "CRITICAL"

/-- The number that a record needs to pass a threshold; without a threshold of its own the log has
that of warnings. -/
def threshold : Level → Nat
  | notset => warning.number
  | level => level.number

end Level

def Level.keeps (threshold level : Level) : Bool := threshold.threshold ≤ level.number

structure Record where
  level : Level
  /-- The name of the logger. -/
  source : String
  message : RawText
  deriving DecidableEq, Repr, Inhabited

/-- A value with the records logged while it was computed. -/
structure Logged (α : Type) where
  records : List Record
  value : α
  deriving Repr, Inhabited

def Logged.map {α β : Type} (f : α → β) (l : Logged α) : Logged β := ⟨l.records, f l.value⟩

def silent {α : Type} (value : α) : Logged α := ⟨[], value⟩

end StubGen.Log
