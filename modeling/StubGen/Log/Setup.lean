import StubGen.Log.Record
import StubGen.Text.Quoted
import StubGen.Text.Upper

/-!
# Setting up the log

`Logger.setUp` gives the package logger one handler at the named level, in steps of which each can
see what the ones before have done. Level names are taken in any case, and an unknown name means
`INFO`. Two names stand for something else than a level, and such a thing cannot be set.
-/

namespace StubGen.Log

/-- The names of the levels, with the alternative ones. -/
def Level.names : List (String × Level) :=
  [("CRITICAL", .critical), ("FATAL", .critical), ("ERROR", .error), ("WARN", .warning),
   ("WARNING", .warning), ("INFO", .info), ("DEBUG", .debug), ("NOTSET", .notset)]

/-- The level of an upper-case name. -/
def Level.ofName? (name : String) : Option Level := Level.names.lookup name

/-- A handler writes the records that reach a number, in a layout. -/
structure Handler where
  number : Nat
  layout : String
  deriving DecidableEq, Repr, Inhabited

structure Logger where
  level : Level
  /-- The handlers in the order in which they were added. -/
  handlers : List Handler
  /-- Whether records are passed on to the loggers above. -/
  propagates : Bool
  deriving DecidableEq, Repr, Inhabited

def packageName : String := "codestub"

/-- How the handler of the package logger lays out a record. -/
def recordFormat : String := "%(asctime)s - %(name)s - %(levelname)s - %(message)s"

/-- The layout that a handler has unless told otherwise; it has a name like those of levels. -/
def basicFormat : String := "%(levelname)s:%(name)s:%(message)s"

/-- How the table of the kinds of layouts is shown; it has a name like those of levels, too. -/
def layoutTable : String :=
  let row (sign kind layout : String) : String :=
    Text.quoted sign ++ ": (<class 'logging." ++ kind ++ "'>, " ++ Text.quoted layout ++ ")"
  "\x7b" ++ row "%" "PercentStyle" basicFormat ++ ", "
    ++ row "\x7b" "StrFormatStyle" "\x7blevelname\x7d:\x7bname\x7d:\x7bmessage\x7d" ++ ", "
    ++ row "$" "StringTemplateStyle" "$\x7blevelname\x7d:$\x7bname\x7d:$\x7bmessage\x7d"
    ++ "\x7d"

/-- Why a level cannot be set. -/
inductive SetupError where
  /-- The name stands for a text that names no level. -/
  | unknownLevel (text : String)
  /-- The name stands for a table. -/
  | notALevel
  deriving DecidableEq, Repr, Inhabited

/-- The wording of a refused level. -/
def SetupError.message : SetupError → String
  | unknownLevel text => "Unknown level: " ++ Text.quoted text
  | notALevel => "Level not an integer or a valid string: " ++ layoutTable

/-- What an upper-case name can stand for. -/
inductive Constant where
  | level (level : Level)
  | text (text : String)
  | table
  deriving DecidableEq, Repr, Inhabited

namespace Constant

/-- What upper-case names stand for: the levels, and two things besides. -/
def all : List (String × Constant) :=
  Level.names.map (fun (name, l) => (name, level l)) ++
    [("BASIC_FORMAT", text basicFormat), ("_STYLES", table)]

/-- What a name in any case stands for. -/
def ofName (name : RawText) : Constant :=
  (name.toString?.bind fun s => all.lookup (Text.upper s)).getD (level .info)

/-- The level to set: the constant itself, or the one that it names. -/
def toLevel : Constant → Except SetupError Level
  | level l => .ok l
  | text t =>
    match Level.ofName? t with
    | some l => .ok l
    | none => .error (.unknownLevel t)
  | table => .error .notALevel

end Constant

namespace Logger

/-- Takes a handler off. -/
def remove (logger : Logger) (handler : Handler) : Logger :=
  { logger with handlers := logger.handlers.erase handler }

/-- Puts a handler behind the others. -/
def add (logger : Logger) (handler : Handler) : Logger :=
  { logger with handlers := logger.handlers ++ [handler] }

/-- Sets the level, replaces all handlers by one with the same level, and stops passing records on.
A level that cannot be set ends this. -/
def steps (name : RawText) : ExceptT SetupError (StateM Logger) Unit := do
  let constant := Constant.ofName name
  let level ← MonadExcept.ofExcept constant.toLevel
  modify fun logger => { logger with level := level }
  -- The handlers to take off are those that are there before the first of them goes.
  modify fun logger => logger.handlers.foldl remove logger
  let handlerLevel ← MonadExcept.ofExcept constant.toLevel
  modify fun logger => logger.add ⟨handlerLevel.number, recordFormat⟩
  modify fun logger => { logger with propagates := false }

/-- How setting up ends, and the logger after it. -/
def call (logger : Logger) (name : RawText) : Except SetupError Unit × Logger :=
  (steps name).run.run logger

/-- The logger that is set up at the named level. -/
def setUp (logger : Logger) (name : RawText) : Except SetupError Logger :=
  (logger.call name).1.map fun _ => (logger.call name).2

end Logger

end StubGen.Log
