import StubGen.Text.Digit
import StubGen.Text.Quoted

/-!
# Errors of YAML texts

A text that is no YAML document of a known kind is refused as such. Some values are refused for
another cause: a scalar has the form of a number or a date, but there is no such number or date, or
an escape names no character.

What is wrong with a text that is not well formed, and where, is not told apart. The message of
`markup` is one constant text that stands for the wording of a YAML library.
-/

namespace StubGen.Yaml

inductive DatePart where
  | year (n : Nat)
  | month | day | hour | minute | second
  /-- The distance from universal time in seconds. -/
  | offset (seconds : Int)
  deriving DecidableEq, Repr, Inhabited

/-- Why a text has no value. -/
inductive Error where
  /-- The text is not well formed, or asks for a value of an unknown kind. -/
  | markup
  | date (part : DatePart)
  | integer (base : Nat) (text : RawText)
  | integerLength (digits : Nat)
  | float (text : RawText)
  /-- A number has so many sexagesimal digits that the weight of the first is out of range. -/
  | floatRange
  /-- An escape names a number beyond the last character. -/
  | character
  /-- An escape names a number beyond 31 bits. -/
  | characterWidth
  /-- A text that should be a truth value is none; it is given in lower case. -/
  | truth (text : RawText)
  | emptyNumber
  /-- A text that should be a date is none. -/
  | notADate
  | mappingForDate
  /-- A scalar is given by the default value of a mapping that is its own default value. -/
  | endless
  deriving DecidableEq, Repr, Inhabited

/-- An interval of time: whole days, and seconds of a day. -/
def intervalText (seconds : Int) : String :=
  let days := Int.fdiv seconds 86400
  let rest := Int.fmod seconds 86400
  let parts := (if days = 0 then [] else ["days=" ++ toString days]) ++
    (if rest = 0 then [] else ["seconds=" ++ toString rest])
  match parts with
  | [] => "datetime.timedelta(0)"
  | [p] => "datetime.timedelta(" ++ p ++ ")"
  | p :: q :: _ => "datetime.timedelta(" ++ p ++ ", " ++ q ++ ")"

/-- The wording of a part of a date that is out of range. -/
def DatePart.message : DatePart → String
  | year n => "year " ++ toString n ++ " is out of range"
  | month => "month must be in 1..12"
  | day => "day is out of range for month"
  | hour => "hour must be in 0..23"
  | minute => "minute must be in 0..59"
  | second => "second must be in 0..59"
  | offset seconds =>
    "offset must be a timedelta strictly between -timedelta(hours=24) and timedelta(hours=24), not "
      ++ intervalText seconds ++ "."

/-- How much of a text that is no integer is shown, quotes included. -/
def shownLength : Nat := 200

def Error.message : Error → String
  | markup => "the text is no YAML document of a known kind"
  | date part => part.message
  | integer base text =>
    "invalid literal for int() with base " ++ toString base ++ ": "
      ++ String.ofList (text.quoted.toList.take shownLength)
  | integerLength digits => Text.longIntegerMessage digits
  | float text => "could not convert string to float: " ++ text.quoted
  | floatRange => "int too large to convert to float"
  | character => "chr() arg not in range(0x110000)"
  | characterWidth => "Python int too large to convert to C int"
  | truth text => text.quoted
  | emptyNumber => "string index out of range"
  | notADate => "'NoneType' object has no attribute 'groupdict'"
  | mappingForDate => "expected string or bytes-like object, got 'list'"
  | endless => "maximum recursion depth exceeded"

inductive ErrorKind where
  /-- The text is not well formed, or asks for a value of an unknown kind. -/
  | markup
  | value
  /-- The text has no form that its tag foresees. -/
  | unexpected
  deriving DecidableEq, Repr, Inhabited

def Error.kind : Error → ErrorKind
  | markup => .markup
  | date _ | integer _ _ | integerLength _ | float _ | character => .value
  | floatRange | characterWidth | truth _ | emptyNumber | notADate | mappingForDate | endless =>
    .unexpected

end StubGen.Yaml
