import StubGen.Text.Digit
import StubGen.Yaml.Error

/-!
# Dates and times

A date is written with hyphens; a time may follow, and the distance from universal time after it.
-/

namespace StubGen.Yaml

structure DayTime where
  hour : Nat
  minute : Nat
  second : Nat
  microsecond : Nat
  /-- The distance from universal time in seconds. -/
  offset : Option Int
  deriving DecidableEq, Repr, Inhabited

/-- A date, perhaps with a time. -/
structure Timestamp where
  year : Nat
  month : Nat
  day : Nat
  time : Option DayTime
  deriving DecidableEq, Repr, Inhabited

namespace Timestamp

/-- Up to `limit` digits at the start, and the rest. -/
def digits (limit : Nat) (text : List Char) : List Char × List Char :=
  let found := (text.take limit).takeWhile Char.isDigit
  (found, text.drop found.length)

/-- A number of `least` to `most` digits, and the rest. -/
def number? (least most : Nat) (text : List Char) : Option (Nat × List Char) :=
  let (found, rest) := digits most text
  if found.length < least then none else some (Text.ofDecimal found, rest)

def after? (c : Char) : List Char → Option (List Char)
  | d :: rest => if d = c then some rest else none
  | [] => none

def isBlank (c : Char) : Bool := c == ' ' || c == '\t'

/-- Reads the distance from universal time, in seconds. -/
def readOffset (text : List Char) : Option (Option Int) :=
  if text.isEmpty then some none
  else match text.dropWhile isBlank with
    | ['Z'] => some (some 0)
    | sign :: rest =>
      if sign == '-' || sign == '+' then do
        let (hours, rest) ← number? 1 2 rest
        let minutes ←
          if rest.isEmpty then some 0
          else match number? 2 2 (← after? ':' rest) with
            | some (n, []) => some n
            | _ => none
        let seconds : Int := 3600 * hours + 60 * minutes
        some (some (if sign == '-' then -seconds else seconds))
      else none
    | [] => none

def microseconds (fraction : List Char) : Nat :=
  let kept := fraction.take 6
  Text.ofDecimal kept * Nat.pow 10 (6 - kept.length)

/-- Reads the time of a day after the blanks before it. -/
def readTime (text : List Char) : Option DayTime := do
  let (hour, rest) ← number? 1 2 text
  let (minute, rest) ← number? 2 2 (← after? ':' rest)
  let (second, rest) ← number? 2 2 (← after? ':' rest)
  let (fraction, rest) := match rest with
    | '.' :: rest => (rest.takeWhile Char.isDigit, rest.dropWhile Char.isDigit)
    | _ => ([], rest)
  let offset ← readOffset rest
  return ⟨hour, minute, second, microseconds fraction, offset⟩

/-- Reads a date and perhaps a time. -/
def read (text : List Char) : Option Timestamp := do
  let (year, rest) ← number? 4 4 text
  let (month, rest) ← number? 1 2 (← after? '-' rest)
  let (day, rest) ← number? 1 2 (← after? '-' rest)
  match rest with
  | [] => return ⟨year, month, day, none⟩
  | c :: tail =>
    let time := if c == 'T' || c == 't' then some tail
      else if isBlank c then some (tail.dropWhile isBlank) else none
    return ⟨year, month, day, some (← readTime (← time))⟩

/-- Whether a plain text is a timestamp; without a time, month and day have two digits. -/
def isTimestamp (text : List Char) : Bool :=
  match read text with
  | some t => t.time.isSome || text.length == 10
  | none => false

/-- Whether a year has a day more. -/
def isLeap (year : Nat) : Bool := year % 4 == 0 && (year % 100 != 0 || year % 400 == 0)

def daysIn (year month : Nat) : Nat :=
  if month = 2 then (if isLeap year then 29 else 28)
  else if [4, 6, 9, 11].contains month then 30 else 31

/-- How many days there are up to a date, from the first year on. -/
def dayNumber (year month day : Nat) : Nat :=
  let before := year - 1
  365 * before + before / 4 - before / 100 + before / 400 +
    ((List.range month).drop 1 |>.map (daysIn year)).foldr (· + ·) 0 + day

/-- The microseconds of universal time up to a timestamp that has a distance from it. -/
def moment? (t : Timestamp) : Option Int := do
  let time ← t.time
  let offset ← time.offset
  let seconds : Int := 86400 * dayNumber t.year t.month t.day + 3600 * time.hour + 60 * time.minute
    + time.second - offset
  return 1000000 * seconds + time.microsecond

/-- Whether two timestamps are the same: in all parts, or as moments of universal time. -/
def isSame (t u : Timestamp) : Bool :=
  match t.moment?, u.moment? with
  | some a, some b => a == b
  | _, _ => t == u

/-- The first part that is out of range. -/
def defect? (t : Timestamp) : Option DatePart :=
  let offset := t.time.bind DayTime.offset
  if offset.any fun s => 86400 ≤ s.natAbs then offset.map .offset
  else if t.year = 0 then some (.year 0)
  else if t.month = 0 ∨ 12 < t.month then some .month
  else if t.day = 0 ∨ daysIn t.year t.month < t.day then some .day
  else match t.time with
    | none => none
    | some time =>
      if 23 < time.hour then some .hour
      else if 59 < time.minute then some .minute
      else if 59 < time.second then some .second
      else none

/-- A number with at least `width` digits. -/
def padded (width n : Nat) : String :=
  let digits := (toString n).toList
  String.ofList (List.replicate (width - digits.length) '0' ++ digits)

/-- The distance from universal time as it is shown. -/
def offsetText (seconds : Int) : String :=
  let n := seconds.natAbs
  (if seconds < 0 then "-" else "+") ++ padded 2 (n / 3600) ++ ":" ++ padded 2 (n % 3600 / 60)

def text (t : Timestamp) : String :=
  padded 4 t.year ++ "-" ++ padded 2 t.month ++ "-" ++ padded 2 t.day ++
  match t.time with
  | none => ""
  | some d =>
    " " ++ padded 2 d.hour ++ ":" ++ padded 2 d.minute ++ ":" ++ padded 2 d.second ++
      (if d.microsecond = 0 then "" else "." ++ padded 6 d.microsecond) ++
      (d.offset.map offsetText).getD ""

def literal (t : Timestamp) : String :=
  let date := [t.year, t.month, t.day]
  match t.time with
  | none => "datetime.date(" ++ ", ".intercalate (date.map toString) ++ ")"
  | some d =>
    let seconds := if d.second = 0 ∧ d.microsecond = 0 then [] else [d.second]
    let micros := if d.microsecond = 0 then [] else [d.microsecond]
    let numbers := date ++ [d.hour, d.minute] ++ seconds ++ micros
    let zone := match d.offset with
      | none => ""
      | some s =>
        ", tzinfo=datetime.timezone" ++ (if s = 0 then ".utc" else "(" ++ intervalText s ++ ")")
    "datetime.datetime(" ++ ", ".intercalate (numbers.map toString) ++ zone ++ ")"

end Timestamp

end StubGen.Yaml
