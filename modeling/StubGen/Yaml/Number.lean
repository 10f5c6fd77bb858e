import StubGen.Number.Arithmetic
import StubGen.Text.Digit
import StubGen.Text.Lower
import StubGen.Yaml.Error

/-!
# Numbers in YAML

Integers are decimal, binary, octal after a zero, hexadecimal or sexagesimal; other numbers have a
point. Underscores do not count. Digits may be of any script, and blanks may surround a numeral.
-/

namespace StubGen.Yaml

/-- The value of a letter or a digit of any script as a digit. -/
def digitOf? : CodePoint → Option Nat
  | .half _ => none
  | .char c =>
    match Text.digitValue? c with
    | some n => some n
    | none =>
      if 'a' ≤ c && c ≤ 'z' then some (c.toNat - 87)
      else if 'A' ≤ c && c ≤ 'Z' then some (c.toNat - 55)
      else none

def digitIn? (base : Nat) (p : CodePoint) : Option Nat := (digitOf? p).filter (· < base)

/-- The digits of a base at the start of a text. -/
def leadingDigits (base : Nat) : List CodePoint → List Nat
  | [] => []
  | p :: rest =>
    match digitIn? base p with
    | some d => d :: leadingDigits base rest
    | none => []

/-- A sign in front of a text, and the rest. -/
def splitSign : List CodePoint → Bool × List CodePoint
  | .char '-' :: rest => (true, rest)
  | .char '+' :: rest => (false, rest)
  | text => (false, text)

def surroundsNumeral (p : CodePoint) : Bool := p.char?.any Text.surroundsInteger

/-- A text without the blanks around it. -/
def trimmed (text : List CodePoint) : List CodePoint :=
  ((text.dropWhile surroundsNumeral).reverse.dropWhile surroundsNumeral).reverse

def baseMark? : Nat → Option Char
  | 2 => some 'b'
  | 8 => some 'o'
  | 16 => some 'x'
  | _ => none

def withoutBaseMark (base : Nat) (text : List CodePoint) : List CodePoint :=
  match text with
  | zero :: .char mark :: rest =>
    if digitOf? zero = some 0 ∧ baseMark? base = some mark.toLower then rest else text
  | _ => text

def ofDigits (base : Nat) (digits : List Nat) : Nat := digits.foldl (fun n d => base * n + d) 0

/-- A number, or its opposite. -/
def signed (negative : Bool) (n : Int) : Int := if negative then -n else n

/-- Reads an integer in a base; blanks around it and a sign may be there. -/
def readInteger (base : Nat) (text : List CodePoint) : Except Error Int := do
  let (negative, numeral) := splitSign (trimmed text)
  let numeral := withoutBaseMark base numeral
  let digits := leadingDigits base numeral
  if base = 10 ∧ Text.maxIntegerDigits < digits.length then throw (.integerLength digits.length)
  if digits.isEmpty ∨ digits.length < numeral.length then throw (.integer base (.ofPoints text))
  return signed negative (ofDigits base digits)

def ungrouped (text : RawText) : List CodePoint := text.points.filter (· ≠ .char '_')

/-- The integer that a scalar denotes. -/
def integerOf (text : RawText) : Except Error Int := do
  let (negative, numeral) := splitSign (ungrouped text)
  match numeral with
  | [] => throw .emptyNumber
  | [.char '0'] => return 0
  | .char '0' :: .char 'b' :: rest => return signed negative (← readInteger 2 rest)
  | .char '0' :: .char 'x' :: rest => return signed negative (← readInteger 16 rest)
  | .char '0' :: _ => return signed negative (← readInteger 8 numeral)
  | _ =>
    let parts ← (numeral.splitOn (.char ':')).mapM (readInteger 10)
    return signed negative (parts.foldl (fun n part => 60 * n + part) 0)

/-- The exponent behind the sign of one. -/
def readExponent? (text : List CodePoint) : Option Int :=
  let (negative, numeral) := splitSign text
  let digits := leadingDigits 10 numeral
  if digits.isEmpty ∨ digits.length < numeral.length then none
  else some (signed negative (ofDigits 10 digits))

/-- Decimal digits, perhaps with a point and an exponent, as a number. -/
def decimal? (negative : Bool) (text : List CodePoint) : Option Binary64 := do
  let mantissa := text.takeWhile (· ≠ .char 'e')
  let exponent ← match text.drop mantissa.length with
    | [] => some 0
    | _ :: power => readExponent? power
  let whole := mantissa.takeWhile (· ≠ .char '.')
  let fraction := mantissa.drop (whole.length + 1)
  let digits ← (whole ++ fraction).mapM (digitIn? 10)
  if digits.isEmpty then none
  else some (.ofDecimal negative (ofDigits 10 digits) digits.length (exponent - fraction.length))

def pointsOf (s : String) : List CodePoint := s.toList.map .char

/-- Reads a number with a point, or one of the special names. -/
def readFloat (text : List CodePoint) : Except Error Binary64 :=
  let (negative, numeral) := splitSign (trimmed text)
  if numeral = pointsOf "inf" ∨ numeral = pointsOf "infinity" then .ok (.infinity negative)
  else if numeral = pointsOf "nan" then .ok .nan
  else match decimal? negative numeral with
    | some x => .ok x
    | none => .error (.float (.ofPoints text))

/-- The sum of sexagesimal digits times their weights, from the last digit on. -/
def ofSexagesimal (parts : List Binary64) : Except Error Binary64 :=
  parts.reverse.zipIdx.foldlM (fun sum (part, i) =>
    let weight := Binary64.ofNat (Nat.pow 60 i)
    if weight.isInfinite then .error .floatRange else .ok (sum.add (part.mul weight))) (.ofNat 0)

/-- The sign of a number with a point and its numeral in lower case. -/
def floatNumeral (text : RawText) : Bool × List CodePoint :=
  splitSign (ungrouped text |> RawText.ofPoints |>.mapParts Text.lower).points

/-- Whether a scalar spells the value that is no number in the usual way, with a point. -/
def isUsualNan (text : RawText) : Bool := (floatNumeral text).2 = pointsOf ".nan"

/-- The number with a point that a scalar denotes. -/
def floatOf (text : RawText) : Except Error Binary64 := do
  if (ungrouped text).isEmpty then throw .emptyNumber
  let (negative, numeral) := floatNumeral text
  if numeral = pointsOf ".inf" then return .infinity negative
  else if isUsualNan text then return .nan
  else if numeral.contains (.char ':') then
    let parts ← (numeral.splitOn (.char ':')).mapM readFloat
    return (← ofSexagesimal parts).signed negative
  else return (← readFloat numeral).signed negative

end StubGen.Yaml
