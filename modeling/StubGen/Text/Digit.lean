import StubGen.Text.Blank

/-!
# Decimal integers in any script

`readInt` reads what a person may type for an integer: blanks around it, one sign, decimal digits of
any one or several scripts, and single underscores between digits.
-/

namespace StubGen.Text

/-- The code points of the digit zero in each script; the nine digits that follow have values 1 to
9. -/
def digitZeros : List Nat :=
  [48, 1632, 1776, 1984, 2406, 2534, 2662, 2790, 2918, 3046, 3174, 3302, 3430, 3558, 3664, 3792,
   3872, 4160, 4240, 6112, 6160, 6470, 6608, 6784, 6800, 6992, 7088, 7232, 7248, 42528, 43216,
   43264, 43472, 43504, 43600, 44016, 65296, 66720, 68912, 69734, 69872, 69942, 70096, 70384, 70736,
   70864, 71248, 71360, 71472, 71904, 72016, 72784, 73040, 73120, 92768, 92864, 93008, 120782,
   120792, 120802, 120812, 120822, 123200, 123632, 125264, 130032]

/-- The value of a decimal digit of any script. -/
def digitValue? (c : Char) : Option Nat :=
  (digitZeros.find? fun z => z ≤ c.toNat ∧ c.toNat < z + 10).map (c.toNat - ·)

/-- The longest run of digits that is still read as an integer. -/
def maxIntegerDigits : Nat := 4300

/-- What is said of an integer with more digits. -/
def longIntegerMessage (digits : Nat) : String :=
  "Exceeds the limit (4300 digits) for integer string conversion: value has " ++ toString digits
    ++ " digits; use sys.set_int_max_str_digits() to increase the limit"

/-- The digits of a numeral in which an underscore may stand between two digits. -/
def groupedDigits? : List Char → Option (List Nat)
  | [] => none
  | [c] => (digitValue? c).map ([·])
  | c :: '_' :: rest => do
    let d ← digitValue? c
    let ds ← groupedDigits? rest
    return d :: ds
  | c :: rest => do
    let d ← digitValue? c
    let ds ← groupedDigits? rest
    return d :: ds

/-- The number that a list of decimal digits denotes, most significant digit first. -/
def ofDigits (digits : List Nat) : Nat := digits.foldl (fun n d => 10 * n + d) 0

/-- The number that the decimal digits of ASCII denote. -/
def ofDecimal (digits : List Char) : Nat := ofDigits (digits.map fun c => c.toNat - 48)

/-- A blank that may surround an integer: the layout characters of ASCII and the blanks beyond it.
-/
def surroundsInteger (c : Char) : Bool :=
  c == ' ' || (9 ≤ c.toNat && c.toNat ≤ 13) || (128 ≤ c.toNat && isBlank c)

/-- The text without the blanks around it that an integer may have. -/
def trimInteger (text : List Char) : List Char :=
  (((text.dropWhile surroundsInteger).reverse).dropWhile surroundsInteger).reverse

/-- Reads an integer as typed, or `none`. -/
def readInt (text : String) : Option Int := do
  let trimmed := trimInteger text.toList
  let (negative, numeral) := match trimmed with
    | '-' :: rest => (true, rest)
    | '+' :: rest => (false, rest)
    | rest => (false, rest)
  let digits ← groupedDigits? numeral
  if digits.length > maxIntegerDigits then none
  else return if negative then -(ofDigits digits : Int) else ofDigits digits

end StubGen.Text
