/-!
# Binary floating-point numbers

`Binary64` holds the values of the 64-bit binary format as exact numbers `m * 2 ^ q`. A decimal
numeral is read as the nearest value, ties to the even mantissa.
-/

namespace StubGen

/-- A value of the 64-bit binary format. -/
inductive Binary64 where
  /-- `mantissa * 2 ^ exponent` with its sign. -/
  | finite (negative : Bool) (mantissa : Nat) (exponent : Int)
  | infinity (negative : Bool)
  | nan
  deriving DecidableEq, Repr, Inhabited

namespace Binary64

/-- The mantissa stays below this bound. -/
def mantissaBound : Nat := Nat.pow 2 53

/-- The exponent of the smallest positive value. -/
def minExponent : Int := -1074

/-- The exponent of the largest finite values. -/
def maxExponent : Int := 971

/-- The quotient rounded to the nearest integer, ties to even. -/
def roundQuotient (num den : Nat) : Nat :=
  let q := num / den
  let twice := 2 * (num % den)
  if twice < den then q else if den < twice then q + 1 else q + q % 2

/-- `num / den * 2 ^ (-q)` rounded to the nearest integer, ties to even. -/
def scaled (num den : Nat) (q : Int) : Nat :=
  if 0 ≤ q then roundQuotient num (den * Nat.pow 2 q.toNat)
  else roundQuotient (num * Nat.pow 2 (-q).toNat) den

/-- The value nearest to a quotient, ties to the even mantissa. -/
def ofQuotient (negative : Bool) (num den : Nat) : Binary64 :=
  if num = 0 then finite negative 0 minExponent
  else
    let estimate : Int := (num.log2 : Int) - den.log2 - 53
    let q := max estimate minExponent
    let q := if scaled num den q < mantissaBound then q else q + 1
    let q := if scaled num den q < mantissaBound then q else q + 1
    let m := scaled num den q
    if maxExponent < q then infinity negative else finite negative m q

/-- The value nearest to `digits * 10 ^ exponent`; `width` bounds the number of digits. Numerals far
beyond either end of the range are not computed with. -/
def ofDecimal (negative : Bool) (digits width : Nat) (exponent : Int) : Binary64 :=
  if digits = 0 then finite negative 0 minExponent
  else if 400 < exponent + (digits.log2 / 4 : Nat) then infinity negative
  else if exponent + width < -400 then finite negative 0 minExponent
  else ofQuotient negative (digits * Nat.pow 10 exponent.toNat) (Nat.pow 10 (-exponent).toNat)

end Binary64

end StubGen
