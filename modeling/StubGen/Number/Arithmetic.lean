import StubGen.Number.Binary64

/-!
# Arithmetic of binary floating-point numbers

Sums and products are exact results rounded once, ties to the even mantissa. A zero that is the sum
of numbers with different signs is positive.
-/

namespace StubGen.Binary64

/-- The number with the opposite sign. -/
def neg : Binary64 → Binary64
  | finite negative m q => finite (!negative) m q
  | infinity negative => infinity (!negative)
  | nan => nan

/-- A number, or its opposite. -/
def signed (negative : Bool) (x : Binary64) : Binary64 := if negative then x.neg else x

/-- The value nearest to a natural number. -/
def ofNat (n : Nat) : Binary64 := ofQuotient false n 1

def isInfinite : Binary64 → Bool
  | infinity _ => true
  | _ => false

/-- The value nearest to `n * 2 ^ q`; a zero takes the given sign. -/
def ofScaled (zeroNegative : Bool) (n : Int) (q : Int) : Binary64 :=
  let negative := if n = 0 then zeroNegative else decide (n < 0)
  ofQuotient negative (n.natAbs * Nat.pow 2 q.toNat) (Nat.pow 2 (-q).toNat)

def signedMantissa (negative : Bool) (m : Nat) : Int := if negative then -(m : Int) else m

/-- The sum of two numbers. -/
def add : Binary64 → Binary64 → Binary64
  | finite s m q, finite t n r =>
    let low := min q r
    ofScaled (s && t)
      (signedMantissa s m * Nat.pow 2 (q - low).toNat +
        signedMantissa t n * Nat.pow 2 (r - low).toNat) low
  | infinity s, infinity t => if s = t then infinity s else nan
  | nan, _ | _, nan => nan
  | infinity s, _ => infinity s
  | _, infinity t => infinity t

/-- The product of two numbers. -/
def mul : Binary64 → Binary64 → Binary64
  | finite s m q, finite t n r => ofScaled (s != t) (signedMantissa (s != t) (m * n)) (q + r)
  | nan, _ | _, nan => nan
  | infinity s, finite t n _ | finite s n _, infinity t =>
    if n = 0 then nan else infinity (s != t)
  | infinity s, infinity t => infinity (s != t)

/-- The integer that a number is, if it is one. -/
def integer? : Binary64 → Option Int
  | finite negative m q =>
    let den := Nat.pow 2 (-q).toNat
    if m % den = 0 then some (signedMantissa negative (m / den * Nat.pow 2 q.toNat)) else none
  | _ => none

end StubGen.Binary64
