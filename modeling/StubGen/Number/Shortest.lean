import StubGen.Number.Binary64

/-!
# Shortest decimal numerals

A finite binary value is written with the fewest digits that read back as the same value, the
nearest such numeral if there are several. Numbers from `0.0001` up to `10 ^ 16` are positional and
keep a fraction; all others have an exponent of at least two digits.
-/

namespace StubGen.Binary64

/-- A positive quotient `num / den` against the quotient `a / b`. -/
def quotientLt (num den a b : Nat) : Bool := num * b < a * den

/-- A value with the interval of the numbers that round to it, over one denominator. -/
structure Rounding where
  low : Nat
  mid : Nat
  high : Nat
  den : Nat
  /-- Whether the ends of the interval round to the value. -/
  closed : Bool
  deriving Repr, Inhabited

/-- The interval that rounds to the positive value `m * 2 ^ q`. -/
def Rounding.of (m : Nat) (q : Int) : Rounding :=
  let up := Nat.pow 2 q.toNat
  let lowGap := if m = Nat.pow 2 52 ∧ minExponent < q then 1 else 2
  ⟨(4 * m - lowGap) * up, 4 * m * up, (4 * m + 2) * up, 4 * Nat.pow 2 (-q).toNat, m % 2 = 0⟩

/-- Whether `n * 10 ^ k` rounds to the value. -/
def Rounding.holds (r : Rounding) (n : Nat) (k : Int) : Bool :=
  let a := n * Nat.pow 10 k.toNat
  let b := Nat.pow 10 (-k).toNat
  if r.closed then !quotientLt a b r.low r.den && !quotientLt r.high r.den a b
  else quotientLt r.low r.den a b && quotientLt a b r.high r.den

/-- The multiple of `10 ^ k` that rounds to the value and lies nearest to it, if there is one. -/
def Rounding.onGrid? (r : Rounding) (k : Int) : Option Nat :=
  let num := r.mid * Nat.pow 10 (-k).toNat
  let den := r.den * Nat.pow 10 k.toNat
  let below := num / den
  let above := below + 1
  match r.holds below k && 0 < below, r.holds above k with
  | true, true =>
    let twice := 2 * (num % den)
    some (if twice < den then below else if den < twice then above else below + below % 2)
  | true, false => some below
  | false, true => some above
  | false, false => none

/-- The first grid from `k` down that holds a numeral of the value. -/
def Rounding.search (r : Rounding) : Nat → Int → Nat × Int
  | 0, k => (r.mid / r.den, k)
  | fuel + 1, k =>
    match r.onGrid? k with
    | some n => (n, k)
    | none => r.search fuel (k - 1)

/-- Drops trailing zeros from `n * 10 ^ k`. -/
def dropZeros : Nat → Nat → Int → Nat × Int
  | 0, n, k => (n, k)
  | fuel + 1, n, k => if n % 10 = 0 then dropZeros fuel (n / 10) (k + 1) else (n, k)

/-- The shortest numeral `n * 10 ^ k` of the positive value `m * 2 ^ q`. -/
def shortest (m : Nat) (q : Int) : Nat × Int :=
  let r := Rounding.of m q
  let top : Int := ((r.mid.log2 : Int) - r.den.log2) * 30103 / 100000 + 2
  let (n, k) := r.search 25 top
  dropZeros 25 n k

/-- An exponent with its sign and at least two digits. -/
def exponentText (e : Int) : String :=
  let digits := toString e.natAbs
  (if e < 0 then "e-" else "e+") ++ (if digits.length < 2 then "0" ++ digits else digits)

/-- The numeral of the positive number `n * 10 ^ k`. -/
def layout (n : Nat) (k : Int) : String :=
  let digits := (toString n).toList
  let point : Int := k + digits.length
  if point ≤ -4 ∨ 16 < point then
    let fraction := digits.drop 1
    String.ofList (digits.take 1 ++ (if fraction.isEmpty then [] else '.' :: fraction))
      ++ exponentText (point - 1)
  else if point ≤ 0 then
    String.ofList ("0.".toList ++ List.replicate (-point).toNat '0' ++ digits)
  else if 0 ≤ k then
    String.ofList (digits ++ List.replicate k.toNat '0' ++ ['.', '0'])
  else
    String.ofList (digits.take point.toNat ++ '.' :: digits.drop point.toNat)

/-- How the values beyond the finite ones are written. -/
structure SpecialNames where
  infinity : String
  nan : String

def text (names : SpecialNames) : Binary64 → String
  | finite negative m q =>
    let magnitude := if m = 0 then "0.0" else let (n, k) := shortest m q; layout n k
    if negative then "-" ++ magnitude else magnitude
  | infinity negative => if negative then "-" ++ names.infinity else names.infinity
  | nan => names.nan

def SpecialNames.plain : SpecialNames := ⟨"inf", "nan"⟩

end StubGen.Binary64
