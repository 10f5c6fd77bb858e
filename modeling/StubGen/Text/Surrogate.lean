/-!
# Code points

A character beyond the basic plane has the form of a pair of two numbers below 65536, a high half
and a low one. A code point is a character, or one of these halves on its own.
-/

namespace StubGen.Text

def isHighHalf (n : Nat) : Bool := 0xD800 ≤ n && n < 0xDC00

def isLowHalf (n : Nat) : Bool := 0xDC00 ≤ n && n < 0xE000

def ofHalves (high low : Nat) : Char :=
  Char.ofNat (0x10000 + (high - 0xD800) * 0x400 + (low - 0xDC00))

/-- The pair of a character beyond the basic plane. -/
def halves (c : Char) : Nat × Nat :=
  let n := c.toNat - 0x10000
  (0xD800 + n / 0x400, 0xDC00 + n % 0x400)

def replacement : Char := '\uFFFD'

end StubGen.Text

namespace StubGen

structure Half where
  /-- The distance from the first of the halves. -/
  offset : Fin 2048
  deriving DecidableEq, Repr, Inhabited

namespace Half

def code (h : Half) : Nat := 0xD800 + h.offset

def ofCode? (n : Nat) : Option Half :=
  if h : 0xD800 ≤ n ∧ n < 0xE000 then some ⟨⟨n - 0xD800, by omega⟩⟩ else none

end Half

/-- A character, or a half of a pair on its own. -/
inductive CodePoint where
  | char (c : Char)
  | half (h : Half)
  deriving DecidableEq, Repr, Inhabited

namespace CodePoint

instance : Coe Char CodePoint := ⟨char⟩

def ofNat? (n : Nat) : Option CodePoint :=
  match Half.ofCode? n with
  | some h => some (half h)
  | none => if n < 0x110000 then some (char (Char.ofNat n)) else none

def char? : CodePoint → Option Char
  | char c => some c
  | half _ => none

end CodePoint

end StubGen
