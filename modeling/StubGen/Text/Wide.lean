import StubGen.Text.Surrogate
import StubGen.Text.Utf8

/-!
# Texts in wide units

A text that begins with two characters of ASCII shows by its zero bytes whether its characters have
one, two or four bytes each, and in which order. `decodeAny?` reads a text in whichever form it has.
-/

namespace StubGen.Text.Wide

/-- A form of text with units of several bytes. -/
structure Form where
  /-- The bytes of a unit. -/
  width : Nat
  /-- Whether the byte that weighs most stands first. -/
  bigEndian : Bool
  deriving DecidableEq, Repr, Inhabited

/-- The form that the zero bytes at the start of a text show. -/
def Form.ofBytes? : List UInt8 → Option Form
  | a :: b :: c :: d :: _ =>
    if a = 0 then some ⟨if b = 0 then 4 else 2, true⟩
    else if b = 0 then some ⟨if c = 0 ∧ d = 0 then 4 else 2, false⟩
    else none
  | [a, b] =>
    if a = 0 then some ⟨2, true⟩ else if b = 0 then some ⟨2, false⟩ else none
  | _ => none

def Form.unit (form : Form) (bytes : List UInt8) : Nat :=
  (if form.bigEndian then bytes else bytes.reverse).foldl (fun n b => 256 * n + b.toNat) 0

/-- The units of bytes, if they are complete; `fuel` bounds their number. -/
def Form.units? (form : Form) : Nat → List UInt8 → Option (List Nat)
  | _, [] => some []
  | 0, _ => none
  | fuel + 1, bytes =>
    if bytes.length < form.width then none
    else (form.units? fuel (bytes.drop form.width)).map (form.unit (bytes.take form.width) :: ·)

/-- The characters of units, of which two may be a pair; a half on its own is no character. -/
def characters? : List Nat → Option (List Char)
  | [] => some []
  | [n] => ((CodePoint.ofNat? n).bind CodePoint.char?).map ([·])
  | high :: low :: rest =>
    if isHighHalf high && isLowHalf low then (characters? rest).map (ofHalves high low :: ·)
    else do
      let c ← (CodePoint.ofNat? high).bind CodePoint.char?
      return c :: (← characters? (low :: rest))

def Form.decode? (form : Form) (bytes : List UInt8) : Option String := do
  let units ← form.units? bytes.length bytes
  if form.width = 2 then (characters? units).map String.ofList
  else (units.mapM fun n => (CodePoint.ofNat? n).bind CodePoint.char?).map String.ofList

end StubGen.Text.Wide

namespace StubGen.Text

/-- The text of bytes in the form that they show, which is UTF-8 unless there are zero bytes. -/
def decodeAny? (bytes : List UInt8) : Option String :=
  match Wide.Form.ofBytes? bytes with
  | some form => form.decode? bytes
  | none => (Utf8.decode bytes).toOption

end StubGen.Text
