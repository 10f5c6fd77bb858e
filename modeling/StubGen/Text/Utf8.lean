import StubGen.Text.Hex
import StubGen.Text.Surrogate

/-!
# Decoding UTF-8

`decode` reads bytes strictly and reports the first fault with the bytes that cause it;
`decodeLossy` puts a replacement character in place of each faulty sequence and goes on.
-/

namespace StubGen.Text.Utf8

/-- Why bytes are no UTF-8 text. -/
inductive Defect where
  | invalidStart
  | invalidContinuation
  | unexpectedEnd
  deriving DecidableEq, Repr, Inhabited

/-- A defect and the bytes that it concerns. -/
structure DecodeError where
  defect : Defect
  firstByte : UInt8
  position : Nat
  count : Nat
  deriving DecidableEq, Repr, Inhabited

def DecodeError.message (e : DecodeError) : String :=
  let place :=
    if e.count = 1 then
      "byte 0x" ++ String.ofList (hex 2 e.firstByte.toNat) ++ " in position " ++ toString e.position
    else "bytes in position " ++ toString e.position ++ "-" ++ toString (e.position + e.count - 1)
  let defect := match e.defect with
    | .invalidStart => "invalid start byte"
    | .invalidContinuation => "invalid continuation byte"
    | .unexpectedEnd => "unexpected end of data"
  "'utf-8' codec can't decode " ++ place ++ ": " ++ defect

/-- How many bytes follow a start byte, and the range of the first of them. -/
def startRule (b : UInt8) : Option (Nat × UInt8 × UInt8) :=
  if b < 0x80 then some (0, 0, 0)
  else if b < 0xC2 then none
  else if b < 0xE0 then some (1, 0x80, 0xBF)
  else if b = 0xE0 then some (2, 0xA0, 0xBF)
  else if b = 0xED then some (2, 0x80, 0x9F)
  else if b < 0xF0 then some (2, 0x80, 0xBF)
  else if b = 0xF0 then some (3, 0x90, 0xBF)
  else if b < 0xF4 then some (3, 0x80, 0xBF)
  else if b = 0xF4 then some (3, 0x80, 0x8F)
  else none

/-- How many of the next bytes, `count` at most, continue a sequence; the first has to lie between
`low` and `high`. -/
def continuing (low high : UInt8) : Nat → List UInt8 → Nat
  | 0, _ | _, [] => 0
  | count + 1, b :: rest =>
    if low ≤ b && b ≤ high then continuing 0x80 0xBF count rest + 1 else 0

/-- The first character of non-empty bytes with the number of its bytes, or the defect of the first
sequence with the number of faulty bytes. -/
def step (b : UInt8) (rest : List UInt8) : Except (Defect × Nat) (Char × Nat) :=
  match startRule b with
  | none => .error (.invalidStart, 1)
  | some (count, low, high) =>
    let valid := continuing low high count rest
    if valid = count then
      let lead := if count = 0 then b.toNat else b.toNat % Nat.pow 2 (6 - count)
      let value := (rest.take count).foldl (fun n c => 64 * n + c.toNat % 64) lead
      .ok (Char.ofNat value, count + 1)
    else if valid = rest.length then .error (.unexpectedEnd, valid + 1)
    else .error (.invalidContinuation, valid + 1)

/-- Decodes bytes; `fuel` bounds the number of characters. -/
def decodeFrom : Nat → Nat → List UInt8 → Except DecodeError (List Char)
  | _, _, [] | 0, _, _ => .ok []
  | fuel + 1, position, b :: rest =>
    match step b rest with
    | .ok (c, count) =>
      (decodeFrom fuel (position + count) (rest.drop (count - 1))).map (c :: ·)
    | .error (defect, count) => .error ⟨defect, b, position, count⟩

def decode (bytes : List UInt8) : Except DecodeError String :=
  (decodeFrom bytes.length 0 bytes).map String.ofList

/-- Decodes bytes with replacements; `fuel` bounds the number of characters. -/
def decodeLossyFrom : Nat → List UInt8 → List Char
  | _, [] | 0, _ => []
  | fuel + 1, b :: rest =>
    match step b rest with
    | .ok (c, count) => c :: decodeLossyFrom fuel (rest.drop (count - 1))
    | .error (_, count) => replacement :: decodeLossyFrom fuel (rest.drop (count - 1))

/-- The text that bytes encode, with replacement characters for what is no UTF-8. -/
def decodeLossy (bytes : List UInt8) : String := String.ofList (decodeLossyFrom bytes.length bytes)

end StubGen.Text.Utf8
