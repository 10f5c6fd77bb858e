/-!
# Base 64

Bytes in digits of six bits. Characters that are no digits are passed over, and a text may end early
in a group of four digits if signs of padding fill the group.
-/

namespace StubGen.Text.Base64

def digitValue? (c : Char) : Option Nat :=
  if c.isUpper then some (c.toNat - 65)
  else if c.isLower then some (c.toNat - 71)
  else if c.isDigit then some (c.toNat + 4)
  else if c == '+' then some 62
  else if c == '/' then some 63
  else none

/-- The byte that a digit completes behind those of its group, of which the last comes first. -/
def byte? (digit : Nat) : List Nat → Option UInt8
  | [] => none
  | last :: earlier =>
    some (.ofNat (last * Nat.pow 4 (earlier.length + 1) + digit / Nat.pow 4 (2 - earlier.length)))

/-- The bytes that a text completes behind the digits of a group, of which the last comes first, and
the given number of signs of padding. -/
def decodeFrom? (group : List Nat) (padding : Nat) : List Char → Option (List UInt8)
  | [] => if group.isEmpty then some [] else none
  | c :: rest =>
    if c = '=' then
      if group.length < 2 then decodeFrom? group padding rest
      else if group.length + padding < 3 then decodeFrom? group (padding + 1) rest
      else some []
    else match digitValue? c with
      | none => decodeFrom? group padding rest
      | some digit =>
        let more := decodeFrom? (if group.length < 3 then digit :: group else []) 0 rest
        match byte? digit group with
        | none => more
        | some b => more.map (b :: ·)

/-- The bytes that a text encodes. -/
def decode? (text : List Char) : Option (List UInt8) := decodeFrom? [] 0 text

end StubGen.Text.Base64
