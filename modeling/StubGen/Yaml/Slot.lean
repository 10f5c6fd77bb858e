import StubGen.Yaml.Data

/-!
# The order of sets

The numbers of a set are shown in the order of the slots that they take in a table. The slot of a
number follows from its residue for a modulus that makes equal numbers take equal slots, whole or
not; if it is taken, others are tried. A set with other members keeps the order in which they were
put in.
-/

namespace StubGen.Yaml

namespace Slot

def modulus : Nat := Nat.pow 2 61 - 1

/-- A residue with the sign of its number; minus one is no residue. -/
def signed (negative : Bool) (residue : Nat) : Int :=
  if negative then (if residue = 1 then -2 else -(residue : Int)) else residue

/-- The residue of a number. As a power of two has a period of 61, a negative exponent counts as the
positive one that completes it. -/
def residue? : Data → Option Int
  | .bool b => some (if b then 1 else 0)
  | .int n => some (signed (n < 0) (n.natAbs % modulus))
  | .real (.finite negative m q) =>
    some (signed negative (m * Nat.pow 2 (q % 61).toNat % modulus))
  | .real (.infinity negative) => some (signed negative 314159)
  | _ => none

/-- How many slots a table for some members has: more than twice as many if there are five or more,
and eight otherwise. -/
def tableSize (members : Nat) : Nat :=
  if members < 5 then 8 else Nat.pow 2 ((2 * members).log2 + 1)

/-- How many slots behind one are tried before a jump. -/
def neighbours : Nat := 9

/-- The first free slot from one on; `rest` is what is left of the residue for the next jump, and
`fuel` bounds the jumps. -/
def free (table : Array (Option Data)) : Nat → Nat → Nat → Nat
  | 0, slot, _ => slot
  | fuel + 1, slot, rest =>
    let tried :=
      if slot + neighbours < table.size then List.range' slot (neighbours + 1) else [slot]
    match tried.find? fun i => (table.getD i none).isNone with
    | some i => i
    | none =>
      let rest := rest / 32
      free table fuel ((5 * slot + 1 + rest) % table.size) rest

/-- Puts a member with its residue into a table. -/
def insert (table : Array (Option Data)) (member : Data × Int) : Array (Option Data) :=
  let rest := (member.2 % Nat.pow 2 64).toNat
  table.setIfInBounds (free table (table.size + 13) (rest % table.size) rest) (some member.1)

end Slot

def Data.setOrder (members : List Data) : List Data :=
  match members.mapM fun d => (Slot.residue? d).map (d, ·) with
  | none => members
  | some numbers =>
    let empty := Array.replicate (Slot.tableSize members.length) none
    (numbers.foldl Slot.insert empty).toList.filterMap id

end StubGen.Yaml
