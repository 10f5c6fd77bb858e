/-!
# Sets of code points

A set of code points is written as the ascending list of its inclusive ranges.
-/

namespace StubGen.Text

/-- Ascending, disjoint, inclusive ranges of code points. -/
abbrev Ranges := List (Nat × Nat)

/-- Membership in ascending ranges; the search stops at the first range that starts too high. -/
def Ranges.holds : Ranges → Nat → Bool
  | [], _ => false
  | (first, last) :: rest, n => if n < first then false else n ≤ last || Ranges.holds rest n

end StubGen.Text
