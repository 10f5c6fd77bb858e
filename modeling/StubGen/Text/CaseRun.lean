/-!
# Runs of a case mapping

Most of a case mapping consists of runs: in steps of one or two code points, the distance of a
character to its image stays the same.
-/

namespace StubGen.Text

/-- Ascending runs `(first, last, step, image of first)` of a mapping of code points. -/
abbrev CaseRuns := List (Nat × Nat × Nat × Nat)

/-- The image of a code point, itself if it is in no run. -/
def CaseRuns.image : CaseRuns → Nat → Nat
  | [], n => n
  | (first, last, step, target) :: rest, n =>
    if n < first then n
    else if n ≤ last ∧ (n - first) % step = 0 then target + (n - first)
    else CaseRuns.image rest n

end StubGen.Text
