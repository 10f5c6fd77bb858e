import StubGen.Schema.Fault
import StubGen.Text.Utf8

/-!
# Reading with collected faults

`Checked.both` reads two parts of a document and keeps the faults of both, in order; an ordinary
sequence of reads would stop at the first.
-/

namespace StubGen

/-- A value, or the faults that kept it from being read. -/
abbrev Checked (α : Type) := Except (List Fault) α

def Problem.at {α : Type} (problem : Problem) (value : Json) : Checked α :=
  .error [⟨[], problem, value⟩]

namespace Checked

/-- Both values, or all faults. -/
def both {α β : Type} : Checked α → Checked β → Checked (α × β)
  | .ok a, .ok b => .ok (a, b)
  | .ok _, .error fs => .error fs
  | .error fs, .ok _ => .error fs
  | .error fs, .error gs => .error (fs ++ gs)

/-- The faults, none if the value was read. -/
def faults {α : Type} : Checked α → List Fault
  | .ok _ => []
  | .error fs => fs

/-- The result as seen from a value that holds the one read. -/
def under {α : Type} (step : Step) (result : Checked α) : Checked α :=
  result.mapError fun fs => fs.map (Fault.under step)

end Checked

namespace Json

def required {α : Type} (fields : Fields) (name : String) (read : Json → Checked α) : Checked α :=
  match lookup name fields with
  | some value => (read value).under (.key name)
  | none => .error [⟨[.key name], .missing, obj fields⟩]

/-- Reads any text; bytes count as the text that they encode. -/
def anyText : Json → Checked RawText
  | str t => .ok t
  | bytes content =>
    match Text.Utf8.decode content with
    | .ok s => .ok s
    | .error _ => Problem.notUnicode.at (bytes content)
  | j => Problem.notString.at j

/-- Reads a text in which no half of a pair stands alone. -/
def wholeText (j : Json) : Checked String := do
  match (← j.anyText).toString? with
  | some s => return s
  | none => Problem.notUnicode.at j

end Json

/-- The constraints on a string that may not be empty. -/
structure TextRule where
  maxLength : Nat
  pattern : Option Pattern
  deriving DecidableEq, Repr, Inhabited

namespace TextRule

/-- The first constraint that a text violates. -/
def violation? (rule : TextRule) (text : List Char) : Option Problem :=
  if rule.maxLength < text.length then some (.tooLong rule.maxLength)
  else if text.isEmpty then some .tooShort
  else match rule.pattern with
    | some pattern => if pattern.holds text then none else some (.patternMismatch pattern)
    | none => none

def read (rule : TextRule) (j : Json) : Checked String := do
  let s ← j.wholeText
  match rule.violation? s.toList with
  | none => return s
  | some problem => problem.at j

end TextRule

end StubGen
