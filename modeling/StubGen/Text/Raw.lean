import StubGen.Text.Surrogate

/-!
# Texts with halves of pairs

Escapes in a document can name halves of surrogate pairs that stand alone, and no `String` holds
them. A `RawText` is a `String`, or several with such halves between them. Every sequence of code
points has exactly one such form.
-/

namespace StubGen

/-- A text in which halves of surrogate pairs may stand alone. -/
inductive RawText where
  | whole (s : String)
  /-- A text up to the first such half, and the text after it. -/
  | broken (before : String) (half : Half) (rest : RawText)
  deriving DecidableEq, Repr, Inhabited

namespace RawText

instance : Coe String RawText := ⟨whole⟩

/-- The text as a `String`, if no half stands alone. -/
def toString? : RawText → Option String
  | whole s => some s
  | broken _ _ _ => none

theorem toString?_eq_some_iff {t : RawText} {s : String} : t.toString? = some s ↔ t = whole s := by
  cases t <;> simp [toString?]

def append : RawText → RawText → RawText
  | whole s, whole t => whole (s ++ t)
  | whole s, broken before h rest => broken (s ++ before) h rest
  | broken before h rest, t => broken before h (rest.append t)

instance : Append RawText := ⟨append⟩

def joined (separator : String) : List RawText → RawText
  | [] => whole ""
  | [t] => t
  | t :: rest => t ++ (whole separator ++ joined separator rest)

def points : RawText → List CodePoint
  | whole s => s.toList.map .char
  | broken before h rest => before.toList.map .char ++ .half h :: rest.points

/-- The text of code points; `done` holds the characters before them, the last one first. -/
def ofPointsFrom (done : List Char) : List CodePoint → RawText
  | [] => whole (String.ofList done.reverse)
  | .char c :: rest => ofPointsFrom (c :: done) rest
  | .half h :: rest => broken (String.ofList done.reverse) h (ofPointsFrom [] rest)

def ofPoints (points : List CodePoint) : RawText := ofPointsFrom [] points

/-- A function of the parts between the halves. -/
def mapParts (f : String → String) : RawText → RawText
  | whole s => whole (f s)
  | broken before h rest => broken (f before) h (rest.mapParts f)

def contains (t : RawText) (c : Char) : Bool :=
  match t with
  | whole s => s.toList.contains c
  | broken before _ rest => before.toList.contains c || rest.contains c

/-- The text with a replacement character for each half. -/
def lossy : RawText → String
  | whole s => s
  | broken before _ rest => before ++ String.singleton Text.replacement ++ rest.lossy

/-- Putting a text after the empty one changes nothing. -/
@[simp] theorem whole_empty_append (t : RawText) : whole "" ++ t = t := by
  cases t <;> simp [HAppend.hAppend, Append.append, append] <;> rfl

end RawText

end StubGen
