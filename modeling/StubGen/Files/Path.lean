import StubGen.Text.Block

/-!
# Paths

A path is kept without empty parts and without parts that stay where they are; the empty path is the
working directory itself.
-/

namespace StubGen.Files

structure Path where
  /-- The slashes in front: one or two, or none for a path from the working directory. -/
  root : String
  parts : List String
  deriving DecidableEq, Repr, Inhabited

namespace Path

/-- The parts between slashes; `part` is the one begun. -/
def splitFrom (part : List Char) : List Char → List (List Char)
  | [] => [part]
  | '/' :: rest => part :: splitFrom [] rest
  | c :: rest => splitFrom (part ++ [c]) rest

/-- The slashes that count in front of a path; three and more count as one. -/
def rootOf : List Char → String
  | '/' :: '/' :: '/' :: _ => "/"
  | '/' :: '/' :: _ => "//"
  | '/' :: _ => "/"
  | _ => ""

/-- Whether a part leads somewhere. -/
def isStep (part : List Char) : Bool := !(part.isEmpty || part == ['.'])

def ofString (text : String) : Path where
  root := rootOf text.toList
  parts := ((splitFrom [] text.toList).filter isStep).map String.ofList

def spelling (p : Path) : String :=
  if p.root.isEmpty && p.parts.isEmpty then "." else p.root ++ Text.joined "/" p.parts

/-- A file in a directory. -/
def child (p : Path) (name : String) : Path := ⟨p.root, p.parts ++ [name]⟩

end Path

end StubGen.Files
