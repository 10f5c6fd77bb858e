import StubGen.Text.Range

/-!
# Blank characters

White space in the sense of the bidirectional classes WS, B and S together with the space
separators: wider than the control characters of ASCII, and with the four information separators.
-/

namespace StubGen.Text

/-- The code points of white space. -/
def blanks : Ranges :=
  [(9, 13), (28, 32), (133, 133), (160, 160), (5760, 5760), (8192, 8202), (8232, 8233),
   (8239, 8239), (8287, 8287), (12288, 12288)]

/-- A white-space character. -/
def isBlank (c : Char) : Bool := blanks.holds c.toNat

/-- A text of white space only. -/
def allBlank (text : List Char) : Bool := text.all isBlank

end StubGen.Text
