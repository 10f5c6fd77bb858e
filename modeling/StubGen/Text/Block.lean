import StubGen.Text.Blank

/-!
# Blocks of text

A generated file is a sequence of blocks. `joinBlocks` drops the blocks that are blank, trims the
line breaks at the ends of the others, and puts one blank line between neighbours.
-/

namespace StubGen.Text

def joined (separator : String) : List String → String
  | [] => ""
  | [s] => s
  | s :: rest => s ++ separator ++ joined separator rest

/-- Lines without a line break after the last one. -/
def lines (ls : List String) : String := joined "\n" ls

/-- Lines with a line break after each. -/
def unlines : List String → String
  | [] => ""
  | l :: rest => l ++ "\n" ++ unlines rest

/-- Without the leading characters that satisfy `p`. -/
def trimLeft (p : Char → Bool) (text : List Char) : List Char := text.dropWhile p

/-- Without the trailing characters that satisfy `p`. -/
def trimRight (p : Char → Bool) (text : List Char) : List Char := (text.reverse.dropWhile p).reverse

/-- Without the line breaks at both ends. -/
def trimBreaks (text : List Char) : List Char :=
  trimRight (· == '\n') (trimLeft (· == '\n') text)

def joinBlockChars (blocks : List (List Char)) : List Char :=
  ['\n', '\n'].intercalate ((blocks.filter fun b => !allBlank b).map trimBreaks)

/-- Blocks with one blank line between them. -/
def joinBlocks (blocks : List String) : String :=
  String.ofList (joinBlockChars (blocks.map String.toList))

end StubGen.Text
