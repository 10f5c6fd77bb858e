import StubGen.Files.Path
import StubGen.Text.Quoted
import StubGen.Text.Utf8

/-!
# Reading text files

`readText` reads a file as UTF-8 text in which every kind of line break counts as a line feed. It
can fail because there is no such file to read, or because the bytes are no text.
-/

namespace StubGen.Files

/-- Why there are no bytes to read. -/
inductive ReadError where
  | missing
  | notDirectory
  | isDirectory
  | nameTooLong
  /-- The path holds a null character. -/
  | nullCharacter
  /-- Another cause, with the number and the words that the system has for it. -/
  | refused (number : Nat) (reason : String)
  deriving DecidableEq, Repr, Inhabited

/-- The wording of a failure to open a path. -/
def ReadError.message (path : Path) (e : ReadError) : String :=
  let numbered (number : Nat) (reason : String) : String :=
    "[Errno " ++ toString number ++ "] " ++ reason ++ ": " ++ Text.quoted path.spelling
  match e with
  | missing => numbered 2 "No such file or directory"
  | notDirectory => numbered 20 "Not a directory"
  | isDirectory => numbered 21 "Is a directory"
  | nameTooLong => numbered 36 "File name too long"
  | nullCharacter => "embedded null byte"
  | refused number reason => numbered number reason

/-- What can be read under each path. -/
abbrev Source := Path → Except ReadError (List UInt8)

/-- Whether there is something under a path. -/
def has (files : Source) (path : Path) : Bool :=
  match files path with
  | .ok _ | .error .isDirectory | .error (.refused _ _) => true
  | .error _ => false

/-- Why there is no text to read. -/
inductive TextError where
  | access (e : ReadError)
  | encoding (e : Text.Utf8.DecodeError)
  deriving DecidableEq, Repr, Inhabited

/-- The text with a line feed for each line break. -/
def unifyBreaks : List Char → List Char
  | [] => []
  | '\r' :: '\n' :: rest => '\n' :: unifyBreaks rest
  | '\r' :: rest => '\n' :: unifyBreaks rest
  | c :: rest => c :: unifyBreaks rest

def readText (files : Source) (path : Path) : Except TextError String :=
  match files path with
  | .error e => .error (.access e)
  | .ok bytes =>
    match Text.Utf8.decode bytes with
    | .error e => .error (.encoding e)
    | .ok text => .ok (String.ofList (unifyBreaks text.toList))

end StubGen.Files
