import StubGen.Json.Literal
import StubGen.Text.Block

/-!
# Faults of a document

Reading a document against a schema reports every fault at once. A fault says where it is, what is
wrong there, and which value stands there; for a missing field that is the object that lacks it.
-/

namespace StubGen

inductive Step where
  | key (name : String)
  | index (i : Nat)
  deriving DecidableEq, Repr, Inhabited

def Step.text : Step → String
  | key name => name
  | index i => toString i

/-- A pattern that a whole text has to match. -/
inductive Pattern where
  /-- A letter or an underscore, then letters, digits and underscores, all of them ASCII. -/
  | identifier
  /-- One or more ASCII letters, digits, underscores and hyphens. -/
  | questionId
  deriving DecidableEq, Repr, Inhabited

namespace Pattern

/-- The pattern as a regular expression. -/
def text : Pattern → String
  | identifier => "^[a-zA-Z_][a-zA-Z0-9_]*$"
  | questionId => "^[a-zA-Z0-9_-]+$"

/-- An ASCII letter or an underscore. -/
def isInitial (c : Char) : Bool := c.isAlpha || c == '_'

/-- An ASCII letter, a digit or an underscore. -/
def isWord (c : Char) : Bool := c.isAlphanum || c == '_'

/-- Whether the text matches. -/
def holds : Pattern → List Char → Bool
  | identifier, [] => false
  | identifier, c :: rest => isInitial c && rest.all isWord
  | questionId, text => !text.isEmpty && text.all fun c => isWord c || c == '-'

end Pattern

inductive Problem where
  | missing
  | notString
  /-- A text with a lone half of a pair, or bytes that encode no text. -/
  | notUnicode
  | tooLong (limit : Nat)
  | tooShort
  | patternMismatch (pattern : Pattern)
  /-- An object was wanted, for the record of the given name. -/
  | notRecord (name : String)
  | notTuple
  | tooManyItems (limit actual : Nat)
  | languageNotEnabled (enabled : List String)
  | notPrimitive
  | wrongKind (kind : String)
  /-- A tagged object was wanted. -/
  | notTagged
  | noTag
  | unknownTag (tag : RawText)
  | arrayElement
  /-- The whole document is no object. -/
  | notObject
  deriving DecidableEq, Repr, Inhabited

def Problem.message : Problem → RawText
  | missing => "Field required"
  | notString => "Input should be a valid string"
  | notUnicode =>
    "Input should be a valid string, unable to parse raw data as a unicode string"
  | tooLong limit => "String should have at most " ++ toString limit ++ " characters"
  | tooShort => "String should have at least 1 character"
  | patternMismatch pattern => "String should match pattern '" ++ pattern.text ++ "'"
  | notRecord name => "Input should be a valid dictionary or instance of " ++ name
  | notTuple => "Input should be a valid tuple"
  | tooManyItems limit actual =>
    "Tuple should have at most " ++ toString limit ++ " items after validation, not "
      ++ toString actual
  | languageNotEnabled enabled =>
    "Value error, language must be one of: " ++ Text.joined ", " enabled
  | notPrimitive => "Input should be 'int', 'long', 'float', 'double', 'bool' or 'string'"
  | wrongKind kind => "Input should be '" ++ kind ++ "'"
  | notTagged => "Input should be a valid dictionary or object to extract fields from"
  | noTag => "Unable to extract tag using discriminator 'kind'"
  | unknownTag tag =>
    "Input tag '" ++ tag ++ "' found using 'kind' does not match any of the expected tags: "
      ++ "'primitive', 'array', 'list', 'tree', 'graph'"
  | arrayElement => "Value error, array element type must be a primitive or an array"
  | notObject => "request body must be a JSON object"

structure Fault where
  path : List Step
  problem : Problem
  /-- The value at the path, or the object that lacks the last key of the path. -/
  value : Json
  deriving Repr, Inhabited, BEq

namespace Fault

/-- The path, its steps separated by dots. -/
def field (f : Fault) : String := Text.joined "." (f.path.map Step.text)

/-- The wording of a fault, without its place. -/
def message (f : Fault) : RawText := f.problem.message

/-- The fault as seen from a value that holds the faulty one. -/
def under (step : Step) (f : Fault) : Fault := { f with path := step :: f.path }

end Fault

end StubGen
