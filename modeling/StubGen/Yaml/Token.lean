import StubGen.Text.Raw

/-!
# Tokens of a YAML text

The tokens say where collections start and end: in flow style by brackets, in block style by the
indentation.
-/

namespace StubGen.Yaml

/-- A directive before a document. -/
inductive Directive where
  | version (major : Nat)
  | tag (handle beginning : String)
  | other
  deriving DecidableEq, Repr, Inhabited

inductive Token where
  | streamEnd
  | directive (d : Directive)
  | documentStart
  | documentEnd
  | blockSequenceStart
  | blockMappingStart
  | blockEnd
  | flowSequenceStart
  | flowSequenceEnd
  | flowMappingStart
  | flowMappingEnd
  | blockEntry
  | flowEntry
  | key
  | value
  | alias (name : String)
  | anchor (name : String)
  /-- A tag: a handle, if there is one, and the rest. -/
  | tag (handle : Option String) (suffix : String)
  /-- A text; plain ones stand without quotes. -/
  | scalar (text : RawText) (plain : Bool)
  deriving DecidableEq, Repr, Inhabited

end StubGen.Yaml
