import StubGen.Service.Request
import StubGen.Settings.Loading

/-!
# Request files

A request file holds a request as a YAML mapping, and so also as a JSON object. A language given on
the command line replaces the one in the file.
-/

namespace StubGen.Command

/-- A reported failure to read a request file. -/
inductive RequestFault where
  | unreadable (path : Files.Path) (e : Files.ReadError)
  | encoding (e : Text.Utf8.DecodeError)
  /-- The text is no YAML document. -/
  | markup (path : Files.Path)
  /-- The text spells a value that does not exist. -/
  | value (e : Yaml.Error)
  | notMapping (path : Files.Path)
  deriving DecidableEq, Repr, Inhabited

/-- The wording of a reported failure. -/
def RequestFault.message : RequestFault → String
  | unreadable path .nullCharacter => Files.ReadError.nullCharacter.message path
  | unreadable path e =>
    "cannot read request file '" ++ path.spelling ++ "': " ++ e.message path
  | encoding e => e.message
  | markup path =>
    "invalid request file '" ++ path.spelling ++ "': " ++ Yaml.Error.markup.message
  | value e => e.message
  | notMapping path => "request file '" ++ path.spelling ++ "' must contain a mapping"

/-- Why there is no request document. -/
inductive RequestError where
  | reported (e : RequestFault)
  | interrupted (i : Interruption)
  deriving DecidableEq, Repr, Inhabited

namespace RequestError

/-- The failure that an error in a YAML text leads to. -/
def ofYaml (path : Files.Path) (e : Yaml.Error) : RequestError :=
  match e.kind with
  | .markup => .reported (.markup path)
  | .value => .reported (.value e)
  | .unexpected => .interrupted (.value e)

end RequestError

def readRequest (files : Files.Source) (path : Files.Path) (language : Option String) :
    Except RequestError Yaml.Document :=
  match Files.readText files path with
  | .error (.access e) => .error (.reported (.unreadable path e))
  | .error (.encoding e) => .error (.reported (.encoding e))
  | .ok text =>
    match Yaml.load text with
    | .error e => .error (.ofYaml path e)
    | .ok document =>
      if (document.entries? document.root).isNone then .error (.reported (.notMapping path))
      else match language with
        | some name => .ok (document.assign "language" (.str name))
        | none => .ok document

end StubGen.Command
