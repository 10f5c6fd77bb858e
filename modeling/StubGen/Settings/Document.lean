import StubGen.Log.Setup
import StubGen.Settings.Basic
import StubGen.Yaml.Construction

/-!
# Settings from a document

`Settings.ofDocument` reads settings from a YAML document. The keys are checked in a fixed order and
the first invalid one is reported; an absent key keeps its default, and unknown keys have no
meaning.
-/

namespace StubGen

/-- Why a document describes no settings. -/
inductive SettingsFault where
  | notMapping
  | notString (key : String)
  | notInteger (key : String)
  | unknownEnvironment
  | noLanguages
  | languageNotString (index : Nat)
  | languageNotAvailable (index : Nat) (name : RawText) (available : List String)
  | depthTooSmall
  | unknownLogLevel (name : RawText)
  | serverNotMapping
  /-- A fault of the server's settings. -/
  | hostNotString
  | portNotInteger
  | portOutOfRange
  deriving DecidableEq, Repr, Inhabited

namespace Settings

def environments : List String := ["development", "production", "test"]

def maxPort : Int := 65535

end Settings

/-- The wording of a fault in the document with the given label. -/
def SettingsFault.message (label : String) : SettingsFault → RawText
  | notMapping => label ++ ": configuration must be a YAML mapping"
  | notString key => label ++ ": '" ++ key ++ "' must be a string"
  | notInteger key => label ++ ": '" ++ key ++ "' must be an integer"
  | unknownEnvironment =>
    label ++ ": 'environment' must be one of: " ++ Text.joined ", " Settings.environments
  | noLanguages => label ++ ": 'languages' must be a non-empty list"
  | languageNotString index => label ++ ": languages[" ++ toString index ++ "] must be a string"
  | languageNotAvailable index name available =>
    RawText.whole (label ++ ": languages[" ++ toString index ++ "] '") ++ name
      ++ RawText.whole
        ("' is not a supported language (available: " ++ Text.joined ", " available ++ ")")
  | depthTooSmall => label ++ ": 'max-nesting-depth' must be at least 1"
  | unknownLogLevel name =>
    RawText.whole (label ++ ": unknown log level '") ++ name ++ RawText.whole "'"
  | serverNotMapping => label ++ ": server must be a YAML mapping"
  | hostNotString => label ++ ": server: 'host' must be a string"
  | portNotInteger => label ++ ": server: 'port' must be an integer"
  | portOutOfRange =>
    label ++ ": server: 'port' must be between 1 and " ++ toString Settings.maxPort

namespace Settings

open Yaml (Data Document)

/-- The text of a key of a mapping, or the default if the key is absent. -/
def textOf (d : Document) (mapping : Data) (key : String) (otherwise : RawText)
    (fault : SettingsFault) : Except SettingsFault RawText :=
  match d.get? mapping key with
  | none => .ok otherwise
  | some (.str t) => .ok t
  | some _ => .error fault

/-- The integer of a key of a mapping, or the default if the key is absent; truth values are no
integers. -/
def integerOf (d : Document) (mapping : Data) (key : String) (otherwise : Int)
    (fault : SettingsFault) : Except SettingsFault Int :=
  match d.get? mapping key with
  | none => .ok otherwise
  | some (.int n) => .ok n
  | some _ => .error fault

def environmentOf (d : Document) (otherwise : String) : Except SettingsFault String := do
  let name ← textOf d d.root "environment" otherwise (.notString "environment")
  match environments.find? (name = RawText.whole ·) with
  | some environment => return environment
  | none => throw .unknownEnvironment

/-- Reads a list of languages, in which the first item has the given index. -/
def namesOf (r : Registry) : Nat → List Data → Except SettingsFault (List String)
  | _, [] => .ok []
  | index, .str name :: rest =>
    match name.toString?.filter r.isRegistered with
    | some language => (namesOf r (index + 1) rest).map (language :: ·)
    | none => .error (.languageNotAvailable index name r.languages)
  | index, _ :: _ => .error (.languageNotString index)

/-- Reads the enabled languages; a repeated name counts once. A list of pairs has no language. -/
def languagesOf (r : Registry) (d : Document) (otherwise : List String) :
    Except SettingsFault (List String) :=
  match d.get? d.root "languages" with
  | none => .ok otherwise
  | some (.collection p) =>
    match d.collection p with
    | .list (item :: rest) => (namesOf r 0 (item :: rest)).map List.eraseDups
    | .pairs (_ :: _) => .error (.languageNotString 0)
    | _ => .error .noLanguages
  | some _ => .error .noLanguages

def depthOf (d : Document) (otherwise : Int) : Except SettingsFault Int := do
  let depth ← integerOf d d.root "max-nesting-depth" otherwise (.notInteger "max-nesting-depth")
  if depth < 1 then throw .depthTooSmall else return depth

/-- The upper-case form of the name of a log level. -/
def readLogLevel (name : RawText) : Except SettingsFault String :=
  match name.toString?.map Text.upper with
  | some upper =>
    match Log.Level.ofName? upper with
    | some _ => .ok upper
    | none => .error (.unknownLogLevel name)
  | none => .error (.unknownLogLevel name)

def logLevelOf (d : Document) (otherwise : String) : Except SettingsFault String := do
  readLogLevel (← textOf d d.root "log-level" otherwise (.notString "log-level"))

def serverOf (d : Document) (otherwise : ServerAddress) : Except SettingsFault ServerAddress :=
  match d.get? d.root "server" with
  | none => .ok otherwise
  | some server => do
    if (d.entries? server).isNone then throw .serverNotMapping
    let host ← textOf d server "host" otherwise.host .hostNotString
    let port ← integerOf d server "port" otherwise.port .portNotInteger
    if 1 ≤ port ∧ port ≤ maxPort then return ⟨host, port⟩ else throw .portOutOfRange

/-- The settings that a document describes; an empty document describes the default. -/
def ofDocument (r : Registry) (d : Document) : Except SettingsFault Settings := do
  let base := Settings.default r
  if d.root = .null then return base
  if (d.entries? d.root).isNone then throw .notMapping
  let environment ← environmentOf d base.environment
  let languages ← languagesOf r d base.languages
  let depth ← depthOf d base.maxNestingDepth
  let logLevel ← logLevelOf d base.logLevel
  let server ← serverOf d base.server
  return ⟨environment, languages, depth, logLevel, server⟩

end Settings

end StubGen
