import StubGen.Files.Reading
import StubGen.Settings.Document

/-!
# Loading settings

Settings come from a file or are the default; a variable of the environment may replace the log
level of either. Most failures are reported as such. Those that are not come from a value that the
document spells but that does not exist, from bytes that are no text, or from a path that cannot be
spelled.
-/

namespace StubGen

/-- A reported failure to load settings. -/
inductive SettingsError where
  | missing (path : Files.Path)
  | unreadable (path : Files.Path) (e : Files.ReadError)
  /-- The text is no YAML document. -/
  | markup (label : String)
  | fault (label : String) (fault : SettingsFault)
  deriving DecidableEq, Repr, Inhabited

/-- The wording of a reported failure. -/
def SettingsError.message : SettingsError → RawText
  | missing path => RawText.whole ("Config file not found: " ++ path.spelling)
  | unreadable path e => RawText.whole ("Cannot read config file: " ++ e.message path)
  | markup label => RawText.whole ("Invalid YAML in " ++ label ++ ": " ++ Yaml.Error.markup.message)
  | fault label f => f.message label

/-- A failure that no report explains. -/
inductive Interruption where
  | value (e : Yaml.Error)
  | encoding (e : Text.Utf8.DecodeError)
  | path (p : Files.Path) (e : Files.ReadError)
  /-- A table that is to be printed has no rows. -/
  | emptyTable
  deriving DecidableEq, Repr, Inhabited

/-- The wording of a failure that interrupts a run. -/
def Interruption.message : Interruption → String
  | value e => e.message
  | encoding e => e.message
  | path p e => e.message p
  | emptyTable => "max() arg is an empty sequence"

/-- Why there are no settings. -/
inductive LoadError where
  | reported (e : SettingsError)
  | interrupted (i : Interruption)
  deriving DecidableEq, Repr, Inhabited

abbrev Environment := List (String × String)

namespace Settings

/-- The name of the file that holds the settings unless told otherwise. -/
def fileName : String := ".codestub.yaml"

def logLevelVariable : String := "CODESTUB_LOG_LEVEL"

/-- The name of the logger of this part. -/
def loaderLog : String := "codestub.config.loader"

/-- The settings that a text describes; the label stands for the text in messages. -/
def parse (r : Registry) (label text : String) : Except LoadError Settings :=
  match Yaml.load text with
  | .error .markup => .error (.reported (.markup label))
  | .error e => .error (.interrupted (.value e))
  | .ok document => (ofDocument r document).mapError fun f => .reported (.fault label f)

/-- Settings whose log level is replaced if the variable is set and not empty. -/
def withEnvironment (environment : Environment) (settings : Settings) :
    Log.Logged (Except LoadError Settings) :=
  match environment.lookup logLevelVariable with
  | none | some "" => Log.silent (.ok settings)
  | some name =>
    ⟨[⟨.debug, loaderLog, "Log level overridden by " ++ logLevelVariable ++ "=" ++ name⟩],
      match readLogLevel name with
      | .ok level => .ok { settings with logLevel := level }
      | .error f => .error (.reported (.fault logLevelVariable f))⟩

def ofFile (r : Registry) (files : Files.Source) (path : Files.Path) : Except LoadError Settings :=
  match Files.readText files path with
  | .ok text => parse r path.spelling text
  | .error (.encoding e) => .error (.interrupted (.encoding e))
  | .error (.access .missing) => .error (.reported (.missing path))
  | .error (.access .nullCharacter) => .error (.interrupted (.path path .nullCharacter))
  | .error (.access e) => .error (.reported (.unreadable path e))

/-- Loads the settings in a file, or the default without one. -/
def load (r : Registry) (files : Files.Source) (environment : Environment) :
    Option Files.Path → Log.Logged (Except LoadError Settings)
  | none => withEnvironment environment (.default r)
  | some path =>
    match ofFile r files path with
    | .ok settings => withEnvironment environment settings
    | .error e => Log.silent (.error e)

end Settings

end StubGen
