import StubGen.Registry
import StubGen.Text.Raw

/-!
# Settings

What a run is configured with: the environment, the enabled languages, the deepest type that is
accepted, the log level and the address of the service.
-/

namespace StubGen

structure ServerAddress where
  host : RawText
  port : Int
  deriving DecidableEq, Repr, Inhabited

structure Settings where
  environment : String
  languages : List String
  maxNestingDepth : Int
  logLevel : String
  server : ServerAddress
  deriving DecidableEq, Repr, Inhabited

/-- The address where the service is reached unless told otherwise. -/
def ServerAddress.default : ServerAddress := ⟨"127.0.0.1", 8050⟩

/-- The nesting depth that is accepted unless told otherwise. -/
def defaultMaxNestingDepth : Int := 2

/-- The settings that hold unless told otherwise: all registered languages are enabled. -/
def Settings.default (r : Registry) : Settings where
  environment := "development"
  languages := r.languages
  maxNestingDepth := defaultMaxNestingDepth
  logLevel := "INFO"
  server := .default

end StubGen
