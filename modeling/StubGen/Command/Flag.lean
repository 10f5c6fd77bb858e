/-!
# Flags

The command line has a scope of its own for each verb, and one before the verb. A scope knows which
flags it takes and which operand it wants.
-/

namespace StubGen.Command

/-- What the program is asked to do. -/
inductive Verb where
  | generate | validate | languages | types | serve
  deriving DecidableEq, Repr, Inhabited

namespace Verb

/-- All verbs, in the order of their listing. -/
def all : List Verb := [generate, validate, languages, types, serve]

def name : Verb → String
  | generate => "generate"
  | validate => "validate"
  | languages => "languages"
  | types => "types"
  | serve => "serve"

def ofName? (word : String) : Option Verb := all.find? fun v => v.name = word

def needsOperand : Verb → Bool
  | generate | validate | types => true
  | languages | serve => false

end Verb

/-- The part of the command line after a verb, or the part before it. -/
abbrev Scope := Option Verb

def programName : String := "codestub"

/-- The words that lead to a scope. -/
def Scope.title : Scope → String
  | none => programName
  | some v => programName ++ " " ++ v.name

inductive Flag where
  | help | config | logLevel | language | port | host
  deriving DecidableEq, Repr, Inhabited

namespace Flag

def names : Flag → List String
  | help => ["-h", "--help"]
  | config => ["--config"]
  | logLevel => ["--log-level"]
  | language => ["--language"]
  | port => ["--port"]
  | host => ["--host"]

def title (f : Flag) : String := "/".intercalate f.names

end Flag

def Scope.flags : Scope → List Flag
  | none => [.help, .config, .logLevel]
  | some .generate | some .validate => [.help, .language]
  | some .languages | some .types => [.help]
  | some .serve => [.help, .port, .host]

def Scope.spellings (s : Scope) : List (String × Flag) :=
  s.flags.flatMap fun f => f.names.map fun name => (name, f)

/-- The log levels that the command line takes. -/
def logLevels : List String := ["DEBUG", "INFO", "WARNING", "ERROR", "CRITICAL"]

end StubGen.Command
