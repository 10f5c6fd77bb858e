import StubGen.Command.Arguments

/-!
# Invocations

An invocation is a command line that asks for something to be done.
-/

namespace StubGen.Command

/-- A verb with its arguments. -/
inductive Job where
  | generate (request : String) (language : Option String)
  | validate (request : String) (language : Option String)
  | languages
  | types (language : String)
  | serve (port : Option Int) (host : Option String)
  deriving DecidableEq, Repr, Inhabited

def Job.file? : Job → Option String
  | generate request _ | validate request _ => some request
  | languages | types _ | serve _ _ => none

/-- A command line that asks for a job. -/
structure Invocation where
  /-- The file of the settings. -/
  config : Option String
  logLevel : Option String
  job : Job
  deriving DecidableEq, Repr, Inhabited

/-- The operand of a verb that needs one. -/
def Arguments.needed (a : Arguments) (name : String) : Except UsageFault String :=
  match a.operand with
  | some text => .ok text
  | none => .error (.missingOperand name)

def Verb.job (a : Arguments) : Verb → Except UsageFault Job
  | .generate => (a.needed "request").map fun request => .generate request a.language
  | .validate => (a.needed "request").map fun request => .validate request a.language
  | .languages => .ok .languages
  | .types => (a.needed "language").map .types
  | .serve => .ok (.serve a.port a.host)

namespace Invocation

/-- Refuses words that no scope has a use for. -/
def allUsed (words : List String) : Except Stop Unit :=
  if words.isEmpty then .ok () else .error (.refused none (.unrecognized words))

def ofArguments (line : List String) : Except Stop Invocation := do
  let outer ← Arguments.ofList none line
  match outer.verb with
  | none =>
    allUsed outer.unused
    throw (.help none)
  | some (word, rest) =>
    match Verb.ofName? word with
    | none => throw (.refused none (.unknownVerb word))
    | some verb =>
      let inner ← Arguments.ofList (some verb) rest
      let job ← (verb.job inner).mapError (Stop.refused (some verb))
      allUsed (outer.unused ++ inner.unused)
      return ⟨outer.config, outer.logLevel, job⟩

end Invocation

end StubGen.Command
