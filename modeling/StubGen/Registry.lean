import StubGen.Target.Basic

/-!
# The registry of targets

Targets are found by language and listed in the order of their registration. A definition may be
registered again, in its old place; registering another one for the same language is refused.
-/

namespace StubGen

/-- The registered targets, in registration order. -/
structure Registry where
  targets : List Target
  deriving DecidableEq, Repr, Inhabited

/-- The language is held by another definition. -/
structure AlreadyRegistered where
  language : String
  deriving DecidableEq, Repr, Inhabited

/-- The wording of a refused registration. -/
def AlreadyRegistered.message (e : AlreadyRegistered) : String :=
  "A backend is already registered for language '" ++ e.language ++ "'"

namespace Registry

def builtin : Registry := ⟨Target.builtins⟩

def find? (r : Registry) (language : String) : Option Target :=
  r.targets.find? fun target => target.language = language

/-- The registered languages, in registration order. -/
def languages (r : Registry) : List String := r.targets.map Target.language

def isRegistered (r : Registry) (language : String) : Bool := r.languages.contains language

/-- Puts a target in the place of the one with its language, or at the end. -/
def put (target : Target) : List Target → List Target
  | [] => [target]
  | held :: rest =>
    if held.language = target.language then target :: rest else held :: put target rest

def register (r : Registry) (target : Target) : Except AlreadyRegistered Registry :=
  match r.find? target.language with
  | none => .ok ⟨put target r.targets⟩
  | some held =>
    if held = target then .ok ⟨put target r.targets⟩ else .error ⟨target.language⟩

/-- The registry that a program goes on with after a registration, whether or not it is refused. -/
def attempt (r : Registry) (target : Target) : Registry :=
  match r.register target with
  | .ok registered => registered
  | .error _ => r

end Registry

end StubGen
