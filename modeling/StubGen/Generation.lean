import StubGen.Log.Record
import StubGen.Signature.Check
import StubGen.Signature.Schema
import StubGen.Stub.File

/-!
# Generating a stub file

Generation is all or nothing. The language is checked first, then the shape of the signature, then
its types, and only an accepted signature is rendered.
-/

namespace StubGen

/-- Why no stub file is generated. -/
inductive Refusal where
  /-- The language is not enabled or has no target. -/
  | unsupportedLanguage (language : String)
  /-- The document does not match its schema. -/
  | malformed (faults : List Fault)
  /-- The signature has types that the language does not support. -/
  | unsupportedTypes (faults : List TypeFault)
  /-- One type cannot be rendered. -/
  | unsupportedType (text : RawText) (language : String)
  deriving Repr, Inhabited

def Refusal.message : Refusal → RawText
  | unsupportedLanguage l => (Unsupported.language l).message
  | malformed _ => "Validation failed"
  | unsupportedTypes faults => RawText.joined "; " (faults.map TypeFault.message)
  | unsupportedType text l => (Unsupported.type text l).message

/-- A signature as a caller hands it in. -/
inductive SignatureSource where
  | read (s : Signature)
  /-- An encoded signature, still to be read. -/
  | encoded (j : Json)
  deriving Repr, Inhabited

/-- The signature, if it matches its schema. -/
def SignatureSource.signature : SignatureSource → Checked Signature
  | read s => .ok s
  | encoded j => Signature.ofJson j

/-- The parts of the stub file of a signature whose types can all be read. -/
def Target.signatureContext (target : Target) (s : Signature) : Except Refusal Context :=
  match s.typed with
  | .ok typed => .ok (target.context typed)
  | .error text => .error (.unsupportedType text target.language)

def Target.renderSignature (target : Target) (s : Signature) : Except Refusal String :=
  match s.typed with
  | .ok typed => .ok (target.render typed)
  | .error text => .error (.unsupportedType text target.language)

namespace Registry

/-- The target and the signature of a request that passes all checks. -/
def accept (r : Registry) (settings : Settings) (source : SignatureSource) (language : String) :
    Except Refusal (Target × Signature) :=
  match settings.languages.contains language, r.find? language with
  | true, some target =>
    match source.signature with
    | .error faults => .error (.malformed faults)
    | .ok s =>
      match r.typeFaults (some settings) s.typeTexts language with
      | [] => .ok (target, s)
      | faults => .error (.unsupportedTypes faults)
  | _, _ => .error (.unsupportedLanguage language)

def generate (r : Registry) (settings : Settings) (source : SignatureSource) (language : String) :
    Except Refusal String := do
  let (target, s) ← r.accept settings source language
  target.renderSignature s

/-- The name of the logger of the generator. -/
def generatorLog : String := "codestub.codegen.generator"

/-- The level of what is logged about a generation, if anything is. -/
def recordLevel? : Except Refusal (Target × Signature) → Option Log.Level
  | .ok _ => some .debug
  | .error (.unsupportedLanguage _) | .error (.unsupportedTypes _) => some .info
  | .error _ => none

/-- What is logged about a generation: the texts are those of the question and of the language, the
latter once more between quotes. -/
def generationRecords (question : RawText) (language quotedLanguage : String) :
    Except Refusal (Target × Signature) → List Log.Record
  | .ok (_, s) =>
    let job : String := "Generating " ++ language ++ " template for " ++ s.functionName
    let count : String := ", " ++ toString s.parameters.length ++ " parameter(s))"
    [⟨.debug, generatorLog, job ++ " (question " ++ question ++ count⟩]
  | .error (.unsupportedLanguage _) =>
    let cause : String := ": unsupported language " ++ quotedLanguage
    [⟨.info, generatorLog, "Rejected generation request " ++ question ++ cause⟩]
  | .error (.unsupportedTypes faults) =>
    let cause : String :=
      ": " ++ toString faults.length ++ " unsupported type(s) for " ++ language
    [⟨.info, generatorLog, "Rejected generation request " ++ question ++ cause⟩]
  | .error _ => []

/-- Generation with its records; `question` and `quotedLanguage` only show in them. -/
def generateLogged (r : Registry) (settings : Settings) (source : SignatureSource)
    (language : String) (question : RawText) (quotedLanguage : String) :
    Log.Logged (Except Refusal String) where
  records := generationRecords question language quotedLanguage (r.accept settings source language)
  value := r.generate settings source language

end Registry

end StubGen
