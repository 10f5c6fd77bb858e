import StubGen.Settings.Basic
import StubGen.Signature.Schema

/-!
# Requests

A dry run wants a signature and a language; a template request also names the question. A request
may only name an enabled language. All faults of a request are reported, in the order of its fields.
-/

namespace StubGen

/-- A request for a dry run. -/
structure ValidationRequest where
  signature : Signature
  language : String
  deriving DecidableEq, Repr, Inhabited

structure TemplateRequest extends ValidationRequest where
  questionId : String
  title : String
  description : String
  deriving DecidableEq, Repr, Inhabited

def TextRule.questionId : TextRule := ⟨100, some .questionId⟩

def TextRule.title : TextRule := ⟨200, none⟩

def TextRule.description : TextRule := ⟨5000, none⟩

/-- The languages that a request may name: those that the settings enable, and all registered ones
if there are no settings or they enable none. -/
def Registry.requestLanguages (r : Registry) : Option Settings → List String
  | some s => if s.languages.isEmpty then r.languages else s.languages
  | none => r.languages

def readLanguage (enabled : List String) (j : Json) : Checked String := do
  match (← j.anyText).toString?.filter enabled.contains with
  | some s => return s
  | none => (Problem.languageNotEnabled enabled).at j

namespace ValidationRequest

def ofFields (enabled : List String) (fields : Json.Fields) : Checked ValidationRequest :=
  ((Json.required fields "signature" Signature.ofJson).both
    (Json.required fields "language" (readLanguage enabled))).map
      fun (signature, language) => ⟨signature, language⟩

def ofJson (enabled : List String) : Json → Checked ValidationRequest
  | .obj fields => ofFields enabled fields
  | _ => Problem.notObject.at .null

def toFields (q : ValidationRequest) : Json.Fields :=
  [("signature", q.signature.toJson), ("language", .str q.language)]

end ValidationRequest

namespace TemplateRequest

/-- Reads the identifier, the title and the description of the question. -/
def questionFields (fields : Json.Fields) : Checked ((String × String) × String) :=
  ((Json.required fields "question_id" TextRule.questionId.read).both
    (Json.required fields "title" TextRule.title.read)).both
      (Json.required fields "description" TextRule.description.read)

def ofFields (enabled : List String) (fields : Json.Fields) : Checked TemplateRequest :=
  ((ValidationRequest.ofFields enabled fields).both (questionFields fields)).map
    fun (base, (questionId, title), description) => ⟨base, questionId, title, description⟩

def ofJson (enabled : List String) : Json → Checked TemplateRequest
  | .obj fields => ofFields enabled fields
  | _ => Problem.notObject.at .null

def toFields (q : TemplateRequest) : Json.Fields :=
  let question : Json.Fields :=
    [("question_id", .str q.questionId), ("title", .str q.title),
     ("description", .str q.description)]
  q.toValidationRequest.toFields ++ question

end TemplateRequest

end StubGen
