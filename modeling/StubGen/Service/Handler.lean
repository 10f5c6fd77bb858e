import StubGen.Service.Failure

/-!
# Serving requests

Each handler takes a decoded request and answers with a status and a payload, or refuses it.
-/

namespace StubGen.Registry

/-- Serves a template request: status 201 with the stub file. -/
def serveTemplate (r : Registry) (settings : Settings) (moment : Moment) (data : Json) :
    Log.Logged (Except Refusal Response) :=
  match TemplateRequest.ofJson (r.requestLanguages (some settings)) data with
  | .error faults => Log.silent (.error (.malformed faults))
  | .ok q =>
    (r.generateLogged settings (.read q.signature) q.language q.questionId
      (Text.quoted q.language)).map fun generated =>
        generated.map fun template => ⟨201, templatePayload moment q template⟩

/-- Serves a dry run: status 200 if the stub file could be generated, and 400 if a type is not
supported. -/
def serveValidation (r : Registry) (settings : Settings) (data : Json) : Except Refusal Response :=
  match ValidationRequest.ofJson (r.requestLanguages (some settings)) data with
  | .error faults => .error (.malformed faults)
  | .ok q =>
    let faults := r.typeFaults (some settings) q.signature.typeTexts q.language
    .ok ⟨if faults.isEmpty then 200 else 400, r.validationPayload settings q⟩

/-- Serves the type table of an enabled language. -/
def serveTable (r : Registry) (settings : Settings) (language : String) : Response :=
  if settings.languages.contains language then ⟨200, r.tablePayload settings language⟩
  else settings.languageNotFound language

end StubGen.Registry
