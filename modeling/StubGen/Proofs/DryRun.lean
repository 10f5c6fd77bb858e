import StubGen.Proofs.GenerationOutcome
import StubGen.Proofs.RequestReading
import StubGen.Service.Handler

/-!
# Dry runs

A dry run checks the types and maps each text on its own, while a real run goes through the
generation. Both answer the same question: they accept the same requests, the mapped types of the
preview are the spellings in the file, and the faults of an unreadable request agree.
-/

namespace StubGen.Proofs
open TypeExpr

variable {r : Registry} {settings : Settings}

section Supported

variable {s : Signature} {language : String}

lemma noFaults_iff :
    r.typeFaults (some settings) s.typeTexts language = [] ↔
      ∀ text ∈ s.typeTexts.all, ¬FailsCheck r settings language text :=
  reports_nil_iff (typeFaults_reports r (some settings) s.typeTexts language)

/-- Every signature has a return type, so that a check without faults has found the target. -/
lemma served_of_noFaults (h : r.typeFaults (some settings) s.typeTexts language = []) :
    Served r settings language := by
  have hpasses := noFaults_iff.mp h s.returns (returns_mem_all s)
  rw [FailsCheck, Bool.not_eq_false] at hpasses
  obtain ⟨hlanguage, target, -, ht, -⟩ := isSupported_iff.mp hpasses
  exact ⟨hlanguage, isRegistered_of_find? ht⟩

/-- Generation succeeds if the check finds no faults. -/
lemma generate_of_noFaults (h : r.typeFaults (some settings) s.typeTexts language = []) :
    ∃ target typed, r.find? language = some target ∧ s.typed = .ok typed ∧
      r.generate settings (.read s) language = .ok (target.render typed) := by
  have hserved := served_of_noFaults h
  have hnone := noFaults_iff.mp h
  obtain ⟨target, ht⟩ := find?_of_isRegistered hserved.2
  obtain ⟨typed, htyped⟩ := exists_typed fun text htext =>
    exists_type_of_supported (hnone text htext)
  exact ⟨target, typed, ht, htyped,
    generate_of_outcome (.generated hserved rfl hnone ht htyped)⟩

/-- Generation refuses the language or the types if the check finds faults. -/
lemma generate_of_faults (h : r.typeFaults (some settings) s.typeTexts language ≠ []) :
    r.generate settings (.read s) language = .error (.unsupportedLanguage language) ∨
      ∃ faults, r.generate settings (.read s) language = .error (.unsupportedTypes faults) := by
  obtain ⟨result, houtcome⟩ := exists_outcome r settings (.read s) language
  have hresult := generate_of_outcome houtcome
  cases houtcome with
  | unsupportedLanguage _ => exact .inl hresult
  | malformed _ hs => cases hs
  | unsupportedTypes _ _ _ _ => exact .inr ⟨_, hresult⟩
  | generated _ hs hnone _ _ =>
    cases hs
    exact (h (noFaults_iff.mpr hnone)).elim

/-- The spelling of a text that passes the check is the one of the type it denotes. -/
lemma spellingOf_of_supported {text : RawText} {target : Target} {t : TypeExpr}
    (h : ¬FailsCheck r settings language text) (ht : r.find? language = some target)
    (hread : ofText? text = some t) :
    r.spellingOf text language settings.maxNestingDepth = (target.mapType t).syntaxText := by
  rw [FailsCheck, Bool.not_eq_false] at h
  obtain ⟨-, found, u, hfound, hresolve⟩ := isSupported_iff.mp h
  have htarget : found = target := Option.some.inj (hfound.symm.trans ht)
  have htype : u = t := Option.some.inj ((resolve_eq_some_iff.mp hresolve).1.symm.trans hread)
  rw [htarget, htype] at hresolve
  simp only [Registry.spellingOf, Registry.describe, ht, hresolve]

end Supported

section Preview

/-- The mapped types that a dry run shows, those of the parameters and that of the result. -/
def mappedTypes? (preview : Json) : Option (List Json × Json) := do
  let mapping ← (← preview.field? "signature_analysis").field? "language_mapping"
  let .arr parameters ← mapping.field? "parameters" | none
  let mapped ← parameters.mapM (Json.field? "mapped_type")
  let returned ← (← mapping.field? "return_type").field? "mapped_type"
  return (mapped, returned)

/-- The spellings that a stub file is assembled from, those of the parameters and that of the
result. -/
def spellings (c : Context) : List Json × Json :=
  (c.parameters.map fun p => .str p.mapped.syntaxText, .str c.returnMapped.syntaxText)

lemma lookup_mappingEntry (language : String) (text : RawText) :
    Json.lookup "mapped_type" (r.mappingEntry settings language text) =
      some (.str (r.spellingOf text language settings.maxNestingDepth)) := by
  simp [Registry.mappingEntry, Json.lookup]

lemma mapM_mappedType (language : String) (ps : List Parameter) :
    (ps.map fun p =>
        Json.obj (("name", .str p.name) :: r.mappingEntry settings language p.type)).mapM
          (Json.field? "mapped_type") =
      some (ps.map fun p => .str (r.spellingOf p.type language settings.maxNestingDepth)) := by
  rw [List.mapM_map]
  simp only [Function.comp_def, Json.field?, Json.lookup, lookup_mappingEntry]
  exact List.mapM_pure

lemma mappedTypes?_of_noFaults {q : ValidationRequest}
    (h : r.typeFaults (some settings) q.signature.typeTexts q.language = []) :
    mappedTypes? (r.validationPayload settings q) =
      some (q.signature.parameters.map fun p =>
          .str (r.spellingOf p.type q.language settings.maxNestingDepth),
        .str (r.spellingOf q.signature.returns q.language settings.maxNestingDepth)) := by
  rw [Registry.validationPayload, h]
  simp [mappedTypes?, Registry.analysis, Json.field?, Json.lookup, lookup_mappingEntry,
    mapM_mappedType, -List.mapM_map]

/-- The preview shows the spellings that the stub file is assembled from. -/
theorem mappedTypes?_eq_spellings {q : ValidationRequest} {target : Target}
    {typed : TypedSignature}
    (h : r.typeFaults (some settings) q.signature.typeTexts q.language = [])
    (ht : r.find? q.language = some target) (htyped : q.signature.typed = .ok typed) :
    mappedTypes? (r.validationPayload settings q) = some (spellings (target.context typed)) := by
  have hnone := noFaults_iff.mp h
  obtain ⟨-, hparameters, hreturns⟩ := typed_eq_ok_iff.mp htyped
  have hspelling : ∀ {text t}, text ∈ q.signature.typeTexts.all → ofText? text = some t →
      r.spellingOf text q.language settings.maxNestingDepth = (target.mapType t).syntaxText :=
    fun htext hread => spellingOf_of_supported (hnone _ htext) ht hread
  have hmem : ∀ p ∈ q.signature.parameters, p.type ∈ q.signature.typeTexts.all :=
    fun _ hp => type_mem_all hp
  have hmap : (q.signature.parameters.map fun p =>
        Json.str (r.spellingOf p.type q.language settings.maxNestingDepth)) =
      (typed.parameters.map target.mapParameter).map fun p => .str p.mapped.syntaxText := by
    rw [← List.forall₂_eq_eq_eq, List.forall₂_map_left_iff, List.forall₂_map_right_iff,
      List.forall₂_map_right_iff]
    refine ((List.forall₂_and_left _ _).mpr ⟨hmem, hparameters⟩).imp ?_
    rintro p p' ⟨hp, htyped⟩
    exact congrArg Json.str (hspelling hp htyped.2)
  rw [mappedTypes?_of_noFaults h, hmap,
    hspelling (returns_mem_all q.signature) hreturns]
  rfl

end Preview

section Verdicts

/-- How the dry run and the real run of a request end: both succeed, and then the preview shows the
spellings of the file, or both refuse. -/
inductive SameVerdict (r : Registry) (q : ValidationRequest) :
    Except Refusal Response → Except Refusal Response → Prop
  | accepted {target : Target} {typed : TypedSignature} {preview answer : Json}
      (ht : r.find? q.language = some target) (htyped : q.signature.typed = .ok typed)
      (hpreview : mappedTypes? preview = some (spellings (target.context typed)))
      (hanswer : answer.field? "template" =
        some (.str ((target.context typed).assemble target.family))) :
    SameVerdict r q (.ok ⟨200, preview⟩) (.ok ⟨201, answer⟩)
  | unsupportedLanguage {preview : Json} :
    SameVerdict r q (.ok ⟨400, preview⟩) (.error (.unsupportedLanguage q.language))
  | unsupportedTypes {preview : Json} {faults : List TypeFault} :
    SameVerdict r q (.ok ⟨400, preview⟩) (.error (.unsupportedTypes faults))

lemma accepted_iff {q : ValidationRequest} {dryRun run : Except Refusal Response}
    (h : SameVerdict r q dryRun run) :
    (∃ preview, dryRun = .ok ⟨200, preview⟩) ↔ ∃ answer, run = .ok ⟨201, answer⟩ := by
  cases h with
  | accepted => exact ⟨fun _ => ⟨_, rfl⟩, fun _ => ⟨_, rfl⟩⟩
  | unsupportedLanguage => simp
  | unsupportedTypes => simp

lemma refused_of_not_accepted {q : ValidationRequest} {dryRun run : Except Refusal Response}
    (h : SameVerdict r q dryRun run) (hnot : ¬∃ answer, run = .ok ⟨201, answer⟩) :
    (∃ preview, dryRun = .ok ⟨400, preview⟩) ∧
      (run = .error (.unsupportedLanguage q.language) ∨
        ∃ faults, run = .error (.unsupportedTypes faults)) := by
  cases h with
  | accepted => exact (hnot ⟨_, rfl⟩).elim
  | unsupportedLanguage => exact ⟨⟨_, rfl⟩, .inl rfl⟩
  | unsupportedTypes => exact ⟨⟨_, rfl⟩, .inr ⟨_, rfl⟩⟩

lemma field?_templatePayload (moment : Moment) (q : TemplateRequest) (template : String) :
    (Registry.templatePayload moment q template).field? "template" = some (.str template) := by
  simp [Registry.templatePayload, Json.field?, Json.lookup]

/-- A request that can be read gets the same verdict from both runs. -/
theorem same_verdict {data : Json} {q : TemplateRequest} (moment : Moment)
    (h : TemplateRequest.ofJson (r.requestLanguages (some settings)) data = .ok q) :
    SameVerdict r q.toValidationRequest (r.serveValidation settings data)
      (r.serveTemplate settings moment data).value := by
  have hrun : (r.serveTemplate settings moment data).value =
      (r.generate settings (.read q.signature) q.language).map fun template =>
        ⟨201, Registry.templatePayload moment q template⟩ := by
    rw [Registry.serveTemplate, h]
    rfl
  rw [hrun, Registry.serveValidation, validation_of_template h]
  dsimp only
  by_cases hnil : r.typeFaults (some settings) q.signature.typeTexts q.language = []
  · obtain ⟨target, typed, ht, htyped, hgenerate⟩ := generate_of_noFaults hnil
    rw [hgenerate, hnil]
    exact .accepted ht htyped (mappedTypes?_eq_spellings hnil ht htyped)
      (field?_templatePayload moment q (target.render typed))
  · have hstatus : (r.typeFaults (some settings) q.signature.typeTexts q.language).isEmpty =
        false := by
      rw [List.isEmpty_eq_false_iff]
      exact hnil
    rw [hstatus]
    obtain hlanguage | ⟨faults, htypes⟩ := generate_of_faults hnil
    · rw [hlanguage]
      exact .unsupportedLanguage
    · rw [htypes]
      exact .unsupportedTypes

/-- An unreadable dry-run request is refused by both runs; the dry run shows the first of the faults
that the real run shows. -/
theorem refused_alike {data : Json} {faults : List Fault} (moment : Moment)
    (h : ValidationRequest.ofJson (r.requestLanguages (some settings)) data = .error faults) :
    ∃ more, TemplateRequest.ofJson (r.requestLanguages (some settings)) data =
        .error (faults ++ more) ∧
      r.serveValidation settings data = .error (.malformed faults) ∧
      (r.serveTemplate settings moment data).value = .error (.malformed (faults ++ more)) := by
  obtain ⟨more, htemplate⟩ := template_faults_extend h
  refine ⟨more, htemplate, ?_, ?_⟩
  · rw [Registry.serveValidation, h]
  · rw [Registry.serveTemplate, htemplate]
    rfl

lemma exists_request_of_served {data : Json} {moment : Moment} {answer : Response}
    (h : (r.serveTemplate settings moment data).value = .ok answer) :
    ∃ q, TemplateRequest.ofJson (r.requestLanguages (some settings)) data = .ok q := by
  cases hread : TemplateRequest.ofJson (r.requestLanguages (some settings)) data with
  | ok q => exact ⟨q, rfl⟩
  | error faults =>
    rw [Registry.serveTemplate, hread] at h
    cases h

/-- The dry run agrees with the real run. A request for a file is a request for a dry run, which
succeeds exactly if the file is written, and otherwise the real run refuses the language or the
types. When both succeed, the preview shows the spellings of the context that the file is assembled
from. When the dry run cannot read its request, the real run cannot either, and has the same faults
first. -/
theorem dry_run_agrees (r : Registry) (settings : Settings) (moment : Moment) (data : Json) :
    let enabled := r.requestLanguages (some settings)
    let dryRun := r.serveValidation settings data
    let run := (r.serveTemplate settings moment data).value
    (∀ q, TemplateRequest.ofJson enabled data = .ok q →
      ValidationRequest.ofJson enabled data = .ok q.toValidationRequest ∧
      ((∃ preview, dryRun = .ok ⟨200, preview⟩) ↔ ∃ answer, run = .ok ⟨201, answer⟩) ∧
      ((¬∃ answer, run = .ok ⟨201, answer⟩) →
        (∃ preview, dryRun = .ok ⟨400, preview⟩) ∧
        (run = .error (.unsupportedLanguage q.language) ∨
          ∃ faults, run = .error (.unsupportedTypes faults)))) ∧
    (∀ preview answer, dryRun = .ok ⟨200, preview⟩ → run = .ok ⟨201, answer⟩ →
      ∃ q target typed, TemplateRequest.ofJson enabled data = .ok q ∧
        r.find? q.language = some target ∧ q.signature.typed = .ok typed ∧
        answer.field? "template" =
          some (.str ((target.context typed).assemble target.family)) ∧
        mappedTypes? preview = some (spellings (target.context typed))) ∧
    (∀ faults, ValidationRequest.ofJson enabled data = .error faults →
      ∃ more, TemplateRequest.ofJson enabled data = .error (faults ++ more) ∧
        dryRun = .error (.malformed faults) ∧ run = .error (.malformed (faults ++ more))) := by
  refine ⟨fun q hq => ?_, fun preview answer hpreview hanswer => ?_, fun _ => refused_alike moment⟩
  · have hverdict := same_verdict moment hq
    exact ⟨validation_of_template hq, accepted_iff hverdict, refused_of_not_accepted hverdict⟩
  · obtain ⟨q, hq⟩ := exists_request_of_served hanswer
    have hverdict := same_verdict moment hq
    rw [hpreview, hanswer] at hverdict
    cases hverdict with
    | accepted ht htyped hspellings htemplate =>
      exact ⟨q, _, _, hq, ht, htyped, htemplate, hspellings⟩

/-- A request for a function that adds up an array. -/
def totalRequest : TemplateRequest :=
  ⟨⟨⟨"total", [⟨"nums", "int[]"⟩], "long"⟩, "java"⟩, "total", "Total", "The sum of an array."⟩

theorem dry_run_agrees_on_total :
    let settings := Settings.default .builtin
    let enabled := Registry.builtin.requestLanguages (some settings)
    let data := Json.obj totalRequest.toFields
    TemplateRequest.ofJson enabled data = .ok totalRequest ∧
    (∃ preview answer, Registry.builtin.serveValidation settings data = .ok ⟨200, preview⟩ ∧
      (Registry.builtin.serveTemplate settings default data).value = .ok ⟨201, answer⟩ ∧
      ∃ typed, answer.field? "template" =
          some (.str ((Target.java.context typed).assemble .java)) ∧
        mappedTypes? preview = some (spellings (Target.java.context typed))) ∧
    ∃ faults more, ValidationRequest.ofJson enabled .null = .error faults ∧
      TemplateRequest.ofJson enabled .null = .error (faults ++ more) := by
  intro settings enabled data
  have hread : TemplateRequest.ofJson enabled data = .ok totalRequest := rfl
  have hnil : Registry.builtin.typeFaults (some settings) totalRequest.signature.typeTexts
      totalRequest.language = [] := by
    decide +kernel
  have hdry : Registry.builtin.serveValidation settings data =
      .ok ⟨200, Registry.builtin.validationPayload settings totalRequest.toValidationRequest⟩ := by
    rw [Registry.serveValidation, validation_of_template hread]
    dsimp only
    rw [hnil]
    rfl
  obtain ⟨haccepted, hshown, -⟩ := dry_run_agrees .builtin settings default data
  obtain ⟨answer, hrun⟩ := (haccepted totalRequest hread).2.1.mp ⟨_, hdry⟩
  obtain ⟨q, target, typed, hq, ht, -, htemplate, hspellings⟩ := hshown _ answer hdry hrun
  cases hread.symm.trans hq
  have hjava : Target.java = target := Option.some.inj ht
  subst hjava
  obtain ⟨-, -, hunreadable⟩ := dry_run_agrees .builtin settings default .null
  obtain ⟨more, hmore, -⟩ := hunreadable [⟨[], .notObject, .null⟩] rfl
  exact ⟨hread, ⟨_, answer, hdry, hrun, typed, htemplate, hspellings⟩, _, more, rfl, hmore⟩

end Verdicts

end StubGen.Proofs
