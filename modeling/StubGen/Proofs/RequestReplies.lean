import StubGen.Proofs.RequestFaults
import StubGen.Proofs.RequestSchema
import StubGen.Proofs.RouteTable

/-!
# Replies to requests

A request for a file or for a dry run is answered with what it asks for, or with the envelope of the
first check that it fails; a request for a type table is answered with the table, or as an unknown
path or language. `FileReply`, `DryRunReply` and `TableReply` list these answers with their causes.
The service itself fails in none of them.
-/

namespace StubGen.Proofs
open Http

variable {r : Registry} {settings : Settings} {moment : Moment} {q : Request}

section Bodies

variable {data : Json} {fields : Json.Fields}

/-- The body of the request is a JSON object with the given fields. -/
def Posts (q : Request) (fields : Json.Fields) : Prop :=
  ∃ body, q.body = some body ∧ isJsonType body.contentType = true ∧
    body.json? = some (.obj fields)

lemma object?_eq_some_iff :
    q.object? = some data ↔ ∃ fields, data = .obj fields ∧ Posts q fields := by
  unfold Request.object? Posts
  cases q.body with
  | none => simp
  | some body =>
    simp only [Option.some.injEq, exists_eq_left']
    split_ifs with htype
    · split
      · next fields hjson =>
        rw [hjson, Option.some.injEq]
        constructor
        · rintro rfl
          exact ⟨fields, rfl, htype, rfl⟩
        · rintro ⟨fields', rfl, -, hfields⟩
          exact Option.some.inj hfields
      · next hother =>
        refine iff_of_false nofun ?_
        rintro ⟨fields, -, -, hjson⟩
        exact hother fields hjson
    · refine iff_of_false nofun ?_
      rintro ⟨fields, -, h, -⟩
      exact htype h

lemma object?_of_posts (h : Posts q fields) : q.object? = some (.obj fields) :=
  object?_eq_some_iff.mpr ⟨fields, rfl, h⟩

lemma not_posts_of_object? (h : q.object? = none) (fields : Json.Fields) : ¬Posts q fields := by
  intro hposts
  rw [object?_of_posts hposts] at h
  cases h

lemma posts_unique {fields' : Json.Fields} (h : Posts q fields) (h' : Posts q fields') :
    fields = fields' := by
  have hobject := (object?_of_posts h).symm.trans (object?_of_posts h')
  exact Json.obj.inj (Option.some.inj hobject)

end Bodies

section Endpoints

variable {language : List Char}

lemma serve_of_endpoint {e : Endpoint} (hoptions : q.method ≠ "OPTIONS") (hhead : q.method ≠ "HEAD")
    (hroute : route q.method (pathOf q.target) = .endpoint e) :
    serve r settings moment q =
      (serveEndpoint r settings moment q (pathOf q.target) e).map .ofResponse := by
  simp only [serve, hoptions, hhead, if_false, hroute]

def filePath : List Char := "/api/v1/template".toList

def dryRunPath : List Char := "/api/v1/template/validate".toList

/-- The path for the type table of a language, which may be any text. -/
def tablePath (language : List Char) : List Char := "/api/v1/types/".toList ++ language

lemma serve_file (hmethod : q.method = "POST") (hpath : pathOf q.target = filePath) :
    (serve r settings moment q).value =
      .ofResponse (serveEndpoint r settings moment q filePath .template).value := by
  have hroute : route q.method (pathOf q.target) = .endpoint .template := by
    rw [hmethod, hpath]
    decide
  rw [serve_of_endpoint (by simp [hmethod]) (by simp [hmethod]) hroute, hpath]
  rfl

lemma serve_dryRun (hmethod : q.method = "POST") (hpath : pathOf q.target = dryRunPath) :
    (serve r settings moment q).value =
      .ofResponse (serveEndpoint r settings moment q dryRunPath .validation).value := by
  have hroute : route q.method (pathOf q.target) = .endpoint .validation := by
    rw [hmethod, hpath]
    decide
  rw [serve_of_endpoint (by simp [hmethod]) (by simp [hmethod]) hroute, hpath]
  rfl

/-- Of all rules, only that of the type tables starts as their paths do. -/
lemma eq_of_text_tablePath {rule : Rule} (h : rule ∈ rules)
    (htext : rule.text.toList = tablePath language) :
    rule = tableRule ∧ language = placeholder := by
  have honly : ∀ rule ∈ rules, ∀ rest ∈ after? "/api/v1/types/".toList rule.text.toList,
      rule = tableRule ∧ rest = placeholder := by decide +kernel
  refine honly rule h language ?_
  rw [htext]
  exact after?_append _ _

lemma literalEndpoint?_tablePath (language : List Char) :
    literalEndpoint? (tablePath language) = none := by
  cases h : literalEndpoint? (tablePath language) with
  | none => rfl
  | some found =>
    obtain ⟨rule, hmem, -, htable, htext, -⟩ := rule_of_literal h
    exact (htable (eq_of_text_tablePath hmem htext).1).elim

lemma tableLanguage?_tablePath (language : List Char) :
    tableLanguage? (tablePath language) = if IsSegment language then some language else none := by
  have hsegment : (language.isEmpty || language.contains '/') = true ↔ ¬IsSegment language := by
    rw [IsSegment, Bool.or_eq_true, List.isEmpty_iff, List.contains_iff_mem]
    tauto
  have hafter : after? "/api/v1/types/".toList (tablePath language) = some language :=
    after?_append _ _
  rw [tableLanguage?, hafter]
  simp only [hsegment, ite_not]

lemma isApiRest_tablePath (language : List Char) : isApiRest (tablePath language) = true := by
  have hsplit : tablePath language = "/api/v1/".toList ++ 't' :: ("ypes/".toList ++ language) := rfl
  have hrest : 't' ≠ '/' := by decide
  rw [isApiRest, hsplit, after?_append]
  exact decide_eq_true hrest

/-- A text that is no segment makes no path of a type table, and no rule has that text. -/
lemma serve_table_unknown (hmethod : q.method = "GET")
    (hpath : pathOf q.target = tablePath language) (h : ¬IsSegment language) :
    (serve r settings moment q).value = pathError (tablePath language) := by
  have hroute : route q.method (pathOf q.target) = .endpoint .unmatched := by
    rw [hmethod, hpath]
    simp [route, matchExact, literalEndpoint?_tablePath, tableLanguage?_tablePath, h,
      isApiRest_tablePath]
  have htexts : ∀ rule ∈ rules, rule.text.toList ≠ tablePath language := by
    intro rule hrule htext
    obtain ⟨-, rfl⟩ := eq_of_text_tablePath hrule htext
    exact h (by decide)
  rw [serve_of_endpoint (by simp [hmethod]) (by simp [hmethod]) hroute, hpath]
  exact unmatched_of_no_text htexts q.method

lemma serve_table_known (hmethod : q.method = "GET") (hpath : pathOf q.target = tablePath language)
    (h : IsSegment language) :
    (serve r settings moment q).value =
      .ofResponse (r.serveTable settings (String.ofList language)) := by
  have hroute : route q.method (pathOf q.target) = .endpoint (.table (String.ofList language)) := by
    rw [hmethod, hpath]
    simp [route, matchExact, literalEndpoint?_tablePath, tableLanguage?_tablePath, h]
  rw [serve_of_endpoint (by simp [hmethod]) (by simp [hmethod]) hroute]
  rfl

end Endpoints

section Envelopes

/-- The envelope of a body that is no JSON object. -/
def invalidJson : Json :=
  .obj [("error", .str "Invalid JSON"),
    ("message", .str "Request body must be a valid JSON object")]

/-- The envelope of a document that describes no request. -/
def validationError (details : List Json) : Json :=
  .obj [("error", .str "Validation Error"), ("details", .arr details)]

/-- The envelope of a language that is not supported. -/
def languageError (language : String) : Json :=
  .obj [("error", .str "Type Validation Error"),
    ("message", .str ("Unsupported language: " ++ language : String))]

def faultEntry (f : TypeFault) : Json :=
  .obj [("field", .str f.position.field), ("dsl_type", .str f.text), ("message", .str f.message)]

/-- The envelope of types that are not supported. -/
def typesError (faults : List TypeFault) : Json :=
  .obj [("error", .str "Type Validation Error"),
    ("message", .str (RawText.joined "; " (faults.map TypeFault.message))),
    ("errors", .arr (faults.map faultEntry))]

lemma response_unsupportedTypes (faults : List TypeFault) :
    (Refusal.unsupportedTypes faults).failure.response settings = ⟨400, typesError faults⟩ := by
  simp only [Refusal.failure, Failure.response, typesError, List.map_map]
  rfl

/-- No refusal counts as a failure of the service. -/
lemma failure_ne_internal (refusal : Refusal) (message : String) (expected : Bool) :
    refusal.failure ≠ .internal message expected := by
  cases refusal <;> exact Failure.noConfusion

end Envelopes

section Replies

variable {fields : Json.Fields} {t : TemplateRequest} {v : ValidationRequest}

/-- The posted object describes a request for a file. -/
def AsksForFile (settings : Settings) (q : Request) (t : TemplateRequest) : Prop :=
  ∃ fields, Posts q fields ∧
    DescribesRequest (Registry.builtin.requestLanguages (some settings)) (.obj fields)
      t.toValidationRequest ∧
    DescribesQuestion (.obj fields) t.questionId t.title t.description

/-- The posted object describes a request for a dry run. -/
def AsksForDryRun (settings : Settings) (q : Request) (v : ValidationRequest) : Prop :=
  ∃ fields, Posts q fields ∧
    DescribesRequest (Registry.builtin.requestLanguages (some settings)) (.obj fields) v

/-- How a request for a file is answered: with the envelope of the first check that it fails, or
with the file. -/
inductive FileReply (settings : Settings) (moment : Moment) (q : Request) : Reply → Prop
  | noObject (h : ∀ fields, ¬Posts q fields) :
    FileReply settings moment q (.ofResponse ⟨400, invalidJson⟩)
  | malformed {fields : Json.Fields} {faults : List Fault} (hp : Posts q fields)
      (hnone : ∀ t, ¬AsksForFile settings q t) (hne : faults ≠ []) :
    FileReply settings moment q
      (.ofResponse ⟨400, validationError (faults.map Fault.toJson)⟩)
  | unsupportedLanguage {t : TemplateRequest} (ht : AsksForFile settings q t)
      (hl : ¬Served .builtin settings t.language) :
    FileReply settings moment q (.ofResponse ⟨400, languageError t.language⟩)
  | unsupportedTypes {t : TemplateRequest} {faults : List TypeFault}
      (ht : AsksForFile settings q t) (hl : Served .builtin settings t.language)
      (hf : Reports (Offends settings.maxNestingDepth) t.language t.signature.typeTexts faults)
      (hne : faults ≠ []) :
    FileReply settings moment q (.ofResponse ⟨400, typesError faults⟩)
  | generated {t : TemplateRequest} {target : Target} {typed : TypedSignature}
      (ht : AsksForFile settings q t) (hl : Served .builtin settings t.language)
      (hnone : ∀ text ∈ t.signature.typeTexts.all, ¬Offends settings.maxNestingDepth text)
      (htarget : Registry.builtin.find? t.language = some target)
      (htyped : t.signature.typed = .ok typed) :
    FileReply settings moment q
      (.ofResponse ⟨201, Registry.templatePayload moment t (target.render typed)⟩)

/-- How a request for a dry run is answered. -/
inductive DryRunReply (settings : Settings) (q : Request) : Reply → Prop
  | noObject (h : ∀ fields, ¬Posts q fields) :
    DryRunReply settings q (.ofResponse ⟨400, invalidJson⟩)
  | malformed {fields : Json.Fields} {faults : List Fault} (hp : Posts q fields)
      (hnone : ∀ v, ¬AsksForDryRun settings q v) (hne : faults ≠ []) :
    DryRunReply settings q (.ofResponse ⟨400, validationError (faults.map Fault.toJson)⟩)
  | refused {v : ValidationRequest} {faults : List TypeFault} (hv : AsksForDryRun settings q v)
      (hf : Reports (fun text => ¬Served .builtin settings v.language ∨
        Offends settings.maxNestingDepth text) v.language v.signature.typeTexts faults)
      (hne : faults ≠ []) :
    DryRunReply settings q (.ofResponse ⟨400, .obj [("valid", .bool false),
      ("errors", .arr (faults.map fun f => .str f.message))]⟩)
  | accepted {v : ValidationRequest} (hv : AsksForDryRun settings q v)
      (hl : Served .builtin settings v.language)
      (hnone : ∀ text ∈ v.signature.typeTexts.all, ¬Offends settings.maxNestingDepth text) :
    DryRunReply settings q (.ofResponse ⟨200, .obj [("valid", .bool true),
      ("message", .str "Template can be generated successfully"),
      ("signature_analysis", Registry.builtin.analysis settings v)]⟩)

/-- How a request for the type table of a language is answered. -/
inductive TableReply (settings : Settings) (language : List Char) : Reply → Prop
  | unknownPath (h : ¬IsSegment language) :
    TableReply settings language (pathError (tablePath language))
  | unknownLanguage (h : IsSegment language) (hl : String.ofList language ∉ settings.languages) :
    TableReply settings language (.ofResponse (settings.languageNotFound (String.ofList language)))
  | table (h : IsSegment language) (hl : String.ofList language ∈ settings.languages) :
    TableReply settings language
      (.ofResponse ⟨200, Registry.builtin.tablePayload settings (String.ofList language)⟩)

lemma asksForFile_iff (hp : Posts q fields) :
    AsksForFile settings q t ↔
      TemplateRequest.ofJson (Registry.builtin.requestLanguages (some settings)) (.obj fields) =
        .ok t := by
  rw [templateRequest_eq_ok_iff]
  constructor
  · rintro ⟨fields', hp', h⟩
    rwa [posts_unique hp hp']
  · exact fun h => ⟨fields, hp, h⟩

lemma asksForDryRun_iff (hp : Posts q fields) :
    AsksForDryRun settings q v ↔
      ValidationRequest.ofJson (Registry.builtin.requestLanguages (some settings)) (.obj fields) =
        .ok v := by
  rw [validationRequest_eq_ok_iff]
  constructor
  · rintro ⟨fields', hp', h⟩
    rwa [posts_unique hp hp']
  · exact fun h => ⟨fields, hp, h⟩

/-- What the check refuses, for a language that may not be served at all. -/
lemma failsCheck_iff {language : String} (text : RawText) :
    FailsCheck .builtin settings language text ↔
      ¬Served .builtin settings language ∨ Offends settings.maxNestingDepth text := by
  by_cases hl : Served .builtin settings language
  · rw [failsCheck_builtin_iff hl, or_iff_right (not_not_intro hl)]
  · refine iff_of_true ?_ (.inl hl)
    rw [FailsCheck, ← Bool.not_eq_true, isSupported_iff]
    rintro ⟨hmem, target, -, htarget, -⟩
    exact hl ⟨hmem, isRegistered_of_find? htarget⟩

/-- A generation ends as its outcome says, over what the settings allow. -/
lemma exists_builtin_outcome (settings : Settings) (source : SignatureSource) (language : String) :
    ∃ result, Registry.builtin.generate settings source language = result ∧
      Outcome .builtin (Offends settings.maxNestingDepth) settings source language result := by
  obtain ⟨result, houtcome⟩ := exists_outcome .builtin settings source language
  exact ⟨result, generate_of_outcome houtcome,
    outcome_mono (fun hl text => failsCheck_builtin_iff hl text) houtcome⟩

lemma fileReply_of_posts (hp : Posts q fields) :
    FileReply settings moment q (.ofResponse
      (settle settings (Registry.builtin.serveTemplate settings moment (.obj fields)).value)) := by
  cases hread : TemplateRequest.ofJson (Registry.builtin.requestLanguages (some settings))
      (.obj fields) with
  | error faults =>
    have hnone : ∀ t, ¬AsksForFile settings q t := by
      intro t ht
      rw [asksForFile_iff hp, hread] at ht
      cases ht
    rw [Registry.serveTemplate, hread]
    exact .malformed hp hnone (explained_template _ _ faults hread)
  | ok t =>
    have ht : AsksForFile settings q t := (asksForFile_iff hp).mpr hread
    obtain ⟨result, hresult, houtcome⟩ :=
      exists_builtin_outcome settings (.read t.signature) t.language
    have hserve : (Registry.builtin.serveTemplate settings moment (.obj fields)).value =
        result.map fun template => ⟨201, Registry.templatePayload moment t template⟩ := by
      rw [Registry.serveTemplate, hread, ← hresult]
      rfl
    rw [hserve]
    cases houtcome with
    | unsupportedLanguage hl => exact .unsupportedLanguage ht hl
    | malformed _ hs => cases hs
    | @unsupportedTypes s faults hl hs hf hne =>
      cases hs
      show FileReply settings moment q
        (.ofResponse ((Refusal.unsupportedTypes faults).failure.response settings))
      rw [response_unsupportedTypes]
      exact .unsupportedTypes ht hl hf hne
    | generated hl hs hnone htarget htyped =>
      cases hs
      exact .generated ht hl hnone htarget htyped

lemma dryRunReply_of_posts (hp : Posts q fields) :
    DryRunReply settings q (.ofResponse
      (settle settings (Registry.builtin.serveValidation settings (.obj fields)))) := by
  cases hread : ValidationRequest.ofJson (Registry.builtin.requestLanguages (some settings))
      (.obj fields) with
  | error faults =>
    have hnone : ∀ v, ¬AsksForDryRun settings q v := by
      intro v hv
      rw [asksForDryRun_iff hp, hread] at hv
      cases hv
    rw [Registry.serveValidation, hread]
    exact .malformed hp hnone (explained_validation _ _ faults hread)
  | ok v =>
    have hv : AsksForDryRun settings q v := (asksForDryRun_iff hp).mpr hread
    have hreports := reports_congr failsCheck_iff
      (typeFaults_reports .builtin (some settings) v.signature.typeTexts v.language)
    rw [Registry.serveValidation, hread]
    dsimp only [Registry.validationPayload]
    cases hfaults : Registry.builtin.typeFaults (some settings) v.signature.typeTexts
        v.language with
    | nil =>
      rw [hfaults] at hreports
      have hnone := (reports_nil_iff hreports).mp rfl
      have hserved : Served .builtin settings v.language := by
        by_contra hl
        exact hnone v.signature.returns (returns_mem_all v.signature) (.inl hl)
      exact .accepted hv hserved fun text htext hoffends => hnone text htext (.inr hoffends)
    | cons f faults =>
      rw [hfaults] at hreports
      exact .refused hv hreports (List.cons_ne_nil f faults)

lemma tableReply_serveTable {language : List Char} (h : IsSegment language) :
    TableReply settings language
      (.ofResponse (Registry.builtin.serveTable settings (String.ofList language))) := by
  unfold Registry.serveTable
  split_ifs with hl
  · exact .table h (List.contains_iff_mem.mp hl)
  · exact .unknownLanguage h (mt List.contains_iff_mem.mpr hl)

lemma status_of_fileReply {reply : Reply} (h : FileReply settings moment q reply) :
    reply.status = 201 ∨ reply.status = 400 := by
  cases h with
  | generated => exact .inl rfl
  | _ => exact .inr rfl

lemma status_of_dryRunReply {reply : Reply} (h : DryRunReply settings q reply) :
    reply.status = 200 ∨ reply.status = 400 := by
  cases h with
  | accepted => exact .inl rfl
  | _ => exact .inr rfl

lemma status_of_tableReply {language : List Char} {reply : Reply}
    (h : TableReply settings language reply) : reply.status = 200 ∨ reply.status = 404 := by
  cases h with
  | table => exact .inl rfl
  | _ => exact .inr rfl

lemma fileReply_serve (hmethod : q.method = "POST") (hpath : pathOf q.target = filePath) :
    FileReply settings moment q (serve .builtin settings moment q).value := by
  rw [serve_file hmethod hpath]
  unfold serveEndpoint
  cases hobject : q.object? with
  | none => exact .noObject (not_posts_of_object? hobject)
  | some data =>
    obtain ⟨fields, rfl, hp⟩ := object?_eq_some_iff.mp hobject
    exact fileReply_of_posts hp

lemma dryRunReply_serve (hmethod : q.method = "POST") (hpath : pathOf q.target = dryRunPath) :
    DryRunReply settings q (serve .builtin settings moment q).value := by
  rw [serve_dryRun hmethod hpath]
  unfold serveEndpoint
  cases hobject : q.object? with
  | none => exact .noObject (not_posts_of_object? hobject)
  | some data =>
    obtain ⟨fields, rfl, hp⟩ := object?_eq_some_iff.mp hobject
    exact dryRunReply_of_posts hp

lemma tableReply_serve {language : List Char} (hmethod : q.method = "GET")
    (hpath : pathOf q.target = tablePath language) :
    TableReply settings language (serve .builtin settings moment q).value := by
  by_cases hsegment : IsSegment language
  · rw [serve_table_known hmethod hpath hsegment]
    exact tableReply_serveTable hsegment
  · rw [serve_table_unknown hmethod hpath hsegment]
    exact .unknownPath hsegment

end Replies

/-- A request for a constant in Java. -/
def constantText : String :=
  "\x7b\"language\": \"java\", \"question_id\": \"c\", \"title\": \"c\", " ++
    "\"description\": \"c\", \"signature\": \x7b\"function_name\": \"f\", " ++
    "\"returns\": \x7b\"type\": \"int\"\x7d\x7d\x7d"

def constantPost : Request :=
  ⟨"POST", "/api/v1/template", some ⟨"application/json", constantText⟩⟩

end StubGen.Proofs
