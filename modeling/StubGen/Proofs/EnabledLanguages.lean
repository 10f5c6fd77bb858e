import StubGen.Proofs.GenerationOutcome
import StubGen.Proofs.RequestReading

/-!
# Enabled languages

A request names one of the languages it is read with. These are the languages that the settings
enable, except that settings which enable none leave every registered language to the requests. The
generation knows no such exception and refuses what those requests ask for.
-/

namespace StubGen.Proofs

variable {r : Registry} {settings : Settings}

/-- Every request that can be read names a language that the settings enable. -/
def NamesEnabled (r : Registry) (settings : Settings) : Prop :=
  ∀ data,
    (∀ q, TemplateRequest.ofJson (r.requestLanguages (some settings)) data = .ok q →
      q.language ∈ settings.languages) ∧
    ∀ q, ValidationRequest.ofJson (r.requestLanguages (some settings)) data = .ok q →
      q.language ∈ settings.languages

lemma requestLanguages_of_ne_nil (h : settings.languages ≠ []) :
    r.requestLanguages (some settings) = settings.languages := by
  rw [Registry.requestLanguages, if_neg]
  rwa [List.isEmpty_iff]

lemma requestLanguages_of_nil (h : settings.languages = []) :
    r.requestLanguages (some settings) = r.languages := by
  rw [Registry.requestLanguages, if_pos]
  rwa [List.isEmpty_iff]

lemma namesEnabled_iff :
    NamesEnabled r settings ↔
      ∀ data q, ValidationRequest.ofJson (r.requestLanguages (some settings)) data = .ok q →
        q.language ∈ settings.languages := by
  constructor
  · intro h data
    exact (h data).2
  · -- The data of a template request is also read as a validation request, in the same language.
    intro h data
    refine ⟨fun q hq => ?_, h data⟩
    exact h data q.toValidationRequest (validation_of_template hq)

def constantSignature : Signature := ⟨"constant", [], "int"⟩

/-- Some request can be read for each of the enabled languages. -/
lemma exists_request_naming {enabled : List String} {language : String} (h : language ∈ enabled) :
    ∃ data, ValidationRequest.ofJson enabled data = .ok ⟨constantSignature, language⟩ := by
  have hsignature : Signature.ofJson constantSignature.toJson = .ok constantSignature := rfl
  have hlanguage : readLanguage enabled (.str language) = .ok language :=
    readLanguage_eq_ok_iff.mpr ⟨rfl, h⟩
  refine ⟨.obj (ValidationRequest.toFields ⟨constantSignature, language⟩), ?_⟩
  refine validation_eq_ok_iff.mpr ⟨?_, ?_⟩
  · exact required_eq_ok_iff.mpr ⟨_, rfl, hsignature⟩
  · exact required_eq_ok_iff.mpr ⟨_, rfl, hlanguage⟩

lemma not_served_of_nil (h : settings.languages = []) (language : String) :
    ¬Served r settings language := by
  rintro ⟨hmem, -⟩
  rw [h] at hmem
  cases hmem

/-- Requests name enabled languages exactly under settings that enable some language, or where no
language is registered. Under settings that enable none, requests name registered languages, and the
generation refuses them all. -/
theorem namesEnabled_iff_some_enabled (r : Registry) (settings : Settings) :
    (NamesEnabled r settings ↔ settings.languages ≠ [] ∨ r.languages = []) ∧
      (settings.languages = [] → ∀ data q,
        ValidationRequest.ofJson (r.requestLanguages (some settings)) data = .ok q →
          q.language ∈ r.languages ∧
          r.generate settings (.read q.signature) q.language =
            .error (.unsupportedLanguage q.language)) := by
  rw [namesEnabled_iff]
  by_cases hnil : settings.languages = []
  · rw [requestLanguages_of_nil hnil]
    refine ⟨⟨fun h => ?_, ?_⟩, fun _ data q hq => ?_⟩
    · right
      refine List.eq_nil_iff_forall_not_mem.mpr fun language hmem => ?_
      obtain ⟨data, hread⟩ := exists_request_naming hmem
      have hnamed := h data _ hread
      rw [hnil] at hnamed
      cases hnamed
    · rintro (hsome | hnone) data q hq
      · exact (hsome hnil).elim
      · have hmem := language_mem_of_validation hq
        rw [hnone] at hmem
        cases hmem
    · exact ⟨language_mem_of_validation hq,
        generate_of_outcome (.unsupportedLanguage (not_served_of_nil hnil q.language))⟩
  · rw [requestLanguages_of_ne_nil hnil]
    refine ⟨⟨fun _ => .inl hnil, fun _ _ _ => language_mem_of_validation⟩, ?_⟩
    intro h
    exact (hnil h).elim

def nothingEnabled : Settings := { Settings.default .builtin with languages := [] }

/-- A request for the positions of two numbers with a given sum. -/
def twoSum : ValidationRequest :=
  ⟨⟨"twoSum", [⟨"nums", "int[]"⟩, ⟨"target", "int"⟩], "int[]"⟩, "java"⟩

/-- Where nothing is enabled, a request for a file still passes. -/
theorem twoSum_named_where_nothing_enabled :
    ValidationRequest.ofJson (Registry.builtin.requestLanguages (some nothingEnabled))
        (.obj twoSum.toFields) = .ok twoSum ∧
      twoSum.language ∉ nothingEnabled.languages ∧ ¬NamesEnabled .builtin nothingEnabled := by
  have hread : ValidationRequest.ofJson
      (Registry.builtin.requestLanguages (some nothingEnabled)) (.obj twoSum.toFields) =
        .ok twoSum := rfl
  have hnot : twoSum.language ∉ nothingEnabled.languages := List.not_mem_nil
  exact ⟨hread, hnot, fun h => hnot ((h _).2 twoSum hread)⟩

end StubGen.Proofs
