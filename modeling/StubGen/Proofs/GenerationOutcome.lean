import StubGen.Generation
import StubGen.Proofs.TypeChecking

/-!
# The outcome of a generation

A generation ends in one of four ways, tried in a fixed order: the language is refused, the
signature is malformed, some types are refused, or the stub file is written. `Outcome` states the
four with their conditions, which exclude one another, so that a rendering that starts also ends.
-/

namespace StubGen.Proofs
open TypeExpr

/-- The language is enabled and has a target. -/
def Served (r : Registry) (settings : Settings) (language : String) : Prop :=
  language ∈ settings.languages ∧ r.isRegistered language = true

/-- How a generation ends when `faulty` says which type texts are refused. -/
inductive Outcome (r : Registry) (faulty : RawText → Prop) (settings : Settings)
    (source : SignatureSource) (language : String) : Except Refusal String → Prop
  | unsupportedLanguage (hl : ¬Served r settings language) :
    Outcome r faulty settings source language (.error (.unsupportedLanguage language))
  | malformed {faults : List Fault} (hl : Served r settings language)
      (hs : source.signature = .error faults) :
    Outcome r faulty settings source language (.error (.malformed faults))
  | unsupportedTypes {s : Signature} {faults : List TypeFault} (hl : Served r settings language)
      (hs : source.signature = .ok s) (hf : Reports faulty language s.typeTexts faults)
      (hne : faults ≠ []) :
    Outcome r faulty settings source language (.error (.unsupportedTypes faults))
  | generated {s : Signature} {target : Target} {typed : TypedSignature}
      (hl : Served r settings language) (hs : source.signature = .ok s)
      (hnone : ∀ text ∈ s.typeTexts.all, ¬faulty text) (ht : r.find? language = some target)
      (htyped : s.typed = .ok typed) :
    Outcome r faulty settings source language (.ok (target.render typed))

lemma find?_of_isRegistered {r : Registry} {language : String}
    (h : r.isRegistered language = true) : ∃ target, r.find? language = some target := by
  rw [Registry.isRegistered, List.contains_iff_mem, Registry.languages, List.mem_map] at h
  obtain ⟨target, hmem, hlanguage⟩ := h
  have hsome : (r.find? language).isSome := by
    rw [Registry.find?, List.find?_isSome]
    exact ⟨target, hmem, by simp [hlanguage]⟩
  exact Option.isSome_iff_exists.mp hsome

lemma isRegistered_of_find? {r : Registry} {language : String} {target : Target}
    (h : r.find? language = some target) : r.isRegistered language = true := by
  rw [Registry.isRegistered, List.contains_iff_mem, Registry.languages, List.mem_map]
  refine ⟨target, List.mem_of_find?_eq_some h, ?_⟩
  simpa using List.find?_some h

/-- The check of a signature refuses the text. -/
def FailsCheck (r : Registry) (settings : Settings) (language : String) (text : RawText) : Prop :=
  r.isSupported (some settings) text language = false

lemma accept_of_not_served {r : Registry} {settings : Settings} {language : String}
    (h : ¬Served r settings language) (source : SignatureSource) :
    r.accept settings source language = .error (.unsupportedLanguage language) := by
  unfold Registry.accept
  split
  · next target hcontains hfind =>
    exact (h ⟨List.contains_iff_mem.mp hcontains, isRegistered_of_find? hfind⟩).elim
  · rfl

lemma accept_of_served {r : Registry} {settings : Settings} {language : String} {target : Target}
    (h : language ∈ settings.languages) (ht : r.find? language = some target)
    (source : SignatureSource) :
    r.accept settings source language =
      match source.signature with
      | .error faults => .error (.malformed faults)
      | .ok s =>
        match r.typeFaults (some settings) s.typeTexts language with
        | [] => .ok (target, s)
        | faults => .error (.unsupportedTypes faults) := by
  unfold Registry.accept
  split
  · next found hcontains hfind =>
    have htarget : found = target := Option.some.inj (hfind.symm.trans ht)
    subst htarget
    rfl
  · next hrefused => exact (hrefused target (List.contains_iff_mem.mpr h) ht).elim

/-- A text that passes the check can be read. -/
lemma exists_type_of_supported {r : Registry} {settings : Settings} {language : String}
    {text : RawText} (h : ¬FailsCheck r settings language text) :
    ∃ t, ofText? text = some t := by
  have hsupported : r.isSupported (some settings) text language = true := by
    simpa [FailsCheck] using h
  obtain ⟨-, target, t, -, ht⟩ := isSupported_iff.mp hsupported
  exact ⟨t, (resolve_eq_some_iff.mp ht).1⟩

/-- One of the four outcomes is always open: what the check lets through can be rendered. -/
theorem exists_outcome (r : Registry) (settings : Settings) (source : SignatureSource)
    (language : String) :
    ∃ result, Outcome r (FailsCheck r settings language) settings source language result := by
  by_cases hl : Served r settings language
  · cases hs : source.signature with
    | error faults => exact ⟨_, .malformed hl hs⟩
    | ok s =>
      have hreports := typeFaults_reports r (some settings) s.typeTexts language
      by_cases hnil : r.typeFaults (some settings) s.typeTexts language = []
      · have hnone := (reports_nil_iff hreports).mp hnil
        obtain ⟨target, ht⟩ := find?_of_isRegistered hl.2
        obtain ⟨typed, htyped⟩ := exists_typed fun text htext =>
          exists_type_of_supported (hnone text htext)
        exact ⟨_, .generated hl hs hnone ht htyped⟩
      · exact ⟨_, .unsupportedTypes hl hs hreports hnil⟩
  · exact ⟨_, .unsupportedLanguage hl⟩

/-- A generation ends as its outcome says. -/
theorem generate_of_outcome {r : Registry} {settings : Settings} {source : SignatureSource}
    {language : String} {result : Except Refusal String}
    (h : Outcome r (FailsCheck r settings language) settings source language result) :
    r.generate settings source language = result := by
  unfold Registry.generate
  cases h with
  | unsupportedLanguage hl =>
    rw [accept_of_not_served hl]
    rfl
  | malformed hl hs =>
    obtain ⟨target, ht⟩ := find?_of_isRegistered hl.2
    rw [accept_of_served hl.1 ht, hs]
    rfl
  | @unsupportedTypes s faults hl hs hf hne =>
    obtain ⟨target, ht⟩ := find?_of_isRegistered hl.2
    have hfaults : r.typeFaults (some settings) s.typeTexts language = faults :=
      reports_unique (typeFaults_reports r (some settings) s.typeTexts language) hf
    rw [accept_of_served hl.1 ht, hs]
    dsimp only
    rw [hfaults]
    cases faults with
    | nil => exact (hne rfl).elim
    | cons f faults => rfl
  | @generated s target typed hl hs hnone ht htyped =>
    have hnil : r.typeFaults (some settings) s.typeTexts language = [] :=
      (reports_nil_iff (typeFaults_reports r (some settings) s.typeTexts language)).mpr hnone
    rw [accept_of_served hl.1 ht, hs]
    dsimp only
    rw [hnil]
    show target.renderSignature s = .ok (target.render typed)
    rw [Target.renderSignature, htyped]

theorem generate_eq_iff_outcome {r : Registry} {settings : Settings} {source : SignatureSource}
    {language : String} {result : Except Refusal String} :
    r.generate settings source language = result ↔
      Outcome r (FailsCheck r settings language) settings source language result := by
  constructor
  · rintro rfl
    obtain ⟨result, houtcome⟩ := exists_outcome r settings source language
    rw [generate_of_outcome houtcome]
    exact houtcome
  · exact generate_of_outcome

/-- Outcomes only depend on which texts are refused where the language is served. -/
lemma outcome_mono {r : Registry} {faulty faulty' : RawText → Prop} {settings : Settings}
    {source : SignatureSource} {language : String} {result : Except Refusal String}
    (hiff : Served r settings language → ∀ text, faulty text ↔ faulty' text)
    (h : Outcome r faulty settings source language result) :
    Outcome r faulty' settings source language result := by
  cases h with
  | unsupportedLanguage hl => exact .unsupportedLanguage hl
  | malformed hl hs => exact .malformed hl hs
  | unsupportedTypes hl hs hf hne =>
    exact .unsupportedTypes hl hs (reports_congr (hiff hl) hf) hne
  | generated hl hs hnone ht htyped =>
    exact .generated hl hs (fun text htext => (hiff hl text).not.mp (hnone text htext)) ht htyped

/-- The text is no type, or one nested beyond the limit. -/
def Offends (limit : Int) (text : RawText) : Prop :=
  ofText? text = none ∨ ∃ t, ofText? text = some t ∧ limit < t.depth

lemma supports_of_find?_builtin {language : String} {target : Target}
    (h : Registry.builtin.find? language = some target) (t : TypeExpr) :
    target.supports t = true := by
  have hmem : target ∈ Target.builtins := List.mem_of_find?_eq_some h
  have hrejected : target.rejected = [] := by
    have hall : ∀ target ∈ Target.builtins, target.rejected = [] := by decide
    exact hall target hmem
  rw [Target.supports, hrejected]
  rfl

/-- The built-in targets render every type, so that only the spelling and the depth count. -/
lemma failsCheck_builtin_iff {settings : Settings} {language : String}
    (hl : Served Registry.builtin settings language) (text : RawText) :
    FailsCheck Registry.builtin settings language text ↔ Offends settings.maxNestingDepth text := by
  obtain ⟨target, ht⟩ := find?_of_isRegistered hl.2
  have hresolve : Registry.builtin.isSupported (some settings) text language = true ↔
      ∃ t, ofText? text = some t ∧ (t.depth : Int) ≤ settings.maxNestingDepth := by
    simp only [isSupported_iff, ht, hl.1, true_and, Option.some.injEq, exists_and_left,
      exists_eq_left', resolve_eq_some_iff, supports_of_find?_builtin ht, and_true]
  rw [FailsCheck, ← Bool.not_eq_true, hresolve, Offends]
  cases ofText? text with
  | none => simp
  | some t => simp

/-- Over the built-in targets a generation ends in exactly one of the four ways, tried in order: an
unserved language is refused whatever the signature is, then a malformed signature, then the texts
that are no types or nested too deeply, each position once and in order; and all else is rendered.
The question and the quoted language only show in the log. -/
theorem generation_ends_in_outcome (settings : Settings) (source : SignatureSource)
    (language : String) (question : RawText) (quotedLanguage : String)
    (result : Except Refusal String) :
    ((Registry.builtin.generateLogged settings source language question quotedLanguage).value =
        result ↔
      Outcome Registry.builtin (Offends settings.maxNestingDepth) settings source language result) ∧
    (∀ faults, (Refusal.unsupportedTypes faults).message =
      RawText.joined "; " (faults.map TypeFault.message)) ∧
    (∀ i, (TypePosition.parameter i).field = "parameters[" ++ toString i ++ "].type") ∧
    TypePosition.returns.field = "returns.type" := by
  refine ⟨?_, fun _ => rfl, fun _ => rfl, rfl⟩
  show Registry.builtin.generate settings source language = result ↔ _
  rw [generate_eq_iff_outcome]
  constructor
  · exact outcome_mono fun hl text => failsCheck_builtin_iff hl text
  · exact outcome_mono fun hl text => (failsCheck_builtin_iff hl text).symm

end StubGen.Proofs
