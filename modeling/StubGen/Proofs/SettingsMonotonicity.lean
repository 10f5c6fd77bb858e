import StubGen.Proofs.DryRun

/-!
# Generation under different settings

Settings decide what is accepted and never what is written. Whatever passes under some settings
passes under all that enable the same languages and types as deep, with the same stub file, and only
the enabled languages and the depth limit count.
-/

namespace StubGen.Proofs

variable {r : Registry} {narrow wide : Settings} {language : String}

/-- The second settings enable the languages of the first, and types as deep. -/
structure Widens (narrow wide : Settings) : Prop where
  languages : narrow.languages ⊆ wide.languages
  depth : narrow.maxNestingDepth ≤ wide.maxNestingDepth

lemma served_mono (h : Widens narrow wide) (hs : Served r narrow language) :
    Served r wide language :=
  ⟨h.languages hs.1, hs.2⟩

lemma resolve_mono {target : Target} {text : RawText} {limit limit' : Int} {t : TypeExpr}
    (hle : limit ≤ limit') (h : target.resolve text limit = some t) :
    target.resolve text limit' = some t := by
  obtain ⟨hread, hdepth, hsupports⟩ := resolve_eq_some_iff.mp h
  exact resolve_eq_some_iff.mpr ⟨hread, Int.le_trans hdepth hle, hsupports⟩

lemma isSupported_mono (h : Widens narrow wide) {text : RawText}
    (hs : r.isSupported (some narrow) text language = true) :
    r.isSupported (some wide) text language = true := by
  obtain ⟨hmem, target, t, ht, hresolve⟩ := isSupported_iff.mp hs
  exact isSupported_iff.mpr ⟨h.languages hmem, target, t, ht, resolve_mono h.depth hresolve⟩

lemma failsCheck_antitone (h : Widens narrow wide) {text : RawText}
    (hf : FailsCheck r wide language text) : FailsCheck r narrow language text :=
  Bool.eq_false_iff.mpr fun hs => Bool.eq_false_iff.mp hf (isSupported_mono h hs)

lemma typeFaults_antitone (h : Widens narrow wide) (types : TypeTexts) (language : String) :
    r.typeFaults (some wide) types language ⊆ r.typeFaults (some narrow) types language := by
  intro f hf
  obtain ⟨hlanguage, hposition, hfails⟩ :=
    ((typeFaults_reports r (some wide) types language).mem_iff f).mp hf
  exact ((typeFaults_reports r (some narrow) types language).mem_iff f).mpr
    ⟨hlanguage, hposition, failsCheck_antitone h hfails⟩

theorem generate_mono (h : Widens narrow wide) {source : SignatureSource} {text : String}
    (hg : r.generate narrow source language = .ok text) :
    r.generate wide source language = .ok text := by
  cases generate_eq_iff_outcome.mp hg with
  | generated hl hs hnone ht htyped =>
    have hnone' := fun text htext => mt (failsCheck_antitone h) (hnone text htext)
    exact generate_of_outcome (.generated (served_mono h hl) hs hnone' ht htyped)

/-- Settings that enable the same languages and types as deep agree about everything that the
generation asks of them. -/
lemma same_answers {other : Settings} (hl : other.languages = narrow.languages)
    (hd : other.maxNestingDepth = narrow.maxNestingDepth) :
    r.generate other = r.generate narrow ∧
      r.isSupported (some other) = r.isSupported (some narrow) ∧
      r.typeFaults (some other) = r.typeFaults (some narrow) := by
  cases narrow
  cases other
  cases hl
  cases hd
  exact ⟨rfl, rfl, rfl⟩

/-- Acceptance grows with the settings and the output does not depend on them: wider settings
generate the same file for every signature, support every type and report faults at no further
position. Neither the question nor the environment, the log level and the address of the service
have any influence on these answers. -/
theorem acceptance_grows_with_settings (r : Registry) (h : Widens narrow wide) :
    (∀ source language question quoted question' quoted' text,
      (r.generateLogged narrow source language question quoted).value = .ok text →
        (r.generateLogged wide source language question' quoted').value = .ok text) ∧
    (∀ text language, r.isSupported (some narrow) text language = true →
      r.isSupported (some wide) text language = true) ∧
    (∀ types language, (r.typeFaults (some wide) types language).map TypeFault.position ⊆
      (r.typeFaults (some narrow) types language).map TypeFault.position) ∧
    (∀ environment logLevel server,
      let other := { narrow with environment, logLevel, server }
      (∀ source language question quoted question' quoted',
        (r.generateLogged other source language question quoted).value =
          (r.generateLogged narrow source language question' quoted').value) ∧
      (∀ text language, r.isSupported (some other) text language =
        r.isSupported (some narrow) text language) ∧
      ∀ types language, r.typeFaults (some other) types language =
        r.typeFaults (some narrow) types language) := by
  refine ⟨fun source language _ _ _ _ text hg => generate_mono h hg,
    fun text language hs => isSupported_mono h hs,
    fun types language => List.map_subset _ (typeFaults_antitone h types language), ?_⟩
  intro environment logLevel server other
  have hlanguages : other.languages = narrow.languages := rfl
  obtain ⟨hgenerate, hsupported, hfaults⟩ := same_answers (r := r) hlanguages rfl
  refine ⟨fun source language _ _ _ _ => ?_, fun text language => ?_, fun types language => ?_⟩
  · exact congrFun₂ hgenerate source language
  · exact congrFun₂ hsupported text language
  · exact congrFun₂ hfaults types language

/-- Settings for short types in one language. -/
def onlyJava : Settings :=
  { Settings.default .builtin with languages := ["java"], maxNestingDepth := 1 }

theorem acceptance_grows_from_java :
    Widens onlyJava (Settings.default .builtin) ∧
      ∃ text, Registry.builtin.generate onlyJava (.read totalRequest.signature) "java" = .ok text ∧
        Registry.builtin.generate (.default .builtin) (.read totalRequest.signature) "java" =
          .ok text := by
  have h : Widens onlyJava (Settings.default .builtin) := ⟨by decide, by decide⟩
  have hnil : Registry.builtin.typeFaults (some onlyJava) totalRequest.signature.typeTexts "java" =
      [] := by
    decide +kernel
  obtain ⟨target, typed, -, -, hg⟩ := generate_of_noFaults hnil
  have hwide := (acceptance_grows_with_settings .builtin h).1 (.read totalRequest.signature) "java"
    "total" "'java'" "sum" "'java'" (target.render typed) hg
  exact ⟨h, _, hg, hwide⟩

end StubGen.Proofs
