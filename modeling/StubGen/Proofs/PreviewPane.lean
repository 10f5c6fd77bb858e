import StubGen.Page.Preview
import StubGen.Proofs.LongIntegers
import StubGen.Proofs.RequestReplies

/-!
# The preview pane and the endpoint

The pane shows what the endpoint answers to the same request: the file, or the envelope as an error.
That fails for one kind of text. An integer with too many digits leaves the pane without a text,
while the endpoint takes such a body for no JSON.
-/

namespace StubGen.Proofs
open Http

variable {r : Registry} {settings : Settings} {moment : Moment} {q : Request}
  {text language : String} {fields : Json.Fields}

/-- What the endpoint for files answers to a posted object. -/
def fileAnswer (r : Registry) (settings : Settings) (moment : Moment) (fields : Json.Fields) :
    Response :=
  settle settings (r.serveTemplate settings moment (.obj fields)).value

lemma serve_file_of_posts (hmethod : q.method = "POST") (hpath : pathOf q.target = filePath)
    (hp : Posts q fields) :
    (serve r settings moment q).value = .ofResponse (fileAnswer r settings moment fields) := by
  rw [serve_file hmethod hpath]
  unfold serveEndpoint
  rw [object?_of_posts hp]
  rfl

/-- What a person is shown of an answer. -/
inductive Shows (answer : Response) : String → Prop
  | file {template : String} (hstatus : answer.status = 201)
      (htemplate : answer.payload.field? "template" = some (.str template)) : Shows answer template
  | error (hstatus : answer.status ≠ 201) : Shows answer ("Error: " ++ Json.pretty answer.payload)

lemma status_of_refusal (refusal : Refusal) : (refusal.failure.response settings).status = 400 := by
  cases refusal <;> rfl

lemma serveTemplate_eq_ok {data : Json} {answer : Response}
    (h : (r.serveTemplate settings moment data).value = .ok answer) :
    ∃ t template, answer = ⟨201, Registry.templatePayload moment t template⟩ := by
  unfold Registry.serveTemplate at h
  split at h
  · cases h
  · next t _ =>
    obtain ⟨template, -, hanswer⟩ := map_eq_ok_iff.mp h
    exact ⟨t, template, hanswer.symm⟩

lemma shows_previewText (r : Registry) (settings : Settings) (moment : Moment)
    (fields : Json.Fields) :
    Shows (fileAnswer r settings moment fields)
      (Registry.previewText settings (r.serveTemplate settings moment (.obj fields)).value) := by
  unfold fileAnswer
  cases hserve : (r.serveTemplate settings moment (.obj fields)).value with
  | ok answer =>
    obtain ⟨t, template, rfl⟩ := serveTemplate_eq_ok hserve
    exact .file rfl rfl
  | error refusal =>
    have hstatus : (settle settings (.error refusal)).status ≠ 201 := by
      have h400 : (settle settings (.error refusal)).status = 400 := status_of_refusal refusal
      omega
    exact .error hstatus

/-- The typed object as a request for the chosen language. -/
def chosen (language : String) (fields : Json.Fields) : Json.Fields :=
  Json.assign "language" (.str language) fields

/-- The pane has a text: for an object what the endpoint answers, and an error otherwise. -/
structure PaneAgrees (r : Registry) (settings : Settings) (moment : Moment) (text language : String)
    (pane : Except LongInteger String) : Prop where
  object : ∀ fields, Json.parse text = .ok (.obj fields) →
    ∃ shown, pane = .ok shown ∧ Shows (fileAnswer r settings moment (chosen language fields)) shown
  other : (∀ fields, Json.parse text ≠ .ok (.obj fields)) →
    ∃ reason, pane = .ok ("Error: " ++ reason)

lemma preview_of_longInteger {n : Nat} (htext : text ≠ "") (hlanguage : language ≠ "")
    (h : Json.parse text = .error (.longInteger n)) :
    (r.preview settings moment text language).value = .error ⟨n⟩ := by
  have hfilled : ¬(text = "" ∨ language = "") := not_or.mpr ⟨htext, hlanguage⟩
  unfold Registry.preview
  rw [if_neg hfilled, h]
  rfl

lemma paneAgrees_of_read (htext : text ≠ "") (hlanguage : language ≠ "")
    (h : ∀ n, Json.parse text ≠ .error (.longInteger n)) :
    PaneAgrees r settings moment text language
      (r.preview settings moment text language).value := by
  have hfilled : ¬(text = "" ∨ language = "") := not_or.mpr ⟨htext, hlanguage⟩
  constructor
  case object =>
    intro fields hfields
    refine ⟨_, ?_, shows_previewText r settings moment (chosen language fields)⟩
    unfold Registry.preview
    rw [if_neg hfilled, hfields]
    rfl
  case other =>
    intro hother
    unfold Registry.preview
    rw [if_neg hfilled]
    cases hread : Json.parse text with
    | error e =>
      cases e with
      | malformed problem position =>
        let e : Json.ReadError := .malformed problem position
        refine ⟨"invalid JSON: " ++ e.message text.toList, ?_⟩
        rw [← String.append_assoc]
        rfl
      | longInteger n => exact (h n hread).elim
    | ok value =>
      cases value with
      | obj fields => exact (hother fields hread).elim
      | _ => exact ⟨"request must be a JSON object", rfl⟩

/-- The pane shows what the endpoint answers to every request that posts the same object, unless the
text has an integer with more digits than are converted. Such a text has no pane. -/
theorem paneAgrees_iff (r : Registry) (settings : Settings) (moment : Moment) (htext : text ≠ "")
    (hlanguage : language ≠ "") :
    let pane := (r.preview settings moment text language).value
    (PaneAgrees r settings moment text language pane ↔
      ∀ n, Json.parse text ≠ .error (.longInteger n)) ∧
    (∀ n, Json.parse text = .error (.longInteger n) → pane = .error ⟨n⟩ ∧
      ∃ digits, IsLongRun digits text.toList ∧ digits.length = n) ∧
    ∀ q fields, q.method = "POST" → pathOf q.target = filePath → Posts q (chosen language fields) →
      (serve r settings moment q).value =
        .ofResponse (fileAnswer r settings moment (chosen language fields)) := by
  intro pane
  have hlong : ∀ n, Json.parse text = .error (.longInteger n) → pane = .error ⟨n⟩ := fun n h =>
    preview_of_longInteger htext hlanguage h
  refine ⟨⟨fun hagrees n hread => ?_, paneAgrees_of_read htext hlanguage⟩, fun n hread => ?_,
    fun q fields hmethod hpath hp => serve_file_of_posts hmethod hpath hp⟩
  · have hother : ∀ fields, Json.parse text ≠ .ok (.obj fields) := by
      intro fields hfields
      rw [hread] at hfields
      cases hfields
    obtain ⟨reason, hreason⟩ := hagrees.other hother
    rw [hlong n hread] at hreason
    cases hreason
  · exact ⟨hlong n hread, exists_longRun_of_read hread⟩

theorem paneAgrees_on_constant :
    let settings := Settings.default .builtin
    let pane := (Registry.builtin.preview settings default constantText "java").value
    constantText ≠ "" ∧ "java" ≠ "" ∧
      PaneAgrees .builtin settings default constantText "java" pane := by
  intro settings pane
  have htext : constantText ≠ "" := by decide
  have hlanguage : "java" ≠ "" := by decide
  have hiff := paneAgrees_iff .builtin settings default htext hlanguage
  refine ⟨htext, hlanguage, hiff.1.mpr fun n hread => ?_⟩
  -- The whole text is shorter than an integer that is refused.
  obtain ⟨digits, hrun, -⟩ := exists_longRun_of_read hread
  have hlength : digits.length ≤ constantText.toList.length := hrun.within.length_le
  have hshort : constantText.toList.length ≤ Text.maxIntegerDigits := by decide +kernel
  have hlong := hrun.long
  omega

/-- A number of 4301 ones, which is no object, has no pane. -/
theorem long_number_without_pane :
    let text := String.ofList (List.replicate 4301 '1')
    let pane := (Registry.builtin.preview (.default .builtin) default text "java").value
    text ≠ "" ∧ (∀ fields, Json.parse text ≠ .ok (.obj fields)) ∧ pane = .error ⟨4301⟩ ∧
      ¬PaneAgrees .builtin (.default .builtin) default text "java" pane := by
  intro text pane
  have hread : Json.parse text = .error (.longInteger 4301) := by
    have hones : text.toList = '1' :: List.replicate 4300 '1' := String.toList_ofList
    have hdigits : ∀ d ∈ '1' :: List.replicate 4300 '1', d.isDigit := by
      intro d hd
      rw [← List.replicate_succ] at hd
      rw [List.eq_of_mem_replicate hd]
      decide
    have hlength : ('1' :: List.replicate 4300 '1').length = 4301 := by
      rw [← List.replicate_succ, List.length_replicate]
    have hlong : Text.maxIntegerDigits < ('1' :: List.replicate 4300 '1').length := by
      rw [hlength]
      decide
    rw [Json.parse, hones, read_of_decimal hdigits (by decide) hlong, hlength]
  have htext : text ≠ "" := by
    intro hempty
    rw [hempty] at hread
    cases hread
  have hpane : pane = .error ⟨4301⟩ := preview_of_longInteger htext (by decide) hread
  have hother : ∀ fields, Json.parse text ≠ .ok (.obj fields) := by
    intro fields hfields
    rw [hread] at hfields
    cases hfields
  refine ⟨htext, hother, hpane, fun hagrees => ?_⟩
  obtain ⟨reason, hreason⟩ := hagrees.other hother
  rw [hpane] at hreason
  cases hreason

end StubGen.Proofs
