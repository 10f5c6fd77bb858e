import StubGen.Proofs.DryRun
import StubGen.Proofs.RequestFiles
import StubGen.Proofs.SettingsLoading

/-!
# Runs of the generate and validate commands

Both commands read the same request and check the same types; one then prints the file and the other
says that it could. So they succeed on the same command lines, and a failure shows as error lines
only.
-/

namespace StubGen.Proofs
open Command (Output)

section Outputs

lemma joined_empty_cons (texts : List RawText) :
    RawText.joined "" (.whole "" :: texts) = RawText.joined "" texts := by
  cases texts with
  | nil => rfl
  | cons t rest => simp [RawText.joined]

lemma joined_of_empty {before : List RawText} (h : ∀ t ∈ before, t = .whole "")
    (texts : List RawText) :
    RawText.joined "" (before ++ texts) = RawText.joined "" texts := by
  induction before with
  | nil => rfl
  | cons t rest ih =>
    rw [h t List.mem_cons_self, List.cons_append, joined_empty_cons]
    exact ih fun u hu => h u (List.mem_cons_of_mem _ hu)

lemma standardText_of_mem_shown {level : Log.Level} {records : List Log.Record} {piece : Output}
    (h : piece ∈ Command.shown level records) : piece.standardText = .whole "" := by
  obtain ⟨record, -, rfl⟩ := List.mem_map.mp h
  rfl

/-- Log records are not part of the standard output. -/
lemma standardOutput_after_shown (level : Log.Level) (records : List Log.Record)
    (o : Command.Outcome) :
    (o.after (Command.shown level records)).standardOutput = o.standardOutput := by
  rw [Command.Outcome.standardOutput, Command.Outcome.after, List.map_append, joined_of_empty]
  · rfl
  · intro t ht
    obtain ⟨piece, hpiece, rfl⟩ := List.mem_map.mp ht
    exact standardText_of_mem_shown hpiece

/-- The outcome has exit code 1, nothing on the standard output, and an error line. -/
structure Fails (o : Command.Outcome) : Prop where
  exitCode : o.exitCode = 1
  silent : o.standardOutput = .whole ""
  line : ∃ message, Output.failure message ∈ o.output

lemma fails_failure {messages : List RawText} (h : messages ≠ []) : Fails (.failure messages) := by
  refine ⟨rfl, ?_, ?_⟩
  · rw [Command.Outcome.standardOutput, ← List.append_nil (List.map _ _), joined_of_empty]
    · rfl
    · intro t ht
      obtain ⟨piece, hpiece, rfl⟩ := List.mem_map.mp ht
      obtain ⟨message, -, rfl⟩ := List.mem_map.mp hpiece
      rfl
  · obtain ⟨message, hmem⟩ := List.exists_mem_of_ne_nil messages h
    exact ⟨message, List.mem_map_of_mem hmem⟩

lemma fails_after_shown {o : Command.Outcome} (h : Fails o) (level : Log.Level)
    (records : List Log.Record) : Fails (o.after (Command.shown level records)) := by
  obtain ⟨message, hmem⟩ := h.line
  refine ⟨h.exitCode, ?_, message, List.mem_append_right _ hmem⟩
  rw [standardOutput_after_shown, h.silent]

lemma not_success_of_fails {o : Command.Outcome} (h : Fails o) : o.exitCode ≠ 0 := by
  rw [h.exitCode]
  exact Nat.one_ne_zero

end Outputs

section Commands

variable {r : Registry} {settings : Settings} {q : ValidationRequest}

lemma generate_prints {text : String}
    (h : r.generate settings (.read q.signature) q.language = .ok text) (level : Log.Level)
    (document : Yaml.Document) :
    (Command.generate r settings level document q).exitCode = 0 ∧
      (Command.generate r settings level document q).standardOutput = .whole text := by
  unfold Command.generate
  simp only [Registry.generateLogged, h]
  refine ⟨rfl, ?_⟩
  rw [standardOutput_after_shown]
  rfl

lemma generate_fails {refusal : Refusal}
    (h : r.generate settings (.read q.signature) q.language = .error refusal)
    (hreports : Command.refusalReports refusal ≠ []) (level : Log.Level)
    (document : Yaml.Document) : Fails (Command.generate r settings level document q) := by
  unfold Command.generate
  simp only [Registry.generateLogged, h]
  exact fails_after_shown (fails_failure hreports) level _

lemma validate_succeeds
    (h : r.typeFaults (some settings) q.signature.typeTexts q.language = []) :
    (Command.validate r settings q).exitCode = 0 := by
  unfold Command.validate
  dsimp only
  rw [h]
  rfl

lemma validate_fails
    (h : r.typeFaults (some settings) q.signature.typeTexts q.language ≠ []) :
    Fails (Command.validate r settings q) := by
  unfold Command.validate
  dsimp only
  split
  · next hnil => exact (h hnil).elim
  · exact fails_failure fun hnil => h (List.map_eq_nil_iff.mp hnil)

lemma generate_refuses
    (h : r.typeFaults (some settings) q.signature.typeTexts q.language ≠ []) :
    ∃ refusal, r.generate settings (.read q.signature) q.language = .error refusal ∧
      Command.refusalReports refusal ≠ [] := by
  obtain hrefused | ⟨_, hrefused⟩ := generate_of_faults h
  · exact ⟨_, hrefused, List.cons_ne_nil _ _⟩
  · exact ⟨_, hrefused, List.cons_ne_nil _ _⟩

/-- Both commands succeed if the types are supported, and otherwise both fail. -/
lemma generate_validate_cases (r : Registry) (settings : Settings) (q : ValidationRequest)
    (level : Log.Level) (document : Yaml.Document) :
    (∃ text, r.generate settings (.read q.signature) q.language = .ok text ∧
      (Command.generate r settings level document q).exitCode = 0 ∧
      (Command.generate r settings level document q).standardOutput = .whole text ∧
      (Command.validate r settings q).exitCode = 0) ∨
    ((∃ refusal, r.generate settings (.read q.signature) q.language = .error refusal) ∧
      Fails (Command.generate r settings level document q) ∧
      Fails (Command.validate r settings q)) := by
  by_cases hfaults : r.typeFaults (some settings) q.signature.typeTexts q.language = []
  · obtain ⟨target, typed, -, -, hgenerate⟩ := generate_of_noFaults hfaults
    obtain ⟨hcode, hprinted⟩ := generate_prints hgenerate level document
    exact .inl ⟨_, hgenerate, hcode, hprinted, validate_succeeds hfaults⟩
  · obtain ⟨refusal, hrefused, hreports⟩ := generate_refuses hfaults
    exact .inr ⟨⟨refusal, hrefused⟩, generate_fails hrefused hreports level document,
      validate_fails hfaults⟩

end Commands

section Yielded

/-- The text is the stub file for the request in a request file. A language on the command line is
the one of the request. -/
def Yields (r : Registry) (settings : Settings) (files : Files.Source) (file : String)
    (language : Option String) (text : String) : Prop :=
  ∃ q, StandsIn r settings files file language q ∧
    (∀ name, language = some name → q.language = name) ∧
    r.generate settings (.read q.signature) q.language = .ok text

variable {r : Registry} {settings : Settings} {files : Files.Source} {file : String}
  {language : Option String}

/-- A file holds one request only, so what it yields is what is generated for the one that is read
there. -/
lemma yields_iff_generate {document : Yaml.Document} {q : ValidationRequest}
    (hread : Command.requestIn r settings files file language = .ok (.ok (document, q)))
    (text : String) :
    Yields r settings files file language text ↔
      r.generate settings (.read q.signature) q.language = .ok text := by
  constructor
  · rintro ⟨q', hstands, -, htext⟩
    rwa [eq_of_requestIn hread hstands] at htext
  · intro htext
    have hstands := standsIn_of_requestIn hread
    refine ⟨q, hstands, ?_, htext⟩
    rintro name rfl
    exact language_of_standsIn hstands

lemma not_yields_of_reports {reports : List RawText}
    (hread : Command.requestIn r settings files file language = .ok (.error reports))
    (text : String) : ¬Yields r settings files file language text := by
  rintro ⟨q, hstands, -⟩
  exact not_standsIn_of_reports hread hstands

end Yielded

section Lines

variable {r : Registry} {surroundings : Command.Surroundings} {line : List String}
  {config logLevel : Option String} {settings : Settings}

/-- A request in a language that there is not. -/
def constantRequest : String := "{language: c, signature: {function_name: f, returns: {type: int}}}"

def constantFolder : Files.Source :=
  let bytes := constantRequest.toList.map fun c => c.toNat.toUInt8
  Files.Folder.files [(.ofString "r.yaml", .file bytes)]

end Lines

end StubGen.Proofs
