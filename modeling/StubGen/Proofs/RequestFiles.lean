import StubGen.Command.Run
import StubGen.Proofs.RequestFaults

/-!
# Request files

A request file holds a document, in which the language of the command line takes the place of the
one in the file. Whatever the file holds, either a request stands in it or something is reported,
except for texts that interrupt the reading.
-/

namespace StubGen.Proofs
open Yaml (Data Collection Document)

section Documents

lemma isSame_str_iff {k : Data} {name : RawText} : k.isSame (.str name) = true ↔ k = .str name := by
  cases k with
  | real x => cases hx : x.integer? <;> simp [Data.isSame, Data.normal, hx]
  | _ => simp [Data.isSame, Data.normal]

lemma find?_assign (name : RawText) (value : Data) (entries : List (Data × Data)) :
    (Data.assign (.str name) value entries).find? (fun (k, _) => k = .str name) =
      some (.str name, value) := by
  -- The key replaces its first occurrence, which is the one that is found, or comes last.
  induction entries with
  | nil => simp [Data.assign]
  | cons e rest ih =>
    obtain ⟨k, v⟩ := e
    by_cases hk : k = .str name
    · subst hk
      rw [Data.assign, if_pos (isSame_str_iff.mpr rfl), List.find?_cons_of_pos (by simp)]
    · have hsame : ¬k.isSame (.str name) = true := fun h => hk (isSame_str_iff.mp h)
      rw [Data.assign, if_neg hsame, List.find?_cons_of_neg (by simpa using hk), ih]

lemma field?_map_toJson (part : Data → Json) (name : String) (entries : List (Data × Data)) :
    ((Collection.map entries).toJson part).field? name =
      (entries.find? fun (k, _) => k = .str name).map fun e => part e.2 := by
  simp only [Collection.toJson, Json.field?]
  induction entries with
  | nil => rfl
  | cons e rest ih =>
    obtain ⟨k, v⟩ := e
    cases k with
    | str n => by_cases hn : n = RawText.whole name <;> simp [Json.lookup, hn, ih]
    | _ => simpa using ih

/-- A schema sees the entries of a mapping whose keys are texts. -/
lemma field?_toJson (d : Document) (depth : Nat) (mapping : Data) (name : String) :
    (d.toJson (depth + 1) mapping).field? name = (d.get? mapping name).map (d.toJson depth) := by
  cases mapping with
  | collection p =>
    cases hc : d.collection p with
    | map entries =>
      simp only [Document.toJson, hc, field?_map_toJson, Document.get?, Document.entries?]
      simp [Function.comp_def]
    | _ =>
      simp [Document.toJson, hc, Collection.toJson, Json.field?, Document.get?, Document.entries?]
  | _ => simp [Document.toJson, Json.field?, Document.get?, Document.entries?]

lemma assign_root (d : Document) (name : String) (value : Data) :
    (d.assign name value).root = d.root := by
  unfold Document.assign
  split <;> rfl

lemma collection_of_entries? {d : Document} {v : Data} {entries : List (Data × Data)}
    (h : d.entries? v = some entries) :
    ∃ p, v = .collection p ∧ p < d.collections.size ∧ d.collection p = .map entries := by
  cases v with
  | collection p =>
    cases hc : d.collection p with
    | map es =>
      simp only [Document.entries?, hc, Option.some.injEq] at h
      refine ⟨p, rfl, ?_, by rw [hc, h]⟩
      -- Outside of the document every collection is an empty sequence.
      by_contra hout
      simp [Document.collection, Array.getD_eq_getD_getElem?, hout] at hc
    | _ => simp [Document.entries?, hc] at h
  | _ => simp [Document.entries?] at h

lemma get?_assign {d : Document} (name : String) (value : Data)
    (h : (d.entries? d.root).isSome) :
    (d.assign name value).get? d.root name = some value := by
  obtain ⟨entries, hentries⟩ := Option.isSome_iff_exists.mp h
  obtain ⟨p, hroot, hp, hc⟩ := collection_of_entries? hentries
  have hassigned : (d.assign name value).collection p =
      .map (Data.assign (.str name) value entries) := by
    unfold Document.assign
    rw [hentries, hroot]
    simp [Document.collection, Array.getD_eq_getD_getElem?, hp]
  rw [Document.get?, hroot, Document.entries?, hassigned]
  simp [find?_assign]

end Documents

section Requests

variable {r : Registry} {settings : Settings} {files : Files.Source} {file : String}
  {language : Option String}

/-- The document in which the language of the command line, if there is one, takes the place of the
one that is there. -/
def override (language : Option String) (document : Document) : Document :=
  match language with
  | some name => document.assign "language" (.str name)
  | none => document

lemma override_root (language : Option String) (document : Document) :
    (override language document).root = document.root := by
  cases language with
  | none => rfl
  | some name => exact assign_root document "language" _

/-- The request stands in the file, apart from the language that the command line gives. -/
def StandsIn (r : Registry) (settings : Settings) (files : Files.Source) (file : String)
    (language : Option String) (q : ValidationRequest) : Prop :=
  ∃ text document, Files.readText files (.ofString file) = .ok text ∧
    Yaml.load text = .ok document ∧ (document.entries? document.root).isSome ∧
    ValidationRequest.ofJson (r.requestLanguages (some settings))
      ((override language document).toJson Command.requestDepth document.root) = .ok q

/-- The text in the file, if it gets that far, interrupts nothing. -/
def Uninterrupted (files : Files.Source) (file : String) : Prop :=
  ∀ text e, Files.readText files (.ofString file) = .ok text → Yaml.load text = .error e →
    e.kind ≠ .unexpected

/-- A language on the command line is that of the request. -/
theorem language_of_standsIn {q : ValidationRequest} {name : String}
    (h : StandsIn r settings files file (some name) q) : q.language = name := by
  obtain ⟨text, document, -, -, hmapping, hread⟩ := h
  obtain ⟨value, hvalue, hlanguage⟩ := readLanguage_of_validation hread
  have hassigned : (override (some name) document).get? document.root "language" =
      some (.str name) := get?_assign "language" _ hmapping
  rw [Command.requestDepth, field?_toJson, hassigned] at hvalue
  cases hvalue
  have hname := (readLanguage_eq_ok_iff.mp hlanguage).1
  cases hname
  rfl

lemma ofYaml_of_expected (path : Files.Path) {e : Yaml.Error} (h : e.kind ≠ .unexpected) :
    ∃ fault, Command.RequestError.ofYaml path e = .reported fault := by
  unfold Command.RequestError.ofYaml
  cases hkind : e.kind with
  | markup => exact ⟨_, rfl⟩
  | value => exact ⟨_, rfl⟩
  | unexpected => exact (h hkind).elim

lemma readRequest_of_mapping {text : String} {document : Document}
    (hread : Files.readText files (.ofString file) = .ok text)
    (hload : Yaml.load text = .ok document)
    (hmapping : (document.entries? document.root).isSome) (language : Option String) :
    Command.readRequest files (.ofString file) language = .ok (override language document) := by
  obtain ⟨entries, hentries⟩ := Option.isSome_iff_exists.mp hmapping
  unfold Command.readRequest
  rw [hread]
  dsimp only
  rw [hload]
  dsimp only
  rw [hentries]
  cases language <;> rfl

lemma readRequest_cases (language : Option String) (h : Uninterrupted files file) :
    (∃ fault, Command.readRequest files (.ofString file) language = .error (.reported fault)) ∨
    ∃ text document, Files.readText files (.ofString file) = .ok text ∧
      Yaml.load text = .ok document ∧ (document.entries? document.root).isSome := by
  cases hread : Files.readText files (.ofString file) with
  | error e =>
    rw [Command.readRequest, hread]
    cases e <;> exact .inl ⟨_, rfl⟩
  | ok text =>
    cases hload : Yaml.load text with
    | error e =>
      obtain ⟨fault, hfault⟩ := ofYaml_of_expected (.ofString file) (h text e hread hload)
      refine .inl ⟨fault, ?_⟩
      rw [Command.readRequest, hread]
      dsimp only
      rw [hload]
      exact congrArg Except.error hfault
    | ok document =>
      cases hentries : document.entries? document.root with
      | some entries => exact .inr ⟨text, document, rfl, hload, by rw [hentries]; rfl⟩
      | none =>
        refine .inl ⟨.notMapping (.ofString file), ?_⟩
        rw [Command.readRequest, hread]
        dsimp only
        rw [hload]
        simp [hentries]

lemma requestIn_of_mapping {text : String} {document : Document}
    (hread : Files.readText files (.ofString file) = .ok text)
    (hload : Yaml.load text = .ok document)
    (hmapping : (document.entries? document.root).isSome) :
    Command.requestIn r settings files file language =
      .ok (((ValidationRequest.ofJson (r.requestLanguages (some settings))
        ((override language document).toJson Command.requestDepth document.root)).mapError
          Command.faultReports).map (override language document, ·)) := by
  unfold Command.requestIn
  rw [readRequest_of_mapping hread hload hmapping]
  dsimp only
  rw [override_root]
  cases ValidationRequest.ofJson (r.requestLanguages (some settings))
    ((override language document).toJson Command.requestDepth document.root) <;> rfl

lemma requestIn_of_standsIn {q : ValidationRequest}
    (h : StandsIn r settings files file language q) :
    ∃ document, Command.requestIn r settings files file language = .ok (.ok (document, q)) := by
  obtain ⟨text, document, hread, hload, hmapping, hq⟩ := h
  refine ⟨override language document, ?_⟩
  rw [requestIn_of_mapping hread hload hmapping, hq]
  rfl

lemma eq_of_requestIn {document : Document} {q q' : ValidationRequest}
    (hread : Command.requestIn r settings files file language = .ok (.ok (document, q)))
    (h : StandsIn r settings files file language q') : q' = q := by
  obtain ⟨document', hread'⟩ := requestIn_of_standsIn h
  cases hread.symm.trans hread'
  rfl

lemma not_standsIn_of_reports {reports : List RawText} {q : ValidationRequest}
    (hread : Command.requestIn r settings files file language = .ok (.error reports)) :
    ¬StandsIn r settings files file language q := by
  intro h
  obtain ⟨document, hread'⟩ := requestIn_of_standsIn h
  cases hread.symm.trans hread'

/-- Reading a request file ends in reports or in the request that stands in the file. -/
theorem requestIn_cases (r : Registry) (settings : Settings) (language : Option String)
    (h : Uninterrupted files file) :
    (∃ reports, reports ≠ [] ∧
      Command.requestIn r settings files file language = .ok (.error reports)) ∨
    ∃ document q, StandsIn r settings files file language q ∧
      Command.requestIn r settings files file language = .ok (.ok (document, q)) := by
  obtain ⟨fault, hfault⟩ | ⟨text, document, hread, hload, hmapping⟩ :=
    readRequest_cases language h
  · rw [Command.requestIn, hfault]
    exact .inl ⟨_, List.cons_ne_nil _ _, rfl⟩
  · rw [requestIn_of_mapping hread hload hmapping]
    cases hq : ValidationRequest.ofJson (r.requestLanguages (some settings))
        ((override language document).toJson Command.requestDepth document.root) with
    | error faults =>
      refine .inl ⟨_, ?_, rfl⟩
      exact fun hnil => explained_validation _ _ faults hq (List.map_eq_nil_iff.mp hnil)
    | ok q => exact .inr ⟨_, q, ⟨text, document, hread, hload, hmapping, hq⟩, rfl⟩

lemma uninterrupted_of_requestIn {answer : Except (List RawText) (Document × ValidationRequest)}
    (hread : Command.requestIn r settings files file language = .ok answer) :
    Uninterrupted files file := by
  intro text e htext hload hkind
  have hinterrupted : Command.readRequest files (.ofString file) language =
      .error (.interrupted (.value e)) := by
    rw [Command.readRequest, htext]
    dsimp only
    rw [hload]
    dsimp only
    rw [Command.RequestError.ofYaml, hkind]
  rw [Command.requestIn, hinterrupted] at hread
  cases hread

lemma standsIn_of_requestIn {document : Document} {q : ValidationRequest}
    (hread : Command.requestIn r settings files file language = .ok (.ok (document, q))) :
    StandsIn r settings files file language q := by
  obtain ⟨reports, -, hread'⟩ | ⟨document', q', hstands, -⟩ :=
    requestIn_cases r settings language (uninterrupted_of_requestIn hread)
  · cases hread.symm.trans hread'
  · rwa [← eq_of_requestIn hread hstands]

end Requests

end StubGen.Proofs
