import StubGen.Proofs.Except
import StubGen.Service.Request

/-!
# Reading requests

Reading collects the faults of all parts of a document in the order of the parts. A template request
is a dry-run request followed by the fields of the question, so that its reading extends the other.
-/

namespace StubGen.Proofs

section Both

variable {α β : Type} {x : Checked α} {y : Checked β}

lemma both_eq_ok_iff {p : α × β} : x.both y = .ok p ↔ x = .ok p.1 ∧ y = .ok p.2 := by
  obtain ⟨a, b⟩ := p
  cases x <;> cases y <;> simp [Checked.both]

/-- The faults of the first part come first. -/
lemma both_of_error (y : Checked β) {fs : List Fault} (h : x = .error fs) :
    ∃ more, x.both y = .error (fs ++ more) := by
  subst h
  cases y with
  | ok b => exact ⟨[], by rw [List.append_nil]; rfl⟩
  | error gs => exact ⟨gs, rfl⟩

lemma under_eq_ok_iff {step : Step} {a : α} : x.under step = .ok a ↔ x = .ok a :=
  mapError_eq_ok_iff

lemma required_eq_ok_iff {fields : Json.Fields} {name : String} {read : Json → Checked α} {a : α} :
    Json.required fields name read = .ok a ↔
      ∃ value, Json.lookup name fields = some value ∧ read value = .ok a := by
  unfold Json.required
  cases Json.lookup name fields with
  | none => simp
  | some value => simp [under_eq_ok_iff]

end Both

section Languages

variable {enabled : List String} {data : Json}

/-- Of all texts those that name an enabled language are let through. -/
lemma readLanguage_eq_ok_iff {j : Json} {language : String} :
    readLanguage enabled j = .ok language ↔
      j.anyText = .ok (.whole language) ∧ language ∈ enabled := by
  unfold readLanguage
  rw [bind_eq_ok_iff]
  constructor
  · rintro ⟨text, htext, h⟩
    split at h
    · next s hs =>
      cases h
      obtain ⟨hwhole, hmem⟩ := Option.filter_eq_some_iff.mp hs
      rw [RawText.toString?_eq_some_iff.mp hwhole] at htext
      exact ⟨htext, List.contains_iff_mem.mp hmem⟩
    · cases h
  · rintro ⟨htext, hmem⟩
    have hfilter : (RawText.whole language).toString?.filter enabled.contains = some language :=
      Option.filter_eq_some_iff.mpr ⟨rfl, List.contains_iff_mem.mpr hmem⟩
    refine ⟨_, htext, ?_⟩
    rw [hfilter]
    rfl

lemma validation_eq_ok_iff {fields : Json.Fields} {q : ValidationRequest} :
    ValidationRequest.ofFields enabled fields = .ok q ↔
      Json.required fields "signature" Signature.ofJson = .ok q.signature ∧
        Json.required fields "language" (readLanguage enabled) = .ok q.language := by
  rw [ValidationRequest.ofFields, map_eq_ok_iff]
  constructor
  · rintro ⟨p, hp, rfl⟩
    exact both_eq_ok_iff.mp hp
  · intro h
    exact ⟨(q.signature, q.language), both_eq_ok_iff.mpr h, rfl⟩

lemma readLanguage_of_validation {q : ValidationRequest}
    (h : ValidationRequest.ofJson enabled data = .ok q) :
    ∃ value, data.field? "language" = some value ∧
      readLanguage enabled value = .ok q.language := by
  unfold ValidationRequest.ofJson at h
  split at h
  · exact required_eq_ok_iff.mp (validation_eq_ok_iff.mp h).2
  · cases h

/-- A request that has been read names one of the languages it was read with. -/
theorem language_mem_of_validation {q : ValidationRequest}
    (h : ValidationRequest.ofJson enabled data = .ok q) : q.language ∈ enabled := by
  obtain ⟨value, -, hread⟩ := readLanguage_of_validation h
  exact (readLanguage_eq_ok_iff.mp hread).2

end Languages

variable {enabled : List String} {data : Json}

/-- A template request holds the dry-run request of the same document. -/
theorem validation_of_template {q : TemplateRequest}
    (h : TemplateRequest.ofJson enabled data = .ok q) :
    ValidationRequest.ofJson enabled data = .ok q.toValidationRequest := by
  unfold TemplateRequest.ofJson at h
  split at h
  · obtain ⟨⟨base, question⟩, hboth, rfl⟩ := map_eq_ok_iff.mp h
    exact (both_eq_ok_iff.mp hboth).1
  · cases h

/-- The faults of a dry-run request are the first faults of the template request. -/
theorem template_faults_extend {faults : List Fault}
    (h : ValidationRequest.ofJson enabled data = .error faults) :
    ∃ more, TemplateRequest.ofJson enabled data = .error (faults ++ more) := by
  unfold ValidationRequest.ofJson at h
  unfold TemplateRequest.ofJson
  split at h
  · next fields =>
    obtain ⟨more, hboth⟩ := both_of_error (TemplateRequest.questionFields fields) h
    exact ⟨more, map_eq_error_iff.mpr hboth⟩
  · cases h
    exact ⟨[], rfl⟩

end StubGen.Proofs
