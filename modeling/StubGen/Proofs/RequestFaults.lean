import StubGen.Proofs.RequestReading

/-!
# Faults of requests

A document that cannot be read as a request has a fault, so that there is always something to
report. The lemmas follow the readers from the parts of a document to the whole.
-/

namespace StubGen.Proofs

variable {α β : Type} {x : Checked α} {y : Checked β}

/-- A reading that fails names a fault. -/
def Explained (x : Checked α) : Prop := ∀ faults, x = .error faults → faults ≠ []

lemma explained_ok (a : α) : Explained (.ok a : Checked α) := by
  intro faults h
  cases h

lemma explained_error {fs : List Fault} (h : fs ≠ []) : Explained (.error fs : Checked α) := by
  intro faults heq
  cases heq
  exact h

lemma explained_at (problem : Problem) (value : Json) :
    Explained (problem.at value : Checked α) :=
  explained_error (List.cons_ne_nil _ _)

lemma explained_both (hx : Explained x) (hy : Explained y) : Explained (x.both y) := by
  cases x with
  | ok a =>
    cases y with
    | ok b => exact explained_ok (a, b)
    | error gs => exact explained_error (hy gs rfl)
  | error fs =>
    cases y with
    | ok b => exact explained_error (hx fs rfl)
    | error gs => exact explained_error (List.append_ne_nil_of_left_ne_nil (hx fs rfl) gs)

lemma explained_map {f : α → β} (hx : Explained x) : Explained (x.map f) := by
  intro faults h
  exact hx faults (map_eq_error_iff.mp h)

lemma explained_under {step : Step} (hx : Explained x) : Explained (x.under step) := by
  intro faults h
  obtain ⟨fs, hfs, rfl⟩ := mapError_eq_error_iff.mp h
  exact fun hnil => hx fs hfs (List.map_eq_nil_iff.mp hnil)

lemma explained_required {fields : Json.Fields} {name : String} {read : Json → Checked α}
    (hread : ∀ j, Explained (read j)) : Explained (Json.required fields name read) := by
  unfold Json.required
  cases Json.lookup name fields with
  | none => exact explained_error (List.cons_ne_nil _ _)
  | some value => exact explained_under (hread value)

/-- If the reading of a value fails, then by the one fault that blames the value as a whole. -/
def BlamesWhole (j : Json) (x : Checked α) : Prop :=
  (∃ a, x = .ok a) ∨ ∃ problem : Problem, x = problem.at j

lemma blamesWhole_ok (j : Json) (a : α) : BlamesWhole j (.ok a : Checked α) := .inl ⟨a, rfl⟩

lemma blamesWhole_at (problem : Problem) (j : Json) :
    BlamesWhole j (problem.at j : Checked α) := .inr ⟨problem, rfl⟩

lemma blamesWhole_bind {j : Json} {f : α → Checked β} (hx : BlamesWhole j x)
    (hf : ∀ a, BlamesWhole j (f a)) : BlamesWhole j (x >>= f) := by
  obtain ⟨a, rfl⟩ | ⟨problem, rfl⟩ := hx
  · exact hf a
  · exact .inr ⟨problem, rfl⟩

lemma explained_of_blamesWhole {j : Json} (h : BlamesWhole j x) : Explained x := by
  obtain ⟨a, rfl⟩ | ⟨problem, rfl⟩ := h
  · exact explained_ok a
  · exact explained_at problem j

lemma blamesWhole_anyText (j : Json) : BlamesWhole j j.anyText := by
  unfold Json.anyText
  split
  · exact blamesWhole_ok _ _
  · split
    · exact blamesWhole_ok _ _
    · exact blamesWhole_at _ _
  · exact blamesWhole_at _ _

lemma blamesWhole_wholeText (j : Json) : BlamesWhole j j.wholeText := by
  refine blamesWhole_bind (blamesWhole_anyText j) fun text => ?_
  split
  · exact blamesWhole_ok _ _
  · exact blamesWhole_at _ _

lemma blamesWhole_read (rule : TextRule) (j : Json) : BlamesWhole j (rule.read j) := by
  refine blamesWhole_bind (blamesWhole_wholeText j) fun s => ?_
  split
  · exact blamesWhole_ok _ _
  · exact blamesWhole_at _ _

lemma blamesWhole_readLanguage (enabled : List String) (j : Json) :
    BlamesWhole j (readLanguage enabled j) := by
  refine blamesWhole_bind (blamesWhole_anyText j) fun text => ?_
  split
  · exact blamesWhole_ok _ _
  · exact blamesWhole_at _ _

lemma explained_anyText (j : Json) : Explained j.anyText :=
  explained_of_blamesWhole (blamesWhole_anyText j)

lemma explained_read (rule : TextRule) (j : Json) : Explained (rule.read j) :=
  explained_of_blamesWhole (blamesWhole_read rule j)

lemma explained_parameter (j : Json) : Explained (Parameter.ofJson j) := by
  unfold Parameter.ofJson
  split
  · exact explained_map (explained_both (explained_required (explained_read _))
      (explained_required explained_anyText))
  · exact explained_at _ _

lemma explained_readItems (i : Nat) (items : List Json) :
    Explained (Signature.readItems i items) := by
  -- The position of an item grows along the list, so the induction is for all of them.
  induction items generalizing i with
  | nil => exact explained_ok []
  | cons j rest ih =>
    exact explained_map (explained_both (explained_under (explained_parameter j)) (ih (i + 1)))

lemma explained_parametersField (fields : Json.Fields) :
    Explained (Signature.parametersField fields) := by
  unfold Signature.parametersField
  split
  · exact explained_ok []
  · refine explained_under ?_
    unfold Signature.readParameters
    split
    · split_ifs
      · exact explained_at _ _
      · exact explained_readItems 0 _
    · exact explained_at _ _

lemma explained_readReturns (j : Json) : Explained (Signature.readReturns j) := by
  unfold Signature.readReturns
  split
  · exact explained_required explained_anyText
  · exact explained_at _ _

lemma explained_signature (j : Json) : Explained (Signature.ofJson j) := by
  unfold Signature.ofJson Signature.ofFields
  split
  · exact explained_map (explained_both (explained_both (explained_required (explained_read _))
      (explained_parametersField _)) (explained_required explained_readReturns))
  · exact explained_at _ _

lemma explained_readLanguage (enabled : List String) (j : Json) :
    Explained (readLanguage enabled j) :=
  explained_of_blamesWhole (blamesWhole_readLanguage enabled j)

/-- A request that cannot be read has a fault. -/
theorem explained_validation (enabled : List String) (data : Json) :
    Explained (ValidationRequest.ofJson enabled data) := by
  unfold ValidationRequest.ofJson ValidationRequest.ofFields
  split
  · exact explained_map (explained_both (explained_required explained_signature)
      (explained_required (explained_readLanguage enabled)))
  · exact explained_at _ _

lemma explained_template (enabled : List String) (data : Json) :
    Explained (TemplateRequest.ofJson enabled data) := by
  have hquestion : ∀ fields, Explained (TemplateRequest.questionFields fields) := fun fields =>
    explained_both (explained_both (explained_required (explained_read _))
      (explained_required (explained_read _))) (explained_required (explained_read _))
  cases data with
  | obj fields =>
    exact explained_map (explained_both (explained_validation enabled (.obj fields))
      (hquestion fields))
  | _ => exact explained_at _ _

end StubGen.Proofs
