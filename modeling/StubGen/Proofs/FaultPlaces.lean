import Mathlib.Data.List.Nodup
import StubGen.Proofs.BlockLines
import StubGen.Proofs.RequestFaults
import StubGen.Proofs.RequestSchema

/-!
# Places of faults

A refused request is explained by faults that can be followed into the document. The field of a
fault, cut at its dots, is a path of keys and positions; it leads to the value that the fault shows,
or the last key of it is missing from the object shown. No two faults have the same field.
-/

namespace StubGen.Proofs

section Specification

/-- Where a path of keys and positions leads in a document. -/
inductive Leads : Json → List String → Json → Prop
  | here (j : Json) : Leads j [] j
  | key {fields : Json.Fields} {name : String} {value target : Json} {path : List String}
      (h : Json.lookup name fields = some value) (hrest : Leads value path target) :
    Leads (.obj fields) (name :: path) target
  | index {items : List Json} {i : Nat} {value target : Json} {path : List String}
      (h : items[i]? = some value) (hrest : Leads value path target) :
    Leads (.arr items) (toString i :: path) target

/-- The steps of a field, which stand between its dots. -/
def stepsOf (field : String) : List String := (field.toList.splitOn '.').map String.ofList

/-- The path is the place of the fault: an object without the last key, which is the value shown, or
else the very value shown. -/
inductive Located (data : Json) (path : List String) (f : Fault) : Prop
  | missing {front : List String} {name : String} {fields : Json.Fields}
      (hmessage : f.message = "Field required") (hpath : path = front ++ [name])
      (hparent : Leads data front (.obj fields)) (hlacks : Json.lookup name fields = none)
      (hvalue : f.value = .obj fields)
  | present (h : Leads data path f.value)

/-- More than twenty of the items are parameters. -/
def Crowded (items : List Json) : Prop :=
  ∃ valid : List Json, valid.Sublist items ∧ 20 < valid.length ∧
    ∀ j ∈ valid, ∃ p, DescribesParameter j p

/-- The signature in the document lists the items as its parameters. -/
def ListsParameters (data : Json) (items : List Json) : Prop :=
  ∃ signature, data.field? "signature" = some signature ∧
    signature.field? "parameters" = some (.arr items)

/-- The fault lies in the parameters of the signature, or in the list of them. -/
def InParameters (f : Fault) : Prop := ["signature", "parameters"] <+: stepsOf f.field

/-- The faults of a reading can be told from each other and followed into the document. A list with
too many parameters is blamed as a whole, and none of its items is. -/
structure PointsOut {α : Type} (data : Json) (x : Checked α) : Prop where
  nonempty : ∀ faults, x = .error faults → faults ≠ []
  distinct : (x.faults.map Fault.field).Nodup
  located : ∀ f ∈ x.faults, Located data (stepsOf f.field) f
  crowded : ∀ items, ListsParameters data items → Crowded items →
    ∃ f, f.field = "signature.parameters" ∧ f.value = .arr items ∧
      ∀ g, g ∈ x.faults ∧ InParameters g ↔ g = f

end Specification

section Faults

variable {α β : Type} {x : Checked α} {y : Checked β}

lemma faults_map (f : α → β) : Checked.faults (x.map f) = x.faults := by cases x <;> rfl

lemma faults_both : (x.both y).faults = x.faults ++ y.faults := by
  cases x <;> cases y <;> simp [Checked.both, Checked.faults]

lemma faults_under (step : Step) : (x.under step).faults = x.faults.map (Fault.under step) := by
  cases x <;> rfl

/-- The texts of the steps to a fault. -/
def stepTexts (f : Fault) : List String := f.path.map Step.text

variable {data value j : Json} {fs gs : List Fault} {names names' : List String}

/-- Each of the faults tells its place by its steps, and no two have the same. -/
structure Locates (data : Json) (fs : List Fault) : Prop where
  located : ∀ f ∈ fs, Located data (stepTexts f) f
  distinct : (fs.map stepTexts).Nodup
  dotless : ∀ f ∈ fs, ∀ s ∈ stepTexts f, Lacks '.' s

/-- Besides, the first steps to them are among the names. -/
structure LocatesIn (data : Json) (names : List String) (fs : List Fault) : Prop
    extends Locates data fs where
  headed : ∀ f ∈ fs, ∃ s ∈ names, (stepTexts f).head? = some s

lemma locates_nil (data : Json) : Locates data [] := ⟨nofun, List.nodup_nil, nofun⟩

lemma locatesIn_nil (data : Json) (names : List String) : LocatesIn data names [] :=
  ⟨locates_nil data, nofun⟩

lemma locates_at (problem : Problem) (value : Json) : Locates value [⟨[], problem, value⟩] := by
  refine ⟨?_, List.nodup_singleton _, ?_⟩
  · exact List.forall_mem_singleton.mpr (.present (.here value))
  · exact List.forall_mem_singleton.mpr nofun

lemma mem_of_head {f : Fault} {s : String} (h : LocatesIn data names fs) (hf : f ∈ fs)
    (hhead : (stepTexts f).head? = some s) : s ∈ names := by
  obtain ⟨s', hs', hhead'⟩ := h.headed f hf
  rw [hhead] at hhead'
  exact Option.some.inj hhead' ▸ hs'

/-- Faults of parts that start with different steps are different. -/
lemma locatesIn_append (hf : LocatesIn data names fs) (hg : LocatesIn data names' gs)
    (h : names.Disjoint names') : LocatesIn data (names ++ names') (fs ++ gs) := by
  refine ⟨⟨List.forall_mem_append.mpr ⟨hf.located, hg.located⟩, ?_,
    List.forall_mem_append.mpr ⟨hf.dotless, hg.dotless⟩⟩, List.forall_mem_append.mpr ⟨?_, ?_⟩⟩
  · rw [List.map_append]
    refine List.nodup_append.mpr ⟨hf.distinct, hg.distinct, ?_⟩
    intro path hpath path' hpath' heq
    obtain ⟨f, hfmem, rfl⟩ := List.mem_map.mp hpath
    obtain ⟨g, hgmem, rfl⟩ := List.mem_map.mp hpath'
    obtain ⟨s, hs, hhead⟩ := hf.headed f hfmem
    exact h hs (mem_of_head hg hgmem (heq ▸ hhead))
  · intro f hfmem
    obtain ⟨s, hs, hhead⟩ := hf.headed f hfmem
    exact ⟨s, List.mem_append_left _ hs, hhead⟩
  · intro g hgmem
    obtain ⟨s, hs, hhead⟩ := hg.headed g hgmem
    exact ⟨s, List.mem_append_right _ hs, hhead⟩

/-- The faults of a value are found below the step that leads to the value. -/
lemma locatesIn_under (step : Step) (hdot : Lacks '.' step.text)
    (hstep : ∀ {path target}, Leads value path target → Leads data (step.text :: path) target)
    (h : Locates value fs) : LocatesIn data [step.text] (fs.map (Fault.under step)) := by
  have htexts : ∀ f, stepTexts (Fault.under step f) = step.text :: stepTexts f := fun f => rfl
  refine ⟨⟨?_, ?_, ?_⟩, ?_⟩
  · refine List.forall_mem_map.mpr fun f hf => ?_
    rw [htexts]
    cases h.located f hf with
    | @missing front name fields hmessage hpath hparent hlacks hvalue =>
      have hsteps : step.text :: stepTexts f = (step.text :: front) ++ [name] := by
        rw [hpath, List.cons_append]
      exact .missing hmessage hsteps (hstep hparent) hlacks hvalue
    | present hleads => exact .present (hstep hleads)
  · rw [List.map_map]
    have hcons : (fs.map (stepTexts ∘ Fault.under step)) =
        (fs.map stepTexts).map (step.text :: ·) := by
      rw [List.map_map]
      rfl
    rw [hcons]
    exact h.distinct.map fun _ _ heq => (List.cons.inj heq).2
  · refine List.forall_mem_map.mpr fun f hf => ?_
    rw [htexts]
    exact List.forall_mem_cons.mpr ⟨hdot, h.dotless f hf⟩
  · exact List.forall_mem_map.mpr fun f hf => ⟨_, List.mem_cons_self, rfl⟩

lemma locatesIn_key {fields : Json.Fields} {name : String} (hdot : Lacks '.' name)
    (hlookup : Json.lookup name fields = some value) (h : Locates value fs) :
    LocatesIn (.obj fields) [name] (fs.map (Fault.under (.key name))) :=
  locatesIn_under (.key name) hdot (fun hleads => .key hlookup hleads) h

lemma locatesIn_index {items : List Json} {i : Nat} (hitem : items[i]? = some value)
    (h : Locates value fs) :
    LocatesIn (.arr items) [toString i] (fs.map (Fault.under (.index i))) := by
  have hdot : Lacks '.' (toString i) := lacks_of_consists (consists_toString i) rfl
  exact locatesIn_under (.index i) hdot (fun hleads => .index hitem hleads) h

lemma locatesIn_required {fields : Json.Fields} {name : String} {read : Json → Checked α}
    (hdot : Lacks '.' name) (hread : ∀ j, Locates j (read j).faults) :
    LocatesIn (.obj fields) [name] (Json.required fields name read).faults := by
  unfold Json.required
  cases hlookup : Json.lookup name fields with
  | none =>
    show LocatesIn (.obj fields) [name] [⟨[.key name], .missing, .obj fields⟩]
    have hsteps : [name] = ([] : List String) ++ [name] := rfl
    refine ⟨⟨?_, List.nodup_singleton _, ?_⟩, ?_⟩
    · exact List.forall_mem_singleton.mpr (.missing rfl hsteps (.here _) hlookup rfl)
    · exact List.forall_mem_singleton.mpr (List.forall_mem_singleton.mpr hdot)
    · exact List.forall_mem_singleton.mpr ⟨name, List.mem_cons_self, rfl⟩
  | some value =>
    dsimp only
    rw [faults_under]
    exact locatesIn_key hdot hlookup (hread value)

lemma locatesIn_both (hx : LocatesIn data names x.faults) (hy : LocatesIn data names' y.faults)
    (h : names.Disjoint names') : LocatesIn data (names ++ names') (x.both y).faults := by
  rw [faults_both]
  exact locatesIn_append hx hy h

end Faults

section Values

variable {α : Type} {x : Checked α} {j : Json}

lemma locates_of_blamesWhole (h : BlamesWhole j x) : Locates j x.faults := by
  obtain ⟨a, rfl⟩ | ⟨problem, rfl⟩ := h
  · exact locates_nil j
  · exact locates_at problem j

lemma locates_anyText (j : Json) : Locates j j.anyText.faults :=
  locates_of_blamesWhole (blamesWhole_anyText j)

lemma locates_read (rule : TextRule) (j : Json) : Locates j (rule.read j).faults :=
  locates_of_blamesWhole (blamesWhole_read rule j)

lemma locates_readLanguage (enabled : List String) (j : Json) :
    Locates j (readLanguage enabled j).faults :=
  locates_of_blamesWhole (blamesWhole_readLanguage enabled j)

end Values

section Records

variable {fields : Json.Fields}

lemma locates_parameter (j : Json) : Locates j (Parameter.ofJson j).faults := by
  cases j with
  | obj fields =>
    rw [Parameter.ofJson, faults_map]
    exact (locatesIn_both (locatesIn_required (lacks_ofList (by decide)) (locates_read _))
      (locatesIn_required (lacks_ofList (by decide)) locates_anyText) (by simp)).toLocates
  | _ => exact locates_at _ _

/-- The faults of the items from a position on lie in items at these positions. -/
lemma locatesIn_readItems {items rest : List Json} {i : Nat} (h : items.drop i = rest) :
    LocatesIn (.arr items) ((List.range' i rest.length).map toString)
      (Signature.readItems i rest).faults := by
  -- The items stay whole, since the places are counted from their start.
  induction rest generalizing i with
  | nil => exact locatesIn_nil _ _
  | cons j rest ih =>
    have hitem : items[i]? = some j := by
      rw [← List.head?_drop, h]
      rfl
    have hdrop : items.drop (i + 1) = rest := by
      rw [← List.tail_drop, h]
      rfl
    have hlater : ∀ s ∈ (List.range' (i + 1) rest.length).map (toString : Nat → String),
        s ≠ toString i := by
      intro s hs heq
      obtain ⟨k, hk, rfl⟩ := List.mem_map.mp hs
      obtain rfl := toString_injective heq
      have hle := (List.mem_range'_1.mp hk).1
      omega
    rw [Signature.readItems, faults_map, faults_both, faults_under]
    refine locatesIn_append (locatesIn_index hitem (locates_parameter j)) (ih hdrop) ?_
    intro s hs hs'
    exact hlater s hs' (List.mem_singleton.mp hs)

lemma locates_readParameters (j : Json) : Locates j (Signature.readParameters j).faults := by
  unfold Signature.readParameters
  split
  · split_ifs
    · exact locates_at _ _
    · exact (locatesIn_readItems rfl).toLocates
  · exact locates_at _ _

lemma locatesIn_parametersField (fields : Json.Fields) :
    LocatesIn (.obj fields) ["parameters"] (Signature.parametersField fields).faults := by
  unfold Signature.parametersField
  cases hlookup : Json.lookup "parameters" fields with
  | none => exact locatesIn_nil _ _
  | some value =>
    dsimp only
    rw [faults_under]
    exact locatesIn_key (lacks_ofList (by decide)) hlookup (locates_readParameters value)

lemma locates_readReturns (j : Json) : Locates j (Signature.readReturns j).faults := by
  cases j with
  | obj fields =>
    exact (locatesIn_required (lacks_ofList (by decide)) locates_anyText).toLocates
  | _ => exact locates_at _ _

lemma locatesIn_functionName (fields : Json.Fields) : LocatesIn (.obj fields) ["function_name"]
    (Json.required fields "function_name" TextRule.functionName.read).faults :=
  locatesIn_required (lacks_ofList (by decide)) (locates_read _)

lemma locatesIn_returns (fields : Json.Fields) : LocatesIn (.obj fields) ["returns"]
    (Json.required fields "returns" Signature.readReturns).faults :=
  locatesIn_required (lacks_ofList (by decide)) locates_readReturns

lemma faults_signature (fields : Json.Fields) :
    (Signature.ofJson (.obj fields)).faults =
      (Json.required fields "function_name" TextRule.functionName.read).faults ++
        (Signature.parametersField fields).faults ++
          (Json.required fields "returns" Signature.readReturns).faults := by
  rw [Signature.ofJson, Signature.ofFields, faults_map, faults_both, faults_both]

lemma locates_signature (j : Json) : Locates j (Signature.ofJson j).faults := by
  cases j with
  | obj fields =>
    rw [faults_signature]
    exact (locatesIn_append (locatesIn_append (locatesIn_functionName fields)
      (locatesIn_parametersField fields) (by simp)) (locatesIn_returns fields) (by simp)).toLocates
  | _ => exact locates_at _ _

lemma locatesIn_signature (fields : Json.Fields) : LocatesIn (.obj fields) ["signature"]
    (Json.required fields "signature" Signature.ofJson).faults :=
  locatesIn_required (lacks_ofList (by decide)) locates_signature

lemma locatesIn_language (enabled : List String) (fields : Json.Fields) :
    LocatesIn (.obj fields) ["language"]
      (Json.required fields "language" (readLanguage enabled)).faults :=
  locatesIn_required (lacks_ofList (by decide)) (locates_readLanguage enabled)

lemma locatesIn_questionFields (fields : Json.Fields) :
    LocatesIn (.obj fields) ["question_id", "title", "description"]
      (TemplateRequest.questionFields fields).faults :=
  locatesIn_both (locatesIn_both (locatesIn_required (lacks_ofList (by decide)) (locates_read _))
    (locatesIn_required (lacks_ofList (by decide)) (locates_read _)) (by simp))
    (locatesIn_required (lacks_ofList (by decide)) (locates_read _)) (by simp)

end Records

section Crowds

variable {data : Json} {fields : Json.Fields} {items : List Json} {fs gs : List Fault}
  {names : List String} {f : Fault} {s : String}

/-- A fault that starts with none of the names is none of the later faults. -/
lemma mem_append_iff_left (hg : LocatesIn data names gs) (hs : s ∉ names)
    (hhead : (stepTexts f).head? = some s) : f ∈ fs ++ gs ↔ f ∈ fs :=
  List.mem_append.trans (or_iff_left fun hmem => hs (mem_of_head hg hmem hhead))

/-- Nor is it one of the earlier ones. -/
lemma mem_append_iff_right (hf : LocatesIn data names fs) (hs : s ∉ names)
    (hhead : (stepTexts f).head? = some s) : f ∈ fs ++ gs ↔ f ∈ gs :=
  List.mem_append.trans (or_iff_right fun hmem => hs (mem_of_head hf hmem hhead))

lemma lt_countValid_of_crowded (h : Crowded items) :
    maxParameters < Signature.countValid items := by
  obtain ⟨valid, hsub, hlength, hvalid⟩ := h
  have hall : valid.filter (fun j => (Parameter.ofJson j).isOk) = valid := by
    refine List.filter_eq_self.mpr fun j hj => ?_
    obtain ⟨p, hp⟩ := hvalid j hj
    rw [parameter_eq_ok_iff.mpr hp]
    rfl
  have hle := (hsub.filter fun j => (Parameter.ofJson j).isOk).length_le
  rw [hall] at hle
  exact Nat.lt_of_lt_of_le hlength hle

/-- What is reported of a list with too many parameters, as seen from the signature. -/
def crowdFault (items : List Json) : Fault :=
  ⟨[.key "parameters"], .tooManyItems maxParameters items.length, .arr items⟩

lemma faults_parametersField (hlookup : Json.lookup "parameters" fields = some (.arr items))
    (h : Crowded items) : (Signature.parametersField fields).faults = [crowdFault items] := by
  rw [Signature.parametersField, hlookup]
  dsimp only
  rw [Signature.readParameters, if_pos (lt_countValid_of_crowded h)]
  rfl

/-- A list with too many parameters is the only fault of the signature in this place. -/
lemma mem_signature_iff (hlookup : Json.lookup "parameters" fields = some (.arr items))
    (h : Crowded items) (hhead : (stepTexts f).head? = some "parameters") :
    f ∈ (Signature.ofJson (.obj fields)).faults ↔ f = crowdFault items := by
  rw [faults_signature, mem_append_iff_left (locatesIn_returns fields) (by decide) hhead,
    mem_append_iff_right (locatesIn_functionName fields) (by decide) hhead,
    faults_parametersField hlookup h, List.mem_singleton]

/-- Nor is there another one in this place of the request. -/
lemma mem_required_signature_iff {inner : Json.Fields}
    (hsignature : Json.lookup "signature" fields = some (.obj inner))
    (hlookup : Json.lookup "parameters" inner = some (.arr items)) (h : Crowded items)
    (hstart : ["signature", "parameters"] <+: stepTexts f) :
    f ∈ (Json.required fields "signature" Signature.ofJson).faults ↔
      f = (crowdFault items).under (.key "signature") := by
  have hrequired : (Json.required fields "signature" Signature.ofJson).faults =
      (Signature.ofJson (.obj inner)).faults.map (Fault.under (.key "signature")) := by
    rw [Json.required, hsignature]
    exact faults_under _
  obtain ⟨rest, hrest⟩ := hstart
  rw [hrequired, List.mem_map]
  constructor
  · rintro ⟨inside, hinside, rfl⟩
    have htail : "parameters" :: rest = stepTexts inside := (List.cons.inj hrest).2
    have hhead : (stepTexts inside).head? = some "parameters" := by
      rw [← htail]
      rfl
    rw [(mem_signature_iff hlookup h hhead).mp hinside]
  · rintro rfl
    exact ⟨crowdFault items, (mem_signature_iff hlookup h rfl).mpr rfl, rfl⟩

end Crowds

section Requests

variable {α : Type} {x : Checked α} {data : Json} {fields : Json.Fields} {names : List String}
  {f : Fault}

/-- The steps to a fault can be read off its field. -/
lemma stepsOf_field (hne : stepTexts f ≠ []) (hdot : ∀ s ∈ stepTexts f, Lacks '.' s) :
    stepsOf f.field = stepTexts f := by
  have hsplit : (Text.joined "." (stepTexts f)).toList.splitOn '.' =
      (stepTexts f).map String.toList := by
    rw [toList_joined]
    refine List.splitOn_intercalate '.' (List.forall_mem_map.mpr hdot) ?_
    exact mt List.map_eq_nil_iff.mp hne
  have hback : ((stepTexts f).map String.toList).map String.ofList = stepTexts f := by
    rw [List.map_map]
    exact (List.map_congr_left fun s _ => String.ofList_toList).trans (List.map_id _)
  rw [stepsOf, Fault.field]
  exact (congrArg (List.map String.ofList) hsplit).trans hback

lemma stepsOf_field_of_mem {fs : List Fault} (h : LocatesIn data names fs) (hf : f ∈ fs) :
    stepsOf f.field = stepTexts f := by
  refine stepsOf_field (fun hnil => ?_) (h.dotless f hf)
  obtain ⟨s, -, hhead⟩ := h.headed f hf
  rw [hnil] at hhead
  cases hhead

/-- A reading of an object points out its faults if it reads a signature first, and then fields of
other names. -/
lemma pointsOut_of_faults {more : List Fault} (hx : Explained x)
    (hfaults : x.faults = (Json.required fields "signature" Signature.ofJson).faults ++ more)
    (hmore : LocatesIn (.obj fields) names more) (hnames : "signature" ∉ names) :
    PointsOut (.obj fields) x := by
  have hall : LocatesIn (.obj fields) ("signature" :: names) x.faults := by
    rw [hfaults]
    exact locatesIn_append (locatesIn_signature fields) hmore (by simpa using hnames)
  have hsteps : ∀ f ∈ x.faults, stepsOf f.field = stepTexts f :=
    fun f hf => stepsOf_field_of_mem hall hf
  refine ⟨hx, ?_, fun f hf => ?_, ?_⟩
  · have hmap : (x.faults.map Fault.field).map stepsOf = x.faults.map stepTexts := by
      rw [List.map_map]
      exact List.map_congr_left hsteps
    exact (hmap ▸ hall.distinct).of_map
  · rw [hsteps f hf]
    exact hall.located f hf
  · rintro items ⟨signature, hlookup, hlist⟩ hcrowded
    cases signature with
    | obj inner =>
      have hiff : ∀ g, ["signature", "parameters"] <+: stepTexts g →
          (g ∈ x.faults ↔ g = (crowdFault items).under (.key "signature")) := by
        intro g hstart
        have hhead : (stepTexts g).head? = some "signature" := by
          obtain ⟨rest, hrest⟩ := hstart
          rw [← hrest]
          rfl
        rw [hfaults, mem_append_iff_left hmore hnames hhead]
        exact mem_required_signature_iff hlookup hlist hcrowded hstart
      refine ⟨(crowdFault items).under (.key "signature"), rfl, rfl, fun g => ⟨?_, ?_⟩⟩
      · rintro ⟨hg, hin⟩
        rw [InParameters, hsteps g hg] at hin
        exact (hiff g hin).mp hg
      · rintro rfl
        have hmem := (hiff _ List.prefix_rfl).mpr rfl
        refine ⟨hmem, ?_⟩
        rw [InParameters, hsteps _ hmem]
        exact List.prefix_rfl
    | _ => cases hlist

/-- An object that is refused as a request, of either kind and under whatever settings, is refused
with at least one fault. The fields of the faults differ, and each fault shows what stands at its
field or the object that lacks the last key of it. Where the signature lists more than twenty valid
parameters, it is refused, and of all that is wrong in the list only the list itself is reported. -/
theorem faults_point_at_values (r : Registry) (settings : Option Settings)
    (fields : Json.Fields) :
    let enabled := r.requestLanguages settings
    PointsOut (.obj fields) (ValidationRequest.ofJson enabled (.obj fields)) ∧
      PointsOut (.obj fields) (TemplateRequest.ofJson enabled (.obj fields)) := by
  intro enabled
  have hvalidation : (ValidationRequest.ofFields enabled fields).faults =
      (Json.required fields "signature" Signature.ofJson).faults ++
        (Json.required fields "language" (readLanguage enabled)).faults := by
    rw [ValidationRequest.ofFields, faults_map, faults_both]
  have htemplate : (TemplateRequest.ofFields enabled fields).faults =
      (Json.required fields "signature" Signature.ofJson).faults ++
        ((Json.required fields "language" (readLanguage enabled)).faults ++
          (TemplateRequest.questionFields fields).faults) := by
    rw [TemplateRequest.ofFields, faults_map, faults_both, hvalidation, List.append_assoc]
  have hlanguage := locatesIn_language enabled fields
  have hquestion := locatesIn_append hlanguage (locatesIn_questionFields fields) (by simp)
  exact ⟨pointsOut_of_faults (explained_validation enabled (.obj fields)) hvalidation hlanguage
      (by decide),
    pointsOut_of_faults (explained_template enabled (.obj fields)) htemplate hquestion (by decide)⟩

/-- Twenty-one parameters behind a value that is none. -/
def crowd : List Json := .null :: List.replicate 21 (Parameter.toJson ⟨"x", "int"⟩)

/-- A request without a language, whose signature has no result and an empty name. -/
def crowdData : Json.Fields :=
  [("signature", .obj [("function_name", .str ""), ("parameters", .arr crowd)])]

theorem faults_point_at_crowd :
    ListsParameters (.obj crowdData) crowd ∧ Crowded crowd ∧
      ∃ f, f.field = "signature.parameters" ∧ f.value = .arr crowd ∧
        ∀ g, g ∈ (ValidationRequest.ofJson Registry.builtin.languages (.obj crowdData)).faults ∧
          InParameters g ↔ g = f := by
  have hlists : ListsParameters (.obj crowdData) crowd := ⟨_, rfl, rfl⟩
  have hcrowded : Crowded crowd := by
    refine ⟨List.replicate 21 (Parameter.toJson ⟨"x", "int"⟩), List.sublist_cons_self _ _,
      by decide, fun j hj => ?_⟩
    rw [List.eq_of_mem_replicate hj]
    exact ⟨⟨"x", "int"⟩, parameter_eq_ok_iff.mp rfl⟩
  exact ⟨hlists, hcrowded,
    (faults_point_at_values .builtin none crowdData).1.crowded crowd hlists hcrowded⟩

end Requests

end StubGen.Proofs
