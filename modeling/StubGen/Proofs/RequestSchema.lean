import StubGen.Proofs.EnabledLanguages
import StubGen.Proofs.RequestReading

/-!
# The documented requests

`DescribesRequest` and `DescribesQuestion` say which requests a document describes. A document is
read as a request exactly if it describes one, and as that request; other fields than the described
ones have no effect.
-/

namespace StubGen.Proofs

section Specification

/-- The text that a value is; bytes are the text that they encode. -/
inductive IsText : Json → RawText → Prop
  | str (t : RawText) : IsText (.str t) t
  | bytes {content : List UInt8} {s : String} (h : Text.Utf8.decode content = .ok s) :
    IsText (.bytes content) s

def TextAt (data : Json) (name : String) (t : RawText) : Prop :=
  ∃ value, data.field? name = some value ∧ IsText value t

/-- Neither empty nor longer than a limit. -/
def HasLength (limit : Nat) (t : RawText) : Prop :=
  1 ≤ t.points.length ∧ t.points.length ≤ limit

def IsAsciiLetter (c : Char) : Prop := 'a' ≤ c ∧ c ≤ 'z' ∨ 'A' ≤ c ∧ c ≤ 'Z'

def IsAsciiDigit (c : Char) : Prop := '0' ≤ c ∧ c ≤ '9'

/-- A letter or an underscore, and then letters, underscores and digits. -/
def MatchesIdentifier (s : String) : Prop :=
  ∃ first rest, s = String.ofList (first :: rest) ∧ (IsAsciiLetter first ∨ first = '_') ∧
    ∀ c ∈ rest, IsAsciiLetter c ∨ IsAsciiDigit c ∨ c = '_'

/-- Letters, digits, underscores and hyphens. -/
def MatchesQuestionId (s : String) : Prop :=
  ∀ c ∈ s.toList, IsAsciiLetter c ∨ IsAsciiDigit c ∨ c = '_' ∨ c = '-'

structure DescribesParameter (data : Json) (p : Parameter) : Prop where
  name : TextAt data "name" p.name
  length : HasLength 50 p.name
  matching : MatchesIdentifier p.name
  type : TextAt data "type" p.type

/-- The parameters in a list, in order; none without a list. -/
inductive DescribesParameters (data : Json) : List Parameter → Prop
  | absent (h : data.field? "parameters" = none) : DescribesParameters data []
  | listed {items : List Json} {ps : List Parameter}
      (h : data.field? "parameters" = some (.arr items)) (hcount : items.length ≤ 20)
      (hitems : List.Forall₂ DescribesParameter items ps) :
    DescribesParameters data ps

structure DescribesSignature (data : Json) (s : Signature) : Prop where
  functionName : TextAt data "function_name" s.functionName
  length : HasLength 100 s.functionName
  matching : MatchesIdentifier s.functionName
  parameters : DescribesParameters data s.parameters
  returns : ∃ value, data.field? "returns" = some value ∧ TextAt value "type" s.returns

structure DescribesRequest (enabled : List String) (data : Json) (q : ValidationRequest) :
    Prop where
  language : TextAt data "language" q.language
  enabled : q.language ∈ enabled
  signature : ∃ value, data.field? "signature" = some value ∧ DescribesSignature value q.signature

structure DescribesQuestion (data : Json) (id : String) (title description : RawText) : Prop where
  idText : TextAt data "question_id" id
  idLength : HasLength 100 id
  idMatching : MatchesQuestionId id
  titleText : TextAt data "title" title
  titleLength : HasLength 200 title
  descriptionText : TextAt data "description" description
  descriptionLength : HasLength 5000 description

end Specification

section Texts

variable {j : Json} {s : String}

lemma anyText_eq_ok_iff {t : RawText} : j.anyText = .ok t ↔ IsText j t := by
  constructor
  · intro h
    unfold Json.anyText at h
    split at h
    · cases h
      exact .str _
    · split at h
      · next hdecode =>
        cases h
        exact .bytes hdecode
      · cases h
    · cases h
  · intro h
    cases h with
    | str t => rfl
    | bytes hdecode => rw [Json.anyText, hdecode]

lemma wholeText_eq_ok_iff : j.wholeText = .ok s ↔ IsText j s := by
  rw [← anyText_eq_ok_iff, Json.wholeText, bind_eq_ok_iff]
  constructor
  · rintro ⟨t, ht, h⟩
    split at h
    · next hwhole =>
      cases h
      rwa [RawText.toString?_eq_some_iff.mp hwhole] at ht
    · cases h
  · exact fun h => ⟨s, h, rfl⟩

lemma hasLength_whole {limit : Nat} :
    HasLength limit s ↔ 1 ≤ s.toList.length ∧ s.toList.length ≤ limit := by
  rw [HasLength, RawText.points, List.length_map]

lemma violation?_eq_none_iff {rule : TextRule} :
    rule.violation? s.toList = none ↔
      HasLength rule.maxLength s ∧ ∀ pattern, rule.pattern = some pattern →
        pattern.holds s.toList = true := by
  have hpos : 1 ≤ s.toList.length ↔ s.toList ≠ [] := List.length_pos_iff
  rw [hasLength_whole, hpos]
  unfold TextRule.violation?
  split_ifs with hlong hempty
  · simp [Nat.not_le.mpr hlong]
  · simp [List.isEmpty_iff.mp hempty]
  · have hne : s.toList ≠ [] := mt List.isEmpty_iff.mpr hempty
    have hle : s.toList.length ≤ rule.maxLength := Nat.not_lt.mp hlong
    cases rule.pattern with
    | none => simp [hne, hle]
    | some pattern => simp [hne, hle]

lemma read_eq_ok_iff {rule : TextRule} :
    rule.read j = .ok s ↔ IsText j s ∧ HasLength rule.maxLength s ∧
      ∀ pattern, rule.pattern = some pattern → pattern.holds s.toList = true := by
  rw [← violation?_eq_none_iff, TextRule.read, bind_eq_ok_iff]
  simp only [wholeText_eq_ok_iff]
  constructor
  · rintro ⟨t, ht, h⟩
    split at h
    · next hnone =>
      cases h
      exact ⟨ht, hnone⟩
    · cases h
  · rintro ⟨ht, hnone⟩
    refine ⟨s, ht, ?_⟩
    rw [hnone]
    rfl

lemma isAlpha_iff {c : Char} : c.isAlpha = true ↔ IsAsciiLetter c := by
  have hupper : c.isUpper = true ↔ 'A' ≤ c ∧ c ≤ 'Z' := decide_eq_true_iff
  have hlower : c.isLower = true ↔ 'a' ≤ c ∧ c ≤ 'z' :=
    Bool.and_eq_true_iff.trans (and_congr decide_eq_true_iff decide_eq_true_iff)
  have halpha : c.isAlpha = true ↔ c.isUpper = true ∨ c.isLower = true := Bool.or_eq_true_iff
  rw [halpha, hupper, hlower, or_comm]
  rfl

lemma isDigit_iff {c : Char} : c.isDigit = true ↔ IsAsciiDigit c :=
  Bool.and_eq_true_iff.trans (and_congr decide_eq_true_iff decide_eq_true_iff)

lemma isInitial_iff {c : Char} : Pattern.isInitial c = true ↔ IsAsciiLetter c ∨ c = '_' := by
  rw [Pattern.isInitial, Bool.or_eq_true, isAlpha_iff, beq_iff_eq]

lemma isWord_iff {c : Char} :
    Pattern.isWord c = true ↔ IsAsciiLetter c ∨ IsAsciiDigit c ∨ c = '_' := by
  rw [Pattern.isWord, Bool.or_eq_true, Char.isAlphanum, Bool.or_eq_true, isAlpha_iff, isDigit_iff,
    beq_iff_eq, or_assoc]

lemma identifier_holds_iff : Pattern.identifier.holds s.toList = true ↔ MatchesIdentifier s := by
  constructor
  · intro h
    cases hs : s.toList with
    | nil =>
      rw [hs] at h
      cases h
    | cons first rest =>
      rw [hs, Pattern.holds, Bool.and_eq_true, List.all_eq_true] at h
      refine ⟨first, rest, ?_, isInitial_iff.mp h.1, fun c hc => isWord_iff.mp (h.2 c hc)⟩
      rw [← hs, String.ofList_toList]
  · rintro ⟨first, rest, rfl, hfirst, hrest⟩
    rw [String.toList_ofList, Pattern.holds, Bool.and_eq_true, List.all_eq_true]
    exact ⟨isInitial_iff.mpr hfirst, fun c hc => isWord_iff.mpr (hrest c hc)⟩

lemma questionId_holds_iff (h : 1 ≤ s.toList.length) :
    Pattern.questionId.holds s.toList = true ↔ MatchesQuestionId s := by
  have hne : s.toList.isEmpty = false := List.isEmpty_eq_false_iff.mpr (List.ne_nil_of_length_pos h)
  rw [Pattern.holds, hne, Bool.not_false, Bool.true_and, List.all_eq_true, MatchesQuestionId]
  simp only [Bool.or_eq_true, isWord_iff, beq_iff_eq, or_assoc]

end Texts

section Readers

variable {fields : Json.Fields} {name : String}

lemma required_text_iff {t : RawText} :
    Json.required fields name Json.anyText = .ok t ↔ TextAt (.obj fields) name t := by
  simp only [required_eq_ok_iff, anyText_eq_ok_iff]
  rfl

lemma required_rule_iff {rule : TextRule} {s : String} :
    Json.required fields name rule.read = .ok s ↔
      TextAt (.obj fields) name s ∧ HasLength rule.maxLength s ∧
        ∀ pattern, rule.pattern = some pattern → pattern.holds s.toList = true := by
  simp only [required_eq_ok_iff, read_eq_ok_iff, ← and_assoc, exists_and_right]
  rfl

lemma required_identifier_iff {limit : Nat} {s : String} :
    Json.required fields name (TextRule.mk limit (some .identifier)).read = .ok s ↔
      TextAt (.obj fields) name s ∧ HasLength limit s ∧ MatchesIdentifier s := by
  rw [required_rule_iff, ← identifier_holds_iff]
  simp

lemma parameter_eq_ok_iff {j : Json} {p : Parameter} :
    Parameter.ofJson j = .ok p ↔ DescribesParameter j p := by
  cases j with
  | obj fields =>
    rw [Parameter.ofJson, map_eq_ok_iff]
    simp only [both_eq_ok_iff]
    constructor
    · rintro ⟨⟨name, type⟩, ⟨hname, htype⟩, rfl⟩
      obtain ⟨htext, hlength, hmatching⟩ := required_identifier_iff.mp hname
      exact ⟨htext, hlength, hmatching, required_text_iff.mp htype⟩
    · rintro ⟨htext, hlength, hmatching, htype⟩
      have hname := required_identifier_iff.mpr ⟨htext, hlength, hmatching⟩
      exact ⟨(p.name, p.type), ⟨hname, required_text_iff.mpr htype⟩, rfl⟩
  | _ =>
    refine ⟨nofun, fun h => ?_⟩
    obtain ⟨_, hfield, -⟩ := h.name
    cases hfield

lemma readItems_eq_ok_iff {i : Nat} {items : List Json} {ps : List Parameter} :
    Signature.readItems i items = .ok ps ↔ List.Forall₂ DescribesParameter items ps := by
  induction items generalizing i ps with
  | nil =>
    rw [List.forall₂_nil_left_iff, Signature.readItems]
    exact ⟨fun h => (Except.ok.inj h).symm, fun h => congrArg _ h.symm⟩
  | cons j rest ih =>
    rw [Signature.readItems, map_eq_ok_iff, List.forall₂_cons_left_iff]
    simp only [both_eq_ok_iff, under_eq_ok_iff, parameter_eq_ok_iff, ih]
    constructor
    · rintro ⟨⟨p, tail⟩, ⟨hp, htail⟩, rfl⟩
      exact ⟨p, tail, hp, htail, rfl⟩
    · rintro ⟨p, tail, hp, htail, rfl⟩
      exact ⟨(p, tail), ⟨hp, htail⟩, rfl⟩

/-- Where all items are parameters, all of them are counted. -/
lemma countValid_of_describes {items : List Json} {ps : List Parameter}
    (h : List.Forall₂ DescribesParameter items ps) :
    Signature.countValid items = items.length := by
  rw [Signature.countValid, List.filter_eq_self.mpr]
  intro j hj
  obtain ⟨p, hp⟩ := forall₂_left h j hj
  rw [parameter_eq_ok_iff.mpr hp]
  rfl

lemma readParameters_list_iff {items : List Json} {ps : List Parameter} :
    Signature.readParameters (.arr items) = .ok ps ↔
      items.length ≤ 20 ∧ List.Forall₂ DescribesParameter items ps := by
  -- Only items that can be read are counted, and in both directions all of them can.
  rw [Signature.readParameters]
  constructor
  · intro h
    split_ifs at h with hcount
    · cases h
    · have hitems := readItems_eq_ok_iff.mp h
      rw [countValid_of_describes hitems] at hcount
      exact ⟨Nat.not_lt.mp hcount, hitems⟩
  · rintro ⟨hcount, hitems⟩
    have hfew : ¬maxParameters < items.length := Nat.not_lt.mpr hcount
    rw [countValid_of_describes hitems, if_neg hfew]
    exact readItems_eq_ok_iff.mpr hitems

lemma parametersField_eq_ok_iff {ps : List Parameter} :
    Signature.parametersField fields = .ok ps ↔ DescribesParameters (.obj fields) ps := by
  unfold Signature.parametersField
  constructor
  · intro h
    split at h
    · next hnone =>
      cases h
      exact .absent hnone
    · next value hvalue =>
      have hread := under_eq_ok_iff.mp h
      cases value with
      | arr items =>
        obtain ⟨hcount, hitems⟩ := readParameters_list_iff.mp hread
        exact .listed hvalue hcount hitems
      | _ => cases hread
  · intro h
    cases h with
    | absent h =>
      have h : Json.lookup "parameters" fields = none := h
      rw [h]
    | listed h hcount hitems =>
      have h : Json.lookup "parameters" fields = some _ := h
      rw [h]
      exact under_eq_ok_iff.mpr (readParameters_list_iff.mpr ⟨hcount, hitems⟩)

lemma readReturns_eq_ok_iff {j : Json} {t : RawText} :
    Signature.readReturns j = .ok t ↔ TextAt j "type" t := by
  cases j with
  | obj fields => exact required_text_iff
  | _ =>
    refine ⟨nofun, ?_⟩
    rintro ⟨_, hfield, -⟩
    cases hfield

lemma signature_eq_ok_iff {j : Json} {s : Signature} :
    Signature.ofJson j = .ok s ↔ DescribesSignature j s := by
  cases j with
  | obj fields =>
    rw [Signature.ofJson, Signature.ofFields, map_eq_ok_iff]
    simp only [both_eq_ok_iff, parametersField_eq_ok_iff]
    constructor
    · rintro ⟨⟨⟨functionName, parameters⟩, returns⟩, ⟨⟨hname, hparameters⟩, hreturns⟩, rfl⟩
      obtain ⟨htext, hlength, hmatching⟩ := required_identifier_iff.mp hname
      simp only [required_eq_ok_iff, readReturns_eq_ok_iff] at hreturns
      exact ⟨htext, hlength, hmatching, hparameters, hreturns⟩
    · rintro ⟨htext, hlength, hmatching, hparameters, hreturns⟩
      have hname := required_identifier_iff.mpr ⟨htext, hlength, hmatching⟩
      refine ⟨((s.functionName, s.parameters), s.returns), ⟨⟨hname, hparameters⟩, ?_⟩, rfl⟩
      simp only [required_eq_ok_iff, readReturns_eq_ok_iff]
      exact hreturns
  | _ =>
    refine ⟨nofun, fun h => ?_⟩
    obtain ⟨_, hfield, -⟩ := h.functionName
    cases hfield

variable {enabled : List String} {data : Json}

theorem validationRequest_eq_ok_iff {q : ValidationRequest} :
    ValidationRequest.ofJson enabled data = .ok q ↔ DescribesRequest enabled data q := by
  cases data with
  | obj fields =>
    rw [ValidationRequest.ofJson, validation_eq_ok_iff]
    simp only [required_eq_ok_iff, signature_eq_ok_iff, readLanguage_eq_ok_iff,
      anyText_eq_ok_iff]
    constructor
    · rintro ⟨hsignature, value, hvalue, htext, henabled⟩
      exact ⟨⟨value, hvalue, htext⟩, henabled, hsignature⟩
    · rintro ⟨⟨value, hvalue, htext⟩, henabled, hsignature⟩
      exact ⟨hsignature, value, hvalue, htext, henabled⟩
  | _ =>
    refine ⟨nofun, fun h => ?_⟩
    obtain ⟨_, hfield, -⟩ := h.language
    cases hfield

lemma question_eq_ok_iff {id title description : String} :
    TemplateRequest.questionFields fields = .ok ((id, title), description) ↔
      DescribesQuestion (.obj fields) id title description := by
  rw [TemplateRequest.questionFields]
  simp only [both_eq_ok_iff, required_rule_iff]
  constructor
  · rintro ⟨⟨⟨hid, hidLength, hmatching⟩, htitle, htitleLength, -⟩, hdescription, hlength, -⟩
    have hpos := (hasLength_whole.mp hidLength).1
    exact ⟨hid, hidLength, (questionId_holds_iff hpos).mp (hmatching _ rfl), htitle, htitleLength,
      hdescription, hlength⟩
  · intro h
    have hpos := (hasLength_whole.mp h.idLength).1
    refine ⟨⟨⟨h.idText, h.idLength, ?_⟩, h.titleText, h.titleLength, nofun⟩, h.descriptionText,
      h.descriptionLength, nofun⟩
    rintro _ ⟨⟩
    exact (questionId_holds_iff hpos).mpr h.idMatching

theorem templateRequest_eq_ok_iff {q : TemplateRequest} :
    TemplateRequest.ofJson enabled data = .ok q ↔
      DescribesRequest enabled data q.toValidationRequest ∧
        DescribesQuestion data q.questionId q.title q.description := by
  rw [← validationRequest_eq_ok_iff]
  cases data with
  | obj fields =>
    rw [TemplateRequest.ofJson, TemplateRequest.ofFields, map_eq_ok_iff, ← question_eq_ok_iff]
    constructor
    · rintro ⟨⟨base, ⟨id, title⟩, description⟩, hboth, rfl⟩
      exact both_eq_ok_iff.mp hboth
    · intro h
      exact ⟨(q.toValidationRequest, ((q.questionId, q.title), q.description)),
        both_eq_ok_iff.mpr h, rfl⟩
  | _ =>
    refine ⟨nofun, ?_⟩
    rintro ⟨h, -⟩
    cases h

end Readers

section Known

/-- What is kept of some fields: each has a name and a view of its value. -/
abbrev View := List (RawText × (Json → Json))

/-- An object with no other fields than the known ones. -/
def keep (view : View) : Json → Json
  | .obj fields =>
    .obj (fields.filterMap fun (name, value) =>
      (view.lookup name).map fun part => (name, part value))
  | j => j

def keepItems (part : Json → Json) : Json → Json
  | .arr items => .arr (items.map part)
  | j => j

def knownParameter : Json → Json := keep [("name", id), ("type", id)]

def knownReturns : Json → Json := keep [("type", id)]

def knownSignature : Json → Json :=
  keep [("function_name", id), ("parameters", keepItems knownParameter), ("returns", knownReturns)]

def requestView : View := [("signature", knownSignature), ("language", id)]

def questionView : View := [("question_id", id), ("title", id), ("description", id)]

/-- The document without the fields that no dry run asks for. -/
def knownValidation : Json → Json := keep requestView

/-- The document without the fields that no template request asks for. -/
def knownTemplate : Json → Json := keep (requestView ++ questionView)

variable {data : Json} {view : View} {name : String}

lemma field?_keep {part : Json → Json} (h : view.lookup (.whole name) = some part) :
    (keep view data).field? name = (data.field? name).map part := by
  cases data with
  | obj fields =>
    show Json.lookup name (fields.filterMap _) = (Json.lookup name fields).map part
    induction fields with
    | nil => rfl
    | cons field rest ih =>
      obtain ⟨n, value⟩ := field
      by_cases hn : n = .whole name
      · subst hn
        simp [Json.lookup, h]
      · cases hlookup : view.lookup n with
        | none => simp [Json.lookup, hn, hlookup, ih]
        | some other => simp [Json.lookup, hn, hlookup, ih]
  | _ => rfl

lemma exists_field?_keep {part : Json → Json} {P : Json → Prop}
    (h : view.lookup (.whole name) = some part) :
    (∃ value, (keep view data).field? name = some value ∧ P value) ↔
      ∃ value, data.field? name = some value ∧ P (part value) := by
  rw [field?_keep h]
  cases data.field? name <;> simp

/-- A part that is kept as it is holds the same text. -/
lemma textAt_keep {t : RawText} (h : view.lookup (.whole name) = some id) :
    TextAt (keep view data) name t ↔ TextAt data name t :=
  exists_field?_keep h

lemma describesParameter_known {p : Parameter} :
    DescribesParameter (knownParameter data) p ↔ DescribesParameter data p := by
  have hname : TextAt (knownParameter data) "name" p.name ↔ _ := textAt_keep rfl
  have htype : TextAt (knownParameter data) "type" p.type ↔ _ := textAt_keep rfl
  constructor
  · rintro ⟨hn, hlength, hmatching, ht⟩
    exact ⟨hname.mp hn, hlength, hmatching, htype.mp ht⟩
  · rintro ⟨hn, hlength, hmatching, ht⟩
    exact ⟨hname.mpr hn, hlength, hmatching, htype.mpr ht⟩

lemma describesParameters_known {ps : List Parameter} :
    DescribesParameters (knownSignature data) ps ↔ DescribesParameters data ps := by
  have hfield : (knownSignature data).field? "parameters" =
      (data.field? "parameters").map (keepItems knownParameter) := field?_keep rfl
  constructor
  · intro h
    cases h with
    | absent h =>
      rw [hfield, Option.map_eq_none_iff] at h
      exact .absent h
    | listed h hcount hitems =>
      rw [hfield, Option.map_eq_some_iff] at h
      obtain ⟨value, hvalue, hkept⟩ := h
      cases value with
      | arr items =>
        cases hkept
        rw [List.forall₂_map_left_iff] at hitems
        rw [List.length_map] at hcount
        exact .listed hvalue hcount (hitems.imp fun _ _ => describesParameter_known.mp)
      | _ => cases hkept
  · intro h
    cases h with
    | absent h =>
      refine .absent ?_
      rw [hfield, h]
      rfl
    | listed h hcount hitems =>
      have hitems := hitems.imp fun _ _ => describesParameter_known.mpr
      rw [h] at hfield
      exact .listed hfield (by rwa [List.length_map]) (List.forall₂_map_left_iff.mpr hitems)

lemma describesSignature_known {signature : Signature} :
    DescribesSignature (knownSignature data) signature ↔ DescribesSignature data signature := by
  have hname : TextAt (knownSignature data) "function_name" signature.functionName ↔ _ :=
    textAt_keep rfl
  have hreturns : (∃ value, (knownSignature data).field? "returns" = some value ∧
      TextAt value "type" signature.returns) ↔
      ∃ value, data.field? "returns" = some value ∧
        TextAt (knownReturns value) "type" signature.returns := exists_field?_keep rfl
  have htype : ∀ value, TextAt (knownReturns value) "type" signature.returns ↔
      TextAt value "type" signature.returns := fun value => textAt_keep rfl
  simp only [htype] at hreturns
  constructor
  · rintro ⟨hn, hlength, hmatching, hparameters, hr⟩
    exact ⟨hname.mp hn, hlength, hmatching, describesParameters_known.mp hparameters,
      hreturns.mp hr⟩
  · rintro ⟨hn, hlength, hmatching, hparameters, hr⟩
    exact ⟨hname.mpr hn, hlength, hmatching, describesParameters_known.mpr hparameters,
      hreturns.mpr hr⟩

variable {enabled : List String}

/-- A view that has the fields of a dry run keeps what the document describes. -/
lemma describesRequest_keep {q : ValidationRequest}
    (hsignature : view.lookup (.whole "signature") = some knownSignature)
    (hlanguage : view.lookup (.whole "language") = some id) :
    DescribesRequest enabled (keep view data) q ↔ DescribesRequest enabled data q := by
  have hs : (∃ value, (keep view data).field? "signature" = some value ∧
      DescribesSignature value q.signature) ↔
      ∃ value, data.field? "signature" = some value ∧
        DescribesSignature (knownSignature value) q.signature := exists_field?_keep hsignature
  simp only [describesSignature_known] at hs
  constructor
  · rintro ⟨hl, henabled, h⟩
    exact ⟨(textAt_keep hlanguage).mp hl, henabled, hs.mp h⟩
  · rintro ⟨hl, henabled, h⟩
    exact ⟨(textAt_keep hlanguage).mpr hl, henabled, hs.mpr h⟩

lemma describesQuestion_known {id : String} {title description : RawText} :
    DescribesQuestion (knownTemplate data) id title description ↔
      DescribesQuestion data id title description := by
  have hid : TextAt (knownTemplate data) "question_id" id ↔ _ := textAt_keep rfl
  have htitle : TextAt (knownTemplate data) "title" title ↔ _ := textAt_keep rfl
  have hdescription : TextAt (knownTemplate data) "description" description ↔ _ :=
    textAt_keep rfl
  constructor
  · rintro ⟨hi, hidLength, hmatching, ht, htitleLength, hd, hlength⟩
    exact ⟨hid.mp hi, hidLength, hmatching, htitle.mp ht, htitleLength, hdescription.mp hd,
      hlength⟩
  · rintro ⟨hi, hidLength, hmatching, ht, htitleLength, hd, hlength⟩
    exact ⟨hid.mpr hi, hidLength, hmatching, htitle.mpr ht, htitleLength, hdescription.mpr hd,
      hlength⟩

end Known

/-- Under settings that enable some language, the documents that can be read as requests are the
ones that describe them, and what is read is what they describe. Fields that no request asks for,
at any depth, change nothing. -/
theorem read_iff_described (r : Registry) {settings : Settings} (h : settings.languages ≠ [])
    (data : Json) :
    let enabled := r.requestLanguages (some settings)
    (∀ q, ValidationRequest.ofJson enabled data = .ok q ↔
      DescribesRequest settings.languages data q) ∧
    (∀ q, TemplateRequest.ofJson enabled data = .ok q ↔
      DescribesRequest settings.languages data q.toValidationRequest ∧
        DescribesQuestion data q.questionId q.title q.description) ∧
    (ValidationRequest.ofJson enabled (knownValidation data)).toOption =
      (ValidationRequest.ofJson enabled data).toOption ∧
    (TemplateRequest.ofJson enabled (knownTemplate data)).toOption =
      (TemplateRequest.ofJson enabled data).toOption := by
  intro enabled
  have henabled : enabled = settings.languages := requestLanguages_of_ne_nil h
  rw [henabled]
  refine ⟨fun q => validationRequest_eq_ok_iff, fun q => templateRequest_eq_ok_iff, ?_, ?_⟩
  · ext q
    rw [toOption_eq_some_iff, toOption_eq_some_iff, validationRequest_eq_ok_iff,
      validationRequest_eq_ok_iff]
    exact describesRequest_keep rfl rfl
  · ext q
    rw [toOption_eq_some_iff, toOption_eq_some_iff, templateRequest_eq_ok_iff,
      templateRequest_eq_ok_iff]
    exact and_congr (describesRequest_keep rfl rfl) describesQuestion_known

/-- A request for a constant, with a description. -/
def constantData (description : RawText) : Json :=
  let question : Json.Fields :=
    [("question_id", .str "constant"), ("title", .str "A constant"),
      ("description", .str description)]
  .obj (ValidationRequest.toFields ⟨constantSignature, "java"⟩ ++ question)

lemma constantData_describes {description : RawText} (h : HasLength 5000 description) :
    DescribesRequest (Settings.default .builtin).languages (constantData description)
        ⟨constantSignature, "java"⟩ ∧
      DescribesQuestion (constantData description) "constant" "A constant" description := by
  have hsignature : DescribesSignature constantSignature.toJson constantSignature :=
    signature_eq_ok_iff.mp rfl
  have hlanguage : TextAt (constantData description) "language" "java" := ⟨_, rfl, .str _⟩
  refine ⟨⟨hlanguage, by decide, _, rfl, hsignature⟩, ?_⟩
  have hid : MatchesQuestionId "constant" := (questionId_holds_iff (by decide)).mp (by decide)
  exact ⟨⟨_, rfl, .str _⟩, ⟨by decide, by decide⟩, hid, ⟨_, rfl, .str _⟩,
    ⟨by decide, by decide⟩, ⟨_, rfl, .str _⟩, h⟩

theorem read_iff_described_of_constant :
    let settings := Settings.default .builtin
    let q : TemplateRequest :=
      ⟨⟨constantSignature, "java"⟩, "constant", "A constant", "Always the same."⟩
    settings.languages ≠ [] ∧
      TemplateRequest.ofJson (Registry.builtin.requestLanguages (some settings))
        (constantData "Always the same.") = .ok q := by
  intro settings q
  have hsome : settings.languages ≠ [] := by decide
  have hlength : HasLength 5000 "Always the same." := ⟨by decide, by decide⟩
  have hread := (read_iff_described .builtin hsome (constantData "Always the same.")).2.1 q
  exact ⟨hsome, hread.mpr (constantData_describes hlength)⟩

/-- The text of one code point, a half of a surrogate pair. -/
def loneHalf : RawText := .broken "" ⟨61⟩ ""

/-- A description with a lone half is a text of a fitting length, and yet it is not read. -/
theorem lone_half_not_read :
    let settings := Settings.default .builtin
    settings.languages ≠ [] ∧
      DescribesRequest settings.languages (constantData loneHalf)
        ⟨constantSignature, "java"⟩ ∧
      DescribesQuestion (constantData loneHalf) "constant" "A constant" loneHalf ∧
      ∀ q, TemplateRequest.ofJson (Registry.builtin.requestLanguages (some settings))
        (constantData loneHalf) ≠ .ok q := by
  intro settings
  have hlength : HasLength 5000 loneHalf := ⟨by decide, by decide⟩
  obtain ⟨hrequest, hquestion⟩ := constantData_describes hlength
  refine ⟨by decide, hrequest, hquestion, fun q hread => ?_⟩
  obtain ⟨-, hq⟩ := templateRequest_eq_ok_iff.mp hread
  obtain ⟨value, hvalue, htext⟩ := hq.descriptionText
  cases hvalue
  cases htext

end StubGen.Proofs
