import StubGen.Proofs.RequestReading
import StubGen.Proofs.SpellingRoundTrip
import StubGen.TypeExpr.Encoding

/-!
# Types read back from their encoding

`DescribesType` says which type the fields of an object describe. An object is read as a type of a
category exactly if it describes one, so that a type is recovered from its encoding exactly if it is
well formed, and whatever is read from any document is well formed.
-/

namespace StubGen.Proofs
open TypeExpr

section Specification

/-- The value is an object that names a category and has the given fields besides. -/
def IsTagged (category : Category) (describes : Json.Fields → Prop) (j : Json) : Prop :=
  ∃ fields, j = .obj fields ∧ Json.lookup "kind" fields = some (.str category.name) ∧
    describes fields

/-- The fields hold the parts of the type: its primitive or its element. An element names its own
category; further fields have no effect. -/
def DescribesType : TypeExpr → Json.Fields → Prop
  | .primitive p, fields => Json.lookup "primitive" fields = some (.str p.name)
  | .array element, fields => element.isArrayElement = true ∧
      ∃ j, Json.lookup "element_type" fields = some j ∧
        IsTagged element.category (DescribesType element) j
  | .list element, fields =>
      ∃ j, Json.lookup "element_type" fields = some j ∧
        IsTagged element.category (DescribesType element) j
  | .tree value, fields => Json.lookup "value_type" fields = some (.str value.name)
  | .graph, _ => True

/-- At the top the category is known, and the object may leave it out. -/
def KindFits (category : Category) (fields : Json.Fields) : Prop :=
  ∀ j ∈ Json.lookup "kind" fields, j = .str category.name

end Specification

section Parts

variable {fields : Json.Fields} {category : Category} {j : Json} {t : TypeExpr}

lemma asString?_eq_some_iff {s : String} : j.asString? = some s ↔ j = .str s := by
  cases j <;> simp [Json.asString?, RawText.toString?_eq_some_iff]

lemma readPrimitive_eq_ok_iff {p : Primitive} : readPrimitive j = .ok p ↔ j = .str p.name := by
  have hread : j.asString?.bind Primitive.ofName? = some p ↔ j = .str p.name := by
    rw [Option.bind_eq_some_iff]
    constructor
    · rintro ⟨name, hname, hp⟩
      rw [Primitive.name_of_ofName? hp]
      exact asString?_eq_some_iff.mp hname
    · exact fun h => ⟨p.name, asString?_eq_some_iff.mpr h, Primitive.ofName?_name p⟩
  rw [← hread, readPrimitive]
  cases j.asString?.bind Primitive.ofName? <;> simp [Problem.at]

lemma requiredPrimitive_eq_ok_iff {name : String} {p : Primitive} :
    Json.required fields name readPrimitive = .ok p ↔
      Json.lookup name fields = some (.str p.name) := by
  simp only [required_eq_ok_iff, readPrimitive_eq_ok_iff, exists_eq_right]

lemma readKind_eq_ok_iff : readKind category fields = .ok () ↔ KindFits category fields := by
  unfold readKind KindFits
  cases Json.lookup "kind" fields with
  | none => simp
  | some j =>
    simp only [Option.mem_some_iff, forall_eq', ← asString?_eq_some_iff]
    split_ifs with h <;> simp [h, Problem.at, Checked.under, Except.mapError]

lemma kindFits_of_lookup (h : Json.lookup "kind" fields = some (.str category.name)) :
    KindFits category fields :=
  fun _ hj => Option.some.inj (hj.symm.trans h)

/-- The element that reading carries along is the field and what it is read as. -/
lemma ofElementField_eq (fields : Json.Fields) :
    ofElementField fields = (Json.lookup "element_type" fields).map fun j => (j, ofTagged j) := by
  induction fields with
  | nil => rfl
  | cons field rest ih =>
    obtain ⟨name, value⟩ := field
    rw [ofElementField, Json.lookup]
    split_ifs
    · rfl
    · exact ih

lemma requireElement_eq_ok_iff {p : Json × TypeExpr} :
    requireElement fields (ofElementField fields) = .ok p ↔
      Json.lookup "element_type" fields = some p.1 ∧ ofTagged p.1 = .ok p.2 := by
  rw [ofElementField_eq]
  cases Json.lookup "element_type" fields with
  | none => simp [requireElement]
  | some j =>
    rw [Option.map_some, requireElement, under_eq_ok_iff, map_eq_ok_iff, Option.some.injEq]
    constructor
    · rintro ⟨t, ht, rfl⟩
      exact ⟨rfl, ht⟩
    · rintro ⟨rfl, ht⟩
      exact ⟨p.2, ht, rfl⟩

lemma arrayOf_eq_ok_iff {element : Json × TypeExpr} :
    arrayOf element = .ok t ↔ element.2.isArrayElement = true ∧ .array element.2 = t := by
  unfold arrayOf
  split_ifs with h <;> simp [h, Problem.at, Checked.under, Except.mapError]

lemma readParts_array_iff :
    readParts fields (ofElementField fields) .array = .ok t ↔
      ∃ j element, t = .array element ∧ element.isArrayElement = true ∧
        Json.lookup "element_type" fields = some j ∧ ofTagged j = .ok element := by
  have hparts : readParts fields (ofElementField fields) .array = .ok t ↔
      ∃ p, requireElement fields (ofElementField fields) = .ok p ∧ arrayOf p = .ok t := by
    rw [readParts]
    cases requireElement fields (ofElementField fields) <;> simp
  rw [hparts]
  simp only [requireElement_eq_ok_iff, arrayOf_eq_ok_iff, Prod.exists]
  constructor
  · rintro ⟨j, element, hread, helement, rfl⟩
    exact ⟨j, element, rfl, helement, hread⟩
  · rintro ⟨j, element, rfl, helement, hread⟩
    exact ⟨j, element, hread, helement, rfl⟩

lemma readParts_list_iff :
    readParts fields (ofElementField fields) .list = .ok t ↔
      ∃ j element, t = .list element ∧
        Json.lookup "element_type" fields = some j ∧ ofTagged j = .ok element := by
  rw [readParts, map_eq_ok_iff]
  simp only [requireElement_eq_ok_iff, Prod.exists]
  constructor
  · rintro ⟨j, element, hread, rfl⟩
    exact ⟨j, element, rfl, hread⟩
  · rintro ⟨j, element, rfl, hread⟩
    exact ⟨j, element, hread, rfl⟩

lemma category_of_readParts
    (h : readParts fields (ofElementField fields) category = .ok t) : t.category = category := by
  cases category with
  | primitive =>
    obtain ⟨p, -, rfl⟩ := map_eq_ok_iff.mp h
    rfl
  | array =>
    obtain ⟨j, element, rfl, -⟩ := readParts_array_iff.mp h
    rfl
  | list =>
    obtain ⟨j, element, rfl, -⟩ := readParts_list_iff.mp h
    rfl
  | tree =>
    obtain ⟨value, -, rfl⟩ := map_eq_ok_iff.mp h
    rfl
  | graph =>
    cases h
    rfl

lemma readFields_eq_ok_iff :
    readFields category fields (ofElementField fields) = .ok t ↔
      KindFits category fields ∧ readParts fields (ofElementField fields) category = .ok t := by
  rw [readFields, map_eq_ok_iff, ← readKind_eq_ok_iff]
  constructor
  · rintro ⟨p, hp, rfl⟩
    exact both_eq_ok_iff.mp hp
  · exact fun h => ⟨((), t), both_eq_ok_iff.mpr h, rfl⟩

end Parts

section Reading

variable {fields : Json.Fields} {category : Category} {j : Json} {t : TypeExpr}

lemma ofName?_eq_some_iff {name : String} :
    Category.ofName? name = some category ↔ name = category.name := by
  constructor
  · intro h
    simpa [eq_comm] using List.find?_some h
  · rintro rfl
    cases category <;> decide

/-- The tag of a value is the category of what is read, so that its fields are read as under it. -/
lemma ofTagged_eq_ok_iff_parts :
    ofTagged j = .ok t ↔ IsTagged t.category
      (fun fields => readParts fields (ofElementField fields) t.category = .ok t) j := by
  constructor
  · intro h
    unfold ofTagged at h
    split at h
    · next fields =>
      split at h
      · cases h
      · next kind hkind =>
        split at h
        · cases h
        · next category htag =>
          obtain ⟨name, hname, hcategory⟩ := Option.bind_eq_some_iff.mp htag
          obtain ⟨-, hparts⟩ := readFields_eq_ok_iff.mp (under_eq_ok_iff.mp h)
          obtain rfl := category_of_readParts hparts
          rw [asString?_eq_some_iff.mp hname, ofName?_eq_some_iff.mp hcategory] at hkind
          exact ⟨fields, rfl, hkind, hparts⟩
    · cases h
  · rintro ⟨fields, rfl, hkind, hparts⟩
    have htag : (Json.str t.category.name).asString?.bind Category.ofName? = some t.category :=
      ofName?_eq_some_iff.mpr rfl
    rw [ofTagged, hkind]
    dsimp only
    rw [htag]
    exact under_eq_ok_iff.mpr (readFields_eq_ok_iff.mpr ⟨kindFits_of_lookup hkind, hparts⟩)

lemma isTagged_congr {describes describes' : Json.Fields → Prop}
    (h : ∀ fields, describes fields ↔ describes' fields) :
    IsTagged category describes j ↔ IsTagged category describes' j := by
  simp only [IsTagged, h]

/-- The parts of a type are read from the fields that describe it, and from no others. -/
lemma readParts_eq_ok_iff (t : TypeExpr) (fields : Json.Fields) :
    readParts fields (ofElementField fields) t.category = .ok t ↔ DescribesType t fields := by
  -- What an element is read from has its parts one level down, so that the induction is on the
  -- type that is read and not on the document.
  induction t generalizing fields with
  | primitive p =>
    rw [category, readParts, map_eq_ok_iff]
    simp only [requiredPrimitive_eq_ok_iff, TypeExpr.primitive.injEq, exists_eq_right]
    rfl
  | array element ih =>
    rw [category, readParts_array_iff]
    simp only [TypeExpr.array.injEq, exists_and_left, exists_eq_left',
      ofTagged_eq_ok_iff_parts, isTagged_congr ih]
    rfl
  | list element ih =>
    rw [category, readParts_list_iff]
    simp only [TypeExpr.list.injEq, exists_eq_left',
      ofTagged_eq_ok_iff_parts, isTagged_congr ih]
    rfl
  | tree value =>
    rw [category, readParts, map_eq_ok_iff]
    simp only [requiredPrimitive_eq_ok_iff, TypeExpr.tree.injEq, exists_eq_right]
    rfl
  | graph => exact iff_of_true rfl trivial

/-- A document is read as a type of a category exactly if it is an object that describes one. -/
theorem ofJson_eq_ok_iff :
    ofJson category j = .ok t ↔ t.category = category ∧
      ∃ fields, j = .obj fields ∧ KindFits category fields ∧ DescribesType t fields := by
  constructor
  · intro h
    unfold ofJson at h
    split at h
    · next fields =>
      obtain ⟨hkind, hparts⟩ := readFields_eq_ok_iff.mp h
      obtain rfl := category_of_readParts hparts
      exact ⟨rfl, fields, rfl, hkind, (readParts_eq_ok_iff t fields).mp hparts⟩
    · cases h
  · rintro ⟨rfl, fields, rfl, hkind, hparts⟩
    exact readFields_eq_ok_iff.mpr ⟨hkind, (readParts_eq_ok_iff t fields).mpr hparts⟩

end Reading

section RoundTrip

variable {fields : Json.Fields} {t : TypeExpr}

lemma wellFormed_of_describes (h : DescribesType t fields) : t.WellFormed := by
  induction t generalizing fields with
  | array element ih =>
    obtain ⟨helement, j, -, inner, -, -, hinner⟩ := h
    exact ⟨helement, ih hinner⟩
  | list element ih =>
    obtain ⟨j, -, inner, -, -, hinner⟩ := h
    exact ih hinner
  | primitive p => trivial
  | tree value => trivial
  | graph => trivial

/-- The encoding of a well-formed type names its category and describes it. -/
lemma isTagged_toJson (h : t.WellFormed) :
    IsTagged t.category (DescribesType t) t.toJson := by
  induction t with
  | primitive p => exact ⟨_, rfl, rfl, rfl⟩
  | array element ih => exact ⟨_, rfl, rfl, h.1, _, rfl, ih h.2⟩
  | list element ih => exact ⟨_, rfl, rfl, _, rfl, ih h⟩
  | tree value => exact ⟨_, rfl, rfl, rfl⟩
  | graph => exact ⟨_, rfl, rfl, trivial⟩

lemma ofJson_toJson (h : t.WellFormed) : ofJson t.category t.toJson = .ok t := by
  obtain ⟨fields, hobj, hkind, hdescribes⟩ := isTagged_toJson h
  exact ofJson_eq_ok_iff.mpr ⟨rfl, fields, hobj, kindFits_of_lookup hkind, hdescribes⟩

lemma wellFormed_of_ofJson {category : Category} {j : Json} (h : ofJson category j = .ok t) :
    t.WellFormed := by
  obtain ⟨-, fields, -, -, hdescribes⟩ := ofJson_eq_ok_iff.mp h
  exact wellFormed_of_describes hdescribes

/-- In a well-formed type every array, however deep, holds a primitive or an array. -/
lemma isArrayElement_of_mem_walk (h : t.WellFormed) {element : TypeExpr}
    (hmem : .array element ∈ t.walk) : element.isArrayElement = true := by
  induction t with
  | array inner ih =>
    obtain heq | hrest := List.mem_cons.mp hmem
    · cases heq
      exact h.1
    · exact ih h.2 hrest
  | list inner ih =>
    obtain heq | hrest := List.mem_cons.mp hmem
    · cases heq
    · exact ih h hrest
  | primitive p => cases List.mem_singleton.mp hmem
  | tree value => cases List.mem_singleton.mp hmem
  | graph => cases List.mem_singleton.mp hmem

/-- Types survive their encoding. A type is recovered from its encoding exactly if it is well
formed. Whatever is read from a document, as a type of whichever category, is of that category and
well formed at every level, is read once more from its own encoding, and is what its spelling is
read as. -/
theorem types_survive_encoding :
    (∀ t : TypeExpr, ofJson t.category t.toJson = .ok t ↔ t.WellFormed) ∧
      ∀ (category : Category) (j : Json) (t : TypeExpr), ofJson category j = .ok t →
        t.category = category ∧ t.WellFormed ∧
        (∀ element, .array element ∈ t.walk →
          element.category = .primitive ∨ element.category = .array) ∧
        ofJson category t.toJson = .ok t ∧ parse t.spelling = .ok t := by
  refine ⟨fun t => ⟨wellFormed_of_ofJson, ofJson_toJson⟩, fun category j t h => ?_⟩
  have ht := wellFormed_of_ofJson h
  obtain ⟨rfl, -⟩ := ofJson_eq_ok_iff.mp h
  refine ⟨rfl, ht, fun element hmem => ?_, ofJson_toJson ht, parse_spelling ht⟩
  have helement := isArrayElement_of_mem_walk ht hmem
  cases element with
  | primitive p => exact .inl rfl
  | array inner => exact .inr rfl
  | _ => cases helement

/-- A list without a `kind` of its own, of arrays that come with an unknown field. -/
def arraysDocument : Json :=
  .obj [("element_type", .obj [("size", .int 3), ("kind", .str "array"),
    ("element_type", .obj [("primitive", .str "int"), ("kind", .str "primitive")])])]

theorem arrays_survive_encoding :
    ofJson .list arraysDocument = .ok (.list (.array (.primitive .int))) ∧
      ofJson .list (TypeExpr.list (.array (.primitive .int))).toJson =
        .ok (.list (.array (.primitive .int))) ∧
      parse "List<int[]>" = .ok (.list (.array (.primitive .int))) := by
  have hread : ofJson .list arraysDocument = .ok (.list (.array (.primitive .int))) :=
    ofJson_eq_ok_iff.mpr ⟨rfl, _, rfl, by simp [KindFits, Json.lookup], _, rfl, _, rfl, rfl, rfl,
      _, rfl, _, rfl, rfl, rfl⟩
  obtain ⟨-, -, -, hagain, hspelling⟩ := types_survive_encoding.2 _ _ _ hread
  exact ⟨hread, hagain, hspelling⟩

end RoundTrip

end StubGen.Proofs
