import StubGen.Proofs.FileLines

/-!
# Default values of the built-in targets

The shapes of a type tell whether it holds a tree, whether it is a collection and, of a primitive,
which literal it takes. A stub therefore returns null exactly for types that hold a tree, and every
other type has an empty collection or a literal of its own, so that no fallback is needed.
-/

namespace StubGen.Proofs
open TypeExpr

section Shapes

lemma has_mapType {target : Target} {t : TypeExpr} {shape : Shape} :
    (target.mapType t).has shape = true ↔ shape ∈ t.shapes := List.contains_iff_mem

/-- What is wrapped around a tree stays nullable. -/
lemma nullable_mem_shapes (t : TypeExpr) : Shape.nullable ∈ t.shapes ↔ t.contains .tree = true := by
  have hwrapped : ∀ element : TypeExpr, Shape.nullable ∈ (if .nullable ∈ element.shapes then
      [Shape.collection, .nullable] else [.collection]) ↔ Shape.nullable ∈ element.shapes := by
    intro element
    split_ifs with h <;> simp [h]
  induction t with
  | primitive p => cases p <;> decide
  | array element ih => exact (hwrapped element).trans ih
  | list element ih => exact (hwrapped element).trans ih
  | tree value => cases value <;> decide
  | graph => decide

lemma has_nullable_iff (target : Target) (t : TypeExpr) :
    (target.mapType t).has .nullable = true ↔ t.contains .tree = true :=
  has_mapType.trans (nullable_mem_shapes t)

/-- The categories whose values are collections. -/
def collections : List Category := [.array, .list, .graph]

lemma has_collection_iff (target : Target) (t : TypeExpr) :
    (target.mapType t).has .collection = true ↔ t.category ∈ collections := by
  rw [has_mapType]
  cases t with
  | primitive p => cases p <;> decide
  | array element | list element =>
    rw [shapes]
    split_ifs <;> simp [category, collections]
  | tree value => cases value <;> decide
  | graph => decide

lemma has_scalar_iff (target : Target) (t : TypeExpr) {shape : Shape}
    (hs : shape ∈ [Shape.numeric, .boolean, .string]) :
    (target.mapType t).has shape = true ↔ ∃ p, t = .primitive p ∧ p.shape = shape := by
  have hnullable : shape ≠ .nullable := by
    rintro rfl
    exact absurd hs (by decide)
  have hcollection : shape ≠ .collection := by
    rintro rfl
    exact absurd hs (by decide)
  rw [has_mapType]
  cases t with
  | primitive p => simp [shapes, eq_comm]
  | array element | list element =>
    rw [shapes]
    split_ifs <;> simp [hnullable, hcollection]
  | tree value => simp [shapes, hnullable]
  | graph => simp [shapes, hcollection]

end Shapes

section Texts

/-- The array of a primitive with so many dimensions. -/
def dimensions (p : Primitive) : Nat → TypeExpr
  | 0 => .primitive p
  | n + 1 => .array (dimensions p n)

lemma exists_dimensions {t : TypeExpr} (ht : t.WellFormed) (h : t.isArrayElement = true) :
    ∃ p n, t = dimensions p n := by
  induction t with
  | primitive p => exact ⟨p, 0, rfl⟩
  | array element ih =>
    obtain ⟨p, n, rfl⟩ := ih ht.2 ht.1
    exact ⟨p, n + 1, rfl⟩
  | _ => cases h

/-- The empty collections that the languages have for a type. -/
inductive EmptyText : Family → TypeExpr → String → Prop
  | javaList (element : TypeExpr) : EmptyText .java (.list element) "new ArrayList<>()"
  | javaArray (p : Primitive) (n : Nat) : EmptyText .java (dimensions p (n + 1))
      ("new " ++ (Family.java.primitive p ++ ("[0]" ++ String.join (List.replicate n "[]"))))
  | javaGraph : EmptyText .java .graph "new int[0][]"
  | python (t : TypeExpr) : EmptyText .python t "[]"
  | javascript (t : TypeExpr) : EmptyText .javascript t "[]"
  | cpp (t : TypeExpr) : EmptyText .cpp t "\x7b\x7d"

lemma spell_dimensions (p : Primitive) (n : Nat) : Family.java.spell (dimensions p n) =
    Family.java.primitive p ++ String.join (List.replicate n "[]") := by
  induction n with
  | zero => exact (String.append_empty).symm
  | succ n ih =>
    rw [dimensions, Family.spell, ih, Family.arrayOf, List.replicate_succ', String.append_assoc,
      String.join_append]
    rfl

/-- The zero stands in the first brackets, because no name of a primitive has any. -/
lemma sizeFirstDimension_append {front rest : List Char} (h : '[' ∉ front) :
    sizeFirstDimension (front ++ '[' :: ']' :: rest) = front ++ '[' :: '0' :: ']' :: rest := by
  induction front with
  | nil => rfl
  | cons c front ih =>
    rw [List.mem_cons, not_or] at h
    rw [List.cons_append, sizeFirstDimension, ih h.2]
    · rfl
    · rintro after rfl
      exact absurd rfl h.1

lemma emptyCollection_dimensions (p : Primitive) (n : Nat) :
    Family.java.emptyCollection (Target.java.mapType (dimensions p (n + 1))) =
      "new " ++ (Family.java.primitive p ++ ("[0]" ++ String.join (List.replicate n "[]"))) := by
  have hprimitive : '[' ∉ (Family.java.primitive p).toList := by cases p <;> decide
  have hspell : (Family.java.spell (dimensions p (n + 1))).toList =
      (Family.java.primitive p).toList ++
        '[' :: ']' :: (String.join (List.replicate n "[]")).toList := by
    rw [spell_dimensions, List.replicate_succ, String.join_cons, String.toList_append,
      String.toList_append]
    rfl
  have hsized : String.ofList
      (sizeFirstDimension (Family.java.spell (dimensions p (n + 1))).toList) =
      Family.java.primitive p ++ ("[0]" ++ String.join (List.replicate n "[]")) := by
    rw [hspell, sizeFirstDimension_append hprimitive, ← String.toList_inj, String.toList_ofList,
      String.toList_append, String.toList_append]
    rfl
  rw [← hsized]
  rfl

lemma emptyText_of_wellFormed {target : Target} (htarget : target ∈ Target.builtins)
    {t : TypeExpr} (ht : t.WellFormed) (hc : t.category ∈ collections) :
    EmptyText target.family t (target.family.emptyCollection (target.mapType t)) := by
  obtain rfl | rfl | rfl | rfl := eq_of_mem_builtins htarget
  · cases t with
    | array element =>
      obtain ⟨p, n, rfl⟩ := exists_dimensions ht.2 ht.1
      exact emptyCollection_dimensions p n ▸ .javaArray p n
    | list element => exact .javaList element
    | graph => exact .javaGraph
    | primitive p => exact absurd hc (show Category.primitive ∉ collections by decide)
    | tree value => exact absurd hc (show Category.tree ∉ collections by decide)
  · exact .python t
  · exact .cpp t
  · exact .javascript t

end Texts

section Defaults

variable {target : Target} {t : TypeExpr}

/-- The literal of a primitive: false, the empty string, or zero for numbers. -/
def scalarText (literals : Literals) : Primitive → String
  | .bool => literals.falseValue
  | .string => literals.emptyString
  | .int | .long | .float | .double => literals.zero

lemma defaultReturn_of_tree (h : t.contains .tree = true) :
    target.defaultReturn (target.mapType t) =
      target.family.returnStatement target.literals.nullValue := by
  rw [Target.defaultReturn, if_pos ((has_nullable_iff target t).mpr h)]

lemma defaultReturn_of_collection (h : ¬t.contains .tree = true) (hc : t.category ∈ collections) :
    target.defaultReturn (target.mapType t) =
      target.family.returnStatement (target.family.emptyCollection (target.mapType t)) := by
  rw [Target.defaultReturn, if_neg (mt (has_nullable_iff target t).mp h),
    if_pos ((has_collection_iff target t).mpr hc)]

lemma defaultReturn_primitive (target : Target) (p : Primitive) :
    target.defaultReturn (target.mapType (.primitive p)) =
      target.family.returnStatement (scalarText target.literals p) := by
  cases p <;> rfl

/-- A type holds a tree, is a collection without one, or is a primitive. -/
lemma tree_or_collection_or_primitive (t : TypeExpr) : t.contains .tree = true ∨
    ¬t.contains .tree = true ∧ t.category ∈ collections ∨ ∃ p, t = .primitive p := by
  by_cases h : t.contains .tree = true
  · exact .inl h
  · cases t with
    | primitive p => exact .inr (.inr ⟨p, rfl⟩)
    | tree value => exact absurd rfl h
    | _ => exact .inr (.inl ⟨h, by simp [category, collections]⟩)

lemma exists_returnStatement (target : Target) (t : TypeExpr) :
    ∃ e, target.defaultReturn (target.mapType t) = target.family.returnStatement e := by
  obtain h | ⟨h, hc⟩ | ⟨p, rfl⟩ := tree_or_collection_or_primitive t
  · exact ⟨_, defaultReturn_of_tree h⟩
  · exact ⟨_, defaultReturn_of_collection h hc⟩
  · exact ⟨_, defaultReturn_primitive target p⟩

/-- How far the body of the function is indented. -/
def bodyIndent : Family → String
  | .javascript => "    "
  | .java | .python | .cpp => "        "

/-- The line that returns an expression, in three parts. -/
def returnLine : Family → String → String
  | .python, e => "        return " ++ (e ++ "")
  | .javascript, e => "    return " ++ (e ++ ";")
  | .java, e | .cpp, e => "        return " ++ (e ++ ";")

lemma indented_returnStatement (family : Family) (e : String) :
    bodyIndent family ++ family.returnStatement e = returnLine family e := by
  have hassoc : ∀ indent back : String, indent ++ ("return " ++ e ++ back) =
      indent ++ "return " ++ (e ++ back) := by
    intro indent back
    simp only [String.append_assoc]
  cases family with
  | python => exact (congrArg (_ ++ ·) String.append_empty.symm).trans (hassoc _ "")
  | _ => exact hassoc _ _

/-- The target with another fallback statement. -/
def withFallback (target : Target) (statement : String) : Target :=
  { target with literals := { target.literals with fallback := statement } }

lemma defaultReturn_withFallback (statement : String) :
    (withFallback target statement).defaultReturn (target.mapType t) =
      target.defaultReturn (target.mapType t) := by
  have hmap : target.mapType t = (withFallback target statement).mapType t := rfl
  obtain h | ⟨h, hc⟩ | ⟨p, rfl⟩ := tree_or_collection_or_primitive t
  · rw [defaultReturn_of_tree h, hmap, defaultReturn_of_tree h]
    rfl
  · rw [defaultReturn_of_collection h hc, hmap, defaultReturn_of_collection h hc]
    rfl
  · rw [defaultReturn_primitive, hmap, defaultReturn_primitive]
    cases p <;> rfl

lemma returnStatement_injective (family : Family) : Function.Injective family.returnStatement := by
  intro e e' h
  cases family with
  | python => exact (String.append_right_inj _).mp h
  | _ => exact (String.append_right_inj _).mp ((String.append_left_inj _).mp h)

lemma emptyText_ne_null (htarget : target ∈ Target.builtins) {text : String}
    (h : EmptyText target.family t text) : text ≠ target.literals.nullValue := by
  obtain rfl | rfl | rfl | rfl := eq_of_mem_builtins htarget
  · have hnew : ∀ rest : String, "new " ++ rest ≠ "null" := fun rest =>
      (ofList_ne_append (by decide)).symm
    cases h with
    | javaList element => exact hnew "ArrayList<>()"
    | javaArray p n => exact hnew _
    | javaGraph => exact hnew "int[0][]"
  all_goals
    cases h
    decide

lemma scalarText_ne_null (htarget : target ∈ Target.builtins) (p : Primitive) :
    scalarText target.literals p ≠ target.literals.nullValue := by
  obtain rfl | rfl | rfl | rfl := eq_of_mem_builtins htarget <;> cases p <;> decide

/-- The shapes that a target gives a type, and the default value that it returns, as the structure
of the type has them. -/
structure DefaultFollows (target : Target) (t : TypeExpr) : Prop where
  nullable : (target.mapType t).has .nullable = true ↔ t.contains .tree = true
  collection : (target.mapType t).has .collection = true ↔ t.category ∈ collections
  scalar : ∀ shape ∈ [Shape.numeric, .boolean, .string],
    (target.mapType t).has shape = true ↔ ∃ p, t = .primitive p ∧ p.shape = shape
  fallback : ∀ statement, (withFallback target statement).defaultReturn (target.mapType t) =
    target.defaultReturn (target.mapType t)
  null : target.defaultReturn (target.mapType t) =
    target.family.returnStatement target.literals.nullValue ↔ t.contains .tree = true
  empty : ¬t.contains .tree = true → t.category ∈ collections → ∃ text,
    EmptyText target.family t text ∧
      target.defaultReturn (target.mapType t) = target.family.returnStatement text
  literal : ∀ p, t = .primitive p → target.defaultReturn (target.mapType t) =
    target.family.returnStatement (scalarText target.literals p)

/-- Every built-in target classifies the well-formed types by their structure. It returns null just
for those that hold a tree, and never needs its fallback. -/
theorem default_follows_type (htarget : target ∈ Target.builtins) (ht : t.WellFormed) :
    DefaultFollows target t where
  nullable := has_nullable_iff target t
  collection := has_collection_iff target t
  scalar _ := has_scalar_iff target t
  fallback := defaultReturn_withFallback
  null := by
    refine ⟨fun hnull => ?_, defaultReturn_of_tree⟩
    obtain h | ⟨h, hc⟩ | ⟨p, rfl⟩ := tree_or_collection_or_primitive t
    · exact h
    · rw [defaultReturn_of_collection h hc] at hnull
      have htext := emptyText_of_wellFormed htarget ht hc
      exact (emptyText_ne_null htarget htext (returnStatement_injective _ hnull)).elim
    · rw [defaultReturn_primitive] at hnull
      exact (scalarText_ne_null htarget p (returnStatement_injective _ hnull)).elim
  empty h hc := ⟨_, emptyText_of_wellFormed htarget ht hc, defaultReturn_of_collection h hc⟩
  literal := by
    rintro p rfl
    exact defaultReturn_primitive target p

theorem default_follows_matrix :
    DefaultFollows .java (dimensions .string 2) ∧
      Target.java.defaultReturn (Target.java.mapType (dimensions .string 2)) =
        "return new String[0][];" ∧
      DefaultFollows .cpp (.list (.list (.tree .int))) ∧
        Target.cpp.defaultReturn (Target.cpp.mapType (.list (.list (.tree .int)))) =
          "return nullptr;" :=
  ⟨default_follows_type (by decide) (by decide), by decide +kernel,
    default_follows_type (by decide) (by decide), by decide +kernel⟩

end Defaults

end StubGen.Proofs
