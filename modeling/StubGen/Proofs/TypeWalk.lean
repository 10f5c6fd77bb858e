import StubGen.Proofs.TreeHelper

/-!
# Walks into types

A walk goes from a type to the element of its array or list, as long as there is one. Trees add to
the depth of a type, but a walk does not enter them. Both can be read off the spelling: an opening
bracket stands there for each level of the depth, and arrays and lists leave marks of their own.
-/

namespace StubGen.Proofs
open TypeExpr

variable {t : TypeExpr} {c : Category}

section Walks

/-- The first type is an array or a list of the second one. -/
inductive HoldsElement : TypeExpr → TypeExpr → Prop
  | array (element : TypeExpr) : HoldsElement (.array element) element
  | list (element : TypeExpr) : HoldsElement (.list element) element

/-- The types go from one to the other, each time to an element. -/
structure IsWalk (first last : TypeExpr) (types : List TypeExpr) : Prop where
  starts : types.head? = some first
  steps : types.IsChain HoldsElement
  ends : types.getLast? = some last

lemma isWalk_singleton (t : TypeExpr) : IsWalk t t [t] := ⟨rfl, .singleton t, rfl⟩

lemma isWalk_cons {outer first last : TypeExpr} {types : List TypeExpr}
    (hstep : HoldsElement outer first) (h : IsWalk first last types) :
    IsWalk outer last (outer :: types) := by
  cases types with
  | nil => cases h.starts
  | cons found rest =>
    obtain rfl : found = first := Option.some.inj h.starts
    refine ⟨rfl, .cons_cons hstep h.steps, ?_⟩
    rw [List.getLast?_cons_cons]
    exact h.ends

/-- What is left of a type without the arrays and lists around it. -/
def innermost : TypeExpr → TypeExpr
  | .array element | .list element => innermost element
  | t => t

lemma isWalk_walk (t : TypeExpr) : IsWalk t (innermost t) t.walk := by
  induction t with
  | array element ih => exact isWalk_cons (.array element) ih
  | list element ih => exact isWalk_cons (.list element) ih
  | _ => exact isWalk_singleton _

lemma category_innermost (t : TypeExpr) :
    (innermost t).category ∈ [Category.primitive, .graph, .tree] := by
  induction t with
  | array element ih => exact ih
  | list element ih => exact ih
  | primitive p => exact List.mem_cons_self
  | tree value => exact List.mem_cons_of_mem _ (List.mem_cons_of_mem _ List.mem_cons_self)
  | graph => exact List.mem_cons_of_mem _ List.mem_cons_self

/-- The depth counts a tree, which is the last type of a walk. -/
lemma length_walk (t : TypeExpr) :
    t.walk.length = if (innermost t).category = .tree then t.depth else t.depth + 1 := by
  induction t with
  | array element ih =>
    rw [walk, List.length_cons, ih, innermost, depth]
    split <;> rfl
  | list element ih =>
    rw [walk, List.length_cons, ih, innermost, depth]
    split <;> rfl
  | _ => rfl

lemma contains_array (element : TypeExpr) (c : Category) :
    (array element).contains c = true ↔ c = .array ∨ element.contains c = true := by
  rw [contains, walk, List.any_cons, Bool.or_eq_true, beq_iff_eq, eq_comm]
  rfl

lemma contains_list (element : TypeExpr) (c : Category) :
    (list element).contains c = true ↔ c = .list ∨ element.contains c = true := by
  rw [contains, walk, List.any_cons, Bool.or_eq_true, beq_iff_eq, eq_comm]
  rfl

/-- A type that is no array and no list contains its own category only. -/
lemma contains_of_walk (h : t.walk = [t]) : t.contains c = true ↔ t.category = c := by
  rw [contains, h, List.any_cons, List.any_nil, Bool.or_false, beq_iff_eq]

/-- What is neither an array nor a list can only be the last type of a walk. -/
lemma contains_iff_innermost (harray : c ≠ .array) (hlist : c ≠ .list) (t : TypeExpr) :
    t.contains c = true ↔ (innermost t).category = c := by
  induction t with
  | array element ih => rw [contains_array, or_iff_right harray, ih, innermost]
  | list element ih => rw [contains_list, or_iff_right hlist, ih, innermost]
  | _ => exact contains_of_walk rfl

end Walks

section Spellings

/-- Each constructor that adds to the depth puts one opening bracket into the spelling. -/
lemma depth_eq_count (t : TypeExpr) :
    t.depth = t.spellingChars.count '[' + t.spellingChars.count '<' := by
  induction t with
  | primitive p => cases p <;> decide
  | array element ih =>
    have hsquare : ['[', ']'].count '[' = 1 := by decide
    have hangle : ['[', ']'].count '<' = 0 := by decide
    rw [depth, ih, spellingChars_array, List.count_append, List.count_append, hsquare, hangle]
    omega
  | list element ih =>
    have hfront : "List<".toList.count '[' = 0 ∧ "List<".toList.count '<' = 1 := by decide
    have hback : ['>'].count '[' = 0 ∧ ['>'].count '<' = 0 := by decide
    rw [depth, ih, spellingChars_list]
    simp only [List.count_append, hfront, hback]
    omega
  | tree value => cases value <;> decide
  | graph => decide

/-- The text that arrays or lists put into a spelling, with a character of it that nothing else puts
there. -/
inductive Marks : Category → String → Char → Prop
  | array : Marks .array "[]" '['
  | list : Marks .list "List<" 'L'

variable {text : String} {mark : Char}

lemma mark_mem_text (h : Marks c text mark) : mark ∈ text.toList := by
  cases h <;> decide

lemma infix_of_contains (h : Marks c text mark) (ht : t.contains c = true) :
    text.toList <:+: t.spellingChars := by
  induction t with
  | array element ih =>
    obtain rfl | helement := (contains_array element c).mp ht
    · cases h
      exact (List.suffix_append element.spellingChars ['[', ']']).isInfix
    · exact (ih helement).trans (List.prefix_append _ _).isInfix
  | list element ih =>
    rw [spellingChars_list, List.append_assoc]
    obtain rfl | helement := (contains_list element c).mp ht
    · cases h
      exact (List.prefix_append _ _).isInfix
    · exact (ih helement).trans (List.infix_append' _ _ _)
  | _ => cases h <;> cases ht

lemma contains_of_mark (h : Marks c text mark) (ht : mark ∈ t.spellingChars) :
    t.contains c = true := by
  induction t with
  | array element ih =>
    rw [contains_array]
    rw [spellingChars_array, List.mem_append] at ht
    obtain helement | hbrackets := ht
    · exact .inr (ih helement)
    · cases h with
      | array => exact .inl rfl
      | list => exact absurd hbrackets (by decide)
  | list element ih =>
    rw [contains_list]
    rw [spellingChars_list, List.mem_append, List.mem_append] at ht
    obtain (hfront | helement) | hback := ht
    · cases h with
      | array => exact absurd hfront (by decide)
      | list => exact .inl rfl
    · exact .inr (ih helement)
    · cases h <;> exact absurd hback (by decide)
  | primitive p => cases h <;> cases p <;> exact absurd ht (by decide)
  | tree value => cases h <;> cases value <;> exact absurd ht (by decide)
  | graph => cases h <;> exact absurd ht (by decide)

lemma contains_iff_mentions (h : Marks c text mark) (t : TypeExpr) :
    t.contains c = true ↔ Mentions text t.spelling := by
  rw [Mentions, spelling, String.toList_ofList]
  exact ⟨infix_of_contains h, fun ht => contains_of_mark h (ht.subset (mark_mem_text h))⟩

end Spellings

/-- The depth of a type is the number of opening brackets in its spelling. A walk starts with the
type, goes on to the element of what came last, and ends with a primitive, a graph or a tree. It has
one type more than the depth unless it ends with a tree, which counts for the depth. What it ends
with is the only category among these three that the type contains, and it contains an array or a
list exactly if the spelling has the brackets or the name that they put there. -/
theorem walk_read_off_spelling (t : TypeExpr) :
    t.depth = t.spelling.toList.count '[' + t.spelling.toList.count '<' ∧
      (∃ last, IsWalk t last t.walk ∧ last.category ∈ [Category.primitive, .graph, .tree] ∧
        (t.walk.length = if last.category = .tree then t.depth else t.depth + 1) ∧
        (t.contains .primitive = true ↔ last.category = .primitive) ∧
        (t.contains .graph = true ↔ last.category = .graph) ∧
        (t.contains .tree = true ↔ last.category = .tree)) ∧
      (t.contains .list = true ↔ Mentions "List<" t.spelling) ∧
      (t.contains .array = true ↔ Mentions "[]" t.spelling) := by
  have hdepth : t.depth = t.spelling.toList.count '[' + t.spelling.toList.count '<' := by
    rw [spelling, String.toList_ofList]
    exact depth_eq_count t
  refine ⟨hdepth, ⟨innermost t, isWalk_walk t, category_innermost t, length_walk t, ?_, ?_, ?_⟩,
    contains_iff_mentions .list t, contains_iff_mentions .array t⟩
  · exact contains_iff_innermost (by decide) (by decide) t
  · exact contains_iff_innermost (by decide) (by decide) t
  · exact contains_iff_innermost (by decide) (by decide) t

end StubGen.Proofs
