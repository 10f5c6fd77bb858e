import Mathlib.Logic.Relation
import StubGen.Proofs.FileParts

/-!
# Imports of a set of types

The imports that a signature calls for only depend on which types it has. Neither their order nor
their number matters, nor whether a type is that of a parameter or the result, nor any text that is
no type. The baseline imports come first, and no statement is repeated.
-/

namespace StubGen.Proofs
open TypeExpr

section Repetitions

variable {xs ys : List String}

lemma firstOccurrences_nodup (xs : List String) : (firstOccurrences xs).Nodup := by
  induction xs with
  | nil => exact List.nodup_nil
  | cons x rest ih =>
    rw [firstOccurrences, List.nodup_cons]
    exact ⟨fun hmem => by simpa using List.of_mem_filter hmem, ih.filter _⟩

/-- Statements that are not repeated stay in front, and are removed from what follows. -/
lemma firstOccurrences_append (h : xs.Nodup) :
    firstOccurrences (xs ++ ys) = xs ++ (firstOccurrences ys).filter (· ∉ xs) := by
  induction xs with
  | nil => simp
  | cons x rest ih =>
    obtain ⟨hx, hrest⟩ := List.nodup_cons.mp h
    have hkept : rest.filter (· ≠ x) = rest := by
      refine List.filter_eq_self.mpr fun y hy => ?_
      simp only [ne_eq, decide_not, Bool.not_eq_true', decide_eq_false_iff_not]
      exact fun heq => hx (heq ▸ hy)
    rw [List.cons_append, firstOccurrences, ih hrest, List.filter_append, hkept, List.filter_filter,
      List.cons_append]
    congr 2
    refine List.filter_congr fun y _ => ?_
    simp [not_or]

end Repetitions

section Types

variable {types types' : List TypeExpr} {texts texts' : TypeTexts} {t : TypeExpr}

lemma anyContains_congr (h : ∀ t, t ∈ types ↔ t ∈ types') (category : Category) :
    anyContains types category = anyContains types' category := by
  rw [Bool.eq_iff_iff]
  simp only [anyContains, List.any_eq_true, h]

/-- What the rules of a language add only depends on the set of types. -/
lemma extraImports_congr (h : ∀ t, t ∈ types ↔ t ∈ types') (family : Family) :
    family.extraImports types = family.extraImports types' := by
  cases family with
  | java | cpp => simp only [Family.extraImports, anyContains_congr h]
  | python =>
    have hnames : typingNames types = typingNames types' := by
      simp only [typingNames, anyContains_congr h]
    simp only [Family.extraImports, hnames]
  | javascript => rfl

/-- The types that the texts of a signature denote, the return type included. -/
def denoted (texts : TypeTexts) : Set TypeExpr := {t | ∃ text ∈ texts.all, ofText? text = some t}

lemma mem_denoted : t ∈ denoted texts ↔ ∃ text ∈ texts.all, ofText? text = some t := Iff.rfl

lemma mem_readable : t ∈ texts.readable ↔ t ∈ denoted texts := List.mem_filterMap

/-- A change of the texts of a signature that keeps the set of its types: parameters are reordered,
a type that the signature has is given to one more parameter, the result changes places with the
first parameter, or a text comes in that is no type. -/
inductive Rearranged : TypeTexts → TypeTexts → Prop
  | reordered {parameters parameters' : List RawText} (h : parameters.Perm parameters')
      (returns : RawText) : Rearranged ⟨parameters, returns⟩ ⟨parameters', returns⟩
  | repeated {texts : TypeTexts} {text : RawText} (h : text ∈ texts.all) :
    Rearranged texts ⟨text :: texts.parameters, texts.returns⟩
  | exchanged (text : RawText) (parameters : List RawText) (returns : RawText) :
    Rearranged ⟨text :: parameters, returns⟩ ⟨returns :: parameters, text⟩
  | distorted {text : RawText} (h : ofText? text = none) (texts : TypeTexts) :
    Rearranged texts ⟨text :: texts.parameters, texts.returns⟩

lemma denoted_congr (h : ∀ text, text ∈ texts.all ↔ text ∈ texts'.all) :
    denoted texts = denoted texts' := by
  ext t
  simp only [mem_denoted, h]

/-- One change keeps the set of types. -/
lemma denoted_of_rearranged (h : Rearranged texts texts') : denoted texts = denoted texts' := by
  cases h with
  | reordered h returns => exact denoted_congr fun _ => (h.append_right [returns]).mem_iff
  | @repeated _ text h =>
    refine denoted_congr fun other => ⟨List.mem_cons_of_mem text, fun hmem => ?_⟩
    obtain rfl | hmem := List.mem_cons.mp hmem
    · exact h
    · exact hmem
  | exchanged text parameters returns =>
    refine denoted_congr fun other => ?_
    simp only [TypeTexts.all, List.cons_append, List.mem_cons, List.mem_append, List.not_mem_nil,
      or_false]
    tauto
  | @distorted text h =>
    ext t
    show _ ↔ ∃ other ∈ text :: texts.all, ofText? other = some t
    simp [mem_denoted, h]

/-- Changes one after the other, or taken back, keep it too. -/
lemma denoted_of_run (h : Relation.EqvGen Rearranged texts texts') :
    denoted texts = denoted texts' := by
  induction h with
  | rel a b h => exact denoted_of_rearranged h
  | refl a => rfl
  | symm a b _ ih => exact ih.symm
  | trans a b c _ _ ih ih' => exact ih.trans ih'

end Types

section Imports

variable {target : Target} {language : String} {texts texts' : TypeTexts}

lemma imports_congr (h : denoted texts = denoted texts') :
    target.imports texts.readable = target.imports texts'.readable := by
  have hmem : ∀ t, t ∈ texts.readable ↔ t ∈ texts'.readable := by
    intro t
    rw [mem_readable, mem_readable, h]
  rw [Target.imports, Target.imports, extraImports_congr hmem]

lemma baselineImports_nodup (h : Registry.builtin.find? language = some target) :
    target.baselineImports.Nodup := by
  have hall : ∀ target ∈ Target.builtins, target.baselineImports.Nodup := by decide
  exact hall target (List.mem_of_find?_eq_some h)

/-- In a built-in language two signatures with the same set of types have the same imports, whatever
other texts they hold. So no series of rearrangements changes the imports. They start with the
baseline imports of the language, and no statement stands there twice. -/
theorem imports_of_type_set (h : language ∈ Registry.builtin.languages) :
    (∀ texts texts', denoted texts = denoted texts' →
      Registry.builtin.importsFor texts language = Registry.builtin.importsFor texts' language) ∧
    (∀ texts texts', Relation.EqvGen Rearranged texts texts' →
      Registry.builtin.importsFor texts language = Registry.builtin.importsFor texts' language) ∧
    ∃ target, Registry.builtin.target language = .ok target ∧
      ∀ texts, ∃ imports, Registry.builtin.importsFor texts language = .ok imports ∧
        target.baselineImports <+: imports ∧ imports.Nodup := by
  obtain ⟨target, ht⟩ := find?_of_isRegistered (List.contains_iff_mem.mpr h)
  have hset : ∀ texts texts', denoted texts = denoted texts' →
      Registry.builtin.importsFor texts language =
        Registry.builtin.importsFor texts' language := by
    intro texts texts' hdenoted
    rw [importsFor_eq ht, importsFor_eq ht, imports_congr hdenoted]
  refine ⟨hset, fun texts texts' hrun => hset texts texts' (denoted_of_run hrun), target,
    target_of_find? ht, fun texts => ⟨_, importsFor_eq ht texts, ?_, firstOccurrences_nodup _⟩⟩
  rw [Target.imports, firstOccurrences_append (baselineImports_nodup ht)]
  exact List.prefix_append _ _

/-- A list of rows that is a parameter or the result, and a text that is no type. -/
theorem imports_of_moved_rows :
    "java" ∈ Registry.builtin.languages ∧
      Relation.EqvGen Rearranged ⟨["List<int[]>", "int"], "int"⟩
        ⟨["List<List>", "int", "int"], "List<int[]>"⟩ ∧
      Registry.builtin.importsFor ⟨["List<int[]>", "int"], "int"⟩ "java" =
        Registry.builtin.importsFor ⟨["List<List>", "int", "int"], "List<int[]>"⟩ "java" := by
  have hmem : "java" ∈ Registry.builtin.languages := by decide
  have hnone : ofText? "List<List>" = none := by decide +kernel
  have hrun : Relation.EqvGen Rearranged ⟨["List<int[]>", "int"], "int"⟩
      ⟨["List<List>", "int", "int"], "List<int[]>"⟩ :=
    .trans _ _ _ (.rel _ _ (.exchanged _ _ _)) (.rel _ _ (.distorted hnone _))
  exact ⟨hmem, hrun, (imports_of_type_set hmem).2.1 _ _ hrun⟩

end Imports

end StubGen.Proofs
