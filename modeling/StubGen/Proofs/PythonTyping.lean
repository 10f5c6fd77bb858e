import StubGen.Proofs.FileParts
import StubGen.Proofs.TreeHelper

/-!
# Typing imports in Python

Annotations in Python take the names `List` and `Optional` from the typing module. The import rule
looks at the structure of the types, while the names are needed where a spelling has them; both come
to the same, and one statement imports all that is needed.
-/

namespace StubGen.Proofs
open TypeExpr

section Spellings

variable {t : TypeExpr}

/-- The type holds one of those that are spelled as lists. -/
def holdsList (t : TypeExpr) : Bool := t.contains .array || t.contains .list || t.contains .graph

lemma mentions_list_iff : Mentions "List[" (Family.python.spell t) ↔ holdsList t = true := by
  have hopens : ∀ s, Mentions "List[" ("List[" ++ s) := fun s =>
    mentions_append_left (mentions_ofList (List.infix_refl _))
  have hlacks : ∀ {s}, Lacks 'L' s → ¬Mentions "List[" s := not_mentions_of_lacks (by decide)
  cases t with
  | primitive p => cases p <;> exact iff_of_false (hlacks (lacks_ofList (by decide))) (by decide)
  | array element => exact iff_of_true (mentions_append_left (hopens _)) rfl
  | list element =>
    refine iff_of_true (mentions_append_left (hopens _)) ?_
    simp [holdsList, contains, walk, category]
  | tree value => exact iff_of_false (hlacks (lacks_ofList (by decide))) Bool.false_ne_true
  | graph => exact iff_of_true (mentions_ofList (by decide)) rfl

lemma mentions_optional_iff : Mentions "Optional[" (Family.python.spell t) ↔
    t.contains .tree = true :=
  mentions_spell_iff .python (by decide) (.inl rfl) (mentions_ofList (by decide))

/-- A parameter or the return type is spelled with the word. -/
def Spelled (word : String) (c : Context) : Prop :=
  (∃ p ∈ c.parameters, Mentions word p.mapped.syntaxText) ∨ Mentions word c.returnMapped.syntaxText

lemma spelled_iff {word : String} {s : TypedSignature} : Spelled word (Target.python.context s) ↔
    ∃ t ∈ s.types, Mentions word (Family.python.spell t) := by
  simp only [Spelled, TypedSignature.types, Target.context, List.mem_append, List.mem_map,
    List.mem_singleton, or_and_right, exists_or, exists_eq_left, exists_exists_and_eq_and]
  exact Iff.rfl

end Spellings

section Imports

variable {types : List TypeExpr} {name l : String} {names : List String}

/-- The line is a statement that imports from the typing module. -/
def IsTypingImport (l : String) : Prop := ∃ rest, l = "from typing import " ++ rest

/-- The line imports the name from the typing module, alone or along with other names. -/
def ImportsTyping (name l : String) : Prop :=
  ∃ names, (∀ n ∈ names, IsIdentifier n) ∧ name ∈ names ∧
    l = "from typing import " ++ Text.joined ", " names

lemma typingImport_injective {names' : List String} (h : ∀ n ∈ names, IsIdentifier n)
    (h' : ∀ n ∈ names', IsIdentifier n)
    (heq : "from typing import " ++ Text.joined ", " names =
      "from typing import " ++ Text.joined ", " names') : names = names' := by
  have hitem : ∀ n, IsIdentifier n → Lacks ',' n ∧ n ≠ "" := fun n hn =>
    ⟨lacks_of_identifier hn (by decide), ne_empty_of_identifier hn⟩
  exact joined_injective (fun n hn => hitem n (h n hn)) (fun n hn => hitem n (h' n hn))
    ((String.append_right_inj _).mp heq)

lemma typingNames_eq (types : List TypeExpr) : typingNames types =
    (if types.any holdsList then ["List"] else []) ++
      if types.any fun t => t.contains .tree then ["Optional"] else [] := by
  have hlist : (anyContains types .array || anyContains types .list || anyContains types .graph) =
      types.any holdsList := by
    rw [Bool.eq_iff_iff]
    simp only [anyContains, holdsList, Bool.or_eq_true, List.any_eq_true, and_or_left, exists_or]
  rw [typingNames, hlist]
  rfl

lemma mem_typingNames_iff : name ∈ typingNames types ↔
    (name = "List" ∧ ∃ t ∈ types, holdsList t = true) ∨
      name = "Optional" ∧ ∃ t ∈ types, t.contains .tree = true := by
  rw [typingNames_eq, List.mem_append]
  simp only [List.mem_ite_nil_right, List.mem_singleton, List.any_eq_true, and_comm]

lemma typingNames_cases (types : List TypeExpr) : typingNames types = [] ∨
    typingNames types = ["List"] ∨ typingNames types = ["Optional"] ∨
      typingNames types = ["List", "Optional"] := by
  unfold typingNames
  split_ifs <;> simp

/-- The typing statement, if there is one, stands last. -/
lemma pythonImports_eq (types : List TypeExpr) : Target.python.imports types =
    ["import json", "import sys"] ++ if typingNames types = [] then []
      else ["from typing import " ++ Text.joined ", " (typingNames types)] := by
  rw [Target.imports]
  show firstOccurrences (Target.python.baselineImports ++ if (typingNames types).isEmpty then []
    else ["from typing import " ++ Text.joined ", " (typingNames types)]) = _
  obtain h | h | h | h := typingNames_cases types <;> rw [h] <;> decide

lemma exists_importsTyping_iff :
    (∃ l ∈ Target.python.imports types, ImportsTyping name l) ↔ name ∈ typingNames types := by
  have hnames : ∀ n ∈ typingNames types, IsIdentifier n := by
    obtain h | h | h | h := typingNames_cases types <;> rw [h] <;> decide
  rw [pythonImports_eq]
  constructor
  · rintro ⟨l, hl, names, hidentifiers, hname, rfl⟩
    simp only [List.mem_append, List.mem_cons, List.not_mem_nil, or_false] at hl
    obtain (hjson | hsys) | htyping := hl
    · exact (ofList_ne_append (by decide) hjson.symm).elim
    · exact (ofList_ne_append (by decide) hsys.symm).elim
    · split_ifs at htyping
      · cases htyping
      · rwa [typingImport_injective hnames hidentifiers (List.mem_singleton.mp htyping).symm]
  · intro hname
    rw [if_neg (List.ne_nil_of_mem hname)]
    exact ⟨_, List.mem_append_right _ List.mem_cons_self, _, hnames, hname, rfl⟩

/-- No typing statement stands where neither name is needed. -/
lemma no_typingImport_iff : (∀ l ∈ Target.python.imports types, ¬IsTypingImport l) ↔
    "List" ∉ typingNames types ∧ "Optional" ∉ typingNames types := by
  constructor
  · intro hnone
    have hunused : ∀ name, name ∉ typingNames types := by
      intro name hname
      obtain ⟨l, hl, names, -, -, heq⟩ := exists_importsTyping_iff.mpr hname
      exact hnone l hl ⟨_, heq⟩
    exact ⟨hunused "List", hunused "Optional"⟩
  · rintro ⟨hlist, hoptional⟩
    have hempty : typingNames types = [] := by
      obtain h | h | h | h := typingNames_cases types
      · exact h
      · exact (hlist (h ▸ List.mem_cons_self)).elim
      · exact (hoptional (h ▸ List.mem_cons_self)).elim
      · exact (hlist (h ▸ List.mem_cons_self)).elim
    rw [pythonImports_eq, if_pos hempty, List.append_nil]
    refine List.forall_mem_cons.mpr ⟨?_, List.forall_mem_singleton.mpr ?_⟩
    all_goals exact fun ⟨_, heq⟩ => ofList_ne_append (by decide) heq

end Imports

section File

variable {s : TypedSignature}

/-- The typing module is imported by one statement at most, behind the other imports, and for those
of its names that the spellings have. -/
structure TypingFits (c : Context) : Prop where
  list : (∃ l ∈ c.imports, ImportsTyping "List" l) ↔ Spelled "List[" c
  optional : (∃ l ∈ c.imports, ImportsTyping "Optional" l) ↔ Spelled "Optional[" c
  others : ∀ name, (∃ l ∈ c.imports, ImportsTyping name l) → name = "List" ∨ name = "Optional"
  placed : ∃ typing, c.imports = ["import json", "import sys"] ++ typing ∧ typing.length ≤ 1 ∧
    ∀ l ∈ typing, IsTypingImport l
  absent : (∀ l ∈ c.imports, ¬IsTypingImport l) ↔ ¬Spelled "List[" c ∧ ¬Spelled "Optional[" c

lemma spelled_list_iff : Spelled "List[" (Target.python.context s) ↔
    "List" ∈ typingNames s.types := by
  simp [spelled_iff, mentions_list_iff, mem_typingNames_iff]

lemma spelled_optional_iff : Spelled "Optional[" (Target.python.context s) ↔
    "Optional" ∈ typingNames s.types := by
  simp [spelled_iff, mentions_optional_iff, mem_typingNames_iff]

lemma typingFits_context (s : TypedSignature) : TypingFits (Target.python.context s) := by
  have himports := pythonImports_eq s.types
  refine ⟨?_, ?_, fun name himported => ?_, ⟨_, himports, ?_⟩, ?_⟩
  · rw [spelled_list_iff]
    exact exists_importsTyping_iff
  · rw [spelled_optional_iff]
    exact exists_importsTyping_iff
  · have hmem : name ∈ typingNames s.types := exists_importsTyping_iff.mp himported
    exact (mem_typingNames_iff.mp hmem).imp And.left And.left
  · split_ifs
    · simp
    · exact ⟨Nat.le_refl 1, List.forall_mem_singleton.mpr ⟨_, rfl⟩⟩
  · rw [spelled_list_iff, spelled_optional_iff]
    exact no_typingImport_iff

/-- The typing imports of a Python file are exact. For a signature whose texts are all types, the
imports name `List` exactly if the spelling of a parameter or of the return type has `List[`, and
`Optional` exactly if one has `Optional[`, and no other name; they hold at most one typing
statement, last, and none if neither name is used. The imports alone are the same, and the file
starts with them. -/
theorem typing_imports_exact (s : Signature)
    (hread : ∀ text ∈ s.typeTexts.all, ∃ t, ofText? text = some t) :
    ∃ c, Target.python.signatureContext s = .ok c ∧
      Registry.builtin.importsFor s.typeTexts "python" = .ok c.imports ∧ TypingFits c ∧
      (WellNamed s → ∃ text rest, Target.python.renderSignature s = .ok text ∧
        linesOf text = c.imports ++ "" :: rest) := by
  obtain ⟨typed, htyped⟩ := exists_typed hread
  have hcontext : Target.python.signatureContext s = .ok (Target.python.context typed) := by
    rw [Target.signatureContext, htyped]
  have hpython : Registry.builtin.find? "python" = some Target.python := rfl
  refine ⟨_, hcontext, ?_, typingFits_context typed, fun hn => ?_⟩
  · rw [importsFor_eq hpython, readable_of_typed htyped]
    rfl
  · obtain ⟨rest, hlines⟩ := linesOf_render_imports
      (show Target.python ∈ Target.builtins by decide) (named_of_typed hn htyped)
    exact ⟨_, rest, renderSignature_of_typed htyped, hlines⟩

/-- Signature with a tree and with a graph, which is spelled as a list. -/
def spanningSignature : Signature :=
  ⟨"spanning", [⟨"edges", "Graph"⟩, ⟨"root", "int"⟩], "Tree<int>"⟩

theorem typing_imports_of_spanning :
    ∃ c text rest, Target.python.signatureContext spanningSignature = .ok c ∧ TypingFits c ∧
      Target.python.renderSignature spanningSignature = .ok text ∧
      linesOf text =
        "import json" :: "import sys" :: "from typing import List, Optional" :: "" :: rest := by
  have hread : spanningSignature.typed =
      .ok ⟨"spanning", [⟨"edges", .graph⟩, ⟨"root", .primitive .int⟩], .tree .int⟩ := by
    decide +kernel
  obtain ⟨c, hcontext, -, hfits, hfile⟩ := typing_imports_exact spanningSignature
    fun text htext => forall₂_left (types_of_typed hread) text htext
  obtain ⟨text, rest, htext, hlines⟩ := hfile (by decide)
  have hc := hcontext
  rw [Target.signatureContext, hread] at hc
  cases hc
  exact ⟨_, text, rest, hcontext, hfits, htext, hlines⟩

end File

end StubGen.Proofs
