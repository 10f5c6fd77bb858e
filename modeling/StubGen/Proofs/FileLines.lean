import StubGen.Generation
import StubGen.Proofs.BlockLines
import StubGen.Proofs.RequestSchema
import StubGen.Proofs.TypeChecking

/-!
# The lines of a stub file

`sections` lists the parts of a stub file as lists of lines. The texts that a signature brings into
its file hold no line breaks, so that each section can stand as a block, and the lines of the file
are those of its sections, each followed by an empty line.
-/

namespace StubGen.Proofs

section Unbroken

/-- No text of the context holds a line break. -/
structure Unbroken (c : Context) : Prop where
  functionName : Lacks '\n' c.functionName
  parameters : ∀ p ∈ c.parameters, Lacks '\n' p.name ∧ Lacks '\n' p.mapped.syntaxText
  returns : Lacks '\n' c.returnMapped.syntaxText
  defaultReturn : Lacks '\n' c.defaultReturn

variable {c : Context} {p : MappedParameter}

lemma lacks_joined_map {separator : String} {ps : List MappedParameter}
    {f : MappedParameter → String} (hsep : Lacks '\n' separator) (h : ∀ p ∈ ps, Lacks '\n' (f p)) :
    Lacks '\n' (Text.joined separator (ps.map f)) :=
  lacks_joined hsep (List.forall_mem_map.mpr h)

lemma lacks_itemName (depth : Nat) : Lacks '\n' (Decoding.itemName depth) := by
  have hdigits : Lacks '\n' (toString depth) := lacks_of_consists (consists_toString depth) rfl
  exact lacks_append.mpr ⟨lacks_ofList (by decide), hdigits⟩

lemma lacks_collect {body source : Decoding} (hbody : Lacks '\n' body.pythonText)
    (hsource : Lacks '\n' source.pythonText) (depth : Nat) :
    Lacks '\n' (Decoding.collect body depth source).pythonText := by
  simp only [Decoding.pythonText, lacks_append, hbody, hsource, lacks_itemName, and_true]
  and_intros <;> exact lacks_ofList (by decide)

lemma lacks_rebuild {source : Decoding} (h : Lacks '\n' source.pythonText) (depth : Nat)
    (t : TypeExpr) : Lacks '\n' (Decoding.rebuild depth source t).pythonText := by
  have hitem : ∀ d, Lacks '\n' (Decoding.item d).pythonText := lacks_itemName
  -- The body of a comprehension has another source, its own variable.
  induction t generalizing depth source with
  | primitive p => exact h
  | array element ih | list element ih =>
    rw [Decoding.rebuild]
    split_ifs
    · exact lacks_collect (ih (hitem depth) (depth + 1)) h depth
    · exact h
  | tree value =>
    simp only [Decoding.rebuild, Decoding.pythonText, lacks_append, h, and_true]
    and_intros <;> exact lacks_ofList (by decide)
  | graph => exact h

lemma lacks_arguments (hname : Lacks '\n' p.name) (htype : Lacks '\n' p.mapped.syntaxText) :
    Lacks '\n' p.javaArgument ∧ Lacks '\n' p.pythonArgument ∧ Lacks '\n' p.cppPlaceholder ∧
      Lacks '\n' p.javascriptArgument := by
  refine ⟨?_, lacks_rebuild ?_ 0 p.type, ?_, ?_⟩
  · unfold MappedParameter.javaArgument
    split_ifs
    all_goals
      simp only [lacks_append, hname, htype, and_true]
      and_intros <;> exact lacks_ofList (by decide)
  · simp only [Decoding.pythonText, lacks_append, hname, and_true]
    and_intros <;> exact lacks_ofList (by decide)
  · simp only [MappedParameter.cppPlaceholder, lacks_append, hname, htype, and_true]
    and_intros <;> exact lacks_ofList (by decide)
  · unfold MappedParameter.javascriptArgument
    split_ifs
    all_goals
      simp only [lacks_append, hname, and_true]
      and_intros <;> exact lacks_ofList (by decide)

lemma lacks_names (h : Unbroken c) : Lacks '\n' (Text.joined ", " c.names) :=
  lacks_joined_map (lacks_ofList (by decide)) fun p hp => (h.parameters p hp).1

lemma lacks_typedNames (h : Unbroken c) : Lacks '\n' (Text.joined ", " c.typedNames) := by
  refine lacks_joined_map (lacks_ofList (by decide)) fun p hp => ?_
  simp only [lacks_append, h.parameters p hp, true_and, and_true]
  exact lacks_ofList (by decide)

lemma isBlock_solution (h : Unbroken c) (family : Family) : IsBlock (c.solution family) := by
  cases family with
  | java =>
    refine ⟨?_, ⟨_, _, _, rfl, by decide⟩, ⟨"\x7d", rfl, by decide⟩⟩
    simp only [Context.solution, Context.javaSolution, List.forall_mem_cons, lacks_append,
      h.returns, h.functionName, h.defaultReturn, lacks_typedNames h, and_true, List.not_mem_nil,
      false_imp_iff, implies_true]
    and_intros <;> exact lacks_ofList (by decide)
  | python =>
    have hparameters : Lacks '\n' (Text.joined ", "
        ("self" :: c.parameters.map fun p => p.name ++ ": " ++ p.mapped.syntaxText)) := by
      refine lacks_joined (lacks_ofList (by decide)) (List.forall_mem_cons.mpr
        ⟨lacks_ofList (by decide), List.forall_mem_map.mpr fun p hp => ?_⟩)
      simp only [lacks_append, h.parameters p hp, true_and, and_true]
      exact lacks_ofList (by decide)
    refine ⟨?_, ⟨_, _, _, rfl, by decide⟩, ⟨"        " ++ c.defaultReturn, rfl, ?_⟩⟩
    · simp only [Context.solution, Context.pythonSolution, List.forall_mem_cons, lacks_append,
        h.returns, h.functionName, h.defaultReturn, hparameters, and_true, List.not_mem_nil,
        false_imp_iff, implies_true]
      and_intros <;> exact lacks_ofList (by decide)
    · simp
  | cpp =>
    refine ⟨?_, ⟨_, _, _, rfl, by decide⟩, ⟨"\x7d;", rfl, by decide⟩⟩
    simp only [Context.solution, Context.cppSolution, List.forall_mem_cons, lacks_append,
      h.returns, h.functionName, h.defaultReturn, lacks_typedNames h, and_true, List.not_mem_nil,
      false_imp_iff, implies_true]
    and_intros <;> exact lacks_ofList (by decide)
  | javascript =>
    have hdocumented : ∀ p ∈ c.parameters,
        Lacks '\n' (" * @param \x7b" ++ p.mapped.syntaxText ++ "\x7d " ++ p.name) := by
      intro p hp
      simp only [lacks_append, h.parameters p hp, and_true]
      and_intros <;> exact lacks_ofList (by decide)
    refine ⟨?_, ⟨_, _, _, rfl, by decide⟩, ends_append _ ⟨"\x7d;", rfl, by decide⟩⟩
    simp only [Context.solution, Context.javascriptSolution, List.forall_mem_append,
      List.forall_mem_map, List.forall_mem_cons, lacks_append, h.returns, h.functionName,
      h.defaultReturn, lacks_names h, and_true, List.not_mem_nil, false_imp_iff, implies_true]
    refine ⟨⟨lacks_ofList (by decide), fun p hp => ?_⟩, ?_⟩
    · simpa only [lacks_append] using hdocumented p hp
    · and_intros <;> exact lacks_ofList (by decide)

lemma isBlock_harness (h : Unbroken c) (family : Family) : IsBlock (c.harness family) := by
  have harguments := fun p hp => lacks_arguments (h.parameters p hp).1 (h.parameters p hp).2
  have hcomma : Lacks '\n' ", " := lacks_ofList (by decide)
  cases family with
  | java =>
    have hjoined := lacks_joined_map hcomma fun p hp => (harguments p hp).1
    refine ⟨?_, ⟨_, _, _, rfl, by decide⟩, ⟨"\x7d", rfl, by decide⟩⟩
    simp only [Context.harness, Context.javaHarness, List.forall_mem_cons, lacks_append,
      h.returns, h.functionName, hjoined, and_true, List.not_mem_nil, false_imp_iff, implies_true]
    and_intros <;> exact lacks_ofList (by decide)
  | python =>
    have hjoined := lacks_joined_map hcomma fun p hp => (harguments p hp).2.1
    have hbuilder : ∀ l ∈ Context.pythonTreeBuilder ++ ["", ""], Lacks '\n' l := by
      simp only [Context.pythonTreeBuilder, List.forall_mem_append, List.forall_mem_cons,
        List.not_mem_nil, false_imp_iff, implies_true, and_true]
      and_intros <;> exact lacks_ofList (by decide)
    have hencoder : Lacks '\n' (if c.treeNode = "" then "str" else "vars") := by
      split_ifs <;> exact lacks_ofList (by decide)
    refine ⟨?_, ?_, ends_append _ ⟨"        sys.exit(1)", rfl, by decide⟩⟩
    · simp only [Context.harness, Context.pythonHarness, List.forall_mem_append,
        List.forall_mem_cons, lacks_append, h.functionName, hjoined, hencoder, and_true,
        List.not_mem_nil, false_imp_iff, implies_true]
      constructor
      · split_ifs
        · exact hbuilder
        · exact fun l hl => (List.not_mem_nil hl).elim
      · and_intros <;> exact lacks_ofList (by decide)
    · rw [Context.harness, Context.pythonHarness]
      split_ifs <;> exact ⟨_, _, _, rfl, by decide⟩
  | cpp =>
    refine ⟨?_, ⟨_, _, _, rfl, by decide⟩, ends_append _ ⟨"\x7d", rfl, by decide⟩⟩
    simp only [Context.harness, Context.cppHarness, List.forall_mem_append, List.forall_mem_map,
      List.forall_mem_cons, lacks_append, h.functionName, lacks_names h, and_true,
      List.not_mem_nil, false_imp_iff, implies_true]
    refine ⟨⟨?_, fun p hp => (harguments p hp).2.2.1⟩, ?_⟩
    all_goals and_intros <;> exact lacks_ofList (by decide)
  | javascript =>
    have hjoined := lacks_joined_map hcomma fun p hp => (harguments p hp).2.2.2
    have hbuilder : ∀ l ∈ Context.javascriptTreeBuilder ++ [""], Lacks '\n' l := by
      simp only [Context.javascriptTreeBuilder, List.forall_mem_append, List.forall_mem_cons,
        List.not_mem_nil, false_imp_iff, implies_true, and_true]
      and_intros <;> exact lacks_ofList (by decide)
    refine ⟨?_, ⟨_, _, _, rfl, by decide⟩, ends_append _ ⟨"\x7d", rfl, by decide⟩⟩
    simp only [Context.harness, Context.javascriptHarness, List.forall_mem_append,
      List.forall_mem_cons, lacks_append, h.functionName, hjoined, and_true, List.not_mem_nil,
      false_imp_iff, implies_true]
    refine ⟨⟨?_, ?_⟩, ?_⟩
    · and_intros <;> exact lacks_ofList (by decide)
    · split_ifs
      · exact hbuilder
      · exact fun l hl => (List.not_mem_nil hl).elim
    · and_intros <;> exact lacks_ofList (by decide)

end Unbroken

section Sections

/-- The sections of a stub file: imports, tree node definition, solution container, harness. -/
def sections (target : Target) (s : TypedSignature) : List (List String) :=
  let c := target.context s
  [c.imports] ++
  (if target.family = .cpp then [["using namespace std;"]] else []) ++
  (if Target.treeNodeFor.anyTree s.types then
    [target.treeNodeLines (firstTreeValue s.types)] else []) ++
  [c.solution target.family, c.harness target.family]

variable {target : Target} {s : TypedSignature}

lemma forall_mem_sections {p : List String → Prop} (himports : p (target.imports s.types))
    (husing : p ["using namespace std;"])
    (htree : p (target.treeNodeLines (firstTreeValue s.types)))
    (hsolution : p ((target.context s).solution target.family))
    (hharness : p ((target.context s).harness target.family)) :
    ∀ ls ∈ sections target s, p ls := by
  intro ls hls
  simp only [sections, List.mem_append, List.mem_cons, List.not_mem_nil, or_false] at hls
  obtain ((rfl | hls) | hls) | rfl | rfl := hls
  · exact himports
  · split_ifs at hls
    · exact List.mem_singleton.mp hls ▸ husing
    · cases hls
  · split_ifs at hls
    · exact List.mem_singleton.mp hls ▸ htree
    · cases hls
  · exact hsolution
  · exact hharness

lemma treeNodeLines_ne_nil (target : Target) (value : Primitive) :
    target.treeNodeLines value ≠ [] := by
  unfold Target.treeNodeLines
  cases target.family <;> exact List.cons_ne_nil _ _

/-- The tree node definition loses its last line break, and it is left out if it is empty. -/
lemma kept_treeNode (target : Target) (types : List TypeExpr) :
    kept [target.treeNodeFor types] =
      kept ((if Target.treeNodeFor.anyTree types then
        [target.treeNodeLines (firstTreeValue types)] else []).map Text.lines) := by
  unfold Target.treeNodeFor
  split_ifs
  · rw [Target.treeNode, unlines_eq (treeNodeLines_ne_nil _ _), kept_append_break,
      List.map_singleton]
  · exact kept_empty

lemma kept_blocks (target : Target) (s : TypedSignature) :
    kept ((target.context s).blocks target.family) =
      kept ((sections target s).map Text.lines) := by
  have husing : (if target.family = .cpp then ["using namespace std;"] else []) =
      (if target.family = .cpp then [["using namespace std;"]] else []).map Text.lines := by
    split_ifs <;> rfl
  have hlast (tree solution harness : String) :
      kept [tree, solution, harness] = kept [tree] ++ kept [solution, harness] :=
    kept_append [tree] [solution, harness]
  rw [Context.blocks, sections, kept_append, hlast, husing]
  simp only [List.map_append, kept_append, ← kept_treeNode target s.types, List.append_assoc]
  rfl

/-- A stub file consists of its sections with blank lines between them. -/
lemma render_eq_joined (h : ∀ ls ∈ sections target s, IsPart (Text.lines ls).toList) :
    target.render s = Text.joined "\n\n" ((sections target s).map Text.lines) ++ "\n" := by
  rw [Target.render, Context.assemble, joinBlocks_eq, kept_blocks, ← joinBlocks_eq,
    joinBlocks_of_forall_isPart (List.forall_mem_map.mpr h)]

lemma isBlock_using : IsBlock ["using namespace std;"] :=
  ⟨List.forall_mem_singleton.mpr (lacks_ofList (by decide)), ⟨_, _, _, rfl, by decide⟩,
    ⟨_, rfl, by decide⟩⟩

end Sections

section Builtins

variable {target : Target} {s : TypedSignature}

lemma eq_of_mem_builtins (h : target ∈ Target.builtins) :
    target = .java ∨ target = .python ∨ target = .cpp ∨ target = .javascript := by
  simpa [Target.builtins] using h

/-- The names of the signature are identifiers. -/
def Named (s : TypedSignature) : Prop :=
  IsIdentifier s.functionName ∧ ∀ p ∈ s.parameters, IsIdentifier p.name

lemma lacks_of_identifier {x : Char} {name : String} (h : IsIdentifier name)
    (hx : Pattern.isWord x = false) : Lacks x name :=
  lacks_of_consists (consists_of_identifier h) hx

lemma lacks_spell {x : Char} (hx : isSpellingChar x = false) (family : Family) (t : TypeExpr) :
    Lacks x (family.spell t) :=
  lacks_of_consists (consists_spell family t) hx

lemma lacks_sizeFirstDimension {x : Char} (hx : x ≠ '0') {cs : List Char} (h : x ∉ cs) :
    x ∉ sizeFirstDimension cs := by
  fun_induction sizeFirstDimension cs with
  | case1 rest =>
    simp only [List.mem_cons, not_or] at h ⊢
    exact ⟨h.1, hx, h.2⟩
  | case2 c rest _ ih =>
    rw [List.mem_cons, not_or] at h ⊢
    exact ⟨h.1, ih h.2⟩
  | case3 => exact h

lemma lacks_returnStatement {family : Family} {expression : String} (h : Lacks '\n' expression) :
    Lacks '\n' (family.returnStatement expression) := by
  cases family <;> simp only [Family.returnStatement, lacks_append, h, and_true]
  case python => exact lacks_ofList (by decide)
  all_goals and_intros <;> exact lacks_ofList (by decide)

lemma lacks_emptyCollection (family : Family) (t : TypeExpr) (category : Category)
    (shapes : List Shape) :
    Lacks '\n' (family.emptyCollection ⟨family.spell t, category, shapes⟩) := by
  cases family with
  | java =>
    rw [Family.emptyCollection]
    split_ifs
    · exact lacks_ofList (by decide)
    · exact lacks_append.mpr ⟨lacks_ofList (by decide), lacks_ofList
        (lacks_sizeFirstDimension (by decide) (lacks_spell (by decide) .java t))⟩
  | _ => exact lacks_ofList (by decide)

lemma lacks_literals (h : target ∈ Target.builtins) :
    Lacks '\n' target.literals.nullValue ∧ Lacks '\n' target.literals.zero ∧
      Lacks '\n' target.literals.falseValue ∧ Lacks '\n' target.literals.emptyString ∧
      Lacks '\n' target.literals.fallback := by
  obtain rfl | rfl | rfl | rfl := eq_of_mem_builtins h <;>
    exact ⟨lacks_ofList (by decide), lacks_ofList (by decide), lacks_ofList (by decide),
      lacks_ofList (by decide), lacks_ofList (by decide)⟩

lemma lacks_defaultReturn (h : target ∈ Target.builtins) (t : TypeExpr) :
    Lacks '\n' (target.defaultReturn (target.mapType t)) := by
  obtain ⟨hnull, hzero, hfalse, hempty, hfallback⟩ := lacks_literals h
  unfold Target.defaultReturn
  dsimp only
  split_ifs
  · exact lacks_returnStatement hnull
  · exact lacks_returnStatement (lacks_emptyCollection target.family t _ _)
  · exact lacks_returnStatement hzero
  · exact lacks_returnStatement hfalse
  · exact lacks_returnStatement hempty
  · exact hfallback

lemma unbroken_context (h : target ∈ Target.builtins) (hn : Named s) :
    Unbroken (target.context s) where
  functionName := lacks_of_identifier hn.1 (by decide)
  parameters := List.forall_mem_map.mpr fun p hp =>
    ⟨lacks_of_identifier (hn.2 p hp) (by decide), lacks_spell (by decide) target.family p.type⟩
  returns := lacks_spell (by decide) target.family s.returns
  defaultReturn := lacks_defaultReturn h s.returns

/-- The imports that files of the built-in targets have. -/
def knownImports : Family → List String
  | .java => ["import java.util.*;", "import com.google.gson.*;",
      "import com.google.gson.reflect.TypeToken;"]
  | .python => ["import json", "import sys", "from typing import List",
      "from typing import Optional", "from typing import List, Optional"]
  | .cpp => ["#include <iostream>", "#include <vector>", "#include <string>",
      "#include <algorithm>", "#include <memory>"]
  | .javascript => ["'use strict';"]

lemma extraImports_known {family : Family} {types : List TypeExpr} {l : String}
    (h : l ∈ family.extraImports types) : l ∈ knownImports family := by
  cases family with
  | java =>
    rw [Family.extraImports] at h
    split_ifs at h
    · obtain rfl := List.mem_singleton.mp h
      decide
    · cases h
  | python =>
    rw [Family.extraImports, typingNames] at h
    -- The types matter through these two conditions only.
    generalize (anyContains types .array || anyContains types .list ||
      anyContains types .graph) = usesList at h
    generalize anyContains types .tree = usesTree at h
    cases usesList <;> cases usesTree
    case false.false => cases h
    all_goals
      obtain rfl := List.mem_singleton.mp h
      decide
  | cpp =>
    rw [Family.extraImports] at h
    split_ifs at h
    · obtain rfl := List.mem_singleton.mp h
      decide
    · cases h
  | javascript => cases h

lemma mem_of_firstOccurrences {l : String} {ls : List String} (h : l ∈ firstOccurrences ls) :
    l ∈ ls := by
  induction ls with
  | nil => exact h
  | cons s rest ih =>
    rw [firstOccurrences, List.mem_cons] at h
    obtain rfl | hrest := h
    · exact List.mem_cons_self
    · exact List.mem_cons_of_mem s (ih (List.mem_of_mem_filter hrest))

lemma imports_known (h : target ∈ Target.builtins) {types : List TypeExpr} {l : String}
    (hl : l ∈ target.imports types) : l ∈ knownImports target.family := by
  have hbaseline : ∀ target ∈ Target.builtins,
      ∀ l ∈ target.baselineImports, l ∈ knownImports target.family := by decide
  obtain hbase | hextra := List.mem_append.mp (mem_of_firstOccurrences hl)
  · exact hbaseline target h l hbase
  · exact extraImports_known hextra

lemma isBlock_imports (h : target ∈ Target.builtins) (types : List TypeExpr) :
    IsBlock (target.imports types) := by
  have hknown : ∀ family, ∀ l ∈ knownImports family, Lacks '\n' l ∧ l ≠ "" := by
    intro family
    cases family <;> simp only [knownImports, List.forall_mem_cons, List.not_mem_nil, false_imp_iff,
      implies_true, and_true]
    all_goals and_intros <;> first | exact lacks_ofList (by decide) | decide
  have hstarts : ∃ c front rest, target.imports types = String.ofList (c :: front) :: rest ∧
      Text.isBlank c = false := by
    obtain rfl | rfl | rfl | rfl := eq_of_mem_builtins h <;> exact ⟨_, _, _, rfl, by decide⟩
  refine ⟨fun l hl => (hknown _ l (imports_known h hl)).1, hstarts, ?_⟩
  have hne : target.imports types ≠ [] := by
    obtain ⟨c, front, rest, himports, -⟩ := hstarts
    rw [himports]
    exact List.cons_ne_nil _ _
  exact ⟨_, List.getLast?_eq_some_getLast hne,
    (hknown _ _ (imports_known h (List.getLast_mem hne))).2⟩

lemma isBlock_treeNode (h : target ∈ Target.builtins) (value : Primitive) :
    IsBlock (target.treeNodeLines value) := by
  have hval : Lacks '\n' (target.family.primitive value) :=
    lacks_spell (by decide) target.family (.primitive value)
  have hinit : Lacks '\n' (target.primitiveDefault value) := by
    obtain ⟨-, hzero, hfalse, hempty, -⟩ := lacks_literals h
    unfold Target.primitiveDefault
    split
    · exact hfalse
    · exact hempty
    · exact hzero
  unfold Target.treeNodeLines
  generalize target.family.primitive value = val at hval
  generalize target.primitiveDefault value = init at hinit
  cases target.family
  all_goals
    refine ⟨?_, ⟨_, _, _, rfl, by decide⟩, ⟨_, rfl, by simp⟩⟩
    simp only [List.forall_mem_cons, lacks_append, hval, hinit, and_true, List.not_mem_nil,
      false_imp_iff, implies_true]
    and_intros <;> exact lacks_ofList (by decide)

/-- The lines of a stub file are those of its sections, each followed by an empty line. -/
theorem linesOf_render (h : target ∈ Target.builtins) (hn : Named s) :
    linesOf (target.render s) = (sections target s).flatMap fun ls => ls ++ [""] := by
  have hunbroken := unbroken_context h hn
  have hblocks : ∀ ls ∈ sections target s, IsBlock ls :=
    forall_mem_sections (isBlock_imports h s.types) isBlock_using (isBlock_treeNode h _)
      (isBlock_solution hunbroken target.family) (isBlock_harness hunbroken target.family)
  rw [render_eq_joined fun ls hls => isPart_of_isBlock (hblocks ls hls)]
  exact linesOf_joined (by simp [sections]) hblocks

end Builtins

section Preamble

variable {target : Target} {s : TypedSignature}

/-- The lines in front of the tree node definition. -/
def importLines (target : Target) (s : TypedSignature) : List String :=
  ([target.imports s.types] ++
    (if target.family = .cpp then [["using namespace std;"]] else [])).flatMap fun ls => ls ++ [""]

/-- The lines in front of the solution container. -/
def preamble (target : Target) (s : TypedSignature) : List String :=
  importLines target s ++ (if Target.treeNodeFor.anyTree s.types then
    target.treeNodeLines (firstTreeValue s.types) ++ [""] else [])

lemma linesOf_render_eq (h : target ∈ Target.builtins) (hn : Named s) :
    linesOf (target.render s) = preamble target s ++ ((target.context s).solution target.family ++
      "" :: ((target.context s).harness target.family ++ [""])) := by
  have htree : (if Target.treeNodeFor.anyTree s.types then
      [target.treeNodeLines (firstTreeValue s.types)] else []).flatMap (fun ls => ls ++ [""]) =
      if Target.treeNodeFor.anyTree s.types then
        target.treeNodeLines (firstTreeValue s.types) ++ [""] else [] := by
    split_ifs
    · exact List.flatMap_singleton _ _
    · rfl
  rw [linesOf_render h hn, sections, List.flatMap_append, List.flatMap_append, htree, preamble,
    importLines]
  simp only [List.flatMap_cons, List.flatMap_nil, List.append_assoc, List.append_nil,
    List.singleton_append]
  rfl

/-- The imports are the first lines of the file. -/
lemma linesOf_render_imports (h : target ∈ Target.builtins) (hn : Named s) :
    ∃ rest, linesOf (target.render s) = target.imports s.types ++ "" :: rest := by
  rw [linesOf_render_eq h hn, preamble, importLines, List.singleton_append, List.flatMap_cons]
  simp only [List.append_assoc, List.singleton_append]
  exact ⟨_, rfl⟩

lemma mem_section {l : String} {ls : List String} (h : l ∈ ls ++ [""]) (hne : l ≠ "") : l ∈ ls :=
  (List.mem_append.mp h).resolve_right fun hlast => hne (List.mem_singleton.mp hlast)

lemma not_mem_importLines (h : target ∈ Target.builtins) {l : String}
    (hfixed : l ∉ "" :: "using namespace std;" :: knownImports target.family) :
    l ∉ importLines target s := by
  simp only [List.mem_cons, not_or] at hfixed
  obtain ⟨hempty, husing, himports⟩ := hfixed
  rw [importLines, List.flatMap_append, List.mem_append, not_or]
  constructor
  · rw [List.flatMap_singleton]
    exact fun hmem => himports (imports_known h (mem_section hmem hempty))
  · split_ifs
    · rw [List.flatMap_singleton]
      exact fun hmem => husing (List.mem_singleton.mp (mem_section hmem hempty))
    · exact List.not_mem_nil

lemma not_mem_preamble (h : target ∈ Target.builtins) {l : String}
    (hfixed : l ∉ "" :: "using namespace std;" :: knownImports target.family)
    (htree : l ∉ target.treeNodeLines (firstTreeValue s.types)) : l ∉ preamble target s := by
  have hempty : l ≠ "" := fun hl => hfixed (hl ▸ List.mem_cons_self)
  rw [preamble, List.mem_append, not_or]
  refine ⟨not_mem_importLines h hfixed, ?_⟩
  split_ifs
  · exact fun hmem => htree (mem_section hmem hempty)
  · exact List.not_mem_nil

end Preamble

section Names

/-- The names of the signature are identifiers, as its schema demands. -/
def WellNamed (s : Signature) : Prop :=
  IsIdentifier s.functionName ∧ ∀ p ∈ s.parameters, IsIdentifier p.name

instance : DecidablePred WellNamed := fun s =>
  inferInstanceAs
    (Decidable (IsIdentifier s.functionName ∧ ∀ p ∈ s.parameters, IsIdentifier p.name))

lemma named_of_typed {s : Signature} {typed : TypedSignature} (h : WellNamed s)
    (htyped : s.typed = .ok typed) : Named typed := by
  obtain ⟨hfunction, hparameters, -⟩ := typed_eq_ok_iff.mp htyped
  have hnames : typed.parameters.map TypedParameter.name = s.parameters.map Parameter.name := by
    rw [eq_comm, ← List.forall₂_eq_eq_eq, List.forall₂_map_left_iff, List.forall₂_map_right_iff]
    exact hparameters.imp fun _ _ hp => hp.1.symm
  refine ⟨hfunction ▸ h.1, fun p hp => ?_⟩
  have hname : p.name ∈ s.parameters.map Parameter.name := hnames ▸ List.mem_map_of_mem hp
  obtain ⟨q, hq, heq⟩ := List.mem_map.mp hname
  exact heq ▸ h.2 q hq

lemma renderSignature_of_typed {target : Target} {s : Signature} {typed : TypedSignature}
    (h : s.typed = .ok typed) : target.renderSignature s = .ok (target.render typed) := by
  rw [Target.renderSignature, h]

/-- A signature that has been read is well named. -/
theorem wellNamed_of_ofJson {j : Json} {s : Signature} (h : Signature.ofJson j = .ok s) :
    WellNamed s := by
  have hdescribed := signature_eq_ok_iff.mp h
  refine ⟨identifier_holds_iff.mpr hdescribed.matching, fun p hp => ?_⟩
  have hparameters := hdescribed.parameters
  generalize s.parameters = ps at hp hparameters
  cases hparameters with
  | absent hnone => cases hp
  | listed hlist hcount hitems =>
    obtain ⟨item, hitem⟩ := forall₂_left hitems.flip p hp
    exact identifier_holds_iff.mpr hitem.matching

end Names

end StubGen.Proofs
