import StubGen.Proofs.DefaultValues

/-!
# The tree helper of a stub file

A stub file defines tree nodes exactly if a spelling in it speaks of them, and a function that
rebuilds trees exactly if an argument of the call applies it. Both are decided by the types of the
signature, and no name that a user chooses can be mistaken for either definition.
-/

namespace StubGen.Proofs
open TypeExpr

section Mentions

variable {word s t : String} {cs ds : List Char}

/-- The word occurs in the text. -/
def Mentions (word s : String) : Prop := word.toList <:+: s.toList

lemma mentions_append_left (h : Mentions word s) : Mentions word (s ++ t) := by
  rw [Mentions, String.toList_append]
  exact h.trans (List.prefix_append _ _).isInfix

lemma mentions_append_right (h : Mentions word t) : Mentions word (s ++ t) := by
  rw [Mentions, String.toList_append]
  exact h.trans (List.suffix_append _ _).isInfix

lemma mentions_ofList (h : cs <:+: ds) : Mentions (String.ofList cs) (String.ofList ds) := by
  rwa [Mentions, String.toList_ofList, String.toList_ofList]

lemma not_mentions_of_lacks {x : Char} (hx : x ∈ cs) (h : Lacks x s) :
    ¬Mentions (String.ofList cs) s := by
  intro hmentions
  rw [Mentions, String.toList_ofList] at hmentions
  exact h (hmentions.subset hx)

end Mentions

section Spellings

variable {word s : String} {cs : List Char} {t element : TypeExpr}

lemma mentions_arrayOf (family : Family) (h : Mentions word s) :
    Mentions word (family.arrayOf s) := by
  cases family
  case java | javascript => exact mentions_append_left h
  case python | cpp => exact mentions_append_left (mentions_append_right h)

lemma mentions_listOf (family : Family) (ht : element.contains .tree = true) (h : Mentions word s) :
    Mentions word (family.listOf element s) := by
  cases family with
  | java =>
    cases element with
    | primitive p => cases ht
    | _ => exact mentions_append_left (mentions_append_right h)
  | _ => exact mentions_arrayOf _ h

/-- Only the names of trees have one of these capitals. -/
lemma consists_spell_of_no_tree (family : Family) (h : t.contains .tree = false) :
    Consists (fun c => c != 'O' && c != 'T') (family.spell t) := by
  induction t with
  | primitive p => cases family <;> cases p <;> exact consists_ofList (by decide)
  | array element ih => exact consists_arrayOf family (by decide) (ih h)
  | list element ih => exact consists_listOf family element (by decide) (ih h)
  | tree value => cases h
  | graph => cases family <;> exact consists_ofList (by decide)

/-- A word with such a capital, from the name of a tree, is in the spelling of a type exactly if the
type holds a tree. -/
lemma mentions_spell_iff (family : Family) {x : Char} (hx : x ∈ cs) (hcapital : x = 'O' ∨ x = 'T')
    (hname : Mentions (String.ofList cs) family.treeName) :
    Mentions (String.ofList cs) (family.spell t) ↔ t.contains .tree = true := by
  constructor
  · contrapose
    intro ht
    have hlacks : Lacks x (family.spell t) :=
      lacks_of_consists (consists_spell_of_no_tree family (Bool.eq_false_iff.mpr ht))
        (by obtain rfl | rfl := hcapital <;> rfl)
    exact not_mentions_of_lacks hx hlacks
  · intro ht
    induction t with
    | primitive p => cases ht
    | array element ih => exact mentions_arrayOf family (ih ht)
    | list element ih =>
      have helement : element.contains .tree = true := ht
      exact mentions_listOf family helement (ih helement)
    | tree value => exact hname
    | graph => cases ht

/-- The spelling of a type speaks of tree nodes exactly if the type holds a tree. -/
lemma mentions_treeNode_iff (family : Family) (t : TypeExpr) :
    Mentions "TreeNode" (family.spell t) ↔ t.contains .tree = true := by
  refine mentions_spell_iff family (by decide) (.inr rfl) ?_
  cases family <;> exact mentions_ofList (by decide)

/-- A parameter or the return type is spelled with tree nodes. -/
def NeedsTreeNode (family : Family) (s : TypedSignature) : Prop :=
  (∃ p ∈ s.parameters, Mentions "TreeNode" (family.spell p.type)) ∨
    Mentions "TreeNode" (family.spell s.returns)

lemma needsTreeNode_iff (family : Family) (s : TypedSignature) :
    NeedsTreeNode family s ↔ Target.treeNodeFor.anyTree s.types = true := by
  simp only [NeedsTreeNode, mentions_treeNode_iff, Target.treeNodeFor.anyTree, TypedSignature.types,
    List.any_append, List.any_map, List.any_cons, List.any_nil, Bool.or_false, Bool.or_eq_true,
    List.any_eq_true, Function.comp_apply]

end Spellings

section Decoders

/-- The function of a harness that rebuilds trees, and the call that passes the arguments. -/
structure TreeDecoder where
  /-- The first line of the definition. -/
  opening : String
  /-- How an application of the function starts. -/
  application : String
  argument : MappedParameter → String
  callFront : String
  callBack : String

def TreeDecoder.call (d : TreeDecoder) (c : Context) : String :=
  d.callFront ++ c.functionName ++ "("
    ++ Text.joined ", " (c.parameters.map d.argument) ++ d.callBack

def treeDecoder? : Family → Option TreeDecoder
  | .python => some ⟨"def _build_tree(node):", "_build_tree(", MappedParameter.pythonArgument,
      "        result = solution.", ")"⟩
  | .javascript => some ⟨"    const buildTree = (node) => \x7b", "buildTree(",
      MappedParameter.javascriptArgument, "        const result = ", ");"⟩
  | .java | .cpp => none

/-- Whether the harness defines the function that rebuilds trees. -/
def definesDecoder (family : Family) (c : Context) : Bool :=
  match family with
  | .python => c.parameters.any fun p => p.type.contains .tree
  | .javascript => c.parameters.any fun p => p.type.category = .tree
  | .java | .cpp => false

variable {p : MappedParameter}

lemma rebuild_of_no_tree {t : TypeExpr} (h : t.contains .tree = false) (depth : Nat)
    (source : Decoding) : Decoding.rebuild depth source t = source := by
  cases t with
  | array element | list element =>
    have helement : ¬element.contains .tree = true := Bool.eq_false_iff.mp h
    exact if_neg helement
  | tree value => cases h
  | primitive p => rfl
  | graph => rfl

lemma mentions_rebuild {t : TypeExpr} (h : t.contains .tree = true) (depth : Nat)
    (source : Decoding) :
    Mentions "_build_tree(" (Decoding.rebuild depth source t).pythonText := by
  induction t generalizing depth source with
  | array element ih | list element ih =>
    have helement : element.contains .tree = true := h
    rw [Decoding.rebuild, if_pos helement]
    -- The trees of an element are rebuilt in the body, from the variable of this comprehension.
    have hbody := ih helement (depth + 1) (.item depth)
    iterate 5 refine mentions_append_left ?_
    exact mentions_append_right hbody
  | tree value =>
    exact mentions_append_left (mentions_append_left (mentions_ofList (List.infix_refl _)))
  | primitive p => cases h
  | graph => cases h

lemma mentions_pythonArgument_iff (hp : IsIdentifier p.name) :
    Mentions "_build_tree(" p.pythonArgument ↔ p.type.contains .tree = true := by
  refine ⟨?_, fun h => mentions_rebuild h 0 _⟩
  contrapose
  intro h
  rw [MappedParameter.pythonArgument, MappedParameter.decoding,
    rebuild_of_no_tree (Bool.eq_false_iff.mpr h)]
  refine not_mentions_of_lacks (x := '(') (by decide) ?_
  exact lacks_append.mpr ⟨lacks_append.mpr ⟨lacks_ofList (by decide),
    lacks_of_identifier hp (by decide)⟩, lacks_ofList (by decide)⟩

lemma mentions_javascriptArgument_iff (hp : IsIdentifier p.name) :
    Mentions "buildTree(" p.javascriptArgument ↔ p.type.category = .tree := by
  unfold MappedParameter.javascriptArgument
  split_ifs with h
  · refine iff_of_true ?_ h
    exact mentions_append_left (mentions_append_left (mentions_ofList (by decide)))
  · refine iff_of_false (not_mentions_of_lacks (x := '(') (by decide) ?_) h
    exact lacks_append.mpr ⟨lacks_ofList (by decide), lacks_of_identifier hp (by decide)⟩

lemma definesDecoder_iff {family : Family} {d : TreeDecoder} (hd : d ∈ treeDecoder? family)
    {c : Context} (hc : ∀ p ∈ c.parameters, IsIdentifier p.name) :
    definesDecoder family c = true ↔ ∃ p ∈ c.parameters, Mentions d.application (d.argument p) := by
  cases family with
  | java => cases hd
  | python =>
    cases hd
    rw [definesDecoder, List.any_eq_true]
    exact exists_congr fun p =>
      and_congr_right fun hp => (mentions_pythonArgument_iff (hc p hp)).symm
  | cpp => cases hd
  | javascript =>
    cases hd
    simp only [definesDecoder, List.any_eq_true, decide_eq_true_eq]
    exact exists_congr fun p =>
      and_congr_right fun hp => (mentions_javascriptArgument_iff (hc p hp)).symm

lemma contains_of_category {t : TypeExpr} (h : t.category = .tree) : t.contains .tree = true := by
  cases t with
  | tree value => rfl
  | _ => cases h

lemma anyTree_of_definesDecoder {target : Target} {s : TypedSignature}
    (h : definesDecoder target.family (target.context s) = true) :
    Target.treeNodeFor.anyTree s.types = true := by
  have hparameter : ∃ p ∈ (target.context s).parameters, p.type.contains .tree = true := by
    unfold definesDecoder at h
    split at h
    · exact List.any_eq_true.mp h
    · obtain ⟨p, hp, hcategory⟩ := List.any_eq_true.mp h
      exact ⟨p, hp, contains_of_category (of_decide_eq_true hcategory)⟩
    all_goals cases h
  obtain ⟨mapped, hmapped, htree⟩ := hparameter
  obtain ⟨p, hp, rfl⟩ := List.mem_map.mp hmapped
  exact List.any_eq_true.mpr ⟨p.type, List.mem_append_left _ (List.mem_map_of_mem hp), htree⟩

end Decoders

section Landmarks

/-- The first line of the tree node definition. -/
def treeNodeOpening : Family → String
  | .java => "class TreeNode \x7b"
  | .python => "class TreeNode:"
  | .cpp => "struct TreeNode \x7b"
  | .javascript => "function TreeNode(val, left, right) \x7b"

/-- The first lines of the definitions of tree nodes and of the function that rebuilds trees. -/
def landmarks (family : Family) : List String :=
  treeNodeOpening family :: (treeDecoder? family).toList.map TreeDecoder.opening

variable {target : Target} {s : TypedSignature} {family : Family} {l : String}

lemma landmark_not_fixed (hl : l ∈ landmarks family) :
    l ∉ "" :: "using namespace std;" :: knownImports family := by
  revert l
  cases family <;> decide +kernel

lemma count_treeNodeLines (target : Target) (value : Primitive) :
    (target.treeNodeLines value).count (treeNodeOpening target.family) = 1 := by
  unfold Target.treeNodeLines
  generalize target.family.primitive value = val
  generalize target.primitiveDefault value = init
  cases target.family
  all_goals
    dsimp only [treeNodeOpening]
    rw [List.count_cons_of_ne (ofList_ne (by decide)), List.count_cons_self, List.count_eq_zero.mpr]
    simp only [List.mem_cons, List.not_mem_nil, or_false, not_or, String.append_assoc]
    and_intros <;> first | exact ofList_ne (by decide) | exact ofList_ne_append (by decide)

lemma decoder_not_mem_treeNodeLines {d : TreeDecoder} (hd : d ∈ treeDecoder? target.family)
    (value : Primitive) : d.opening ∉ target.treeNodeLines value := by
  unfold Target.treeNodeLines
  generalize target.family.primitive value = val
  generalize target.primitiveDefault value = init
  cases hfamily : target.family
  all_goals
    rw [hfamily] at hd
    cases hd
  all_goals
    simp only [List.mem_cons, List.not_mem_nil, or_false, not_or, String.append_assoc]
    and_intros <;> first | exact ofList_ne (by decide) | exact ofList_ne_append (by decide)

lemma landmark_not_mem_solution (h : target ∈ Target.builtins) (s : TypedSignature)
    (hl : l ∈ landmarks target.family) : l ∉ (target.context s).solution target.family := by
  obtain rfl | rfl | rfl | rfl := eq_of_mem_builtins h
  · obtain rfl := List.mem_singleton.mp hl
    show treeNodeOpening .java ∉ Context.javaSolution _
    simp only [treeNodeOpening, Context.javaSolution, List.mem_cons, List.not_mem_nil, or_false,
      not_or, String.append_assoc]
    and_intros <;> first | exact ofList_ne (by decide) | exact ofList_ne_append (by decide)
  · show l ∉ Context.pythonSolution _
    simp only [Context.pythonSolution, List.mem_cons, List.not_mem_nil, or_false, not_or,
      String.append_assoc]
    obtain rfl | rfl := List.mem_pair.mp hl
    all_goals
      and_intros <;> first | exact ofList_ne (by decide) | exact ofList_ne_append (by decide)
  · obtain rfl := List.mem_singleton.mp hl
    show treeNodeOpening .cpp ∉ Context.cppSolution _
    simp only [treeNodeOpening, Context.cppSolution, List.mem_cons, List.not_mem_nil, or_false,
      not_or, String.append_assoc]
    and_intros <;> first | exact ofList_ne (by decide) | exact ofList_ne_append (by decide)
  · -- The function that rebuilds trees is indented like the body of the solution.
    obtain ⟨e, hreturn⟩ := exists_returnStatement .javascript s.returns
    have hdefault : "    " ++ (Target.javascript.context s).defaultReturn =
        "    return " ++ (e ++ ";") :=
      (congrArg (_ ++ ·) hreturn).trans (indented_returnStatement .javascript e)
    show l ∉ Context.javascriptSolution _
    simp only [Context.javascriptSolution, List.mem_append, List.mem_map, List.mem_cons,
      List.not_mem_nil, or_false, not_or, not_exists, not_and, hdefault, String.append_assoc]
    obtain rfl | rfl := List.mem_pair.mp hl
    all_goals
      refine ⟨⟨ofList_ne (by decide), fun p _ hline => ofList_ne_append (by decide) hline.symm⟩, ?_⟩
      and_intros <;> first | exact ofList_ne (by decide) | exact ofList_ne_append (by decide)

lemma mem_definition_iff {definition : List String} (hl : l ∈ landmarks family) {c : Context}
    (h : ∀ l ∈ landmarks family, l ∈ definition ↔ l ≠ treeNodeOpening family) :
    l ∈ (if definesDecoder family c then definition else []) ↔
      definesDecoder family c = true ∧ l ≠ treeNodeOpening family := by
  split_ifs with hdefines
  · exact (h l hl).trans (and_iff_right hdefines).symm
  · exact iff_of_false List.not_mem_nil fun hboth => hdefines hboth.1

/-- The harness holds no first line of a definition, but for that of the function it may define. -/
lemma landmark_mem_harness (c : Context) (hl : l ∈ landmarks family) :
    l ∈ c.harness family ↔ definesDecoder family c = true ∧ l ≠ treeNodeOpening family := by
  cases family with
  | java =>
    refine iff_of_false ?_ fun h => Bool.false_ne_true h.1
    obtain rfl := List.mem_singleton.mp hl
    show treeNodeOpening .java ∉ Context.javaHarness _
    simp only [treeNodeOpening, Context.javaHarness, List.mem_cons, List.not_mem_nil, or_false,
      not_or, String.append_assoc]
    and_intros <;> first | exact ofList_ne (by decide) | exact ofList_ne_append (by decide)
  | python =>
    rw [Context.harness, Context.pythonHarness, List.mem_append]
    refine (or_iff_left ?_).trans (mem_definition_iff hl (by decide +kernel))
    simp only [List.mem_cons, List.not_mem_nil, or_false, not_or, String.append_assoc]
    obtain rfl | rfl := List.mem_pair.mp hl
    all_goals
      and_intros <;> first | exact ofList_ne (by decide) | exact ofList_ne_append (by decide)
  | cpp =>
    refine iff_of_false ?_ fun h => Bool.false_ne_true h.1
    obtain rfl := List.mem_singleton.mp hl
    show treeNodeOpening .cpp ∉ Context.cppHarness _
    simp only [treeNodeOpening, Context.cppHarness, MappedParameter.cppPlaceholder, List.mem_append,
      List.mem_map, List.mem_cons, List.not_mem_nil, or_false, not_or, not_exists, not_and,
      String.append_assoc]
    refine ⟨⟨?_, fun p _ hline => ofList_ne_append (by decide) hline.symm⟩, ?_⟩
    all_goals
      and_intros <;> first | exact ofList_ne (by decide) | exact ofList_ne_append (by decide)
  | javascript =>
    rw [Context.harness, Context.javascriptHarness, List.mem_append, List.mem_append, or_assoc]
    refine (or_iff_right ?_).trans ((or_iff_left ?_).trans
      (mem_definition_iff hl (by decide +kernel)))
    all_goals
      simp only [List.mem_cons, List.not_mem_nil, or_false, not_or, String.append_assoc]
      obtain rfl | rfl := List.mem_pair.mp hl
    all_goals
      and_intros <;> first | exact ofList_ne (by decide) | exact ofList_ne_append (by decide)

end Landmarks

section Presence

variable {target : Target} {s : TypedSignature} {family : Family} {l : String}

lemma treeNodeOpening_mem (family : Family) : treeNodeOpening family ∈ landmarks family :=
  List.mem_cons_self

lemma decoder_mem {d : TreeDecoder} (hd : d ∈ treeDecoder? family) : d.opening ∈ landmarks family :=
  List.mem_cons_of_mem _ (List.mem_map_of_mem (Option.mem_toList.mpr hd))

lemma decoder_ne_treeNodeOpening {d : TreeDecoder} (hd : d ∈ treeDecoder? family) :
    d.opening ≠ treeNodeOpening family := by
  cases family <;> cases hd <;> exact ofList_ne (by decide)

lemma count_preamble (h : target ∈ Target.builtins) :
    (preamble target s).count (treeNodeOpening target.family) =
      if Target.treeNodeFor.anyTree s.types then 1 else 0 := by
  have hfixed := landmark_not_fixed (treeNodeOpening_mem target.family)
  have hempty : treeNodeOpening target.family ≠ "" := fun he => hfixed (he ▸ List.mem_cons_self)
  rw [preamble, List.count_append, List.count_eq_zero.mpr (not_mem_importLines h hfixed),
    Nat.zero_add]
  split_ifs
  · rw [List.count_append, count_treeNodeLines, List.count_cons_of_ne hempty.symm, List.count_nil]
  · rfl

/-- Behind the preamble, a first line of a definition stands in the harness only. -/
lemma landmark_mem_rest (h : target ∈ Target.builtins) (s : TypedSignature)
    (hl : l ∈ landmarks target.family) :
    l ∈ (target.context s).solution target.family ++
        "" :: ((target.context s).harness target.family ++ [""]) ↔
      definesDecoder target.family (target.context s) = true ∧
        l ≠ treeNodeOpening target.family := by
  have hempty : l ≠ "" := fun he => landmark_not_fixed hl (he ▸ List.mem_cons_self)
  rw [List.mem_append, or_iff_right (landmark_not_mem_solution h s hl), List.mem_cons,
    or_iff_right hempty, List.mem_append, List.mem_singleton, or_iff_left hempty,
    landmark_mem_harness _ hl]

lemma call_mem_harness {d : TreeDecoder} (hd : d ∈ treeDecoder? family) (c : Context) :
    d.call c ∈ c.harness family := by
  cases family with
  | java => cases hd
  | python =>
    cases hd
    exact List.mem_append_right _ (List.mem_of_getElem? (i := 5) rfl)
  | cpp => cases hd
  | javascript =>
    cases hd
    exact List.mem_append_right _ (List.mem_of_getElem? (i := 3) rfl)

/-- The definition of tree nodes and that of the function that rebuilds trees are in the file where
spellings and arguments refer to them, and nowhere else. -/
structure HelperFits (target : Target) (s : TypedSignature) (lines : List String) : Prop where
  present : NeedsTreeNode target.family s → lines.count (treeNodeOpening target.family) = 1 ∧
    ∃ front back, lines = front ++ ((target.context s).solution target.family ++ back) ∧
      treeNodeOpening target.family ∈ front
  absent : ¬NeedsTreeNode target.family s → treeNodeOpening target.family ∉ lines
  call : ∀ d ∈ treeDecoder? target.family, d.call (target.context s) ∈ lines
  decoder : ∀ d ∈ treeDecoder? target.family, d.opening ∈ lines ↔
    ∃ p ∈ (target.context s).parameters, Mentions d.application (d.argument p)
  treeNode_of_decoder : ∀ d ∈ treeDecoder? target.family, d.opening ∈ lines →
    treeNodeOpening target.family ∈ lines

lemma helperFits_render (h : target ∈ Target.builtins) (hn : Named s) :
    HelperFits target s (linesOf (target.render s)) := by
  have hlines := linesOf_render_eq h hn
  have hrest : treeNodeOpening target.family ∉ (target.context s).solution target.family ++
      "" :: ((target.context s).harness target.family ++ [""]) := fun hmem =>
    ((landmark_mem_rest h s (treeNodeOpening_mem _)).mp hmem).2 rfl
  have hcount : (linesOf (target.render s)).count (treeNodeOpening target.family) =
      if Target.treeNodeFor.anyTree s.types then 1 else 0 := by
    rw [hlines, List.count_append, count_preamble h, List.count_eq_zero.mpr hrest, Nat.add_zero]
  have hdecoder : ∀ d ∈ treeDecoder? target.family, d.opening ∈ linesOf (target.render s) ↔
      definesDecoder target.family (target.context s) = true := by
    intro d hd
    have hpreamble := not_mem_preamble (s := s) h (landmark_not_fixed (decoder_mem hd))
      (decoder_not_mem_treeNodeLines hd _)
    rw [hlines, List.mem_append, or_iff_right hpreamble, landmark_mem_rest h s (decoder_mem hd),
      and_iff_left (decoder_ne_treeNodeOpening hd)]
  refine ⟨fun hneeds => ?_, fun hneeds => ?_, fun d hd => ?_, fun d hd => ?_, fun d hd hmem => ?_⟩
  · have hany := (needsTreeNode_iff target.family s).mp hneeds
    rw [if_pos hany] at hcount
    refine ⟨hcount, _, _, hlines, ?_⟩
    have hpreamble := count_preamble (s := s) h
    rw [if_pos hany] at hpreamble
    exact List.count_pos_iff.mp (hpreamble ▸ Nat.one_pos)
  · rw [needsTreeNode_iff] at hneeds
    rw [if_neg hneeds] at hcount
    exact List.count_eq_zero.mp hcount
  · rw [hlines]
    exact List.mem_append_right _ (List.mem_append_right _ (List.mem_cons_of_mem _
      (List.mem_append_left _ (call_mem_harness hd _))))
  · rw [hdecoder d hd]
    exact definesDecoder_iff hd (List.forall_mem_map.mpr hn.2)
  · have hany := anyTree_of_definesDecoder ((hdecoder d hd).mp hmem)
    rw [if_pos hany] at hcount
    exact List.count_pos_iff.mp (hcount ▸ Nat.one_pos)

/-- In every built-in language the file of a signature whose types can be read defines tree nodes,
once and before the solution container, exactly if some spelling speaks of them. Where the harness
decodes trees, it defines the function for it exactly if an argument of its call applies it, and
then tree nodes are defined as well. -/
theorem helpers_where_needed (h : target ∈ Target.builtins) {s : Signature} (hn : WellNamed s)
    {typed : TypedSignature} (htyped : s.typed = .ok typed) :
    ∃ text, target.renderSignature s = .ok text ∧ HelperFits target typed (linesOf text) :=
  ⟨_, renderSignature_of_typed htyped, helperFits_render h (named_of_typed hn htyped)⟩

/-- A signature whose names are those of the helpers. -/
def namedAsHelpers : TypedSignature :=
  ⟨"_build_tree", [⟨"TreeNode", .list (.tree .int)⟩], .primitive .int⟩

theorem helpers_beside_their_names :
    ∃ text, Target.python.renderSignature
        ⟨"_build_tree", [⟨"TreeNode", "List<Tree<int>>"⟩], "int"⟩ = .ok text ∧
      (linesOf text).count "class TreeNode:" = 1 ∧ "def _build_tree(node):" ∈ linesOf text := by
  have hread : Signature.typed ⟨"_build_tree", [⟨"TreeNode", "List<Tree<int>>"⟩], "int"⟩ =
      .ok namedAsHelpers := by
    decide +kernel
  obtain ⟨text, htext, hfits⟩ :=
    helpers_where_needed (show Target.python ∈ Target.builtins by decide) (by decide) hread
  have hneeds : NeedsTreeNode .python namedAsHelpers := (needsTreeNode_iff _ _).mpr rfl
  have happlied : ∃ p ∈ (Target.python.context namedAsHelpers).parameters,
      Mentions "_build_tree(" p.pythonArgument :=
    ⟨_, List.mem_cons_self, mentions_rebuild rfl 0 _⟩
  exact ⟨text, htext, (hfits.present hneeds).1, (hfits.decoder _ rfl).mpr happlied⟩

end Presence

end StubGen.Proofs
