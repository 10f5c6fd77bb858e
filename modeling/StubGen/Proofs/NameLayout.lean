import StubGen.Proofs.FileParts
import StubGen.Proofs.TreeHelper

/-!
# Names and the layout of a stub file

Names are written into a stub file as they are, into declarations, comments and texts. Two
signatures with the same types have files that agree line by line, except where both lines bear
names. No line that bears names can be taken for one of the imports, of the tree node definition or
of the function body, so that these stand in the same places of both files.
-/

namespace StubGen.Proofs

section Words

variable {cs ds es fs : List Char} {word front back s t : String}

def StartsWith (word s : String) : Prop := word.toList <+: s.toList

lemma startsWith_append (h : StartsWith word s) : StartsWith word (s ++ t) := by
  rw [StartsWith, String.toList_append]
  exact h.trans (List.prefix_append _ _)

lemma startsWith_ofList (h : cs <+: ds) : StartsWith (String.ofList cs) (String.ofList ds) := by
  rwa [StartsWith, String.toList_ofList, String.toList_ofList]

/-- The text starts with the one word and ends with the other. Irreducible, as texts must not be
unified character by character. -/
@[irreducible]
def Framed (front back s : String) : Prop :=
  StartsWith front s ∧ back.toList <:+ s.toList

lemma framed_append (h : StartsWith front s) (h' : es <:+ fs) :
    Framed front (String.ofList es) (s ++ String.ofList fs) := by
  rw [Framed, String.toList_append, String.toList_ofList, String.toList_ofList]
  exact ⟨startsWith_append h, h'.trans (List.suffix_append _ _)⟩

lemma not_framed_ofList (h : ¬cs <+: ds ∨ ¬es <:+ ds) :
    ¬Framed (String.ofList cs) (String.ofList es) (String.ofList ds) := by
  rw [Framed, StartsWith, String.toList_ofList, String.toList_ofList, String.toList_ofList]
  exact not_and_or.mpr h

/-- A text is not framed by words that fit neither its first nor its last part. -/
lemma not_framed_append (h : ¬cs <+: ds ∧ ¬ds <+: cs ∨ ¬es <:+ fs ∧ ¬fs <:+ es) :
    ¬Framed (String.ofList cs) (String.ofList es)
      (String.ofList ds ++ (s ++ String.ofList fs)) := by
  rw [Framed, StartsWith]
  simp only [String.toList_append, String.toList_ofList]
  rintro ⟨hfront, hback⟩
  obtain ⟨hcs, hds⟩ | ⟨hes, hfs⟩ := h
  · exact (List.prefix_or_prefix_of_prefix hfront (List.prefix_append ds _)).elim hcs hds
  · rw [← List.append_assoc] at hback
    exact (List.suffix_or_suffix_of_suffix hback (List.suffix_append _ fs)).elim hes hfs

end Words

section Lines

variable {family : Family} {c c' : Context} {l l' : String} {ls ls' more more' : List String}

/-- The lines that hold names of the signature: those that declare the function, that document or
pass a parameter, and that call the function. -/
def BearsName : Family → String → Prop
  | .java, l => Framed "    public " ") \x7b" l ∨ Framed "            " ");" l
  | .python, l => Framed "    def " ":" l ∧ Mentions " -> " l ∨
    Framed "        result = solution." ")" l
  | .cpp, l => Framed "    " ") \x7b" l ∨ Framed "    // " " */;" l ∨ Framed "    // auto " ");" l
  | .javascript, l => Framed " * @param \x7b" "" l ∨ Framed "var " ") \x7b" l ∨
    Framed "        const result = " ");" l

/-- The lines are the same, or both bear names. -/
def Aligned (family : Family) (l l' : String) : Prop :=
  l = l' ∨ BearsName family l ∧ BearsName family l'

lemma aligned_refl (family : Family) (ls : List String) : List.Forall₂ (Aligned family) ls ls :=
  List.forall₂_same.mpr fun _ _ => .inl rfl

lemma aligned_of_bearsName (hlength : ls.length = ls'.length) (h : ∀ l ∈ ls, BearsName family l)
    (h' : ∀ l ∈ ls', BearsName family l) : List.Forall₂ (Aligned family) ls ls' := by
  refine List.forall₂_iff_zip.mpr ⟨hlength, fun hpair => .inr ?_⟩
  obtain ⟨hl, hl'⟩ := List.of_mem_zip hpair
  exact ⟨h _ hl, h' _ hl'⟩

/-- The contexts of signatures that differ in their names only. -/
structure SameTypes (c c' : Context) : Prop where
  parameters : c.parameters.map (fun p => p.type) = c'.parameters.map fun p => p.type
  returnMapped : c.returnMapped = c'.returnMapped
  treeNode : c.treeNode = c'.treeNode
  defaultReturn : c.defaultReturn = c'.defaultReturn

lemma length_parameters (h : SameTypes c c') : c.parameters.length = c'.parameters.length := by
  have hlength := congrArg List.length h.parameters
  rwa [List.length_map, List.length_map] at hlength

lemma any_parameters (h : SameTypes c c') (p : TypeExpr → Bool) :
    c.parameters.any (fun q => p q.type) = c'.parameters.any fun q => p q.type := by
  have hany := congrArg (fun ts => ts.any p) h.parameters
  simp only [List.any_map] at hany
  exact hany

lemma aligned_parameters (h : SameTypes c c') {f : MappedParameter → String}
    (hf : ∀ p, BearsName family (f p)) :
    List.Forall₂ (Aligned family) (c.parameters.map f) (c'.parameters.map f) := by
  refine aligned_of_bearsName ?_ (List.forall_mem_map.mpr fun p _ => hf p)
    (List.forall_mem_map.mpr fun p _ => hf p)
  rw [List.length_map, List.length_map, length_parameters h]

lemma aligned_append (h : List.Forall₂ (Aligned family) ls ls')
    (h' : List.Forall₂ (Aligned family) more more') :
    List.Forall₂ (Aligned family) (ls ++ more) (ls' ++ more') :=
  List.rel_append h h'

lemma aligned_cons (h : BearsName family l) (h' : BearsName family l') :
    List.Forall₂ (Aligned family) (l :: more) (l' :: more) :=
  .cons (.inr ⟨h, h'⟩) (aligned_refl family more)

lemma bearsName_typeFirst (a b d : String) :
    BearsName .java ("    public " ++ a ++ " " ++ b ++ "(" ++ d ++ ") \x7b") ∧
      BearsName .cpp ("    " ++ a ++ " " ++ b ++ "(" ++ d ++ ") \x7b") := by
  constructor
  all_goals
    refine .inl (framed_append ?_ (List.suffix_refl _))
    iterate 5 refine startsWith_append ?_
    exact startsWith_ofList (List.prefix_refl _)

lemma bearsName_annotated (a b d : String) :
    BearsName .python ("    def " ++ a ++ "(" ++ b ++ ") -> " ++ d ++ ":") := by
  refine .inl ⟨framed_append ?_ (List.suffix_refl _), ?_⟩
  · iterate 5 refine startsWith_append ?_
    exact startsWith_ofList (List.prefix_refl _)
  · iterate 2 refine mentions_append_left ?_
    exact mentions_append_right (mentions_ofList (by decide))

lemma bearsName_function (a b : String) :
    BearsName .javascript ("var " ++ a ++ " = function(" ++ b ++ ") \x7b") := by
  refine .inr (.inl (framed_append ?_ (List.suffix_refl _)))
  iterate 3 refine startsWith_append ?_
  exact startsWith_ofList (List.prefix_refl _)

lemma bearsName_documented (p : MappedParameter) :
    BearsName .javascript (" * @param \x7b" ++ p.mapped.syntaxText ++ "\x7d " ++ p.name) := by
  refine .inl ?_
  rw [← String.append_empty (s := _ ++ p.name)]
  refine framed_append ?_ (List.suffix_refl _)
  iterate 3 refine startsWith_append ?_
  exact startsWith_ofList (List.prefix_refl _)

lemma bearsName_placeholder (p : MappedParameter) : BearsName .cpp p.cppPlaceholder := by
  refine .inr (.inl (framed_append ?_ (by decide)))
  iterate 5 refine startsWith_append ?_
  exact startsWith_ofList (List.prefix_refl _)

lemma bearsName_javaCall (a b d : String) : BearsName .java
    ("            " ++ a ++ " result = solution." ++ b ++ "(" ++ d ++ ");") := by
  refine .inr (framed_append ?_ (List.suffix_refl _))
  iterate 5 refine startsWith_append ?_
  exact startsWith_ofList (List.prefix_refl _)

lemma bearsName_call (a b : String) :
    BearsName .python ("        result = solution." ++ a ++ "(" ++ b ++ ")") ∧
      BearsName .cpp ("    // auto result = solution." ++ a ++ "(" ++ b ++ ");") ∧
      BearsName .javascript ("        const result = " ++ a ++ "(" ++ b ++ ");") := by
  refine ⟨.inr (framed_append ?_ (List.suffix_refl _)),
    .inr (.inr (framed_append ?_ (List.suffix_refl _))),
    .inr (.inr (framed_append ?_ (List.suffix_refl _)))⟩
  all_goals
    iterate 3 refine startsWith_append ?_
    exact startsWith_ofList (by decide)

lemma aligned_solution (h : SameTypes c c') (family : Family) :
    List.Forall₂ (Aligned family) (c.solution family) (c'.solution family) := by
  cases family with
  | java =>
    rw [Context.solution, Context.javaSolution, Context.solution, Context.javaSolution,
      h.defaultReturn]
    exact .cons (.inl rfl)
      (aligned_cons (bearsName_typeFirst _ _ _).1 (bearsName_typeFirst _ _ _).1)
  | python =>
    rw [Context.solution, Context.pythonSolution, Context.solution, Context.pythonSolution,
      h.defaultReturn]
    exact .cons (.inl rfl) (aligned_cons (bearsName_annotated _ _ _) (bearsName_annotated _ _ _))
  | cpp =>
    rw [Context.solution, Context.cppSolution, Context.solution, Context.cppSolution,
      h.defaultReturn]
    iterate 2 refine .cons (.inl rfl) ?_
    exact aligned_cons (bearsName_typeFirst _ _ _).2 (bearsName_typeFirst _ _ _).2
  | javascript =>
    rw [Context.solution, Context.javascriptSolution, Context.solution, Context.javascriptSolution,
      h.returnMapped, h.defaultReturn]
    have hdocumented := aligned_parameters h bearsName_documented
    refine aligned_append (aligned_append (aligned_refl _ _) hdocumented) ?_
    iterate 2 refine .cons (.inl rfl) ?_
    exact aligned_cons (bearsName_function _ _) (bearsName_function _ _)

lemma aligned_harness (h : SameTypes c c') (family : Family) :
    List.Forall₂ (Aligned family) (c.harness family) (c'.harness family) := by
  cases family with
  | java =>
    -- Only the call has names.
    iterate 14 refine .cons (.inl rfl) ?_
    exact aligned_cons (bearsName_javaCall _ _ _) (bearsName_javaCall _ _ _)
  | python =>
    have hany := any_parameters h fun t => t.contains .tree
    rw [Context.harness, Context.pythonHarness, Context.harness, Context.pythonHarness, h.treeNode,
      hany]
    refine aligned_append (aligned_refl _ _) ?_
    iterate 5 refine .cons (.inl rfl) ?_
    exact aligned_cons (bearsName_call _ _).1 (bearsName_call _ _).1
  | cpp =>
    have hplaceholders := aligned_parameters h bearsName_placeholder
    refine aligned_append (aligned_append (aligned_refl _ _) hplaceholders) ?_
    exact aligned_cons (bearsName_call _ _).2.1 (bearsName_call _ _).2.1
  | javascript =>
    have hany := any_parameters h fun t => t.category = .tree
    rw [Context.harness, Context.javascriptHarness, Context.harness, Context.javascriptHarness,
      hany]
    refine aligned_append (aligned_refl _ _) ?_
    iterate 3 refine .cons (.inl rfl) ?_
    exact aligned_cons (bearsName_call _ _).2.2 (bearsName_call _ _).2.2

end Lines


section Fixed

variable {target : Target} {family : Family}

lemma import_not_bearsName : ∀ l ∈ knownImports family, ¬BearsName family l := by
  cases family <;> simp only [knownImports, List.forall_mem_cons, BearsName, not_or, not_and_or,
    List.not_mem_nil, false_imp_iff, implies_true, and_true]
  all_goals and_intros <;> first
    | exact not_framed_ofList (by decide)
    | exact .inl (not_framed_ofList (by decide))

/-- A method may have the name of the constructor, but the constructor is not annotated. -/
lemma constructor_not_bearsName {init : String} (h : Lacks '>' init) :
    ¬BearsName .python
      ("    def __init__(self, val=" ++ (init ++ ", left=None, right=None):")) := by
  have hback : Lacks '>' (init ++ ", left=None, right=None):") :=
    lacks_append.mpr ⟨h, lacks_ofList (by decide)⟩
  refine not_or.mpr ⟨fun hmethod => ?_, not_framed_append (by decide)⟩
  exact not_mentions_of_lacks (x := '>') (by decide)
    (lacks_append.mpr ⟨lacks_ofList (by decide), hback⟩) hmethod.2

lemma treeNode_not_bearsName (h : target ∈ Target.builtins) (value : Primitive) :
    ∀ l ∈ target.treeNodeLines value, ¬BearsName target.family l := by
  unfold Target.treeNodeLines
  generalize target.family.primitive value = val
  generalize hinit : target.primitiveDefault value = init
  obtain rfl | rfl | rfl | rfl := eq_of_mem_builtins h
  case inr.inl =>
    have hlacks : Lacks '>' init := by
      rw [← hinit]
      cases value <;> exact lacks_ofList (by decide)
    simp only [Target.python, List.forall_mem_cons, String.append_assoc, List.not_mem_nil,
      false_imp_iff, implies_true, and_true]
    refine ⟨?_, ?_, constructor_not_bearsName hlacks, ?_, ?_, ?_⟩
    all_goals
      exact not_or.mpr ⟨fun h => not_framed_ofList (by decide) h.1, not_framed_ofList (by decide)⟩
  all_goals
    simp only [Target.java, Target.cpp, Target.javascript, List.forall_mem_cons, BearsName, not_or,
      String.append_assoc, List.not_mem_nil, false_imp_iff, implies_true, and_true]
    and_intros <;> first | exact not_framed_ofList (by decide) | exact not_framed_append (by decide)

def bodyComment : Family → String
  | .python => "        # Write your logic here"
  | .javascript => "    // Write your logic here"
  | .java | .cpp => "        // Write your logic here"

/-- The body of the function: a comment and the default return statement. -/
def bodyLines (target : Target) (returns : TypeExpr) : List String :=
  [bodyComment target.family,
    bodyIndent target.family ++ target.defaultReturn (target.mapType returns)]

lemma comment_not_bearsName (family : Family) : ¬BearsName family (bodyComment family) := by
  cases family with
  | java => exact not_or.mpr ⟨not_framed_ofList (by decide), not_framed_ofList (by decide)⟩
  | python =>
    exact not_or.mpr ⟨fun h => not_framed_ofList (by decide) h.1, not_framed_ofList (by decide)⟩
  | cpp | javascript =>
    exact not_or.mpr ⟨not_framed_ofList (by decide),
      not_or.mpr ⟨not_framed_ofList (by decide), not_framed_ofList (by decide)⟩⟩

lemma return_not_bearsName (family : Family) (e : String) :
    ¬BearsName family (returnLine family e) := by
  cases family with
  | java => exact not_or.mpr ⟨not_framed_append (by decide), not_framed_append (by decide)⟩
  | python =>
    exact not_or.mpr ⟨fun h => not_framed_append (by decide) h.1, not_framed_append (by decide)⟩
  | cpp | javascript =>
    exact not_or.mpr ⟨not_framed_append (by decide),
      not_or.mpr ⟨not_framed_append (by decide), not_framed_append (by decide)⟩⟩

lemma body_not_bearsName (target : Target) (returns : TypeExpr) :
    ∀ l ∈ bodyLines target returns, ¬BearsName target.family l := by
  obtain ⟨e, he⟩ := exists_returnStatement target returns
  rw [bodyLines, he, indented_returnStatement]
  exact List.forall_mem_cons.mpr ⟨comment_not_bearsName _,
    List.forall_mem_singleton.mpr (return_not_bearsName _ e)⟩

end Fixed

section Places

variable {family : Family} {block lines lines' : List String}

/-- The block stands in the file, with its first line at the index. -/
def StandsAt (block : List String) (i : Nat) (lines : List String) : Prop :=
  block <+: lines.drop i

/-- The block stands somewhere in the one file, and at the same indices of both. -/
structure SamePlaces (block lines lines' : List String) : Prop where
  stands : ∃ i, StandsAt block i lines
  same : ∀ i, StandsAt block i lines ↔ StandsAt block i lines'

lemma aligned_symm (h : List.Forall₂ (Aligned family) lines lines') :
    List.Forall₂ (Aligned family) lines' lines :=
  h.flip.imp fun _ _ => Or.imp Eq.symm And.symm

/-- A block without names at the start of one file is also at the start of the other. -/
lemma prefix_of_aligned (h : ∀ l ∈ block, ¬BearsName family l)
    (haligned : List.Forall₂ (Aligned family) lines lines') (hstart : block <+: lines) :
    block <+: lines' := by
  induction block generalizing lines lines' with
  | nil => exact List.nil_prefix
  | cons l block ih =>
    obtain ⟨hl, hblock⟩ := List.forall_mem_cons.mp h
    obtain ⟨rest, rfl⟩ := hstart
    cases haligned with
    | cons hfirst hrest =>
      obtain rfl := hfirst.resolve_right fun hnames => hl hnames.1
      exact List.cons_prefix_cons.mpr ⟨rfl, ih hblock hrest (List.prefix_append _ _)⟩

lemma samePlaces_of_aligned (h : ∀ l ∈ block, ¬BearsName family l)
    (haligned : List.Forall₂ (Aligned family) lines lines') (hwithin : block <:+: lines) :
    SamePlaces block lines lines' := by
  obtain ⟨front, back, rfl⟩ := hwithin
  refine ⟨⟨front.length, ?_⟩, fun i => ⟨?_, ?_⟩⟩
  · rw [StandsAt, List.append_assoc, List.drop_left]
    exact List.prefix_append block back
  · exact prefix_of_aligned h (List.forall₂_drop i haligned)
  · exact prefix_of_aligned h (List.forall₂_drop i (aligned_symm haligned))

end Places

section File

variable {target : Target} {s s' : TypedSignature}

lemma sameTypes_context (h : s.types = s'.types) :
    SameTypes (target.context s) (target.context s') := by
  obtain ⟨hparameters, hreturns⟩ := List.append_inj' h rfl
  have hreturns : s.returns = s'.returns := List.singleton_injective hreturns
  refine ⟨?_, congrArg target.mapType hreturns, congrArg target.treeNodeFor h,
    congrArg (fun t => target.defaultReturn (target.mapType t)) hreturns⟩
  show (s.parameters.map target.mapParameter).map _ = (s'.parameters.map target.mapParameter).map _
  rw [List.map_map, List.map_map]
  exact hparameters

lemma preamble_eq (h : s.types = s'.types) : preamble target s = preamble target s' := by
  rw [preamble, preamble, importLines, importLines, h]

lemma aligned_render (htarget : target ∈ Target.builtins) (hn : Named s) (hn' : Named s')
    (h : s.types = s'.types) : List.Forall₂ (Aligned target.family) (linesOf (target.render s))
      (linesOf (target.render s')) := by
  have hsame : SameTypes (target.context s) (target.context s') := sameTypes_context h
  rw [linesOf_render_eq htarget hn, linesOf_render_eq htarget hn', preamble_eq h]
  refine aligned_append (aligned_refl _ _) (aligned_append (aligned_solution hsame _) ?_)
  exact .cons (.inl rfl) (aligned_append (aligned_harness hsame _) (aligned_refl _ _))

lemma body_infix_solution (target : Target) (s : TypedSignature) :
    bodyLines target s.returns <:+: (target.context s).solution target.family := by
  unfold bodyLines
  cases target.family with
  | java => exact ⟨[_, _], [_, _], rfl⟩
  | python => exact ⟨[_, _], [], rfl⟩
  | cpp => exact ⟨[_, _, _], [_, _], rfl⟩
  | javascript =>
    refine List.IsInfix.trans ?_ (List.suffix_append _ _).isInfix
    exact ⟨[_, _, _], [_], rfl⟩

/-- Both files start with their imports, and these, the tree node definition if there is one, and
the body of the function stand in the same places of both. The other lines are the same as well,
unless both bear names. -/
structure SameLayout (target : Target) (s : TypedSignature) (lines lines' : List String) :
    Prop where
  length : lines.length = lines'.length
  opening : StandsAt (target.imports s.types ++ [""]) 0 lines ∧
    StandsAt (target.imports s.types ++ [""]) 0 lines'
  imports : SamePlaces (target.imports s.types) lines lines'
  treeNode : Target.treeNodeFor.anyTree s.types = true →
    SamePlaces (target.treeNodeLines (firstTreeValue s.types)) lines lines'
  body : SamePlaces (bodyLines target s.returns) lines lines'
  aligned : List.Forall₂ (Aligned target.family) lines lines'

lemma standsAt_opening (htarget : target ∈ Target.builtins) (hn : Named s) :
    StandsAt (target.imports s.types ++ [""]) 0 (linesOf (target.render s)) := by
  obtain ⟨rest, hlines⟩ := linesOf_render_imports htarget hn
  exact ⟨rest, by rw [hlines, List.append_assoc]; rfl⟩

lemma sameLayout_render (htarget : target ∈ Target.builtins) (hn : Named s) (hn' : Named s')
    (h : s.types = s'.types) :
    SameLayout target s (linesOf (target.render s)) (linesOf (target.render s')) := by
  have haligned := aligned_render htarget hn hn' h
  have hlines := linesOf_render_eq htarget hn
  have hopening := standsAt_opening htarget hn
  refine ⟨haligned.length_eq, ⟨hopening, h ▸ standsAt_opening htarget hn'⟩, ?_, fun htree => ?_, ?_,
    haligned⟩
  · refine samePlaces_of_aligned (fun l hl => ?_) haligned ?_
    · exact import_not_bearsName l (imports_known htarget hl)
    · exact ((List.prefix_append _ _).trans hopening).isInfix
  · refine samePlaces_of_aligned (treeNode_not_bearsName htarget _) haligned ?_
    have hpreamble : preamble target s = importLines target s ++
        (target.treeNodeLines (firstTreeValue s.types) ++ [""]) := by
      rw [preamble, if_pos htree]
    rw [hlines, hpreamble]
    exact ((List.infix_append' _ _ _).trans (List.prefix_append _ _).isInfix)
  · refine samePlaces_of_aligned (body_not_bearsName target s.returns) haligned ?_
    rw [hlines]
    exact (body_infix_solution target s).trans (List.infix_append' _ _ _)

/-- Accepted names do not change the layout of a stub file. In every built-in language, two
signatures that match the schema and have the same type texts, all of them types, have files with
the same number of lines, whose imports, tree node definition and function body with the default
return statement are the same and stand in the same places. -/
theorem names_keep_layout (htarget : target ∈ Target.builtins) {j j' : Json} {s s' : Signature}
    (hs : Signature.ofJson j = .ok s) (hs' : Signature.ofJson j' = .ok s')
    (htexts : s.typeTexts = s'.typeTexts)
    (hread : ∀ text ∈ s.typeTexts.all, ∃ t, TypeExpr.ofText? text = some t) :
    ∃ typed text text', s.typed = .ok typed ∧ target.renderSignature s = .ok text ∧
      target.renderSignature s' = .ok text' ∧
      SameLayout target typed (linesOf text) (linesOf text') := by
  obtain ⟨typed, htyped⟩ := exists_typed hread
  obtain ⟨typed', htyped'⟩ := exists_typed (s := s') (htexts ▸ hread)
  have htypes : typed.types = typed'.types := by
    rw [← readable_of_typed htyped, ← readable_of_typed htyped', htexts]
  have hn : Named typed := named_of_typed (wellNamed_of_ofJson hs) htyped
  have hn' : Named typed' := named_of_typed (wellNamed_of_ofJson hs') htyped'
  exact ⟨typed, _, _, htyped, renderSignature_of_typed htyped, renderSignature_of_typed htyped',
    sameLayout_render htarget hn hn' htypes⟩

/-- Signature of a function on trees. -/
def heightSignature : Signature := ⟨"height", [⟨"root", "Tree<int>"⟩], "int"⟩

/-- The same types, with the names that a constructor has. -/
def initSignature : Signature := ⟨"__init__", [⟨"val", "Tree<int>"⟩], "int"⟩

theorem layout_of_height_and_init :
    ∃ text text', Target.python.renderSignature heightSignature = .ok text ∧
      Target.python.renderSignature initSignature = .ok text' ∧
      SameLayout .python ⟨"height", [⟨"root", .tree .int⟩], .primitive .int⟩ (linesOf text)
        (linesOf text') := by
  have hread : heightSignature.typed =
      .ok ⟨"height", [⟨"root", .tree .int⟩], .primitive .int⟩ := by
    decide +kernel
  have hjson : Signature.ofJson heightSignature.toJson = .ok heightSignature := rfl
  have hjson' : Signature.ofJson initSignature.toJson = .ok initSignature := rfl
  obtain ⟨typed, text, text', htyped, htext, htext', hsame⟩ := names_keep_layout
    (show Target.python ∈ Target.builtins by decide) hjson hjson' rfl
    fun text htext => forall₂_left (types_of_typed hread) text htext
  cases hread.symm.trans htyped
  exact ⟨text, text', htext, htext', hsame⟩

end File

end StubGen.Proofs
