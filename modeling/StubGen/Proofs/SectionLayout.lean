import StubGen.Proofs.FileLines

/-!
# The layout of a stub file

Every section of a stub file starts and ends with a visible character, whatever names and types its
signature has. No section therefore adds to the blank line that joining puts between two of them, or
to the line break at the end of the file, and a tree node definition is a section like the others.
-/

namespace StubGen.Proofs

section Visible

variable {s t : String} {ls : List String}

def EndsVisibly (s : String) : Prop := ∃ c ∈ s.toList.getLast?, Text.isBlank c = false

lemma endsVisibly_ofList {cs : List Char} {c : Char} (hlast : cs.getLast? = some c)
    (hc : Text.isBlank c = false) : EndsVisibly (String.ofList cs) := by
  rw [EndsVisibly, String.toList_ofList]
  exact ⟨c, hlast, hc⟩

lemma endsVisibly_append (h : EndsVisibly t) : EndsVisibly (s ++ t) := by
  obtain ⟨c, hlast, hc⟩ := h
  refine ⟨c, ?_, hc⟩
  rw [String.toList_append, List.getLast?_append, Option.mem_def.mp hlast]
  rfl

/-- The text starts and ends with a visible character. -/
structure IsSection (text : String) : Prop where
  starts : ∃ c ∈ text.toList.head?, Text.isBlank c = false
  ends : EndsVisibly text

lemma isSection_lines (hopens : OpensVisibly ls) (hends : ∃ l ∈ ls.getLast?, EndsVisibly l) :
    IsSection (Text.lines ls) := by
  obtain ⟨l, hl, c, hc, hvisible⟩ := hends
  exact ⟨lines_starts hopens, c, lines_ends hl hc, hvisible⟩

lemma isPart_of_isSection (h : IsSection s) : IsPart s.toList := by
  obtain ⟨c, hc, hvisible⟩ := h.starts
  obtain ⟨d, hd, hvisible'⟩ := h.ends
  refine isPart_of_ends hc hd hvisible ?_
  rintro rfl
  cases hvisible'

end Visible

section Sections

variable {target : Target}

/-- In Python the default return statement is the last line of the solution. -/
lemma endsVisibly_pythonReturn (m : MappedType) : EndsVisibly (Target.python.defaultReturn m) := by
  have hreturn : ∀ {expression : String}, EndsVisibly expression →
      EndsVisibly (Family.python.returnStatement expression) := endsVisibly_append
  unfold Target.defaultReturn
  dsimp only
  split_ifs
  iterate 5 exact hreturn (endsVisibly_ofList rfl (by decide))
  exact endsVisibly_ofList rfl (by decide)

lemma isSection_imports (h : target ∈ Target.builtins) (types : List TypeExpr) :
    IsSection (Text.lines (target.imports types)) := by
  have hknown : ∀ family, ∀ l ∈ knownImports family, EndsVisibly l := by
    intro family
    cases family <;> simp only [knownImports, List.forall_mem_cons, List.not_mem_nil, false_imp_iff,
      implies_true, and_true]
    all_goals and_intros <;> exact endsVisibly_ofList rfl (by decide)
  have hblock := isBlock_imports h types
  have hlast := List.getLast_mem (ne_nil_of_isBlock hblock)
  exact isSection_lines hblock.starts
    ⟨_, List.getLast?_eq_some_getLast _, hknown _ _ (imports_known h hlast)⟩

lemma isSection_treeNode (target : Target) (value : Primitive) :
    IsSection (Text.lines (target.treeNodeLines value)) := by
  unfold Target.treeNodeLines
  cases target.family
  all_goals
    exact isSection_lines ⟨_, _, _, rfl, by decide⟩ ⟨_, rfl, endsVisibly_ofList rfl (by decide)⟩

lemma isSection_solution (h : target ∈ Target.builtins) (s : TypedSignature) :
    IsSection (Text.lines ((target.context s).solution target.family)) := by
  have hbrace : EndsVisibly "\x7d" := endsVisibly_ofList rfl (by decide)
  have hsemicolon : EndsVisibly "\x7d;" := endsVisibly_ofList rfl (by decide)
  obtain rfl | rfl | rfl | rfl := eq_of_mem_builtins h
  · exact isSection_lines ⟨_, _, _, rfl, by decide⟩ ⟨_, rfl, hbrace⟩
  · exact isSection_lines ⟨_, _, _, rfl, by decide⟩
      ⟨_, rfl, endsVisibly_append (endsVisibly_pythonReturn _)⟩
  · exact isSection_lines ⟨_, _, _, rfl, by decide⟩ ⟨_, rfl, hsemicolon⟩
  · exact isSection_lines ⟨_, _, _, rfl, by decide⟩ (ends_append _ ⟨_, rfl, hsemicolon⟩)

lemma isSection_harness (c : Context) (family : Family) :
    IsSection (Text.lines (c.harness family)) := by
  have hbrace : EndsVisibly "\x7d" := endsVisibly_ofList rfl (by decide)
  have hexit : EndsVisibly "        sys.exit(1)" := endsVisibly_ofList rfl (by decide)
  cases family with
  | java => exact isSection_lines ⟨_, _, _, rfl, by decide⟩ ⟨_, rfl, hbrace⟩
  | python =>
    -- The harness starts with the tree builder, if there is one.
    have hopens : OpensVisibly (c.harness .python) := by
      rw [Context.harness, Context.pythonHarness]
      split_ifs <;> exact ⟨_, _, _, rfl, by decide⟩
    exact isSection_lines hopens (ends_append _ ⟨_, rfl, hexit⟩)
  | cpp => exact isSection_lines ⟨_, _, _, rfl, by decide⟩ (ends_append _ ⟨_, rfl, hbrace⟩)
  | javascript => exact isSection_lines ⟨_, _, _, rfl, by decide⟩ (ends_append _ ⟨_, rfl, hbrace⟩)

lemma isSection_of_mem (h : target ∈ Target.builtins) (s : TypedSignature) :
    ∀ ls ∈ sections target s, IsSection (Text.lines ls) :=
  forall_mem_sections (isSection_imports h s.types)
    (isSection_lines isBlock_using.starts ⟨_, rfl, endsVisibly_ofList rfl (by decide)⟩)
    (isSection_treeNode target _) (isSection_solution h s) (isSection_harness _ target.family)

end Sections

section Layout

variable {target : Target} {parts : List String} {text : String}

/-- The text consists of sections in their order, with exactly one blank line between neighbours and
exactly one line break at the end. -/
inductive LaidOut : List String → String → Prop
  | last {part : String} (h : IsSection part) : LaidOut [part] (part ++ "\n")
  | next {part : String} {rest : List String} {text : String} (h : IsSection part)
    (hrest : LaidOut rest text) : LaidOut (part :: rest) (part ++ "\n\n" ++ text)

lemma laidOut_joined (hne : parts ≠ []) (h : ∀ part ∈ parts, IsSection part) :
    LaidOut parts (Text.joined "\n\n" parts ++ "\n") := by
  induction parts with
  | nil => exact (hne rfl).elim
  | cons part rest ih =>
    obtain ⟨hpart, hrest⟩ := List.forall_mem_cons.mp h
    cases rest with
    | nil => exact .last hpart
    | cons next rest =>
      have hlaidOut := LaidOut.next hpart (ih (List.cons_ne_nil _ _) hrest)
      rw [joined_cons, ← String.append_assoc, String.append_assoc]
      exact hlaidOut

lemma laidOut_render (h : target ∈ Target.builtins) (s : TypedSignature) :
    LaidOut ((sections target s).map Text.lines) (target.render s) := by
  have hsections := isSection_of_mem h s
  rw [render_eq_joined fun ls hls => isPart_of_isSection (hsections ls hls)]
  exact laidOut_joined (by simp [sections]) (List.forall_mem_map.mpr hsections)

/-- There is one line break at the end of the text, and the character before it is visible. -/
def EndsInOneBreak (text : String) : Prop :=
  ∃ front c, text.toList = front ++ [c, '\n'] ∧ Text.isBlank c = false

lemma endsInOneBreak_of_laidOut (h : LaidOut parts text) : EndsInOneBreak text := by
  induction h with
  | last hpart =>
    obtain ⟨c, hc, hvisible⟩ := hpart.ends
    obtain ⟨front, hfront⟩ := List.getLast?_eq_some_iff.mp hc
    refine ⟨front, c, ?_, hvisible⟩
    rw [String.toList_append, hfront, List.append_assoc]
    rfl
  | @next part rest text _ _ ih =>
    obtain ⟨front, c, hfront, hvisible⟩ := ih
    refine ⟨(part ++ "\n\n").toList ++ front, c, ?_, hvisible⟩
    rw [String.toList_append, hfront, List.append_assoc]

/-- Joining all blocks is the same as joining each of two groups of them and then the two results.
What is joined has no line break at its ends, it is empty exactly if all blocks are blank, and blank
blocks and line breaks at the ends of blocks make no difference to it. So the stub file of every
signature whose types can be read has one blank line between adjacent sections and one line break at
its end, whether or not the tree node definition is one of the sections. -/
theorem blocks_join_in_groups :
    (∀ xs ys : List String,
      Text.joinBlocks (xs ++ ys) = Text.joinBlocks [Text.joinBlocks xs, Text.joinBlocks ys]) ∧
    (∀ xs : List String, Trimmed (Text.joinBlocks xs).toList ∧
      (Text.joinBlocks xs = "" ↔ ∀ b ∈ xs, Text.allBlank b.toList = true)) ∧
    (∀ xs ys : List String, Relation.EqvGen Pads xs ys →
      Text.joinBlocks xs = Text.joinBlocks ys) ∧
    ∀ target ∈ Target.builtins, ∀ (s : Signature) (typed : TypedSignature), s.typed = .ok typed →
      ∃ text, target.renderSignature s = .ok text ∧ EndsInOneBreak text ∧
        LaidOut ((sections target typed).map Text.lines) text := by
  refine ⟨joinBlocks_append, fun xs => ⟨trimmed_joinBlocks xs, joinBlocks_eq_empty_iff⟩,
    fun xs ys => joinBlocks_of_padded, fun target htarget s typed htyped => ?_⟩
  have hlaidOut := laidOut_render htarget typed
  exact ⟨_, renderSignature_of_typed htyped, endsInOneBreak_of_laidOut hlaidOut, hlaidOut⟩

/-- A tree is both the parameter and the result. -/
def mirrorSignature : Signature := ⟨"mirror", [⟨"root", "Tree<int>"⟩], "Tree<int>"⟩

def mirrorTyped : TypedSignature := ⟨"mirror", [⟨"root", .tree .int⟩], .tree .int⟩

theorem blocks_join_around_padding :
    Relation.EqvGen Pads ["a\n", " ", "b"] ["a", "b", ""] ∧
      Text.joinBlocks ["a\n", " ", "b"] = Text.joinBlocks ["a", "b", ""] ∧
      Target.python ∈ Target.builtins ∧ mirrorSignature.typed = .ok mirrorTyped ∧
      ∃ text, Target.python.renderSignature mirrorSignature = .ok text ∧ EndsInOneBreak text ∧
        LaidOut ((sections .python mirrorTyped).map Text.lines) text := by
  have hpadded : Relation.EqvGen Pads ["a\n", " ", "b"] ["a", "b", ""] := by
    have hbreak : Pads ["a", "b"] ["a\n", "b"] := .behind [] ["b"] "a"
    have hblank : Pads ["a\n", "b"] ["a\n", " ", "b"] := .blank ["a\n"] ["b"] (by decide)
    have hempty : Pads ["a", "b"] ["a", "b", ""] := .blank ["a", "b"] [] rfl
    exact .trans _ _ _ (.symm _ _ (.trans _ _ _ (.rel _ _ hbreak) (.rel _ _ hblank)))
      (.rel _ _ hempty)
  have htyped : mirrorSignature.typed = .ok mirrorTyped := by decide +kernel
  have htarget : Target.python ∈ Target.builtins := by decide
  obtain ⟨-, -, hsame, hlayout⟩ := blocks_join_in_groups
  exact ⟨hpadded, hsame _ _ hpadded, htarget, htyped, hlayout _ htarget _ _ htyped⟩

end Layout

end StubGen.Proofs
