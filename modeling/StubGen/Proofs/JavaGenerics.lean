import Mathlib.Data.List.Infix
import StubGen.Proofs.FileParts
import StubGen.Proofs.TreeHelper

/-!
# Generic types in Java

In the Java spelling of a type the arguments between angle brackets are the elements of the lists in
the type, primitives in their boxed form, so that no argument is primitive. The harness decodes a
parameter through a type token exactly if its spelling is generic, and imports type tokens then.
-/

namespace StubGen.Proofs
open TypeExpr

section Arguments

def openAfter (c : Char) (n : Nat) : Nat :=
  if c = '<' then n + 1 else if c = '>' then n - 1 else n

/-- The text up to the bracket that closes the one in front of it, while `n` more are open. -/
def upToClosing (n : Nat) : List Char → Option (List Char)
  | [] => none
  | c :: rest =>
    if c = '>' ∧ n = 0 then some [] else (upToClosing (openAfter c n) rest).map (c :: ·)

/-- What stands between each opening bracket of a text and the one that closes it. -/
def typeArguments : List Char → List String
  | [] => []
  | c :: rest =>
    (if c = '<' then (upToClosing 0 rest).toList.map String.ofList else []) ++ typeArguments rest

/-- The brackets in the text match each other, with the given type arguments between them: a scan
for a closing bracket passes over the text. -/
structure Matched (text : List Char) (arguments : List String) : Prop where
  passed : ∀ n rest, upToClosing n (text ++ rest) = (upToClosing n rest).map (text ++ ·)
  arguments : ∀ rest, typeArguments (text ++ rest) = arguments ++ typeArguments rest

variable {text more : List Char} {arguments others : List String}

lemma matched_of_lacks (hopen : '<' ∉ text) (hclose : '>' ∉ text) : Matched text [] := by
  induction text with
  | nil => exact ⟨fun n rest => by simp, fun rest => rfl⟩
  | cons c text ih =>
    rw [List.mem_cons, not_or] at hopen hclose
    obtain ⟨hpassed, harguments⟩ := ih hopen.2 hclose.2
    refine ⟨fun n rest => ?_, fun rest => ?_⟩
    · have hsame : openAfter c n = n := by
        rw [openAfter, if_neg (Ne.symm hopen.1), if_neg (Ne.symm hclose.1)]
      rw [List.cons_append, upToClosing, if_neg fun h => hclose.1 h.1.symm, hsame, hpassed,
        Option.map_map]
      rfl
    · rw [List.cons_append, typeArguments, if_neg (Ne.symm hopen.1), harguments]
      rfl

lemma matched_append (h : Matched text arguments) (h' : Matched more others) :
    Matched (text ++ more) (arguments ++ others) := by
  refine ⟨fun n rest => ?_, fun rest => ?_⟩
  · rw [List.append_assoc, h.passed, h'.passed, Option.map_map]
    simp only [Function.comp_def, List.append_assoc]
  · rw [List.append_assoc, h.arguments, h'.arguments, List.append_assoc]

lemma matched_bracketed (h : Matched text arguments) :
    Matched ('<' :: (text ++ ['>'])) (String.ofList text :: arguments) := by
  have hassoc : ∀ rest, '<' :: (text ++ ['>']) ++ rest = '<' :: (text ++ '>' :: rest) := by
    simp
  refine ⟨fun n rest => ?_, fun rest => ?_⟩
  · have hopened : upToClosing n ('<' :: (text ++ '>' :: rest)) =
        (upToClosing (n + 1) (text ++ '>' :: rest)).map ('<' :: ·) := rfl
    have hclosed : upToClosing (n + 1) ('>' :: rest) = (upToClosing n rest).map ('>' :: ·) := rfl
    rw [hassoc, hopened, h.passed, hclosed]
    simp only [Option.map_map, Function.comp_def, hassoc]
  · have hclosed : upToClosing 0 (text ++ '>' :: rest) = some text := by
      rw [h.passed, upToClosing, if_pos ⟨rfl, rfl⟩, Option.map_some, List.append_nil]
    rw [hassoc, typeArguments, if_pos rfl, hclosed, h.arguments, typeArguments,
      if_neg (by decide)]
    simp

end Arguments

section Spellings

variable {t : TypeExpr}

/-- The type argument that stands for the element of a list. -/
def elementArgument : TypeExpr → String
  | .primitive p => Family.boxed p
  | t => Family.java.spell t

def listArgument? : TypeExpr → Option String
  | .list element => some (elementArgument element)
  | _ => none

/-- The type arguments of all lists in a type, outermost first. -/
def listArguments (t : TypeExpr) : List String := t.walk.filterMap listArgument?

lemma spell_list (element : TypeExpr) :
    Family.java.spell (.list element) = "List<" ++ elementArgument element ++ ">" := by
  cases element <;> rfl

lemma matched_name {cs : List Char} (h : '<' ∉ cs) (h' : '>' ∉ cs) :
    Matched (String.ofList cs).toList [] := by
  rw [String.toList_ofList]
  exact matched_of_lacks h h'

lemma matched_spell (t : TypeExpr) : Matched (Family.java.spell t).toList (listArguments t) := by
  induction t with
  | primitive p => cases p <;> exact matched_name (by decide) (by decide)
  | array element ih =>
    have hbrackets : Matched "[]".toList [] := matched_name (by decide) (by decide)
    have hspell := matched_append ih hbrackets
    rwa [List.append_nil, ← String.toList_append] at hspell
  | list element ih =>
    have helement : Matched (elementArgument element).toList (listArguments element) := by
      cases element with
      | primitive p => cases p <;> exact matched_name (by decide) (by decide)
      | _ => exact ih
    have hword : Matched "List".toList [] := matched_name (by decide) (by decide)
    have hspell := matched_append hword (matched_bracketed helement)
    have htext : (Family.java.spell (.list element)).toList =
        "List".toList ++ '<' :: ((elementArgument element).toList ++ ['>']) := by
      rw [spell_list, String.toList_append, String.toList_append]
      rfl
    rwa [← htext, String.ofList_toList] at hspell
  | tree value => exact matched_name (by decide) (by decide)
  | graph => exact matched_name (by decide) (by decide)

lemma typeArguments_spell (t : TypeExpr) :
    typeArguments (Family.java.spell t).toList = listArguments t := by
  have h := (matched_spell t).arguments []
  rwa [List.append_nil, typeArguments, List.append_nil] at h

/-- The names of Java's primitive types, which cannot be type arguments. -/
def javaPrimitives : List String :=
  ["boolean", "byte", "char", "short", "int", "long", "float", "double"]

/-- The spelling has type arguments. -/
def IsGeneric (spelling : String) : Prop := '<' ∈ spelling.toList

lemma isGeneric_spell_iff : IsGeneric (Family.java.spell t) ↔ t.contains .list = true := by
  induction t with
  | primitive p => cases p <;> exact iff_of_false (lacks_ofList (by decide)) (by decide)
  | array element ih =>
    refine Iff.trans ?_ ih
    rw [IsGeneric, IsGeneric, Family.spell, Family.arrayOf, String.toList_append, List.mem_append]
    exact or_iff_left (lacks_ofList (by decide))
  | list element ih =>
    refine iff_of_true ?_ rfl
    rw [IsGeneric, spell_list, String.toList_append, String.toList_append]
    exact List.mem_append_left _ (List.mem_append_left _ (by decide))
  | tree value => exact iff_of_false (lacks_ofList (by decide)) Bool.false_ne_true
  | graph => exact iff_of_false (lacks_ofList (by decide)) Bool.false_ne_true

lemma brackets_not_mem_javaPrimitives :
    ∀ name ∈ javaPrimitives, '<' ∉ name.toList ∧ '[' ∉ name.toList := by decide

/-- A list of primitives boxes them, and every other element is spelled as a reference type. -/
lemma elementArgument_not_primitive (t : TypeExpr) : elementArgument t ∉ javaPrimitives := by
  cases t with
  | primitive p => cases p <;> decide
  | array element =>
    refine fun hmem => (brackets_not_mem_javaPrimitives _ hmem).2 ?_
    show '[' ∈ (Family.java.spell element ++ "[]").toList
    rw [String.toList_append]
    exact List.mem_append_right _ (by decide)
  | list element =>
    refine fun hmem => (brackets_not_mem_javaPrimitives _ hmem).1 ?_
    exact (isGeneric_spell_iff (t := .list element)).mpr rfl
  | tree value => exact (by decide : "TreeNode" ∉ javaPrimitives)
  | graph => decide

lemma typeArgument_not_primitive {argument : String}
    (h : argument ∈ typeArguments (Family.java.spell t).toList) : argument ∉ javaPrimitives := by
  rw [typeArguments_spell, listArguments, List.mem_filterMap] at h
  obtain ⟨inner, -, hargument⟩ := h
  cases inner with
  | list element =>
    cases hargument
    exact elementArgument_not_primitive element
  | _ => cases hargument

end Spellings

section Words

variable {cs ds : List Char} {word s t : String}

/-- No occurrence of the word starts in the text, whatever follows it. -/
def Avoids (word s : String) : Prop := ∀ t, Mentions word (s ++ t) → Mentions word t

lemma avoids_append (hs : Avoids word s) (ht : Avoids word t) : Avoids word (s ++ t) := by
  intro u h
  rw [String.append_assoc] at h
  exact ht u (hs _ h)

/-- A word does not start in a text if it fits none of the ends of the text. -/
lemma avoids_ofList (h : ∀ e ∈ ds.tails, e ≠ [] → ¬e <+: cs ∧ ¬cs <+: e) :
    Avoids (String.ofList cs) (String.ofList ds) := by
  intro t ht
  rw [Mentions, String.toList_append, String.toList_ofList, String.toList_ofList] at ht
  rw [Mentions, String.toList_ofList]
  induction ds with
  | nil => exact ht
  | cons d ds ih =>
    rw [List.tails, List.forall_mem_cons] at h
    refine ih h.2 ((List.infix_cons_iff.mp ht).resolve_left fun hstart => ?_)
    obtain hfirst | hword := List.prefix_or_prefix_of_prefix
      (List.prefix_append (d :: ds) t.toList) hstart
    · exact (h.1 (List.cons_ne_nil _ _)).1 hfirst
    · exact (h.1 (List.cons_ne_nil _ _)).2 hword

lemma avoids_of_lacks {x : Char} (hs : Lacks x s) : Avoids (String.ofList (x :: cs)) s := by
  rw [← String.ofList_toList (s := s)]
  refine avoids_ofList fun e he hne => ?_
  -- A common beginning would start with the character that the text lacks.
  obtain ⟨c, rest, rfl⟩ := List.exists_cons_of_ne_nil hne
  have hc : c ≠ x := fun heq =>
    hs (heq ▸ ((List.mem_tails _ _).mp he).subset List.mem_cons_self)
  exact ⟨fun h => hc (List.cons_prefix_cons.mp h).1,
    fun h => hc (List.cons_prefix_cons.mp h).1.symm⟩

lemma not_mentions_of_avoids (h : Avoids word s) (hne : word ≠ "") : ¬Mentions word s := by
  intro hmentions
  rw [← String.append_empty (s := s)] at hmentions
  exact hne (String.toList_eq_nil_iff.mp (List.infix_nil.mp (h _ hmentions)))

end Words

section Operands

/-- What tells the decoder of the harness which type to decode to. -/
inductive TypeOperand where
  /-- An instance of an anonymous class, which keeps the type arguments. -/
  | token (spelling : String)
  /-- A literal, which is written for types without type arguments only. -/
  | classLiteral (spelling : String)

def TypeOperand.text : TypeOperand → String
  | token spelling => "new TypeToken<" ++ spelling ++ ">()\x7b\x7d.getType()"
  | classLiteral spelling => spelling ++ ".class"

def decodedBy (name : String) (operand : TypeOperand) : String :=
  "gson.fromJson(" ++ ("data.get(\"" ++ name ++ "\")") ++ ", " ++ operand.text ++ ")"

variable {name spelling : String} {p : MappedParameter}

lemma javaArgument_eq (p : MappedParameter) :
    p.javaArgument = decodedBy p.name (if p.type.contains .list then .token p.mapped.syntaxText
      else .classLiteral p.mapped.syntaxText) := by
  have hassoc : ∀ a b c d e f : String,
      a ++ (b ++ c) ++ d ++ (e ++ f) = a ++ b ++ (c ++ d ++ e) ++ f := by
    intro a b c d e f
    simp only [String.append_assoc]
  have hassoc' : ∀ a b c d e : String, a ++ b ++ c ++ (d ++ e) = a ++ b ++ (c ++ d) ++ e := by
    intro a b c d e
    simp only [String.append_assoc]
  unfold MappedParameter.javaArgument decodedBy
  split_ifs
  · exact hassoc _ ", " "new TypeToken<" _ ">()\x7b\x7d.getType()" ")"
  · exact hassoc' _ ", " _ ".class" ")"

lemma text_eq_of_decodedBy {operand operand' : TypeOperand}
    (h : decodedBy name operand = decodedBy name operand') : operand.text = operand'.text :=
  (String.append_right_inj _).mp ((String.append_left_inj _).mp h)

lemma classLiteral_ne_token (h : Lacks '(' spelling) (other : String) :
    (TypeOperand.classLiteral spelling).text ≠ (TypeOperand.token other).text := by
  have hliteral : Lacks '(' (TypeOperand.classLiteral spelling).text :=
    lacks_append.mpr ⟨h, lacks_ofList (by decide)⟩
  intro heq
  rw [heq] at hliteral
  exact (lacks_append.mp hliteral).2 (by decide)

/-- In an expression with a type token, methods are called but no class literal is written. -/
lemma not_mentions_class (hname : Lacks '.' name) (hspelling : Lacks '.' spelling) :
    ¬Mentions ".class" (decodedBy name (.token spelling)) := by
  have htoken : Avoids ".class" (TypeOperand.token spelling).text :=
    avoids_append (avoids_append (avoids_ofList (by decide)) (avoids_of_lacks hspelling))
      (avoids_ofList (by decide))
  have hvalue : Avoids ".class" ("data.get(\"" ++ name ++ "\")") :=
    avoids_append (avoids_append (avoids_ofList (by decide)) (avoids_of_lacks hname))
      (avoids_ofList (by decide))
  refine not_mentions_of_avoids ?_ (by decide)
  refine avoids_append (avoids_append (avoids_append ?_ ?_) htoken) (avoids_ofList (by decide))
  · exact avoids_append (avoids_ofList (by decide)) hvalue
  · exact avoids_ofList (by decide)

def javaArgument (p : TypedParameter) : String := (Target.java.mapParameter p).javaArgument

variable {q : TypedParameter}

lemma javaArgument_of_generic (h : IsGeneric (Family.java.spell q.type)) :
    javaArgument q = decodedBy q.name (.token (Family.java.spell q.type)) := by
  have hlist : (Target.java.mapParameter q).type.contains .list = true := isGeneric_spell_iff.mp h
  rw [javaArgument, javaArgument_eq, if_pos hlist]
  rfl

lemma javaArgument_of_not_generic (h : ¬IsGeneric (Family.java.spell q.type)) :
    javaArgument q = decodedBy q.name (.classLiteral (Family.java.spell q.type)) := by
  have hlist : ¬(Target.java.mapParameter q).type.contains .list = true :=
    mt isGeneric_spell_iff.mpr h
  rw [javaArgument, javaArgument_eq, if_neg hlist]
  rfl

/-- The argument names the spelling of the type to the decoder, through a type token if it is
generic and by a class literal otherwise. No class literal is that of a generic spelling. -/
structure DecodesLegally (q : TypedParameter) : Prop where
  token : javaArgument q = decodedBy q.name (.token (Family.java.spell q.type)) ↔
    IsGeneric (Family.java.spell q.type)
  classLiteral : javaArgument q = decodedBy q.name (.classLiteral (Family.java.spell q.type)) ↔
    ¬IsGeneric (Family.java.spell q.type)
  literals : ∀ spelling, Mentions (spelling ++ ".class") (javaArgument q) → ¬IsGeneric spelling

lemma lacks_decodedBy_classLiteral (hname : Lacks '<' name) (hspelling : Lacks '<' spelling) :
    Lacks '<' (decodedBy name (.classLiteral spelling)) := by
  have hvalue : Lacks '<' ("data.get(\"" ++ name ++ "\")") :=
    lacks_append.mpr ⟨lacks_append.mpr ⟨lacks_ofList (by decide), hname⟩, lacks_ofList (by decide)⟩
  have hliteral : Lacks '<' (TypeOperand.classLiteral spelling).text :=
    lacks_append.mpr ⟨hspelling, lacks_ofList (by decide)⟩
  refine lacks_append.mpr ⟨lacks_append.mpr ⟨lacks_append.mpr ⟨?_, ?_⟩, hliteral⟩, ?_⟩
  · exact lacks_append.mpr ⟨lacks_ofList (by decide), hvalue⟩
  · exact lacks_ofList (by decide)
  · exact lacks_ofList (by decide)

lemma decodesLegally (hq : IsIdentifier q.name) : DecodesLegally q := by
  have hparenthesis : Lacks '(' (Family.java.spell q.type) := lacks_spell (by decide) .java q.type
  have hne := classLiteral_ne_token hparenthesis (Family.java.spell q.type)
  by_cases h : IsGeneric (Family.java.spell q.type)
  · have harg := javaArgument_of_generic h
    refine ⟨iff_of_true harg h, iff_of_false (fun hliteral => ?_) (not_not.mpr h), ?_⟩
    · exact hne.symm (text_eq_of_decodedBy (harg.symm.trans hliteral))
    · intro spelling hmentions
      rw [harg] at hmentions
      refine (not_mentions_class (lacks_of_identifier hq (by decide))
        (lacks_spell (by decide) .java q.type) ?_).elim
      exact (mentions_append_right (mentions_ofList (List.infix_refl _))).trans hmentions
  · have harg := javaArgument_of_not_generic h
    refine ⟨iff_of_false (fun htoken => ?_) h, iff_of_true harg h, ?_⟩
    · exact hne (text_eq_of_decodedBy (harg.symm.trans htoken))
    · intro spelling hmentions hgeneric
      have hlacks : Lacks '<' (javaArgument q) :=
        harg ▸ lacks_decodedBy_classLiteral (lacks_of_identifier hq (by decide)) h
      refine hlacks (hmentions.subset ?_)
      rw [String.toList_append]
      exact List.mem_append_left _ hgeneric

end Operands

section File

variable {s : TypedSignature} {t : TypeExpr}

def javaCall (s : TypedSignature) (arguments : List String) : String :=
  "            " ++ Family.java.spell s.returns ++ " result = solution." ++ s.functionName ++ "("
    ++ Text.joined ", " arguments ++ ");"

lemma map_javaArgument (s : TypedSignature) :
    (Target.java.context s).parameters.map MappedParameter.javaArgument =
      s.parameters.map javaArgument := List.map_map

lemma javaCall_mem_harness (s : TypedSignature) :
    javaCall s (s.parameters.map javaArgument) ∈ (Target.java.context s).harness .java :=
  map_javaArgument s ▸ List.mem_of_getElem? (i := 14) rfl

lemma lacks_javaDefault (h : ¬t.contains .list = true) :
    Lacks '<' (Target.java.defaultReturn (Target.java.mapType t)) := by
  have hreturn : ∀ e, Lacks '<' e → Lacks '<' (Family.java.returnStatement e) := fun e he =>
    lacks_append.mpr ⟨lacks_append.mpr ⟨lacks_ofList (by decide), he⟩, lacks_ofList (by decide)⟩
  obtain htree | ⟨htree, hc⟩ | ⟨p, rfl⟩ := tree_or_collection_or_primitive t
  · rw [defaultReturn_of_tree htree]
    exact hreturn _ (lacks_ofList (by decide))
  · rw [defaultReturn_of_collection htree hc]
    refine hreturn _ ?_
    have hlist : ¬(Target.java.mapType t).category = .list := by
      rintro hcategory
      cases t with
      | list element => exact h rfl
      | _ => cases hcategory
    show Lacks '<' (Family.java.emptyCollection (Target.java.mapType t))
    rw [Family.emptyCollection, if_neg hlist]
    exact lacks_append.mpr ⟨lacks_ofList (by decide), lacks_ofList
      (lacks_sizeFirstDimension (by decide) (mt isGeneric_spell_iff.mp h))⟩
  · rw [defaultReturn_primitive]
    cases p <;> exact hreturn _ (lacks_ofList (by decide))

variable {l : String}

def Listless (s : TypedSignature) : Prop := ∀ t ∈ s.types, ¬t.contains .list = true

lemma lacks_spell_of_listless (h : Listless s) (ht : t ∈ s.types) :
    Lacks '<' (Family.java.spell t) := mt isGeneric_spell_iff.mp (h t ht)

lemma parameter_mem_types {p : TypedParameter} (hp : p ∈ s.parameters) : p.type ∈ s.types :=
  List.mem_append_left _ (List.mem_map_of_mem hp)

lemma returns_mem_types (s : TypedSignature) : s.returns ∈ s.types :=
  List.mem_append_right _ List.mem_cons_self

lemma lacks_typedParameters (hn : Named s) (h : Listless s) :
    Lacks '<' (Text.joined ", " (Target.java.context s).typedNames) := by
  refine lacks_joined (lacks_ofList (by decide)) (List.forall_mem_map.mpr
    (List.forall_mem_map.mpr fun p hp => lacks_append.mpr ⟨lacks_append.mpr ⟨?_, ?_⟩, ?_⟩))
  · exact lacks_spell_of_listless h (parameter_mem_types hp)
  · exact lacks_ofList (by decide)
  · exact lacks_of_identifier (hn.2 p hp) (by decide)

lemma lacks_javaArguments (hn : Named s) (h : Listless s) :
    Lacks '<' (Text.joined ", " (s.parameters.map javaArgument)) := by
  refine lacks_joined (lacks_ofList (by decide)) (List.forall_mem_map.mpr fun p hp => ?_)
  have hspelling := lacks_spell_of_listless h (parameter_mem_types hp)
  rw [javaArgument_of_not_generic hspelling]
  exact lacks_decodedBy_classLiteral (lacks_of_identifier (hn.2 p hp) (by decide)) hspelling

lemma lacks_javaSolution (hn : Named s) (h : Listless s) :
    ∀ l ∈ (Target.java.context s).solution .java, Lacks '<' l := by
  have hname : Lacks '<' s.functionName := lacks_of_identifier hn.1 (by decide)
  have hreturns := lacks_spell_of_listless h (returns_mem_types s)
  have hdefault := lacks_javaDefault (h _ (returns_mem_types s))
  show ∀ l ∈ ["class Solution \x7b",
    "    public " ++ Family.java.spell s.returns ++ " " ++ s.functionName ++ "(" ++
      Text.joined ", " (Target.java.context s).typedNames ++ ") \x7b",
    "        // Write your logic here",
    "        " ++ Target.java.defaultReturn (Target.java.mapType s.returns), "    \x7d", "\x7d"],
    Lacks '<' l
  simp only [List.forall_mem_cons, lacks_append, hname, hreturns, hdefault,
    lacks_typedParameters hn h, and_true, List.not_mem_nil, false_imp_iff, implies_true]
  and_intros <;> exact lacks_ofList (by decide)

lemma lacks_javaHarness (hn : Named s) (h : Listless s) :
    ∀ l ∈ (Target.java.context s).harness .java, Lacks '<' l := by
  have hname : Lacks '<' (Target.java.context s).functionName :=
    lacks_of_identifier hn.1 (by decide)
  have hreturns : Lacks '<' (Target.java.context s).returnMapped.syntaxText :=
    lacks_spell_of_listless h (returns_mem_types s)
  have harguments := lacks_javaArguments hn h
  rw [← map_javaArgument] at harguments
  simp only [Context.harness, Context.javaHarness, List.forall_mem_cons, lacks_append, hname,
    hreturns, harguments, and_true, List.not_mem_nil, false_imp_iff, implies_true]
  and_intros <;> exact lacks_ofList (by decide)

lemma lacks_javaTreeNode (value : Primitive) :
    ∀ l ∈ Target.java.treeNodeLines value, Lacks '<' l := by
  have hval : Lacks '<' (Family.java.primitive value) := by
    cases value <;> exact lacks_ofList (by decide)
  simp only [Target.treeNodeLines, Target.java, List.forall_mem_cons, lacks_append, hval, and_true,
    List.not_mem_nil, false_imp_iff, implies_true]
  and_intros <;> exact lacks_ofList (by decide)

lemma lacks_javaImports (types : List TypeExpr) : ∀ l ∈ Target.java.imports types, Lacks '<' l := by
  have hknown : ∀ l ∈ knownImports .java, Lacks '<' l := by
    simp only [knownImports, List.forall_mem_cons, List.not_mem_nil, false_imp_iff, implies_true,
      and_true]
    and_intros <;> exact lacks_ofList (by decide)
  exact fun l hl => hknown l (imports_known (show Target.java ∈ Target.builtins by decide) hl)

/-- Without a list in the signature, no line of the file has an opening bracket. -/
lemma lacks_javaLines (hn : Named s) (h : Listless s) (hl : l ∈ linesOf (Target.java.render s)) :
    Lacks '<' l := by
  have hempty : ∀ l ∈ [""], Lacks '<' l :=
    List.forall_mem_singleton.mpr (lacks_ofList List.not_mem_nil)
  rw [linesOf_render (by decide) hn] at hl
  obtain ⟨ls, hls, hl⟩ := List.mem_flatMap.mp hl
  refine List.forall_mem_append.mpr ⟨?_, hempty⟩ l hl
  simp only [sections, List.mem_append, List.mem_cons, List.not_mem_nil, or_false] at hls
  obtain ((rfl | hls) | hls) | rfl | rfl := hls
  · exact lacks_javaImports s.types
  · cases hls
  · split_ifs at hls
    · rw [List.mem_singleton.mp hls]
      exact lacks_javaTreeNode _
    · cases hls
  · exact lacks_javaSolution hn h
  · exact lacks_javaHarness hn h

def typeTokenImport : String := "import com.google.gson.reflect.TypeToken;"

lemma typeTokenImport_mem_iff (types : List TypeExpr) :
    typeTokenImport ∈ Target.java.imports types ↔ ∃ t ∈ types, t.contains .list = true := by
  have hany : anyContains types .list = true ↔ ∃ t ∈ types, t.contains .list = true :=
    List.any_eq_true
  rw [← hany, Target.imports]
  show _ ∈ firstOccurrences (Target.java.baselineImports ++
    if anyContains types .list then [typeTokenImport] else []) ↔ _
  cases anyContains types .list <;> decide

/-- The file starts with its imports, its call decodes every parameter legally, and no line speaks
of type tokens unless they are imported. -/
structure GenericsFit (s : TypedSignature) (lines : List String) : Prop where
  opening : ∃ rest, lines = Target.java.imports s.types ++ "" :: rest
  call : javaCall s (s.parameters.map javaArgument) ∈ lines
  decoded : ∀ p ∈ s.parameters, DecodesLegally p
  imported : ∀ l ∈ lines, Mentions "TypeToken<" l → typeTokenImport ∈ Target.java.imports s.types

lemma genericsFit_render (hn : Named s) : GenericsFit s (linesOf (Target.java.render s)) := by
  have hjava : Target.java ∈ Target.builtins := by decide
  refine ⟨linesOf_render_imports hjava hn, ?_, fun p hp => decodesLegally (hn.2 p hp),
    fun l hl hmentions => ?_⟩
  · rw [linesOf_render_eq hjava hn]
    exact List.mem_append_right _ (List.mem_append_right _ (List.mem_cons_of_mem _
      (List.mem_append_left _ (javaCall_mem_harness s))))
  · rw [typeTokenImport_mem_iff]
    by_contra hnone
    have hlistless : Listless s := fun t ht hlist => hnone ⟨t, ht, hlist⟩
    exact not_mentions_of_lacks (x := '<') (by decide) (lacks_javaLines hn hlistless hl) hmentions

/-- Generic types are legal in Java. The spelling of a type is generic exactly if the type holds a
list; its type arguments are those of the lists in the type, and none is a primitive type. In the
file of a signature whose texts are all types, an argument is decoded through a type token exactly
if its spelling is generic and by a class literal otherwise, and type tokens are imported wherever
the file speaks of them. -/
theorem java_generics_legal :
    (∀ t : TypeExpr, (IsGeneric (Family.java.spell t) ↔ t.contains .list = true) ∧
      typeArguments (Family.java.spell t).toList = listArguments t ∧
      ∀ argument ∈ typeArguments (Family.java.spell t).toList, argument ∉ javaPrimitives) ∧
    ∀ s : Signature, WellNamed s → (∀ text ∈ s.typeTexts.all, ∃ t, ofText? text = some t) →
      ∃ typed text, s.typed = .ok typed ∧ Target.java.renderSignature s = .ok text ∧
        GenericsFit typed (linesOf text) := by
  refine ⟨fun t => ⟨isGeneric_spell_iff, typeArguments_spell t, ?_⟩, fun s hn hread => ?_⟩
  · exact fun _ => typeArgument_not_primitive
  · obtain ⟨typed, htyped⟩ := exists_typed hread
    exact ⟨typed, _, htyped, renderSignature_of_typed htyped,
      genericsFit_render (named_of_typed hn htyped)⟩

/-- Signature with a list of lists and an array, of primitives both. -/
def rowsSignature : Signature :=
  ⟨"rows", [⟨"table", "List<List<bool>>"⟩, ⟨"sizes", "long[]"⟩], "int"⟩

def tableParameter : TypedParameter := ⟨"table", .list (.list (.primitive .bool))⟩

def sizesParameter : TypedParameter := ⟨"sizes", .array (.primitive .long)⟩

theorem java_generics_of_rows :
    typeArguments "List<List<Boolean>>".toList = ["List<Boolean>", "Boolean"] ∧
      ∃ text, Target.java.renderSignature rowsSignature = .ok text ∧
        GenericsFit ⟨"rows", [tableParameter, sizesParameter], .primitive .int⟩ (linesOf text) ∧
        javaArgument tableParameter = decodedBy "table" (.token "List<List<Boolean>>") ∧
        javaArgument sizesParameter = decodedBy "sizes" (.classLiteral "long[]") := by
  obtain ⟨hspellings, hfiles⟩ := java_generics_legal
  have hread : rowsSignature.typed =
      .ok ⟨"rows", [tableParameter, sizesParameter], .primitive .int⟩ := by
    decide +kernel
  have htexts : ∀ text ∈ rowsSignature.typeTexts.all, ∃ t, ofText? text = some t := fun text h =>
    (forall₂_left (types_of_typed hread) text h)
  obtain ⟨typed, text, htyped, htext, hfits⟩ := hfiles rowsSignature (by decide) htexts
  cases hread.symm.trans htyped
  have htable := hfits.decoded tableParameter List.mem_cons_self
  have hsizes := hfits.decoded sizesParameter (List.mem_cons_of_mem _ List.mem_cons_self)
  refine ⟨(hspellings (.list (.list (.primitive .bool)))).2.1, text, htext, hfits, ?_, ?_⟩
  · exact htable.token.mpr ((hspellings _).1.mpr rfl)
  · exact hsizes.classLiteral.mpr (mt (hspellings _).1.mp (by decide))

end File

end StubGen.Proofs
