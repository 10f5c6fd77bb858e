import StubGen.Proofs.FileLines

/-!
# Faithfulness of stub files

A stub file can be read back to the interface of its signature: the line after the header of the
solution container declares the function, and the characters between its parts occur in no name and
in no spelling where they would be mistaken. Two signatures with the same stub file have the same
interface.
-/

namespace StubGen.Proofs

/-- The signatures declare the same function in the target language. Different types may have one
spelling there. -/
structure SameInterface (family : Family) (s s' : TypedSignature) : Prop where
  functionName : s.functionName = s'.functionName
  parameters : List.Forall₂
    (fun p p' => p.name = p'.name ∧ family.spell p.type = family.spell p'.type)
    s.parameters s'.parameters
  returns : family.spell s.returns = family.spell s'.returns

section Header

/-- The first line of the solution container. -/
def solutionHeader : Family → String
  | .java | .cpp => "class Solution \x7b"
  | .python => "class Solution:"
  | .javascript => "/**"

lemma solution_eq_cons (c : Context) (family : Family) :
    c.solution family = solutionHeader family :: (c.solution family).tail := by
  cases family <;> rfl

lemma header_not_mem_treeNode (target : Target) (value : Primitive) :
    solutionHeader target.family ∉ target.treeNodeLines value := by
  unfold Target.treeNodeLines
  generalize target.family.primitive value = val
  generalize target.primitiveDefault value = init
  cases target.family
  all_goals
    simp only [solutionHeader, List.mem_cons, List.not_mem_nil, or_false, not_or,
      String.append_assoc]
    and_intros <;> first | exact ofList_ne (by decide) | exact ofList_ne_append (by decide)

variable {target : Target} {s s' : TypedSignature}

lemma header_not_mem_preamble (h : target ∈ Target.builtins) :
    solutionHeader target.family ∉ preamble target s := by
  have hfixed : ∀ family : Family,
      solutionHeader family ∉ "" :: "using namespace std;" :: knownImports family := by
    intro family
    cases family <;> simp only [solutionHeader, knownImports, List.mem_cons, List.not_mem_nil,
      or_false, not_or]
    all_goals and_intros <;> exact ofList_ne (by decide)
  exact not_mem_preamble h (hfixed _) (header_not_mem_treeNode _ _)

/-- Equal files agree from the header of the solution container on. -/
lemma tails_eq (h : target ∈ Target.builtins) (hn : Named s) (hn' : Named s')
    (heq : target.render s = target.render s') :
    ((target.context s).solution target.family).tail ++
        "" :: ((target.context s).harness target.family ++ [""]) =
      ((target.context s').solution target.family).tail ++
        "" :: ((target.context s').harness target.family ++ [""]) := by
  have hlines := congrArg linesOf heq
  rw [linesOf_render_eq h hn, linesOf_render_eq h hn', solution_eq_cons,
    solution_eq_cons (target.context s')] at hlines
  exact (append_cons_cancel (header_not_mem_preamble h) (header_not_mem_preamble h) hlines).2

end Header

section Declarations

variable {family : Family} {s s' : TypedSignature}

lemma forall₂_of_map_eq {α β : Type} {R : α → α → Prop} {f : α → β} {ps ps' : List α}
    (h : ∀ p ∈ ps, ∀ p' ∈ ps', f p = f p' → R p p') (heq : ps.map f = ps'.map f) :
    List.Forall₂ R ps ps' := by
  induction ps generalizing ps' with
  | nil =>
    obtain rfl := List.map_eq_nil_iff.mp heq.symm
    exact List.Forall₂.nil
  | cons p ps ih =>
    obtain ⟨p', tail, rfl, hp, htail⟩ := List.map_eq_cons_iff.mp heq.symm
    have hfirst := h p List.mem_cons_self p' List.mem_cons_self hp.symm
    refine List.Forall₂.cons hfirst (ih ?_ htail.symm)
    exact fun q hq q' hq' => h q (List.mem_cons_of_mem p hq) q' (List.mem_cons_of_mem p' hq')

/-- A parameter behind its type, as in Java and C++. -/
def typeAndName (family : Family) (p : TypedParameter) : String :=
  family.spell p.type ++ (" " ++ p.name)

/-- A parameter in front of its type, as in Python. -/
def nameAndType (family : Family) (p : TypedParameter) : String :=
  p.name ++ (": " ++ family.spell p.type)

variable {x : Char}

lemma lacks_of_identifier_of_not_spelling {name : String} (h : IsIdentifier name)
    (hx : isSpellingChar x = false) : Lacks x name :=
  lacks_of_identifier h (Bool.or_eq_false_iff.mp hx).1

lemma lacks_typeAndName {p : TypedParameter} (hp : IsIdentifier p.name)
    (hx : isSpellingChar x = false) (hblank : Lacks x " ") : Lacks x (typeAndName family p) :=
  lacks_append.mpr ⟨lacks_spell hx family p.type,
    lacks_append.mpr ⟨hblank, lacks_of_identifier_of_not_spelling hp hx⟩⟩

lemma lacks_nameAndType {p : TypedParameter} (hp : IsIdentifier p.name)
    (hx : isSpellingChar x = false) (hcolon : Lacks x ": ") : Lacks x (nameAndType family p) :=
  lacks_append.mpr ⟨lacks_of_identifier_of_not_spelling hp hx,
    lacks_append.mpr ⟨hcolon, lacks_spell hx family p.type⟩⟩

/-- The declaration of a function in Java or C++. -/
def typeFirst (family : Family) (front : String) (s : TypedSignature) : String :=
  front ++ (family.spell s.returns ++ " " ++ s.functionName ++ ("(" ++
    (Text.joined ", " (s.parameters.map (typeAndName family)) ++ ") \x7b")))

lemma sameInterface_of_typeFirst {front : String} (hn : Named s) (hn' : Named s')
    (heq : typeFirst family front s = typeFirst family front s') : SameInterface family s s' := by
  have hopen : ∀ {s}, Named s →
      Lacks '(' (family.spell s.returns ++ " " ++ s.functionName) := fun hn =>
    lacks_append.mpr ⟨lacks_append.mpr ⟨lacks_spell (by decide) family _, lacks_ofList (by decide)⟩,
      lacks_of_identifier hn.1 (by decide)⟩
  have hitem : ∀ {s}, Named s →
      ∀ l ∈ s.parameters.map (typeAndName family), Lacks ',' l ∧ l ≠ "" := by
    refine fun hn => List.forall_mem_map.mpr fun p hp =>
      ⟨lacks_typeAndName (hn.2 p hp) (by decide) (lacks_ofList (by decide)), fun hempty => ?_⟩
    have hname := (String.append_eq_empty_iff.mp (String.append_eq_empty_iff.mp hempty).2).2
    exact ne_empty_of_identifier (hn.2 p hp) hname
  obtain ⟨hfront, hback⟩ := cut_first (hopen hn) (hopen hn') ((String.append_right_inj _).mp heq)
  rw [String.append_assoc, String.append_assoc] at hfront
  -- A spelling may hold blanks, as `long long` does, but no name does: the last one is between.
  obtain ⟨hreturns, hfunction⟩ := cut_last (lacks_of_identifier hn.1 (by decide))
    (lacks_of_identifier hn'.1 (by decide)) hfront
  have hparameters := joined_injective (hitem hn) (hitem hn') ((String.append_left_inj _).mp hback)
  refine ⟨hfunction, forall₂_of_map_eq (fun p hp p' hp' hline => ?_) hparameters, hreturns⟩
  exact (cut_last (lacks_of_identifier (hn.2 p hp) (by decide))
    (lacks_of_identifier (hn'.2 p' hp') (by decide)) hline).symm

/-- What stands between the parentheses of a method in Python. -/
def methodParameters (family : Family) (s : TypedSignature) : List String :=
  "self" :: s.parameters.map (nameAndType family)

lemma lacks_methodParameters (hn : Named s) (hx : isSpellingChar x = false)
    (hcolon : Lacks x ": ") (hself : Lacks x "self") :
    ∀ l ∈ methodParameters family s, Lacks x l :=
  List.forall_mem_cons.mpr ⟨hself, List.forall_mem_map.mpr fun p hp =>
    lacks_nameAndType (hn.2 p hp) hx hcolon⟩

lemma ne_empty_of_mem_methodParameters (hn : Named s) :
    ∀ l ∈ methodParameters family s, l ≠ "" := by
  refine List.forall_mem_cons.mpr ⟨ofList_ne (by decide), List.forall_mem_map.mpr fun p hp => ?_⟩
  intro hempty
  exact ne_empty_of_identifier (hn.2 p hp) (String.append_eq_empty_iff.mp hempty).1

/-- The declaration of a method in Python. -/
def nameFirst (family : Family) (s : TypedSignature) : String :=
  "    def " ++ (s.functionName ++ ("(" ++ (Text.joined ", " (methodParameters family s) ++
    (") -> " ++ (family.spell s.returns ++ ":")))))

lemma sameInterface_of_nameFirst (hn : Named s) (hn' : Named s')
    (heq : nameFirst family s = nameFirst family s') : SameInterface family s s' := by
  have hclose : ∀ {s}, Named s → Lacks ')' (Text.joined ", " (methodParameters family s)) :=
    fun hn => lacks_joined (lacks_ofList (by decide)) (lacks_methodParameters hn (by decide)
      (lacks_ofList (by decide)) (lacks_ofList (by decide)))
  have hitem : ∀ {s}, Named s → ∀ l ∈ methodParameters family s, Lacks ',' l ∧ l ≠ "" :=
    fun hn l hl => ⟨lacks_methodParameters hn (by decide) (lacks_ofList (by decide))
      (lacks_ofList (by decide)) l hl, ne_empty_of_mem_methodParameters hn l hl⟩
  obtain ⟨hfunction, hrest⟩ := cut_first (lacks_of_identifier hn.1 (by decide))
    (lacks_of_identifier hn'.1 (by decide)) ((String.append_right_inj _).mp heq)
  obtain ⟨hjoined, hback⟩ := cut_first (hclose hn) (hclose hn') hrest
  have hreturns := (String.append_left_inj _).mp hback
  have hparameters := (List.cons.inj (joined_injective (hitem hn) (hitem hn') hjoined)).2
  refine ⟨hfunction, forall₂_of_map_eq (fun p hp p' hp' hline => ?_) hparameters, hreturns⟩
  exact cut_first (lacks_of_identifier (hn.2 p hp) (by decide))
    (lacks_of_identifier (hn'.2 p' hp') (by decide)) hline

/-- The lines of the documentation comment of a JavaScript function. -/
def documentation (s : TypedSignature) : List String :=
  (s.parameters.map fun p => " * @param \x7b" ++ (Family.spell .javascript p.type ++
    ("\x7d " ++ p.name))) ++ [" * @return \x7b" ++ (Family.spell .javascript s.returns ++ "\x7d")]

/-- The first line of a JavaScript function. -/
def functionLine (s : TypedSignature) : String :=
  "var " ++ (s.functionName ++ (" = function(" ++
    (Text.joined ", " (s.parameters.map TypedParameter.name) ++ ") \x7b")))

lemma end_not_mem_documentation (s : TypedSignature) : " */" ∉ documentation s := by
  rw [documentation, List.mem_append, List.mem_map, List.mem_singleton, not_or]
  refine ⟨?_, ofList_ne_append (by decide)⟩
  rintro ⟨p, -, hline⟩
  exact ofList_ne_append (by decide) hline.symm

lemma sameInterface_of_documentation (hn : Named s) (hn' : Named s')
    (hdocs : documentation s = documentation s') (hline : functionLine s = functionLine s') :
    SameInterface .javascript s s' := by
  have hbrace : ∀ t, Lacks '\x7d' (Family.spell .javascript t) :=
    lacks_spell (by decide) .javascript
  obtain ⟨hparameters, hreturns⟩ := List.append_inj' hdocs rfl
  have hfunction := (cut_first (lacks_of_identifier hn.1 (by decide))
    (lacks_of_identifier hn'.1 (by decide)) ((String.append_right_inj _).mp hline)).1
  refine ⟨hfunction, forall₂_of_map_eq (fun p _ p' _ hdoc => ?_) hparameters, ?_⟩
  · exact (cut_first (hbrace p.type) (hbrace p'.type) ((String.append_right_inj _).mp hdoc)).symm
  · exact (String.append_left_inj _).mp ((String.append_right_inj _).mp (List.cons.inj hreturns).1)

end Declarations

section Faithfulness

lemma java_tail (s : TypedSignature) : ∃ rest,
    ((Target.java.context s).solution Target.java.family).tail =
      typeFirst .java "    public " s :: rest := by
  refine ⟨_, congrArg (· :: _) ?_⟩
  simp only [typeFirst, Context.typedNames, Target.context, String.append_assoc, List.map_map]
  rfl

lemma python_tail (s : TypedSignature) : ∃ rest,
    ((Target.python.context s).solution Target.python.family).tail =
      nameFirst .python s :: rest := by
  refine ⟨_, congrArg (· :: _) ?_⟩
  simp only [nameFirst, Target.context, String.append_assoc, List.map_map]
  rfl

lemma cpp_tail (s : TypedSignature) : ∃ rest,
    ((Target.cpp.context s).solution Target.cpp.family).tail =
      "public:" :: typeFirst .cpp "    " s :: rest := by
  refine ⟨_, congrArg (fun l => "public:" :: l :: _) ?_⟩
  simp only [typeFirst, Context.typedNames, Target.context, String.append_assoc, List.map_map]
  rfl

lemma javascript_tail (s : TypedSignature) : ∃ rest,
    ((Target.javascript.context s).solution Target.javascript.family).tail =
      documentation s ++ " */" :: functionLine s :: rest := by
  refine ⟨["    // Write your logic here",
    "    " ++ (Target.javascript.context s).defaultReturn, "\x7d;"], ?_⟩
  rw [Target.javascript, Context.solution, Context.javascriptSolution]
  simp only [documentation, functionLine, Context.names, Target.context, List.map_map,
    List.append_assoc, List.cons_append, List.nil_append, List.tail_cons, String.append_assoc]
  rfl

lemma sameInterface_of_render {target : Target} {s s' : TypedSignature}
    (h : target ∈ Target.builtins) (hn : Named s) (hn' : Named s')
    (heq : target.render s = target.render s') : SameInterface target.family s s' := by
  have hlines := tails_eq h hn hn' heq
  obtain rfl | rfl | rfl | rfl := eq_of_mem_builtins h
  · obtain ⟨rest, htail⟩ := java_tail s
    obtain ⟨rest', htail'⟩ := java_tail s'
    rw [htail, htail'] at hlines
    exact sameInterface_of_typeFirst hn hn' (List.cons.inj hlines).1
  · obtain ⟨rest, htail⟩ := python_tail s
    obtain ⟨rest', htail'⟩ := python_tail s'
    rw [htail, htail'] at hlines
    exact sameInterface_of_nameFirst hn hn' (List.cons.inj hlines).1
  · obtain ⟨rest, htail⟩ := cpp_tail s
    obtain ⟨rest', htail'⟩ := cpp_tail s'
    rw [htail, htail'] at hlines
    exact sameInterface_of_typeFirst hn hn' (List.cons.inj (List.cons.inj hlines).2).1
  · obtain ⟨rest, htail⟩ := javascript_tail s
    obtain ⟨rest', htail'⟩ := javascript_tail s'
    rw [htail, htail', List.append_assoc, List.append_assoc] at hlines
    -- The comment is as long as the parameters are many; its last line occurs in it once.
    obtain ⟨hdocs, hrest⟩ := append_cons_cancel (end_not_mem_documentation s)
      (end_not_mem_documentation s') hlines
    exact sameInterface_of_documentation hn hn' hdocs (List.cons.inj hrest).1

/-- The stub file represents its signature faithfully: a signature with identifiers for names whose
types can be read has a file, and signatures with the same file declare a function of the same name
with the same parameter names in the same order, the same type spellings at every position and the
same spelling of the return type. -/
theorem interface_of_same_file {target : Target} (h : target ∈ Target.builtins)
    {s s' : Signature} (hn : WellNamed s) (hn' : WellNamed s') {typed typed' : TypedSignature}
    (htyped : s.typed = .ok typed) (htyped' : s'.typed = .ok typed') :
    ∃ text text', target.renderSignature s = .ok text ∧ target.renderSignature s' = .ok text' ∧
      (text = text' → SameInterface target.family typed typed') :=
  ⟨_, _, renderSignature_of_typed htyped, renderSignature_of_typed htyped',
    sameInterface_of_render h (named_of_typed hn htyped) (named_of_typed hn' htyped')⟩

/-- A signature with an `int` and a `long`, which have one spelling in Python. -/
def intToLong : TypedSignature := ⟨"f", [⟨"n", .primitive .int⟩], .primitive .long⟩

/-- The signature with the two types exchanged. -/
def longToInt : TypedSignature := ⟨"f", [⟨"n", .primitive .long⟩], .primitive .int⟩

theorem interface_of_int_and_long :
    Target.python.renderSignature ⟨"f", [⟨"n", "int"⟩], "long"⟩ =
        Target.python.renderSignature ⟨"f", [⟨"n", "long"⟩], "int"⟩ ∧
      SameInterface .python intToLong longToInt := by
  have hread : Signature.typed ⟨"f", [⟨"n", "int"⟩], "long"⟩ = .ok intToLong := by
    decide +kernel
  have hread' : Signature.typed ⟨"f", [⟨"n", "long"⟩], "int"⟩ = .ok longToInt := by
    decide +kernel
  have heq : Target.python.renderSignature ⟨"f", [⟨"n", "int"⟩], "long"⟩ =
      Target.python.renderSignature ⟨"f", [⟨"n", "long"⟩], "int"⟩ := by
    rw [Target.renderSignature, Target.renderSignature, hread, hread']
    rfl
  obtain ⟨text, text', htext, htext', hsame⟩ :=
    interface_of_same_file (show Target.python ∈ Target.builtins by decide)
      (by decide) (by decide) hread hread'
  refine ⟨heq, hsame ?_⟩
  rw [htext, htext'] at heq
  exact Except.ok.inj heq

end Faithfulness

end StubGen.Proofs
