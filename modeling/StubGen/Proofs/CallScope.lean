import StubGen.Proofs.JavascriptArguments

/-!
# The name that the harness calls

In JavaScript the harness calls the user's function by its bare name, from within blocks that
declare names as well. `scopesAt` reads the declarations in the blocks around a line off the lines
of the file, and `resolve` finds those that a name stands for: the ones of the innermost block that
has any. The call reaches the user's function exactly if the file declares no such name itself.
-/

namespace StubGen.Proofs

section Scopes

/-- A name and the line that declares it. -/
structure Declaration where
  name : String
  line : String
  deriving DecidableEq

/-- What matters for scopes in a line: a declaration and the braces of blocks. -/
inductive Mark where
  | declares (d : Declaration)
  | opens
  | closes
  deriving DecidableEq

def Mark.flip : Mark → Mark
  | declares d => declares d
  | opens => closes
  | closes => opens

/-- The words that declare the name behind them. -/
def keywords : List String := ["const", "let", "var", "function", "class"]

def declaredName? (code : List Char) : Option String := do
  let (keyword, rest) ← word? code
  if keyword ∈ keywords then
    let (name, _) ← rest.dropPrefix? [' '] >>= word?
    return name
  else none

def brace? (c : Char) : Option Mark :=
  if c = '\x7b' then some .opens else if c = '\x7d' then some .closes else none

/-- The marks of a line of code; lines of comments start with a slash or an asterisk. -/
def marks (line : String) : List Mark :=
  let code := line.toList.dropWhile (· == ' ')
  if code.head? = some '/' ∨ code.head? = some '*' then []
  else ((declaredName? code).toList.map fun name => .declares ⟨name, line⟩) ++
    code.filterMap brace?

/-- Goes past a mark; the scopes are those of the open blocks, the innermost first. -/
def enter : List (List Declaration) → Mark → List (List Declaration)
  | scope :: scopes, .declares d => (scope ++ [d]) :: scopes
  | scopes, .opens => [] :: scopes
  | _ :: scopes, .closes => scopes
  | [], _ => []

def scopesAfter (ms : List Mark) : List (List Declaration) := ms.foldl enter [[]]

/-- The scopes of the blocks around the place between two texts. A declaration holds in its whole
block, so that those behind the place count as well; they are found from the end of the file. -/
def scopesAt (before after : List String) : List (List Declaration) :=
  List.zipWith (· ++ ·) (scopesAfter (before.flatMap marks))
    (scopesAfter ((after.flatMap marks).reverse.map Mark.flip))

/-- The declarations of a name in the innermost scope that has any. -/
def resolve (name : String) : List (List Declaration) → List Declaration
  | [] => []
  | scope :: scopes =>
    match scope.filter fun d => d.name = name with
    | [] => resolve name scopes
    | found => found

variable {name : String} {scopes rest : List (List Declaration)} {front : List Declaration}
  {d : Declaration}

lemma filter_eq_nil_iff {scope : List Declaration} :
    (scope.filter fun d => d.name = name) = [] ↔ name ∉ scope.map Declaration.name := by
  simp [List.filter_eq_nil_iff]

lemma resolve_append (h : name ∉ scopes.flatten.map Declaration.name) :
    resolve name (scopes ++ rest) = resolve name rest := by
  induction scopes with
  | nil => rfl
  | cons scope scopes ih =>
    rw [List.flatten_cons, List.map_append, List.mem_append, not_or] at h
    rw [List.cons_append, resolve, filter_eq_nil_iff.mpr h.1]
    exact ih h.2

/-- Scopes that have the name hide those around them. -/
lemma mem_of_mem_resolve (h : name ∈ scopes.flatten.map Declaration.name)
    (hd : d ∈ resolve name (scopes ++ rest)) : d ∈ scopes.flatten := by
  induction scopes with
  | nil => cases h
  | cons scope scopes ih =>
    rw [List.flatten_cons, List.mem_append]
    rw [List.cons_append, resolve] at hd
    split at hd
    · next hnone =>
      rw [List.flatten_cons, List.map_append, List.mem_append,
        or_iff_right (filter_eq_nil_iff.mp hnone)] at h
      exact .inr (ih h hd)
    · exact .inl (List.mem_filter.mp hd).1

/-- A declaration at the end of the outermost scope is all that its name stands for exactly if no
other declaration has the name. -/
lemma resolve_eq_singleton_iff (h : d ∉ scopes.flatten) :
    resolve d.name (scopes ++ [front ++ [d]]) = [d] ↔
      d.name ∉ (scopes.flatten ++ front).map Declaration.name := by
  have hlast : resolve d.name [front ++ [d]] =
      (front.filter fun e => e.name = d.name) ++ [d] := by
    rw [resolve, List.filter_append, List.filter_singleton, decide_eq_true rfl]
    split
    · next hnil => exact (List.append_ne_nil_of_right_ne_nil _ (List.cons_ne_nil _ _) hnil).elim
    · rfl
  rw [List.map_append, List.mem_append, not_or]
  by_cases hscopes : d.name ∈ scopes.flatten.map Declaration.name
  · refine iff_of_false (fun heq => ?_) (fun hnot => hnot.1 hscopes)
    have hmem : d ∈ [d] := List.mem_singleton_self d
    rw [← heq] at hmem
    exact h (mem_of_mem_resolve hscopes hmem)
  · rw [resolve_append hscopes, hlast, List.append_left_eq_self, filter_eq_nil_iff]
    exact (and_iff_right hscopes).symm

end Scopes

section Lines

variable {name keyword line text : String} {rest : List Char} {x : Char}

/-- No block starts or ends in the text. -/
def Braceless (s : String) : Prop := Lacks '\x7b' s ∧ Lacks '\x7d' s

lemma filterMap_brace (h : Braceless text) : text.toList.filterMap brace? = [] := by
  refine List.filterMap_eq_nil_iff.mpr fun c hc => ?_
  have hopen : c ≠ '\x7b' := fun heq => h.1 (heq ▸ hc)
  have hclose : c ≠ '\x7d' := fun heq => h.2 (heq ▸ hc)
  rw [brace?, if_neg hopen, if_neg hclose]

lemma braceless_append {text' : String} :
    Braceless (text ++ text') ↔ Braceless text ∧ Braceless text' := by
  rw [Braceless, lacks_append, lacks_append]
  exact and_and_and_comm

lemma braceless_ofList {cs : List Char} (h : '\x7b' ∉ cs) (h' : '\x7d' ∉ cs) :
    Braceless (String.ofList cs) :=
  ⟨lacks_ofList h, lacks_ofList h'⟩

lemma braceless_of_word (h : IsWord name) : Braceless name :=
  ⟨lacks_of_consists h.2 (by decide), lacks_of_consists h.2 (by decide)⟩

lemma braceless_joined {items : List String} (h : ∀ item ∈ items, Braceless item) :
    Braceless (Text.joined ", " items) :=
  ⟨lacks_joined (lacks_ofList (by decide)) fun item hitem => (h item hitem).1,
    lacks_joined (lacks_ofList (by decide)) fun item hitem => (h item hitem).2⟩

lemma isWord_of_mem_keywords (h : keyword ∈ keywords) : IsWord keyword := by
  simp only [keywords, List.mem_cons, List.not_mem_nil, or_false] at h
  obtain rfl | rfl | rfl | rfl | rfl := h <;> exact isWord_ofList (by decide) (by decide)

lemma declaredName?_append (hkeyword : keyword ∈ keywords) (hname : IsWord name)
    (hrest : EndsWord rest) :
    declaredName? (keyword.toList ++ ' ' :: (name.toList ++ rest)) = some name := by
  have hends : EndsWord (' ' :: (name.toList ++ rest)) := endsWord_cons (by decide)
  have hfirst := word?_append (isWord_of_mem_keywords hkeyword) hends
  have hblank := dropPrefix?_append [' '] (name.toList ++ rest)
  rw [List.singleton_append] at hblank
  unfold declaredName?
  simp only [hfirst, hblank, word?_append hname hrest, Option.bind_eq_bind, Option.bind_some,
    if_pos hkeyword]
  rfl

lemma dropWhile_indent {indent : List Char} (hindent : indent.all (· == ' ') = true)
    (hx : x ≠ ' ') : (indent ++ x :: rest).dropWhile (· == ' ') = x :: rest := by
  rw [List.dropWhile_append_of_pos (List.all_eq_true.mp hindent),
    List.dropWhile_cons_of_neg (by simpa using hx)]

/-- A line that declares a name brings the name and the braces behind it. -/
lemma marks_declaration {indent : List Char} (hindent : indent.all (· == ' ') = true)
    (hkeyword : keyword ∈ keywords) (hname : IsIdentifier name) (hrest : EndsWord rest)
    (hline : line.toList = indent ++ (keyword.toList ++ ' ' :: (name.toList ++ rest))) :
    marks line = .declares ⟨name, line⟩ :: rest.filterMap brace? := by
  have hword := isWord_of_mem_keywords hkeyword
  obtain ⟨c, tail, hchars⟩ : ∃ c tail, keyword.toList = c :: tail :=
    List.exists_cons_of_ne_nil fun hnil => hword.1 (String.toList_eq_nil_iff.mp hnil)
  have hc : Pattern.isWord c = true := hword.2 c (hchars ▸ List.mem_cons_self)
  have hother : ∀ x, Pattern.isWord x = false → c ≠ x := by
    rintro x hx rfl
    rw [hc] at hx
    cases hx
  -- The keyword is neither part of the indentation nor the start of a comment.
  have hcode : line.toList.dropWhile (· == ' ') =
      keyword.toList ++ ' ' :: (name.toList ++ rest) := by
    rw [hline, hchars, List.cons_append, dropWhile_indent hindent (hother ' ' (by decide))]
  have hcomment : ¬((keyword.toList ++ ' ' :: (name.toList ++ rest)).head? = some '/' ∨
      (keyword.toList ++ ' ' :: (name.toList ++ rest)).head? = some '*') := by
    rw [hchars]
    rintro (hslash | hasterisk)
    · exact hother '/' (by decide) (Option.some.inj hslash)
    · exact hother '*' (by decide) (Option.some.inj hasterisk)
  have hwords : ∀ {word}, IsWord word → word.toList.filterMap brace? = [] := fun h =>
    filterMap_brace (braceless_of_word h)
  have hbraces : (keyword.toList ++ ' ' :: (name.toList ++ rest)).filterMap brace? =
      rest.filterMap brace? := by
    rw [List.filterMap_append, hwords hword, List.filterMap_cons_none rfl, List.filterMap_append,
      hwords (isWord_of_identifier hname), List.nil_append, List.nil_append]
  unfold marks
  dsimp only
  rw [hcode, hbraces, if_neg hcomment,
    declaredName?_append hkeyword (isWord_of_identifier hname) hrest]
  rfl

lemma marks_comment (indent : List Char) (hindent : indent.all (· == ' ') = true)
    (hx : x = '/' ∨ x = '*') (hline : line.toList = indent ++ x :: rest) : marks line = [] := by
  have hblank : x ≠ ' ' := by
    rintro rfl
    exact absurd hx (by decide)
  unfold marks
  rw [hline, dropWhile_indent hindent hblank]
  exact if_pos (hx.imp (congrArg some) (congrArg some))

end Lines

section File

variable {s : TypedSignature}

def callLine (s : TypedSignature) : String :=
  Decoder.javascript.call (Target.javascript.context s)

def solutionDeclaration (s : TypedSignature) : Declaration where
  name := s.functionName
  line := "var " ++ s.functionName ++ " = function("
    ++ Text.joined ", " (Target.javascript.context s).names ++ ") \x7b"

def treeNodeDeclaration : Declaration := ⟨"TreeNode", treeNodeOpening .javascript⟩

def builderDeclaration : Declaration := ⟨"buildTree", Decoder.javascript.opening⟩

def fsDeclaration : Declaration := ⟨"fs", "    const fs = require('fs');"⟩

def inputDeclaration : Declaration :=
  ⟨"input", "        const input = fs.readFileSync(0, 'utf8');"⟩

def dataDeclaration : Declaration := ⟨"data", "        const data = JSON.parse(input);"⟩

def resultDeclaration (s : TypedSignature) : Declaration := ⟨"result", callLine s⟩

/-- The declarations around the call in the harness, those of the block of the call first. -/
def harnessScopes (s : TypedSignature) : List (List Declaration) :=
  [[inputDeclaration, dataDeclaration, resultDeclaration s],
   fsDeclaration :: if definesDecoder .javascript (Target.javascript.context s) then
     [builderDeclaration] else []]

/-- The declarations in front of the user's function. -/
def treeNodeDeclarations (types : List TypeExpr) : List Declaration :=
  if Target.treeNodeFor.anyTree types then [treeNodeDeclaration] else []

def beforeCall (s : TypedSignature) : List String :=
  preamble .javascript s ++ ((Target.javascript.context s).javascriptSolution ++
    "" :: (["// Do not edit below this line",
      "if (typeof module !== 'undefined' && module.exports) \x7b",
      "    const fs = require('fs');", ""] ++
    ((if definesDecoder .javascript (Target.javascript.context s) then
      Context.javascriptTreeBuilder ++ [""] else []) ++
    ["    try \x7b", "        const input = fs.readFileSync(0, 'utf8');",
      "        const data = JSON.parse(input);"])))

def afterCall : List String :=
  ["        console.log(JSON.stringify(result));", "    \x7d catch (error) \x7b",
   "        console.error('Error:', error.message);", "        process.exit(1);", "    \x7d",
   "\x7d", ""]

lemma linesOf_call (hn : Named s) :
    linesOf (Target.javascript.render s) = beforeCall s ++ callLine s :: afterCall := by
  rw [linesOf_render_eq (show Target.javascript ∈ Target.builtins by decide) hn]
  show _ ++ (_ ++ _ :: (Context.javascriptHarness _ ++ _)) = _
  simp only [Context.javascriptHarness, beforeCall, List.append_assoc, List.cons_append]
  rfl

lemma marks_treeNodeLines (value : Primitive) :
    (Target.javascript.treeNodeLines value).flatMap marks =
      [.declares treeNodeDeclaration, .opens, .closes] := by
  have hzero : (Target.javascript.treeNodeLines .int).flatMap marks =
      [.declares treeNodeDeclaration, .opens, .closes] := by decide +kernel
  cases value with
  | int | long | float | double => exact hzero
  | bool => decide +kernel
  | string => decide +kernel

lemma marks_preamble (s : TypedSignature) : (preamble .javascript s).flatMap marks =
    if Target.treeNodeFor.anyTree s.types then
      [.declares treeNodeDeclaration, .opens, .closes] else [] := by
  have himports : (importLines .javascript s).flatMap marks = [] := by
    show ["'use strict';", ""].flatMap marks = []
    decide +kernel
  have hblank : [""].flatMap marks = [] := by decide +kernel
  rw [preamble, List.flatMap_append, himports, List.nil_append]
  split_ifs
  · rw [List.flatMap_append, marks_treeNodeLines, hblank, List.append_nil]
  · rfl

lemma marks_defaultReturn (m : MappedType) :
    marks ("    " ++ Target.javascript.defaultReturn m) = [] := by
  have hgive : ∀ expression ∈ ["null", "[]", "0", "false", "\"\""],
      marks ("    " ++ ("return " ++ expression ++ ";")) = [] := by decide +kernel
  have hfallback : marks ("    " ++ "return null;") = [] := by decide +kernel
  unfold Target.defaultReturn
  dsimp only
  split_ifs
  · exact hgive "null" (by simp)
  · exact hgive "[]" (by simp)
  · exact hgive "0" (by simp)
  · exact hgive "false" (by simp)
  · exact hgive "\"\"" (by simp)
  · exact hfallback

lemma braceless_names (hn : Named s) :
    Braceless (Text.joined ", " (Target.javascript.context s).names) := by
  refine braceless_joined fun name hname => ?_
  obtain ⟨p, hp, rfl⟩ := List.mem_map.mp hname
  obtain ⟨q, hq, rfl⟩ := List.mem_map.mp hp
  exact braceless_of_word (isWord_of_identifier (hn.2 q hq))

def argumentText (s : TypedSignature) : String :=
  Text.joined ", "
    ((Target.javascript.context s).parameters.map MappedParameter.javascriptArgument)

lemma braceless_argumentText (hn : Named s) : Braceless (argumentText s) := by
  refine braceless_joined fun argument hargument => ?_
  obtain ⟨p, hp, rfl⟩ := List.mem_map.mp hargument
  obtain ⟨q, hq, rfl⟩ := List.mem_map.mp hp
  have hname : Braceless (Target.javascript.mapParameter q).name :=
    braceless_of_word (isWord_of_identifier (hn.2 q hq))
  unfold MappedParameter.javascriptArgument
  split_ifs
  · refine braceless_append.mpr ⟨braceless_append.mpr ⟨?_, hname⟩, ?_⟩
    all_goals exact braceless_ofList (by decide) (by decide)
  · exact braceless_append.mpr ⟨braceless_ofList (by decide) (by decide), hname⟩

lemma marks_solutionDeclaration (hn : Named s) :
    marks (solutionDeclaration s).line = [.declares (solutionDeclaration s), .opens] := by
  have hnames := filterMap_brace (braceless_names hn)
  have hline : (solutionDeclaration s).line.toList =
      [] ++ ("var".toList ++ ' ' :: (s.functionName.toList ++ (" = function(".toList ++
        ((Text.joined ", " (Target.javascript.context s).names).toList ++ ") \x7b".toList)))) := by
    have hvar : "var ".toList = "var".toList ++ [' '] := by decide +kernel
    simp only [solutionDeclaration, String.toList_append, List.append_assoc, hvar,
      List.nil_append, List.cons_append]
  have hrest : (" = function(".toList ++ ((Text.joined ", "
      (Target.javascript.context s).names).toList ++ ") \x7b".toList)).filterMap brace? =
        [.opens] := by
    have hopen : ") \x7b".toList.filterMap brace? = [.opens] := by decide +kernel
    have hequals : " = function(".toList.filterMap brace? = [] := by decide +kernel
    rw [List.filterMap_append, List.filterMap_append, hnames, hequals, hopen]
    rfl
  have hvar : "var" ∈ keywords := by decide +kernel
  have hends : EndsWord (" = function(".toList ++
      ((Text.joined ", " (Target.javascript.context s).names).toList ++ ") \x7b".toList)) :=
    endsWord_cons (by decide)
  rw [marks_declaration List.all_nil hvar hn.1 hends hline, hrest]
  rfl

lemma marks_solution (hn : Named s) :
    (Target.javascript.context s).javascriptSolution.flatMap marks =
      [.declares (solutionDeclaration s), .opens, .closes] := by
  have hcomments : ∀ text : String, marks (" * @param \x7b" ++ text) = [] ∧
      marks (" * @return \x7b" ++ text) = [] := by
    intro text
    constructor <;> exact marks_comment [' '] rfl (.inr rfl) (String.toList_append ..)
  have hfixed : ∀ line ∈ ["/**", " */", "    // Write your logic here"], marks line = [] := by
    decide +kernel
  simp only [List.forall_mem_cons] at hfixed
  have hclose : marks "\x7d;" = [.closes] := by decide +kernel
  have hdocumented : ((Target.javascript.context s).parameters.map fun p =>
      " * @param \x7b" ++ p.mapped.syntaxText ++ "\x7d " ++ p.name).flatMap marks = [] := by
    refine List.flatMap_eq_nil_iff.mpr (List.forall_mem_map.mpr fun p _ => ?_)
    rw [String.append_assoc, String.append_assoc]
    exact (hcomments _).1
  have hreturn := (hcomments ((Target.javascript.context s).returnMapped.syntaxText ++ "\x7d")).2
  rw [← String.append_assoc] at hreturn
  have hopen : marks ("var " ++ (Target.javascript.context s).functionName ++ " = function("
      ++ Text.joined ", " (Target.javascript.context s).names ++ ") \x7b") =
        [.declares (solutionDeclaration s), .opens] := marks_solutionDeclaration hn
  have hdefault : marks ("    " ++ (Target.javascript.context s).defaultReturn) = [] :=
    marks_defaultReturn (Target.javascript.mapType s.returns)
  unfold Context.javascriptSolution
  simp only [List.flatMap_append, List.flatMap_cons, List.flatMap_nil, hdocumented, hreturn,
    hfixed.1, hfixed.2.1, hfixed.2.2.1, hopen, hdefault, hclose, List.nil_append, List.append_nil]
  rfl

lemma marks_call (hn : Named s) : marks (callLine s) = [.declares (resultDeclaration s)] := by
  let rest := " = " ++ (s.functionName ++ ("(" ++ (argumentText s ++ ");")))
  have hbraces : Braceless rest := by
    simp only [rest, braceless_append, braceless_argumentText hn,
      braceless_of_word (isWord_of_identifier hn.1), true_and]
    refine ⟨?_, ?_, ?_⟩ <;> exact braceless_ofList (by decide) (by decide)
  have hline : (callLine s).toList =
      List.replicate 8 ' ' ++ ("const".toList ++ ' ' :: ("result".toList ++ rest.toList)) := by
    have hfront : "        const result = ".toList =
        List.replicate 8 ' ' ++ ("const".toList ++ ' ' :: ("result".toList ++ " = ".toList)) := by
      decide +kernel
    show ("        const result = " ++ s.functionName ++ "(" ++ argumentText s ++ ");").toList = _
    simp only [rest, String.toList_append, hfront, List.append_assoc, List.cons_append]
  have hends : EndsWord rest.toList := by
    rw [String.toList_append]
    exact endsWord_cons (by decide)
  have hconst : "const" ∈ keywords := by decide +kernel
  have hresult : IsIdentifier "result" := by decide +kernel
  rw [marks_declaration rfl hconst hresult hends hline, filterMap_brace hbraces]
  rfl

/-- The marks in front of the call, section by section. -/
lemma marks_beforeCall (hn : Named s) : (beforeCall s).flatMap marks =
    (if Target.treeNodeFor.anyTree s.types then
      [.declares treeNodeDeclaration, .opens, .closes] else []) ++
    ([.declares (solutionDeclaration s), .opens, .closes] ++
    ([.opens, .declares fsDeclaration] ++
    ((if definesDecoder .javascript (Target.javascript.context s) then
      [.declares builderDeclaration, .opens, .opens, .closes, .closes]
      else []) ++
    [.opens, .declares inputDeclaration, .declares dataDeclaration]))) := by
  have hblank : marks "" = [] := by decide +kernel
  have hhead : ["// Do not edit below this line",
      "if (typeof module !== 'undefined' && module.exports) \x7b",
      "    const fs = require('fs');", ""].flatMap marks =
        [.opens, .declares fsDeclaration] := by decide +kernel
  have hbuilder : (Context.javascriptTreeBuilder ++ [""]).flatMap marks =
      [.declares builderDeclaration, .opens, .opens, .closes, .closes] := by
    decide +kernel
  have htry : ["    try \x7b", "        const input = fs.readFileSync(0, 'utf8');",
      "        const data = JSON.parse(input);"].flatMap marks =
        [.opens, .declares inputDeclaration, .declares dataDeclaration] := by decide +kernel
  rw [beforeCall, List.flatMap_append, marks_preamble, List.flatMap_append, marks_solution hn,
    List.flatMap_cons, hblank, List.nil_append, List.flatMap_append, hhead, List.flatMap_append,
    htry]
  congr 4
  split_ifs
  · exact hbuilder
  · rfl

lemma marks_afterCall : afterCall.flatMap marks = [.closes, .opens, .closes, .closes] := by
  decide +kernel

/-- The user's function is declared around the declarations of the harness. -/
lemma scopesAt_call (hn : Named s) :
    scopesAt (beforeCall s ++ [callLine s]) afterCall =
      harnessScopes s ++ [treeNodeDeclarations s.types ++ [solutionDeclaration s]] := by
  rw [scopesAt, marks_afterCall, List.flatMap_append, marks_beforeCall hn, List.flatMap_singleton,
    marks_call hn, treeNodeDeclarations, harnessScopes]
  -- With both optional definitions decided, the marks are fixed but for the names.
  cases Target.treeNodeFor.anyTree s.types <;>
    cases definesDecoder .javascript (Target.javascript.context s) <;> rfl

end File

section Call

variable {s : TypedSignature}

/-- The names that a file declares around the call, besides that of the user's function. -/
def harnessNames (s : TypedSignature) : List String :=
  ["input", "data", "result", "fs"] ++
    (if s.parameters.any fun p => p.type.category = .tree then ["buildTree"] else []) ++
    (if Target.treeNodeFor.anyTree s.types then ["TreeNode"] else [])

lemma map_name_harness (s : TypedSignature) :
    ((harnessScopes s).flatten ++ treeNodeDeclarations s.types).map Declaration.name =
      harnessNames s := by
  have hdefines : definesDecoder .javascript (Target.javascript.context s) =
      s.parameters.any fun p => p.type.category = .tree := by
    rw [definesDecoder, Target.context, List.any_map]
    rfl
  rw [harnessScopes, treeNodeDeclarations, harnessNames, hdefines]
  cases Target.treeNodeFor.anyTree s.types <;>
    cases s.parameters.any fun p => p.type.category = .tree <;> rfl

lemma indented_harness (s : TypedSignature) :
    ∀ d ∈ (harnessScopes s).flatten, d.line.toList.head? = some ' ' := by
  have hfixed : ∀ d ∈ [inputDeclaration, dataDeclaration, fsDeclaration, builderDeclaration],
      d.line.toList.head? = some ' ' := by decide +kernel
  have hcall : (resultDeclaration s).line.toList.head? = some ' ' := by
    show ("        const result = " ++ s.functionName ++ "(" ++ argumentText s ++ ");").toList.head?
      = some ' '
    simp only [String.toList_append, List.append_assoc]
    rfl
  simp only [List.forall_mem_cons, List.not_mem_nil, false_imp_iff, implies_true, and_true] at hfixed
  obtain ⟨hinput, hdata, hfs, hbuilder⟩ := hfixed
  simp only [harnessScopes, List.flatten_cons, List.flatten_nil, List.append_nil,
    List.forall_mem_append, List.forall_mem_cons]
  refine ⟨⟨hinput, hdata, hcall, by simp⟩, hfs, ?_⟩
  split_ifs
  · exact List.forall_mem_singleton.mpr hbuilder
  · exact fun d hd => (List.not_mem_nil hd).elim

/-- What the harness declares is indented, and the user's function is not. -/
lemma solutionDeclaration_not_mem (s : TypedSignature) :
    solutionDeclaration s ∉ (harnessScopes s).flatten := by
  intro hmem
  have hhead := indented_harness s _ hmem
  simp only [solutionDeclaration, String.toList_append, List.append_assoc] at hhead
  cases hhead

/-- Only the line of the call declares the result. -/
lemma call_not_mem (hn : Named s) : callLine s ∉ beforeCall s ∧ callLine s ∉ afterCall := by
  have hresult : .declares (resultDeclaration s) ∈ marks (callLine s) := by
    rw [marks_call hn]
    exact List.mem_singleton_self _
  constructor
  · intro hmem
    have hmarks := List.mem_flatMap.mpr ⟨_, hmem, hresult⟩
    have hsolution : resultDeclaration s ≠ solutionDeclaration s := by
      intro heq
      refine solutionDeclaration_not_mem s ?_
      rw [← heq]
      simp [harnessScopes]
    have hnames : ∀ d ∈ [treeNodeDeclaration, builderDeclaration, fsDeclaration, inputDeclaration,
        dataDeclaration], d.name ≠ "result" := by decide +kernel
    have hfixed : ∀ d ∈ [treeNodeDeclaration, builderDeclaration, fsDeclaration, inputDeclaration,
        dataDeclaration], resultDeclaration s ≠ d := fun d hd heq =>
      hnames d hd (congrArg Declaration.name heq).symm
    simp only [List.forall_mem_cons] at hfixed
    rw [marks_beforeCall hn] at hmarks
    split_ifs at hmarks <;> simp [hsolution, hfixed] at hmarks
  · intro hmem
    have hmarks := List.mem_flatMap.mpr ⟨_, hmem, hresult⟩
    rw [marks_afterCall] at hmarks
    simp at hmarks

/-- Wherever the call stands, its name reaches the user's function alone unless the file declares
the name itself. -/
lemma resolve_call (hn : Named s) {before after : List String}
    (h : linesOf (Target.javascript.render s) = before ++ callLine s :: after) :
    resolve s.functionName (scopesAt (before ++ [callLine s]) after) = [solutionDeclaration s] ↔
      s.functionName ∉ harnessNames s := by
  obtain ⟨hbefore, hafter⟩ := call_not_mem hn
  have hlines := linesOf_call hn
  -- The call stands once only, so that there is no other way to cut the file at it.
  have hfirst : callLine s ∉ before := by
    have hcount := congrArg (List.count (callLine s)) (h.symm.trans hlines)
    rw [List.count_append, List.count_append, List.count_cons_self, List.count_cons_self,
      List.count_eq_zero.mpr hbefore, List.count_eq_zero.mpr hafter] at hcount
    exact List.count_eq_zero.mp (by omega)
  obtain ⟨rfl, rfl⟩ := append_cons_cancel hfirst hbefore (h.symm.trans hlines)
  have hname : s.functionName = (solutionDeclaration s).name := rfl
  rw [scopesAt_call hn, ← map_name_harness, hname]
  exact resolve_eq_singleton_iff (solutionDeclaration_not_mem _)

/-- In JavaScript the call of the harness reaches the user's function, and that function shares its
name with no helper, exactly if the file declares no such name around the call itself. -/
theorem call_reaches_solution_iff {settings : Settings} {source : SignatureSource} {s : Signature}
    {text : String} (hs : source.signature = .ok s) (hn : WellNamed s)
    (h : Registry.builtin.generate settings source "javascript" = .ok text) :
    ∃ typed, s.typed = .ok typed ∧ callLine typed ∈ linesOf text ∧
      ∀ before after, linesOf text = before ++ callLine typed :: after →
        (resolve typed.functionName (scopesAt (before ++ [callLine typed]) after) =
            [solutionDeclaration typed] ↔
          typed.functionName ∉ harnessNames typed) := by
  obtain ⟨typed, htyped, rfl⟩ := typed_of_generate hs h
  have hnamed : Named typed := named_of_typed hn htyped
  refine ⟨typed, htyped, ?_, fun before after => resolve_call hnamed⟩
  rw [linesOf_call hnamed]
  exact List.mem_append_right _ List.mem_cons_self

theorem call_reaches_graft :
    ∃ text, Registry.builtin.generate (.default .builtin) (.read graftSignature) "javascript" =
        .ok text ∧ ∃ before after, linesOf text = before ++ callLine graftTyped :: after ∧
      resolve "graft" (scopesAt (before ++ [callLine graftTyped]) after) =
        [solutionDeclaration graftTyped] := by
  obtain ⟨text, htext⟩ := exists_graft_generated
  obtain ⟨typed, htyped, hmem, hiff⟩ := call_reaches_solution_iff rfl (by decide) htext
  cases typed_graftSignature.symm.trans htyped
  obtain ⟨before, after, hlines⟩ := List.append_of_mem hmem
  exact ⟨text, htext, before, after, hlines, (hiff before after hlines).mpr (by decide +kernel)⟩

/-- A function with the name of the decoded input. -/
def dataSignature : Signature := ⟨"data", [⟨"x", "int"⟩], "int"⟩

def dataTyped : TypedSignature := ⟨"data", [⟨"x", .primitive .int⟩], .primitive .int⟩

/-- The call of a function with that name reaches the decoded input instead. -/
theorem call_reaches_input :
    ∃ text, Registry.builtin.generate (.default .builtin) (.read dataSignature) "javascript" =
        .ok text ∧ ∃ before after, linesOf text = before ++ callLine dataTyped :: after ∧
      resolve "data" (scopesAt (before ++ [callLine dataTyped]) after) = [dataDeclaration] := by
  have hsome : (Registry.builtin.generate (.default .builtin) (.read dataSignature)
      "javascript").toOption.isSome = true := by
    decide +kernel
  obtain ⟨text, hgenerated⟩ := Option.isSome_iff_exists.mp hsome
  have htext := toOption_eq_some_iff.mp hgenerated
  have htyped : dataSignature.typed = .ok dataTyped := by decide +kernel
  have hwell : WellNamed dataSignature := by decide
  obtain ⟨typed, htyped', rfl⟩ := typed_of_generate rfl htext
  cases htyped.symm.trans htyped'
  have hn : Named dataTyped := named_of_typed hwell htyped
  refine ⟨_, htext, beforeCall dataTyped, afterCall, linesOf_call hn, ?_⟩
  rw [scopesAt_call hn]
  decide +kernel

end Call

end StubGen.Proofs
