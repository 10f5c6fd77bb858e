import StubGen.Proofs.GenerationOutcome
import StubGen.Proofs.PythonArguments

/-!
# Arguments in JavaScript

Where a parameter is a tree itself, the file in JavaScript rebuilds it as the file in Python does. A
tree further inside reaches the solution as it was decoded, although the function that rebuilds
trees could be applied to it.
-/

namespace StubGen.Proofs

section Text

variable {p : MappedParameter} {rest : List Char}

lemma javascript_key?_append {key : String} (h : IsIdentifier key) (hrest : Closes rest) :
    Dialect.javascript.key? ('.' :: (key.toList ++ rest)) = some (key, rest) := by
  have hopen := dropPrefix?_append ['.'] (key.toList ++ rest)
  have hword := word?_append (isWord_of_identifier h) (endsWord_of_closes hrest)
  simp only [List.cons_append, List.nil_append] at hopen
  unfold Dialect.javascript
  simp only [hopen, hword, Option.bind_eq_bind, Option.bind_some]

lemma expression?_javascriptArgument (hp : IsIdentifier p.name) :
    Dialect.javascript.expression? p.javascriptArgument =
      some (if p.type.category = .tree then .call "buildTree" (.field "data" p.name)
        else .field "data" p.name) := by
  have hdata : IsWord "data" := isWord_ofList (by decide) (by decide)
  have hfunction : IsWord "buildTree" := isWord_ofList (by decide) (by decide)
  -- The access to the parameter, before whatever may follow it.
  have hfield : ∀ {fuel rest}, Closes rest → Dialect.javascript.read (fuel + 1)
      ("data".toList ++ '.' :: (p.name.toList ++ rest)) = some (.field "data" p.name, rest) :=
    fun hrest => read_field hdata (by decide) (by decide) (javascript_key?_append hp hrest)
  unfold Dialect.expression? MappedParameter.javascriptArgument
  split_ifs
  · have htext : ("buildTree(data." ++ p.name ++ ")").toList =
        "buildTree".toList ++ '(' :: ("data".toList ++ '.' :: (p.name.toList ++ [')'])) := by
      simp only [String.toList_append, List.append_assoc]
      rfl
    obtain ⟨fuel, hfuel⟩ : ∃ n, ("buildTree(data." ++ p.name ++ ")").length = n + 1 := by
      refine ⟨15 + p.name.length, ?_⟩
      simp only [String.length_append]
      have hfront : "buildTree(data.".length = 15 := rfl
      have hback : ")".length = 1 := rfl
      omega
    rw [htext, hfuel, read_call hfunction (hfield (closes_cons (by decide)))]
  · have htext : ("data." ++ p.name).toList = "data".toList ++ '.' :: (p.name.toList ++ []) := by
      rw [List.append_nil, String.toList_append]
      rfl
    rw [htext, hfield closes_nil]

end Text

section Evaluation

variable {p : TypedParameter} {s : TypedSignature}

/-- A value of the type, with one item in each list and nothing in each tree. -/
def sample : TypeExpr → Json
  | .array element | .list element => .arr [sample element]
  | _ => .null

lemma conforms_sample (t : TypeExpr) : Conforms t (sample t) := by
  induction t with
  | array element ih | list element ih =>
    refine ⟨_, rfl, fun item hitem => ?_⟩
    rw [List.mem_singleton.mp hitem]
    exact ih
  | _ => trivial

/-- A function that makes an object of everything changes the sample of a type with a tree. -/
lemma rebuilt_sample_ne {t : TypeExpr} (h : t.contains .tree = true) :
    rebuilt (fun _ => some (.object ())) t (.ofJson (sample t)) ≠ some (.ofJson (sample t)) := by
  induction t with
  | array element ih | list element ih =>
    intro heq
    apply ih h
    rw [sample, Value.ofJson, Value.ofItems, Value.ofItems, rebuilt, List.mapM_cons,
      List.mapM_nil] at heq
    cases hitem : rebuilt (fun _ => some (.object ())) element (.ofJson (sample element)) with
    | none =>
      rw [hitem] at heq
      cases heq
    | some v =>
      rw [hitem] at heq
      cases heq
      rfl
  | tree value =>
    intro heq
    rw [rebuilt] at heq
    cases heq
  | primitive q => cases h
  | graph => cases h

/-- From every decoded input that holds the parameter, the expression gives it as it was decoded. -/
def PassesDecoded (p : TypedParameter) (e : Expr) : Prop :=
  ∀ (ν : Type) (build : Value ν → Option (Value ν)) (scope : String → Option (Value ν))
    (fields : Json.Fields) (j : Json),
    scope "data" = some (.ofJson (.obj fields)) → Json.lookup p.name fields = some j →
    e.eval build scope = some (.ofJson j)

lemma passesDecoded_field (p : TypedParameter) : PassesDecoded p (.field "data" p.name) := by
  intro ν build scope fields j hdata hfield
  rw [Expr.eval, hdata]
  exact Value.field?_ofJson hfield

lemma not_passesRebuilt_of_decoded {e : Expr} (he : PassesDecoded p e)
    (htree : p.type.contains .tree = true) (builder : String) (hbuilder : builder ≠ "data") :
    ¬PassesRebuilt builder p e := by
  intro hpasses
  let fields : Json.Fields := [(.whole p.name, sample p.type)]
  let scope : String → Option (Value Unit) := fun name =>
    if name = "data" then some (.ofJson (.obj fields)) else some .builder
  have hfield : Json.lookup p.name fields = some (sample p.type) := if_pos rfl
  have hscope : scope builder = some .builder := if_neg hbuilder
  have hplain := he Unit (fun _ => some (.object ())) scope fields _ rfl hfield
  have hrebuilt := hpasses Unit (fun _ => some (.object ())) scope fields _ rfl hscope hfield
    (conforms_sample p.type)
  exact rebuilt_sample_ne htree (hrebuilt.symm.trans hplain)

lemma passesRebuilt_call {e : Expr} (he : PassesDecoded p e) (htop : p.type.category = .tree)
    (builder : String) : PassesRebuilt builder p (.call builder e) := by
  obtain ⟨value, ht⟩ : ∃ value, p.type = .tree value := by
    cases h : p.type with
    | tree value => exact ⟨value, rfl⟩
    | _ =>
      rw [h] at htop
      cases htop
  intro ν build scope fields j hdata hbuilder hfield _
  rw [Expr.eval, hbuilder, he ν build scope fields j hdata hfield, ht]
  rfl

lemma expression?_decoded (hname : IsIdentifier p.name) (htop : p.type.category ≠ .tree) :
    Dialect.javascript.expression? (Target.javascript.mapParameter p).javascriptArgument =
      some (.field "data" p.name) := by
  have hread : IsIdentifier (Target.javascript.mapParameter p).name := hname
  rw [expression?_javascriptArgument hread]
  exact congrArg some (if_neg htop)

lemma rebuildsTrees_javascript_iff (hn : Named s) (hp : p ∈ s.parameters)
    (htree : p.type.contains .tree = true) :
    RebuildsTrees .javascript (Target.javascript.context s) (Target.javascript.mapParameter p)
      (linesOf (Target.javascript.render s)) ↔ p.type.category = .tree := by
  have hname : IsIdentifier (Target.javascript.mapParameter p).name := hn.2 p hp
  have hfits := helperFits_render (show Target.javascript ∈ Target.builtins by decide) hn
  by_cases htop : p.type.category = .tree
  · have hmapped : (Target.javascript.mapParameter p).type.category = .tree := htop
    have happlied : Mentions "buildTree(" (Target.javascript.mapParameter p).javascriptArgument :=
      (mentions_javascriptArgument_iff hname).mpr htop
    have hmem : Target.javascript.mapParameter p ∈ (Target.javascript.context s).parameters :=
      List.mem_map_of_mem hp
    have hread := expression?_javascriptArgument hname
    rw [if_pos hmapped] at hread
    have hpasses := passesRebuilt_call (passesDecoded_field p) htop "buildTree"
    exact iff_of_true ⟨hfits.call _ rfl, ⟨_, hread, hpasses⟩,
      (hfits.decoder _ rfl).mpr ⟨_, hmem, happlied⟩⟩ htop
  · refine iff_of_false (fun hrebuilds => ?_) htop
    obtain ⟨e, he, hpasses⟩ := hrebuilds.argument
    have hdecoded : e = .field "data" p.name :=
      Option.some.inj (he.symm.trans (expression?_decoded hname htop))
    rw [hdecoded] at hpasses
    exact not_passesRebuilt_of_decoded (passesDecoded_field p) htree "buildTree" (by decide) hpasses

end Evaluation

section Generation

variable {settings : Settings} {source : SignatureSource} {s : Signature} {text : String}

lemma typed_of_generate (hs : source.signature = .ok s)
    (h : Registry.builtin.generate settings source "javascript" = .ok text) :
    ∃ typed, s.typed = .ok typed ∧ text = Target.javascript.render typed := by
  have hfind : Registry.builtin.find? "javascript" = some Target.javascript := by decide
  cases generate_eq_iff_outcome.mp h with
  | generated hl hs' hnone ht htyped =>
    cases hfind.symm.trans ht
    cases hs.symm.trans hs'
    exact ⟨_, htyped, rfl⟩

end Generation

/-- The trees in a parameter reach the solution in JavaScript rebuilt exactly if the parameter is a
tree itself, and otherwise the parameter is passed as it was decoded. The file in Python rebuilds
them wherever they are. -/
theorem javascript_rebuilds_iff {settings : Settings} {source : SignatureSource} {s : Signature}
    {text : String} (hs : source.signature = .ok s) (hn : WellNamed s)
    (h : Registry.builtin.generate settings source "javascript" = .ok text) :
    ∃ typed, s.typed = .ok typed ∧
      ∀ p ∈ typed.parameters, p.type.contains .tree = true →
        RebuildsTrees .python (Target.python.context typed) (Target.python.mapParameter p)
          (linesOf (Target.python.render typed)) ∧
        (RebuildsTrees .javascript (Target.javascript.context typed)
          (Target.javascript.mapParameter p) (linesOf text) ↔ p.type.category = .tree) ∧
        (p.type.category ≠ .tree → ∃ e, Dialect.javascript.expression?
          (Target.javascript.mapParameter p).javascriptArgument = some e ∧ PassesDecoded p e) := by
  obtain ⟨typed, htyped, rfl⟩ := typed_of_generate hs h
  have hnamed : Named typed := named_of_typed hn htyped
  refine ⟨typed, htyped, fun p hp htree => ⟨rebuildsTrees_python hnamed hp htree,
    rebuildsTrees_javascript_iff hnamed hp htree, fun htop => ?_⟩⟩
  exact ⟨_, expression?_decoded (hnamed.2 p hp) htop, passesDecoded_field p⟩

/-- A signature with a tree and a list of trees. -/
def graftSignature : Signature :=
  ⟨"graft", [⟨"root", "Tree<int>"⟩, ⟨"forest", "List<Tree<int>>"⟩], "int"⟩

def graftTyped : TypedSignature :=
  ⟨"graft", [⟨"root", .tree .int⟩, ⟨"forest", .list (.tree .int)⟩], .primitive .int⟩

lemma typed_graftSignature : graftSignature.typed = .ok graftTyped := by
  decide +kernel

lemma exists_graft_generated : ∃ text,
    Registry.builtin.generate (.default .builtin) (.read graftSignature) "javascript" =
      .ok text := by
  have hsome : (Registry.builtin.generate (.default .builtin) (.read graftSignature)
      "javascript").toOption.isSome = true := by
    decide +kernel
  obtain ⟨text, htext⟩ := Option.isSome_iff_exists.mp hsome
  exact ⟨text, toOption_eq_some_iff.mp htext⟩

theorem javascript_rebuilds_root :
    ∃ text, Registry.builtin.generate (.default .builtin) (.read graftSignature) "javascript" =
        .ok text ∧
      RebuildsTrees .javascript (Target.javascript.context graftTyped)
        (Target.javascript.mapParameter ⟨"root", .tree .int⟩) (linesOf text) := by
  obtain ⟨text, htext⟩ := exists_graft_generated
  have hn : WellNamed graftSignature := by decide
  obtain ⟨typed, htyped, hall⟩ := javascript_rebuilds_iff rfl hn htext
  cases typed_graftSignature.symm.trans htyped
  exact ⟨text, htext, (hall _ List.mem_cons_self rfl).2.1.mpr rfl⟩

/-- Beside a tree that is rebuilt, the trees of a list are passed as they were decoded. -/
theorem javascript_passes_forest_decoded :
    ∃ text, Registry.builtin.generate (.default .builtin) (.read graftSignature) "javascript" =
        .ok text ∧ Decoder.javascript.opening ∈ linesOf text ∧
      RebuildsTrees .python (Target.python.context graftTyped)
        (Target.python.mapParameter ⟨"forest", .list (.tree .int)⟩)
        (linesOf (Target.python.render graftTyped)) ∧
      ¬RebuildsTrees .javascript (Target.javascript.context graftTyped)
        (Target.javascript.mapParameter ⟨"forest", .list (.tree .int)⟩) (linesOf text) := by
  obtain ⟨text, htext⟩ := exists_graft_generated
  obtain ⟨typed, htyped, htarget⟩ := typed_of_generate rfl htext
  cases typed_graftSignature.symm.trans htyped
  have hn : Named graftTyped := named_of_typed (by decide) typed_graftSignature
  have hroot : ⟨"root", .tree .int⟩ ∈ graftTyped.parameters := List.mem_cons_self
  have hforest : ⟨"forest", .list (.tree .int)⟩ ∈ graftTyped.parameters :=
    List.mem_cons_of_mem _ List.mem_cons_self
  refine ⟨text, htext, ?_, rebuildsTrees_python hn hforest rfl, ?_⟩
  · rw [htarget]
    exact ((rebuildsTrees_javascript_iff hn hroot rfl).mpr rfl).defined
  · rw [htarget, rebuildsTrees_javascript_iff hn hforest rfl]
    decide

end StubGen.Proofs
