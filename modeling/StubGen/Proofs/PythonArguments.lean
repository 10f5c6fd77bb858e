import Mathlib.Data.List.Nodup
import StubGen.Proofs.ArgumentMeaning

/-!
# Arguments in Python

The argument for a parameter is an expression that rebuilds every tree in the parameter's value and
keeps the lists around them. Its comprehensions have variables of their own.
-/

namespace StubGen.Proofs

section Text

variable {d : Decoding} {rest : List Char} {fuel : Nat}

/-- The expression that a decoding stands for. -/
def meaning : Decoding → Expr
  | .field name => .field "data" name
  | .item depth => .var (Decoding.itemName depth)
  | .buildTree source => .call "_build_tree" (meaning source)
  | .collect body depth source =>
    .collect (meaning body) (Decoding.itemName depth) (meaning source)

/-- The names in the decoding are identifiers. -/
def HasIdentifiers : Decoding → Prop
  | .field name => IsIdentifier name
  | .item _ => True
  | .buildTree source => HasIdentifiers source
  | .collect body _ source => HasIdentifiers body ∧ HasIdentifiers source

lemma python_key?_of_closes (h : Closes rest) : Dialect.python.key? rest = none := by
  cases rest with
  | nil => rfl
  | cons c rest =>
    obtain rfl | rfl | rfl := h c rfl <;> rfl

lemma python_key?_append {key : String} (h : IsIdentifier key) :
    Dialect.python.key? ('[' :: '"' :: (key.toList ++ '"' :: ']' :: rest)) = some (key, rest) := by
  have hopen := dropPrefix?_append ['[', '"'] (key.toList ++ '"' :: ']' :: rest)
  have hword : word? (key.toList ++ '"' :: ']' :: rest) = some (key, '"' :: ']' :: rest) :=
    word?_append (isWord_of_identifier h) (endsWord_cons (by decide))
  have hclose := dropPrefix?_append ['"', ']'] rest
  simp only [List.cons_append, List.nil_append] at hopen hclose
  unfold Dialect.python
  simp only [hopen, hword, hclose, Option.bind_eq_bind, Option.bind_some]
  rfl

/-- The text of a decoding is read as what it stands for. -/
lemma read_pythonText (hd : HasIdentifiers d) (hrest : Closes rest)
    (hfuel : d.pythonText.length < fuel) :
    Dialect.python.read fuel (d.pythonText.toList ++ rest) = some (meaning d, rest) := by
  induction d generalizing fuel rest with
  | field name =>
    obtain ⟨fuel, rfl⟩ := Nat.exists_eq_succ_of_ne_zero (Nat.ne_zero_of_lt hfuel)
    have htext : (Decoding.field name).pythonText.toList ++ rest =
        "data".toList ++ '[' :: '"' :: (name.toList ++ '"' :: ']' :: rest) := by
      simp only [Decoding.pythonText, String.toList_append, List.append_assoc]
      rfl
    have hdata : IsWord "data" := isWord_ofList (by decide) (by decide)
    rw [htext]
    exact read_field hdata (by decide) (by decide) (python_key?_append hd)
  | item depth =>
    obtain ⟨fuel, rfl⟩ := Nat.exists_eq_succ_of_ne_zero (Nat.ne_zero_of_lt hfuel)
    exact read_var (isWord_itemName depth) (python_key?_of_closes hrest) hrest
  | buildTree source ih =>
    obtain ⟨fuel, rfl⟩ := Nat.exists_eq_succ_of_ne_zero (Nat.ne_zero_of_lt hfuel)
    have htext : (Decoding.buildTree source).pythonText.toList ++ rest =
        "_build_tree".toList ++ '(' :: (source.pythonText.toList ++ ')' :: rest) := by
      simp only [Decoding.pythonText, String.toList_append, List.append_assoc]
      rfl
    have hlength : source.pythonText.length < fuel := by
      simp only [Decoding.pythonText, String.length_append] at hfuel
      have hfront : "_build_tree(".length = 12 := rfl
      omega
    have hfunction : IsWord "_build_tree" := isWord_ofList (by decide) (by decide)
    rw [htext]
    exact read_call hfunction (ih hd (closes_cons (by decide)) hlength)
  | collect body depth source ihbody ihsource =>
    obtain ⟨fuel, rfl⟩ := Nat.exists_eq_succ_of_ne_zero (Nat.ne_zero_of_lt hfuel)
    have htext : (Decoding.collect body depth source).pythonText.toList ++ rest =
        '[' :: (body.pythonText.toList ++ ' ' :: 'f' :: 'o' :: 'r' :: ' ' ::
          ((Decoding.itemName depth).toList ++ ' ' :: 'i' :: 'n' :: ' ' ::
            (source.pythonText.toList ++ ']' :: rest))) := by
      simp only [Decoding.pythonText, String.toList_append, List.append_assoc]
      rfl
    have hlengths : body.pythonText.length < fuel ∧ source.pythonText.length < fuel := by
      simp only [Decoding.pythonText, String.length_append] at hfuel
      have hfront : "[".length = 1 := rfl
      omega
    have hbody : ∀ text, Closes (' ' :: text) := fun text => closes_cons (.inl rfl)
    have hsource : Closes (']' :: rest) := closes_cons (by decide)
    rw [htext]
    exact read_collect rfl (ihbody hd.1 (hbody _) hlengths.1) (isWord_itemName depth)
      (ihsource hd.2 hsource hlengths.2)

lemma hasIdentifiers_rebuild (hd : HasIdentifiers d) (t : TypeExpr) (depth : Nat) :
    HasIdentifiers (.rebuild depth d t) := by
  induction t generalizing d depth with
  | array element ih | list element ih =>
    unfold Decoding.rebuild
    split_ifs
    · have hitem : HasIdentifiers (.item depth) := trivial
      exact ⟨ih hitem (depth + 1), hd⟩
    · exact hd
  | tree value => exact hd
  | primitive p => exact hd
  | graph => exact hd

lemma expression?_pythonArgument {p : MappedParameter} (hp : IsIdentifier p.name) :
    Dialect.python.expression? p.pythonArgument = some (meaning p.decoding) := by
  have hfield : HasIdentifiers (.field p.name) := hp
  have hread := read_pythonText (hasIdentifiers_rebuild hfield p.type 0) closes_nil
    (Nat.lt_succ_self _)
  rw [List.append_nil] at hread
  unfold Dialect.expression? MappedParameter.pythonArgument MappedParameter.decoding
  rw [hread]

end Text

section Evaluation

variable {ν : Type} {build : Value ν → Option (Value ν)}

lemma itemName_ne_builder (depth : Nat) : Decoding.itemName depth ≠ "_build_tree" := by
  unfold Decoding.itemName
  exact (ofList_ne_append (by decide)).symm

lemma itemName_injective : Function.Injective Decoding.itemName :=
  fun _ _ h => toString_injective ((String.append_right_inj _).mp h)

lemma mapM_congr {α β : Type} {f g : α → Option β} {items : List α} (h : ∀ x ∈ items, f x = g x) :
    items.mapM f = items.mapM g := by
  induction items with
  | nil => rfl
  | cons x rest ih =>
    obtain ⟨hx, hrest⟩ := List.forall_mem_cons.mp h
    rw [List.mapM_cons, List.mapM_cons, hx, ih hrest]

/-- In a scope with the function that rebuilds trees, an expression around a source rebuilds the
trees in the value of the source. -/
lemma eval_rebuild {t : TypeExpr} {source : Decoding} {j : Json} (hj : Conforms t j)
    {scope : String → Option (Value ν)} (hbuilder : scope "_build_tree" = some .builder)
    (hsource : (meaning source).eval build scope = some (.ofJson j)) (depth : Nat) :
    (meaning (.rebuild depth source t)).eval build scope = rebuilt build t (.ofJson j) := by
  induction t generalizing source j scope depth with
  | array element ih | list element ih =>
    by_cases helement : element.contains .tree = true
    · obtain ⟨items, rfl, hitems⟩ := hj
      rw [Decoding.rebuild, if_pos helement, meaning, Expr.eval, hsource]
      -- The body sees the value of its own variable and the function of the scope around it.
      have hbody : ∀ item ∈ items, (meaning (.rebuild (depth + 1) (.item depth) element)).eval build
            (Function.update scope (Decoding.itemName depth) (some (.ofJson item))) =
          rebuilt build element (.ofJson item) := by
        intro item hitem
        apply ih (hitems item hitem)
        · rw [Function.update_of_ne (itemName_ne_builder depth).symm]
          exact hbuilder
        · exact Function.update_self _ _ _
      simp only [Value.ofJson, Value.items?, Option.bind_some, rebuilt, Value.ofItems_eq_map,
        List.mapM_map]
      exact congrArg (Option.map Value.list) (mapM_congr hbody)
    · rw [Decoding.rebuild, if_neg helement, hsource]
      refine (rebuilt_of_no_tree ?_ _).symm
      exact Bool.eq_false_iff.mpr helement
  | tree value =>
    rw [Decoding.rebuild, meaning, Expr.eval, hbuilder, hsource]
    rfl
  | primitive p => exact hsource
  | graph => exact hsource

/-- The comprehensions have the variables of consecutive depths. -/
lemma loopNames_rebuild {source : Decoding} (hsource : (meaning source).loopNames = [])
    (t : TypeExpr) (depth : Nat) :
    ∃ n, (meaning (.rebuild depth source t)).loopNames =
      (List.range' depth n).map Decoding.itemName := by
  induction t generalizing source depth with
  | array element ih | list element ih =>
    by_cases helement : element.contains .tree = true
    · have hitem : (meaning (.item depth)).loopNames = [] := rfl
      obtain ⟨n, hbody⟩ := ih hitem (depth + 1)
      refine ⟨n + 1, ?_⟩
      rw [Decoding.rebuild, if_pos helement, meaning, Expr.loopNames, hbody, hsource,
        List.append_nil, List.range'_succ, List.map_cons]
    · rw [Decoding.rebuild, if_neg helement]
      exact ⟨0, hsource⟩
  | tree value => exact ⟨0, hsource⟩
  | primitive p => exact ⟨0, hsource⟩
  | graph => exact ⟨0, hsource⟩

/-- The variables of the comprehensions are apart from each other and from the other names. -/
def HasFreshLoops (e : Expr) : Prop :=
  e.loopNames.Nodup ∧ "data" ∉ e.loopNames ∧ "_build_tree" ∉ e.loopNames

lemma hasFreshLoops_decoding (p : MappedParameter) : HasFreshLoops (meaning p.decoding) := by
  have hfield : (meaning (.field p.name)).loopNames = [] := rfl
  obtain ⟨n, hnames⟩ := loopNames_rebuild hfield p.type 0
  unfold HasFreshLoops MappedParameter.decoding
  rw [hnames]
  have hdepths : (List.range' 0 n).Nodup := List.nodup_range'
  refine ⟨hdepths.map itemName_injective, ?_, ?_⟩
  · rw [List.mem_map]
    rintro ⟨depth, -, hname⟩
    exact ofList_ne_append (by decide) hname.symm
  · rw [List.mem_map]
    rintro ⟨depth, -, hname⟩
    exact itemName_ne_builder depth hname

lemma passesRebuilt_decoding (p : MappedParameter) :
    PassesRebuilt "_build_tree" p.toTypedParameter (meaning p.decoding) := by
  intro ν build scope fields j hdata hbuilder hfield hj
  have hsource : (meaning (.field p.name)).eval build scope = some (.ofJson j) := by
    rw [meaning, Expr.eval, hdata]
    exact Value.field?_ofJson hfield
  exact eval_rebuild hj hbuilder hsource 0

lemma rebuildsTrees_python {s : TypedSignature} (hn : Named s) {p : TypedParameter}
    (hp : p ∈ s.parameters) (htree : p.type.contains .tree = true) :
    RebuildsTrees .python (Target.python.context s) (Target.python.mapParameter p)
      (linesOf (Target.python.render s)) := by
  have hname : IsIdentifier (Target.python.mapParameter p).name := hn.2 p hp
  have hfits := helperFits_render (show Target.python ∈ Target.builtins by decide) hn
  have happlied : Mentions "_build_tree(" (Target.python.mapParameter p).pythonArgument :=
    (mentions_pythonArgument_iff hname).mpr htree
  have hmem : Target.python.mapParameter p ∈ (Target.python.context s).parameters :=
    List.mem_map_of_mem hp
  exact ⟨hfits.call _ rfl, ⟨_, expression?_pythonArgument hname, passesRebuilt_decoding _⟩,
    (hfits.decoder _ rfl).mpr ⟨_, hmem, happlied⟩⟩

end Evaluation

/-- The argument for a parameter spells an expression that gives the parameter's value with each of
its trees rebuilt, and all else as it was. The variables of the comprehensions in it do not capture
one another. -/
theorem python_argument_rebuilds (p : MappedParameter) (hp : IsIdentifier p.name) :
    ∃ e, Dialect.python.expression? p.pythonArgument = some e ∧ HasFreshLoops e ∧
      PassesRebuilt "_build_tree" p.toTypedParameter e :=
  ⟨_, expression?_pythonArgument hp, hasFreshLoops_decoding p, passesRebuilt_decoding p⟩

/-- A scope for input with a list of two trees, both empty. -/
def forestScope (builder : String) : String → Option (Value ℕ) := fun name =>
  if name = "data" then some (.ofJson (.obj [("forest", .arr [.null, .null])]))
  else if name = builder then some .builder else none

theorem python_argument_rebuilds_forest :
    let p := Target.python.mapParameter ⟨"forest", .list (.tree .int)⟩
    IsIdentifier p.name ∧ ∃ e, Dialect.python.expression? p.pythonArgument = some e ∧
      e.eval (fun _ => some (.object 7)) (forestScope "_build_tree") =
        some (.list [.object 7, .object 7]) := by
  intro p
  have hp : IsIdentifier p.name := by decide
  obtain ⟨e, hread, -, hpasses⟩ := python_argument_rebuilds p hp
  have hj : Conforms p.type (.arr [.null, .null]) := ⟨_, rfl, fun _ _ => trivial⟩
  exact ⟨hp, e, hread, hpasses _ _ _ _ _ rfl rfl rfl hj⟩

end StubGen.Proofs
