import StubGen.Proofs.TypeTable
import StubGen.Signature.Part

/-!
# The parts of a stub file

The parts of a stub file can be had one by one or together, as the context that the file is made
from. The context reads every type text and fails at the first that is no type, while a single part
passes such texts over. Where all texts are types, the parts are the same.
-/

namespace StubGen.Proofs
open TypeExpr

section Texts

variable {s : Signature} {types : TypeTexts} {text : RawText}

/-- The text is the first one that is no type, the return type coming last. -/
def FirstUnreadable (types : TypeTexts) (text : RawText) : Prop :=
  ∃ front rest, types.all = front ++ text :: rest ∧
    (∀ earlier ∈ front, ∃ t, ofText? earlier = some t) ∧ ofText? text = none

lemma mapM_readType_parameters (ps : List Parameter) :
    (ps.map Parameter.type).mapM Signature.readType =
      (ps.mapM Signature.readParameter).map fun qs => qs.map TypedParameter.type := by
  induction ps with
  | nil => rfl
  | cons p ps ih =>
    rw [List.map_cons, List.mapM_cons, List.mapM_cons, ih, Signature.readParameter]
    cases Signature.readType p.type with
    | error e => rfl
    | ok t => cases ps.mapM Signature.readParameter <;> rfl

/-- Reading a signature is reading its type texts in order. -/
lemma mapM_readType_all (s : Signature) :
    s.typeTexts.all.mapM Signature.readType = s.typed.map TypedSignature.types := by
  rw [TypeTexts.all, List.mapM_append, Signature.typed, Signature.typeTexts,
    mapM_readType_parameters]
  cases s.parameters.mapM Signature.readParameter with
  | error e => rfl
  | ok qs =>
    rw [List.mapM_cons, List.mapM_nil]
    cases Signature.readType s.returns <;> rfl

lemma readType_eq_error_iff {e : RawText} :
    Signature.readType text = .error e ↔ ofText? text = none ∧ text = e := by
  unfold Signature.readType
  cases ofText? text <;> simp

lemma typed_eq_error_iff : s.typed = .error text ↔ FirstUnreadable s.typeTexts text := by
  rw [← map_eq_error_iff (f := TypedSignature.types), ← mapM_readType_all, mapM_eq_error_iff]
  simp only [readType_eq_ok_iff, readType_eq_error_iff]
  constructor
  · rintro ⟨front, _, rest, hall, hfront, hnone, rfl⟩
    exact ⟨front, rest, hall, hfront, hnone⟩
  · rintro ⟨front, rest, hall, hfront, hnone⟩
    exact ⟨front, text, rest, hall, hfront, hnone, rfl⟩

/-- What is read of texts, some of which may be no types, is what the other texts denote. -/
lemma filterMap_ofText? {texts : List RawText} {ts : List TypeExpr}
    (h : List.Forall₂ (fun text t => ofText? text = some t)
      (texts.filter fun text => (ofText? text).isSome) ts) :
    texts.filterMap ofText? = ts := by
  induction texts generalizing ts with
  | nil =>
    cases h
    rfl
  | cons text rest ih =>
    cases hread : ofText? text with
    | none =>
      rw [List.filter_cons_of_neg (by simp [hread])] at h
      rw [List.filterMap_cons_none hread]
      exact ih h
    | some t =>
      rw [List.filter_cons_of_pos (by simp [hread])] at h
      cases h with
      | cons htext hrest =>
        rw [List.filterMap_cons_some htext, ih hrest]

/-- The texts of a signature that has been read are its types, one by one. -/
lemma types_of_typed {typed : TypedSignature} (h : s.typed = .ok typed) :
    List.Forall₂ (fun text t => ofText? text = some t) s.typeTexts.all typed.types := by
  have hall : s.typeTexts.all.mapM Signature.readType = .ok typed.types := by
    rw [mapM_readType_all, h]
    rfl
  exact (mapM_eq_ok_iff.mp hall).imp fun text t => readType_eq_ok_iff.mp

lemma isSome_of_typed {typed : TypedSignature} (h : s.typed = .ok typed) :
    ∀ text ∈ s.typeTexts.all, (ofText? text).isSome = true := by
  intro text htext
  obtain ⟨t, ht⟩ := forall₂_left (types_of_typed h) text htext
  rw [ht]
  rfl

lemma readable_of_typed {typed : TypedSignature} (h : s.typed = .ok typed) :
    s.typeTexts.readable = typed.types := by
  apply filterMap_ofText?
  rw [List.filter_eq_self.mpr (isSome_of_typed h)]
  exact types_of_typed h

end Texts

section Trees

variable {t : TypeExpr} {value : Primitive} {types : List TypeExpr}

/-- The type is, or holds, a tree with values of the given type. -/
inductive HoldsTree (value : Primitive) : TypeExpr → Prop
  | tree : HoldsTree value (.tree value)
  | array {element : TypeExpr} (h : HoldsTree value element) : HoldsTree value (.array element)
  | list {element : TypeExpr} (h : HoldsTree value element) : HoldsTree value (.list element)

lemma holdsTree_iff : HoldsTree value t ↔ t.treeValues = [value] := by
  constructor
  · intro h
    induction h with
    | tree => rfl
    | array _ ih => exact ih
    | list _ ih => exact ih
  · intro h
    induction t with
    | primitive p => cases h
    | array element ih => exact .array (ih h)
    | list element ih => exact .list (ih h)
    | tree v =>
      cases h
      exact .tree
    | graph => cases h

/-- No type holds two trees. -/
lemma treeValues_cases (t : TypeExpr) :
    (t.contains .tree = false ∧ t.treeValues = []) ∨
      ∃ value, t.contains .tree = true ∧ t.treeValues = [value] := by
  induction t with
  | primitive p => exact .inl ⟨rfl, rfl⟩
  | array element ih => exact ih
  | list element ih => exact ih
  | tree value => exact .inr ⟨value, rfl, rfl⟩
  | graph => exact .inl ⟨rfl, rfl⟩

/-- The first type that holds a tree holds one with values of the given type. -/
def IsFirstTree (types : List TypeExpr) (value : Primitive) : Prop :=
  ∃ front t rest, types = front ++ t :: rest ∧
    (∀ earlier ∈ front, ∀ v, ¬HoldsTree v earlier) ∧ HoldsTree value t

lemma isFirstTree_firstTreeValue (h : Target.treeNodeFor.anyTree types = true) :
    IsFirstTree types (firstTreeValue types) := by
  induction types with
  | nil => cases h
  | cons t rest ih =>
    obtain ⟨hnone, hvalues⟩ | ⟨value, -, hvalues⟩ := treeValues_cases t
    · have hrest : Target.treeNodeFor.anyTree rest = true := by
        rw [Target.treeNodeFor.anyTree, List.any_cons, hnone, Bool.false_or] at h
        exact h
      have hfirst : firstTreeValue (t :: rest) = firstTreeValue rest := by
        rw [firstTreeValue, List.flatMap_cons, hvalues, List.nil_append, firstTreeValue]
      obtain ⟨front, u, later, heq, hfront, hu⟩ := ih hrest
      rw [hfirst]
      refine ⟨t :: front, u, later, by rw [heq, List.cons_append], ?_, hu⟩
      refine List.forall_mem_cons.mpr ⟨fun v hv => ?_, hfront⟩
      rw [holdsTree_iff, hvalues] at hv
      cases hv
    · have hfirst : firstTreeValue (t :: rest) = value := by
        rw [firstTreeValue, List.flatMap_cons, hvalues]
        rfl
      rw [hfirst]
      exact ⟨[], t, rest, rfl, by simp, holdsTree_iff.mpr hvalues⟩

lemma treeNode_ne_empty (target : Target) (value : Primitive) : target.treeNode value ≠ "" := by
  have hlines : ∃ c line rest, target.treeNodeLines value = String.ofList (c :: line) :: rest := by
    unfold Target.treeNodeLines
    cases target.family <;> exact ⟨_, _, _, rfl⟩
  obtain ⟨c, line, rest, hlines⟩ := hlines
  rw [Target.treeNode, hlines, Text.unlines]
  simp

end Trees

section Agreement

variable {r : Registry} {language : String} {target : Target} {s : Signature} {limit : Int}

/-- Every part of the context is what a caller gets who asks for this part alone. -/
structure PartsAgree (r : Registry) (language : String) (limit : Int) (s : Signature)
    (c : Context) : Prop where
  imports : r.importsFor s.typeTexts language = .ok c.imports
  treeNode : r.treeNodeFor s.typeTexts language = .ok c.treeNode
  parameters : List.Forall₂
    (fun p q => IsTyped p q.toTypedParameter ∧
      r.describe p.type language limit = .ok q.mapped) s.parameters c.parameters
  returns : ofText? s.returns = some c.returns ∧
    r.describe s.returns language limit = .ok c.returnMapped
  defaultReturn : r.defaultReturn c.returnMapped language = .ok c.defaultReturn

lemma target_of_find? (ht : r.find? language = some target) : r.target language = .ok target := by
  rw [Registry.target, ht]

lemma importsFor_eq (ht : r.find? language = some target) (types : TypeTexts) :
    r.importsFor types language = .ok (target.imports types.readable) := by
  rw [Registry.importsFor, target_of_find? ht]
  rfl

lemma treeNodeFor_eq (ht : r.find? language = some target) (types : TypeTexts) :
    r.treeNodeFor types language = .ok (target.treeNodeFor types.readable) := by
  rw [Registry.treeNodeFor, target_of_find? ht]
  rfl

/-- A text is described as the type that it denotes, if the target supports the type. -/
lemma describe_of_read {text : RawText} {t : TypeExpr} (ht : r.find? language = some target)
    (hsupports : target.supports t = true) (hdepth : (t.depth : Int) ≤ limit)
    (hread : ofText? text = some t) :
    r.describe text language limit = .ok (target.mapType t) :=
  describe_of_resolve ht (resolve_eq_some_iff.mpr ⟨hread, hdepth, hsupports⟩)

lemma partsAgree_of_typed {typed : TypedSignature} (ht : r.find? language = some target)
    (hsupports : ∀ t, target.supports t = true)
    (hdepth : ∀ text ∈ s.typeTexts.all, ∃ t, ofText? text = some t ∧ (t.depth : Int) ≤ limit)
    (h : s.typed = .ok typed) : PartsAgree r language limit s (target.context typed) := by
  obtain ⟨-, hparameters, hreturns⟩ := typed_eq_ok_iff.mp h
  have hreadable := readable_of_typed h
  have hdescribe : ∀ {text t}, text ∈ s.typeTexts.all → ofText? text = some t →
      r.describe text language limit = .ok (target.mapType t) := by
    intro text t htext hread
    obtain ⟨u, hu, hlimit⟩ := hdepth text htext
    obtain rfl : u = t := Option.some.inj (hu.symm.trans hread)
    exact describe_of_read ht (hsupports u) hlimit hread
  constructor
  · rw [importsFor_eq ht, hreadable]
    rfl
  · rw [treeNodeFor_eq ht, hreadable]
    rfl
  · have hmem : ∀ p ∈ s.parameters, p.type ∈ s.typeTexts.all := fun _ hp => type_mem_all hp
    refine List.forall₂_map_right_iff.mpr ?_
    refine ((List.forall₂_and_left _ _).mpr ⟨hmem, hparameters⟩).imp ?_
    rintro p q ⟨hp, htyped⟩
    exact ⟨htyped, hdescribe hp htyped.2⟩
  · exact ⟨hreturns, hdescribe (returns_mem_all s) hreturns⟩
  · rw [Registry.defaultReturn, target_of_find? ht]
    rfl

lemma treeNodeFor_ne_empty_iff (target : Target) (types : List TypeExpr) :
    target.treeNodeFor types ≠ "" ↔ Target.treeNodeFor.anyTree types = true := by
  unfold Target.treeNodeFor
  split_ifs with h
  · simp [h, treeNode_ne_empty]
  · simp [h]

lemma exists_firstUnreadable {unreadable : RawText} (hmem : unreadable ∈ s.typeTexts.all)
    (hnone : ofText? unreadable = none) :
    ∃ text, FirstUnreadable s.typeTexts text ∧ s.typed = .error text := by
  cases htyped : s.typed with
  | error text => exact ⟨text, typed_eq_error_iff.mp htyped, rfl⟩
  | ok typed =>
    have hsome := isSome_of_typed htyped unreadable hmem
    rw [hnone] at hsome
    cases hsome

/-- In every built-in language the context of a signature, all of whose texts are types within the
limit, has the same parts as one gets one by one. It defines tree nodes exactly if the signature
needs them, with the values of its first tree, the return type coming last. Where a text is no type,
the context fails with the first such text, and single parts are those of the other texts. -/
theorem parts_agree_with_context {language : String} (h : language ∈ Registry.builtin.languages)
    (s : Signature) :
    ∃ target, Registry.builtin.target language = .ok target ∧
      (∀ limit : Int,
        (∀ text ∈ s.typeTexts.all, ∃ t, ofText? text = some t ∧ (t.depth : Int) ≤ limit) →
        ∃ c, target.signatureContext s = .ok c ∧ PartsAgree .builtin language limit s c ∧
          (c.treeNode ≠ "" ↔ s.typeTexts.needsTreeNode = true) ∧
          (s.typeTexts.needsTreeNode = true →
            c.treeNode = target.treeNode s.typeTexts.treeValue ∧
            IsFirstTree (c.parameters.map (fun p => p.type) ++ [c.returns])
              s.typeTexts.treeValue)) ∧
      (∀ unreadable ∈ s.typeTexts.all, ofText? unreadable = none →
        ∃ text, FirstUnreadable s.typeTexts text ∧
          target.signatureContext s = .error (.unsupportedType text language)) ∧
      ∀ ts, List.Forall₂ (fun text t => ofText? text = some t)
          (s.typeTexts.all.filter fun text => (ofText? text).isSome) ts →
        Registry.builtin.importsFor s.typeTexts language = .ok (target.imports ts) ∧
        Registry.builtin.treeNodeFor s.typeTexts language = .ok (target.treeNodeFor ts) ∧
        s.typeTexts.needsTreeNode = Target.treeNodeFor.anyTree ts ∧
        s.typeTexts.treeValue = firstTreeValue ts := by
  obtain ⟨target, ht⟩ := find?_of_isRegistered (List.contains_iff_mem.mpr h)
  have hlanguage : target.language = language := by simpa using List.find?_some ht
  refine ⟨target, target_of_find? ht, fun limit hdepth => ?_, fun unreadable hmem hnone => ?_,
    fun ts hts => ?_⟩
  · obtain ⟨typed, htyped⟩ := exists_typed fun text htext =>
      (hdepth text htext).imp fun _ ht => ht.1
    have hcontext : target.signatureContext s = .ok (target.context typed) := by
      rw [Target.signatureContext, htyped]
    have hreadable := readable_of_typed htyped
    have htypes : (target.context typed).parameters.map (fun p => p.type) ++
        [(target.context typed).returns] = typed.types := by
      show (typed.parameters.map target.mapParameter).map _ ++ _ = _
      rw [List.map_map]
      rfl
    refine ⟨_, hcontext, partsAgree_of_typed ht (supports_of_find?_builtin ht) hdepth htyped, ?_, ?_⟩
    · rw [TypeTexts.needsTreeNode, hreadable]
      exact treeNodeFor_ne_empty_iff target typed.types
    · rw [TypeTexts.needsTreeNode, TypeTexts.treeValue, hreadable, htypes]
      exact fun hneeds => ⟨if_pos hneeds, isFirstTree_firstTreeValue hneeds⟩
  · obtain ⟨text, hfirst, herror⟩ := exists_firstUnreadable hmem hnone
    refine ⟨text, hfirst, ?_⟩
    rw [Target.signatureContext, herror, hlanguage]
  · have hreadable : s.typeTexts.readable = ts := filterMap_ofText? hts
    rw [importsFor_eq ht, treeNodeFor_eq ht, TypeTexts.needsTreeNode, TypeTexts.treeValue, hreadable]
    exact ⟨rfl, rfl, rfl, rfl⟩

/-- Trees stand in a list and in the result. -/
def forestSignature : Signature :=
  ⟨"prune", [⟨"forest", "List<Tree<int>>"⟩, ⟨"limit", "long"⟩], "Tree<bool>"⟩

theorem parts_agree_on_forest :
    "java" ∈ Registry.builtin.languages ∧
      (∃ c, Target.java.signatureContext forestSignature = .ok c ∧
        PartsAgree .builtin "java" 2 forestSignature c ∧
        c.treeNode = Target.java.treeNode .int) ∧
      ∃ text, Target.java.signatureContext { forestSignature with returns := "Tree<Graph>" } =
          .error (.unsupportedType text "java") ∧
        Registry.builtin.treeNodeFor ⟨["List<Tree<int>>", "long"], "Tree<Graph>"⟩ "java" =
          .ok (Target.java.treeNodeFor [.list (.tree .int), .primitive .long]) := by
  have hmem : "java" ∈ Registry.builtin.languages := by decide
  have hlist : ofText? "List<Tree<int>>" = some (.list (.tree .int)) :=
    ofText?_eq_some_iff.mpr ⟨trivial, rfl⟩
  have hlong : ofText? "long" = some (.primitive .long) := ofText?_eq_some_iff.mpr ⟨trivial, rfl⟩
  have htree : ofText? "Tree<bool>" = some (.tree .bool) := ofText?_eq_some_iff.mpr ⟨trivial, rfl⟩
  have hnone : ofText? "Tree<Graph>" = none := by decide +kernel
  have hread : ∀ text ∈ forestSignature.typeTexts.all,
      ∃ t, ofText? text = some t ∧ (t.depth : Int) ≤ 2 := by
    refine List.forall_mem_cons.mpr ⟨⟨_, hlist, by decide⟩, List.forall_mem_cons.mpr
      ⟨⟨_, hlong, by decide⟩, List.forall_mem_singleton.mpr ⟨_, htree, by decide⟩⟩⟩
  obtain ⟨target, ht, hparts, -, -⟩ := parts_agree_with_context hmem forestSignature
  obtain rfl : Target.java = target := Except.ok.inj ht
  obtain ⟨c, hcontext, hagree, -, htrees⟩ := hparts 2 hread
  obtain ⟨htreeNode, -⟩ := htrees (by decide +kernel)
  have hvalue : forestSignature.typeTexts.treeValue = .int := by decide +kernel
  rw [hvalue] at htreeNode
  obtain ⟨target, ht, -, hfails, hrest⟩ :=
    parts_agree_with_context hmem { forestSignature with returns := "Tree<Graph>" }
  obtain rfl : Target.java = target := Except.ok.inj ht
  obtain ⟨text, -, herror⟩ := hfails "Tree<Graph>" (returns_mem_all _) hnone
  have htypes := hrest [.list (.tree .int), .primitive .long] ?_
  · exact ⟨hmem, ⟨c, hcontext, hagree, htreeNode⟩, text, herror, htypes.2.1⟩
  · have hreadable : List.filter (fun text => (ofText? text).isSome)
        ["List<Tree<int>>", "long", "Tree<Graph>"] = ["List<Tree<int>>", "long"] := by
      simp [List.filter, hlist, hlong, hnone]
    exact hreadable ▸ .cons hlist (.cons hlong .nil)

end Agreement

end StubGen.Proofs
