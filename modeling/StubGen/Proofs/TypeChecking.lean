import StubGen.Proofs.SpellingRoundTrip
import StubGen.Signature.Check

/-!
# Checking and reading the types of a signature

The check of a signature resolves every type text against a target, and the renderer reads the texts
once more. A text that resolves can be read, to the same type, so that a signature without faults
has a typed form. `Reports` says what the check reports: every faulty position once, in order.
-/

namespace StubGen.Proofs
open TypeExpr

/-- Resolving a text is reading it, within the limit and the categories of the target: a text that
can be read is in canonical form already. -/
theorem resolve_eq_some_iff {target : Target} {text : RawText} {limit : Int} {t : TypeExpr} :
    target.resolve text limit = some t ↔
      ofText? text = some t ∧ (t.depth : Int) ≤ limit ∧ target.supports t = true := by
  unfold Target.resolve
  cases hread : ofText? text with
  | none => simp
  | some u =>
    have hcanonical : text = u.spelling := (ofText?_eq_some_iff.mp hread).2
    dsimp only
    constructor
    · intro h
      split_ifs at h with hu
      cases h
      exact ⟨rfl, hu.2⟩
    · rintro ⟨h, hd, hs⟩
      cases h
      exact if_pos ⟨hcanonical, hd, hs⟩

lemma isSupported_iff {r : Registry} {settings : Settings} {text : RawText} {language : String} :
    r.isSupported (some settings) text language = true ↔
      language ∈ settings.languages ∧ ∃ target t, r.find? language = some target ∧
        target.resolve text settings.maxNestingDepth = some t := by
  simp only [Registry.isSupported, Registry.resolve, Bool.and_eq_true, List.contains_iff_mem,
    Option.isSome_iff_exists]
  refine and_congr_right fun _ => ?_
  cases r.find? language with
  | none => simp
  | some target => simp

section Positions

/-- The text at a position of a signature. -/
def textAt (types : TypeTexts) : TypePosition → Option RawText
  | .parameter i => types.parameters[i]?
  | .returns => some types.returns

/-- Positions in the order of a report: parameters by index, the return type last. -/
def Precedes : TypePosition → TypePosition → Prop
  | .parameter i, .parameter j => i < j
  | .parameter _, .returns => True
  | .returns, _ => False

lemma mem_positionsFrom {k : Nat} {texts : List RawText} {x : TypePosition × RawText} :
    x ∈ TypeTexts.positionsFrom k texts ↔
      ∃ i, x.1 = .parameter (k + i) ∧ texts[i]? = some x.2 := by
  induction texts generalizing k with
  | nil => simp [TypeTexts.positionsFrom]
  | cons text rest ih =>
    rw [TypeTexts.positionsFrom, List.mem_cons, ih]
    constructor
    · rintro (rfl | ⟨i, hi, htext⟩)
      · exact ⟨0, rfl, rfl⟩
      · exact ⟨i + 1, by rw [hi, Nat.add_assoc, Nat.add_comm 1], htext⟩
    · rintro ⟨i, hi, htext⟩
      cases i with
      | zero => exact .inl (Prod.ext hi (Option.some.inj htext).symm)
      | succ i => exact .inr ⟨i, by rw [hi, Nat.add_assoc, Nat.add_comm 1], htext⟩

lemma mem_positions {types : TypeTexts} {x : TypePosition × RawText} :
    x ∈ types.positions ↔ textAt types x.1 = some x.2 := by
  obtain ⟨position, text⟩ := x
  rw [TypeTexts.positions, List.mem_append, mem_positionsFrom]
  cases position with
  | parameter i => simp [textAt]
  | returns => simp [textAt, eq_comm]

lemma positionsFrom_ordered (k : Nat) (texts : List RawText) :
    (TypeTexts.positionsFrom k texts).Pairwise fun x y => Precedes x.1 y.1 := by
  induction texts generalizing k with
  | nil => exact List.Pairwise.nil
  | cons text rest ih =>
    refine List.pairwise_cons.mpr ⟨fun y hy => ?_, ih (k + 1)⟩
    obtain ⟨i, hi, -⟩ := mem_positionsFrom.mp hy
    rw [hi]
    show k < k + 1 + i
    omega

lemma positions_ordered (types : TypeTexts) :
    types.positions.Pairwise fun x y => Precedes x.1 y.1 := by
  refine List.pairwise_append.mpr
    ⟨positionsFrom_ordered 0 types.parameters, List.pairwise_singleton _ _, ?_⟩
  intro x hx y hy
  obtain ⟨i, hi, -⟩ := mem_positionsFrom.mp hx
  rw [hi, List.mem_singleton.mp hy]
  trivial

end Positions

section Faults

/-- The faults name every position whose text is faulty, once and in order. -/
structure Reports (faulty : RawText → Prop) (language : String) (types : TypeTexts)
    (faults : List TypeFault) : Prop where
  mem_iff : ∀ f, f ∈ faults ↔
    f.language = language ∧ textAt types f.position = some f.text ∧ faulty f.text
  ordered : faults.Pairwise fun f g => Precedes f.position g.position

lemma not_precedes_of_precedes {p q : TypePosition} (h : Precedes p q) : ¬Precedes q p := by
  cases p with
  | parameter i =>
    cases q with
    | parameter j =>
      have hij : i < j := h
      show ¬j < i
      omega
    | returns => exact id
  | returns => exact h.elim

lemma reports_congr {faulty faulty' : RawText → Prop} {language : String} {types : TypeTexts}
    {faults : List TypeFault} (hiff : ∀ text, faulty text ↔ faulty' text)
    (h : Reports faulty language types faults) : Reports faulty' language types faults := by
  refine ⟨fun f => ?_, h.ordered⟩
  rw [h.mem_iff f, hiff f.text]

/-- A report is determined by what it has to name. -/
theorem reports_unique {faulty : RawText → Prop} {language : String} {types : TypeTexts}
    {fs gs : List TypeFault} (hf : Reports faulty language types fs)
    (hg : Reports faulty language types gs) : fs = gs := by
  have hnodup : ∀ {hs : List TypeFault}, Reports faulty language types hs → hs.Nodup := by
    intro hs h
    refine h.ordered.imp fun {f g} hfg heq => ?_
    subst heq
    exact not_precedes_of_precedes hfg hfg
  have hperm : fs.Perm gs := (List.perm_ext_iff_of_nodup (hnodup hf) (hnodup hg)).mpr fun f =>
    (hf.mem_iff f).trans (hg.mem_iff f).symm
  exact hperm.eq_of_pairwise (fun _ _ _ _ h h' => (not_precedes_of_precedes h h').elim)
    hf.ordered hg.ordered

/-- The check reports exactly the positions whose text is not supported. -/
theorem typeFaults_reports (r : Registry) (settings : Option Settings) (types : TypeTexts)
    (language : String) :
    Reports (fun text => r.isSupported settings text language = false) language types
      (r.typeFaults settings types language) := by
  constructor
  · intro f
    unfold Registry.typeFaults
    rw [List.mem_map]
    constructor
    · rintro ⟨⟨position, text⟩, hx, rfl⟩
      obtain ⟨hposition, hfaulty⟩ := List.mem_filter.mp hx
      exact ⟨rfl, mem_positions.mp hposition, by simpa using hfaulty⟩
    · rintro ⟨hlanguage, hposition, hfaulty⟩
      refine ⟨(f.position, f.text), List.mem_filter.mpr ⟨mem_positions.mpr hposition, ?_⟩, ?_⟩
      · simpa using hfaulty
      · rw [← hlanguage]
  · unfold Registry.typeFaults
    rw [List.pairwise_map]
    exact (positions_ordered types).filter _

lemma mem_all_iff {types : TypeTexts} {text : RawText} :
    text ∈ types.all ↔ ∃ position, textAt types position = some text := by
  rw [TypeTexts.all, List.mem_append, List.mem_singleton, List.mem_iff_getElem?]
  constructor
  · rintro (⟨i, hi⟩ | rfl)
    · exact ⟨.parameter i, hi⟩
    · exact ⟨.returns, rfl⟩
  · rintro ⟨position, hposition⟩
    cases position with
    | parameter i => exact .inl ⟨i, hposition⟩
    | returns => exact .inr (Option.some.inj hposition).symm

lemma reports_nil_iff {faulty : RawText → Prop} {language : String} {types : TypeTexts}
    {faults : List TypeFault} (h : Reports faulty language types faults) :
    faults = [] ↔ ∀ text ∈ types.all, ¬faulty text := by
  rw [List.eq_nil_iff_forall_not_mem]
  constructor
  · intro hnone text htext hfaulty
    obtain ⟨position, hposition⟩ := mem_all_iff.mp htext
    exact hnone ⟨position, text, language⟩ ((h.mem_iff _).mpr ⟨rfl, hposition, hfaulty⟩)
  · intro hall f hf
    obtain ⟨-, hposition, hfaulty⟩ := (h.mem_iff f).mp hf
    exact hall f.text (mem_all_iff.mpr ⟨_, hposition⟩) hfaulty

end Faults

section Reading

lemma readType_eq_ok_iff {text : RawText} {t : TypeExpr} :
    Signature.readType text = .ok t ↔ ofText? text = some t := by
  unfold Signature.readType
  cases ofText? text <;> simp

/-- A parameter whose type has been read keeps its name. -/
def IsTyped (p : Parameter) (q : TypedParameter) : Prop :=
  q.name = p.name ∧ ofText? p.type = some q.type

lemma readParameter_eq_ok_iff {p : Parameter} {q : TypedParameter} :
    Signature.readParameter p = .ok q ↔ IsTyped p q := by
  rw [Signature.readParameter, map_eq_ok_iff]
  constructor
  · rintro ⟨t, ht, rfl⟩
    exact ⟨rfl, readType_eq_ok_iff.mp ht⟩
  · rintro ⟨hname, ht⟩
    exact ⟨q.type, readType_eq_ok_iff.mpr ht, by rw [← hname]⟩

lemma readParameters_eq_ok_iff {ps : List Parameter} {qs : List TypedParameter} :
    ps.mapM Signature.readParameter = .ok qs ↔ List.Forall₂ IsTyped ps qs := by
  simp only [mapM_eq_ok_iff, readParameter_eq_ok_iff]

/-- Reading a signature keeps its names and the order of its parameters. -/
theorem typed_eq_ok_iff {s : Signature} {typed : TypedSignature} :
    s.typed = .ok typed ↔
      typed.functionName = s.functionName ∧
        List.Forall₂ IsTyped s.parameters typed.parameters ∧
        ofText? s.returns = some typed.returns := by
  rw [Signature.typed, bind_eq_ok_iff]
  constructor
  · rintro ⟨parameters, hparameters, h⟩
    obtain ⟨returns, hreturns, h⟩ := bind_eq_ok_iff.mp h
    cases h
    exact ⟨rfl, readParameters_eq_ok_iff.mp hparameters, readType_eq_ok_iff.mp hreturns⟩
  · rintro ⟨hname, hparameters, hreturns⟩
    refine ⟨typed.parameters, readParameters_eq_ok_iff.mpr hparameters, ?_⟩
    refine bind_eq_ok_iff.mpr ⟨typed.returns, readType_eq_ok_iff.mpr hreturns, ?_⟩
    rw [← hname]
    rfl

lemma type_mem_all {s : Signature} {p : Parameter} (hp : p ∈ s.parameters) :
    p.type ∈ s.typeTexts.all :=
  List.mem_append_left _ (List.mem_map_of_mem hp)

lemma returns_mem_all (s : Signature) : s.returns ∈ s.typeTexts.all :=
  List.mem_append_right _ List.mem_cons_self

/-- A signature all of whose texts can be read has a typed form. -/
lemma exists_typed {s : Signature} (h : ∀ text ∈ s.typeTexts.all, ∃ t, ofText? text = some t) :
    ∃ typed, s.typed = .ok typed := by
  have hparameters : ∀ p ∈ s.parameters, ∃ q, Signature.readParameter p = .ok q := by
    intro p hp
    obtain ⟨t, ht⟩ := h p.type (type_mem_all hp)
    exact ⟨⟨p.name, t⟩, readParameter_eq_ok_iff.mpr ⟨rfl, ht⟩⟩
  obtain ⟨parameters, hread⟩ := exists_mapM_eq_ok hparameters
  obtain ⟨returns, hreturns⟩ := h s.returns (returns_mem_all s)
  exact ⟨⟨s.functionName, parameters, returns⟩,
    typed_eq_ok_iff.mpr ⟨rfl, readParameters_eq_ok_iff.mp hread, hreturns⟩⟩

end Reading

end StubGen.Proofs
