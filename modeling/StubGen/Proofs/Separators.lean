import StubGen.Proofs.Except
import StubGen.Schema.Fault
import StubGen.Stub.File

/-!
# Cutting texts at separators

Texts that were put together around a separator can be taken apart again if the parts lack it.
Identifiers are made of word characters, and spellings of types of few more, so that both lack the
separators of a stub file.
-/

namespace StubGen.Proofs

/-- The character does not occur in the text. -/
def Lacks (x : Char) (s : String) : Prop := x ∉ s.toList

section Cutting

variable {x : Char} {tail : List Char} {s t : String}

/-- A literal unifies with its list of characters, which is much faster to go through. -/
lemma lacks_ofList {cs : List Char} (h : x ∉ cs) : Lacks x (String.ofList cs) := by
  rwa [Lacks, String.toList_ofList]

lemma ofList_ne {cs ds : List Char} (h : cs ≠ ds) : String.ofList cs ≠ String.ofList ds :=
  fun heq => h (String.ofList_injective heq)

lemma ofList_ne_append {cs ds : List Char} (h : ¬cs <+: ds) :
    String.ofList ds ≠ String.ofList cs ++ s := by
  intro heq
  refine h ⟨s.toList, ?_⟩
  rw [← String.toList_ofList (l := ds), heq, String.toList_append, String.toList_ofList]

lemma lacks_append : Lacks x (s ++ t) ↔ Lacks x s ∧ Lacks x t := by
  simp [Lacks]

lemma joined_cons (separator s t : String) (rest : List String) :
    Text.joined separator (s :: t :: rest) =
      s ++ (separator ++ Text.joined separator (t :: rest)) := by
  rw [Text.joined, String.append_assoc]
  exact List.cons_ne_nil _ _

lemma lacks_joined {separator : String} {items : List String} (hsep : Lacks x separator)
    (h : ∀ s ∈ items, Lacks x s) : Lacks x (Text.joined separator items) := by
  induction items with
  | nil => exact lacks_ofList List.not_mem_nil
  | cons s rest ih =>
    obtain ⟨hs, hrest⟩ := List.forall_mem_cons.mp h
    cases rest with
    | nil => exact hs
    | cons t rest =>
      rw [joined_cons]
      exact lacks_append.mpr ⟨hs, lacks_append.mpr ⟨hsep, ih hrest⟩⟩

lemma append_cons_cancel {α : Type} {x : α} {front front' back back' : List α} (h : x ∉ front)
    (h' : x ∉ front') (heq : front ++ x :: back = front' ++ x :: back') :
    front = front' ∧ back = back' := by
  induction front generalizing front' with
  | nil =>
    cases front' with
    | nil => exact ⟨rfl, (List.cons.inj heq).2⟩
    | cons y front' => exact (h' ((List.cons.inj heq).1 ▸ List.mem_cons_self)).elim
  | cons y front ih =>
    cases front' with
    | nil => exact (h ((List.cons.inj heq).1 ▸ List.mem_cons_self)).elim
    | cons z front' =>
      obtain ⟨rfl, htail⟩ := List.cons.inj heq
      rw [List.mem_cons, not_or] at h h'
      obtain ⟨rfl, rfl⟩ := ih h.2 h'.2 htail
      exact ⟨rfl, rfl⟩

/-- Texts are cut alike before the first occurrence of a character. -/
lemma cut_first {s' t' : String} (h : Lacks x s) (h' : Lacks x s')
    (heq : s ++ (String.ofList (x :: tail) ++ t) = s' ++ (String.ofList (x :: tail) ++ t')) :
    s = s' ∧ t = t' := by
  have hchars := congrArg String.toList heq
  simp only [String.toList_append, String.toList_ofList, List.cons_append] at hchars
  obtain ⟨hs, ht⟩ := append_cons_cancel h h' hchars
  exact ⟨String.toList_inj.mp hs, String.toList_inj.mp (List.append_cancel_left ht)⟩

/-- Texts are cut alike after the last occurrence of a character. -/
lemma cut_last {s' t' : String} (h : Lacks x t) (h' : Lacks x t')
    (heq : s ++ (String.ofList [x] ++ t) = s' ++ (String.ofList [x] ++ t')) :
    s = s' ∧ t = t' := by
  -- In the reversed texts the last occurrence is the first.
  have hchars := congrArg (List.reverse ∘ String.toList) heq
  simp only [Function.comp_apply, String.toList_append, String.toList_ofList, List.singleton_append,
    List.reverse_append, List.reverse_cons, List.append_assoc] at hchars
  obtain ⟨ht, hs⟩ :=
    append_cons_cancel (mt List.mem_reverse.mp h) (mt List.mem_reverse.mp h') hchars
  exact ⟨String.toList_inj.mp (List.reverse_injective hs),
    String.toList_inj.mp (List.reverse_injective ht)⟩

/-- Items that are not empty and lack the first character of the separator can be told from the
text that joins them. -/
lemma joined_injective {items items' : List String} (h : ∀ s ∈ items, Lacks x s ∧ s ≠ "")
    (h' : ∀ s ∈ items', Lacks x s ∧ s ≠ "")
    (heq : Text.joined (String.ofList (x :: tail)) items =
      Text.joined (String.ofList (x :: tail)) items') : items = items' := by
  -- A single item lacks the separator that stands between two.
  have hsingle : ∀ {s t u : String} {rest : List String}, Lacks x s →
      s ≠ Text.joined (String.ofList (x :: tail)) (t :: u :: rest) := by
    intro s t u rest hs heq
    rw [heq, joined_cons, lacks_append, lacks_append] at hs
    exact hs.2.1 (by simp)
  have hnil : ∀ {s : String} {rest : List String}, s ≠ "" →
      Text.joined (String.ofList (x :: tail)) (s :: rest) ≠ "" := by
    intro s rest hs heq
    cases rest with
    | nil => exact hs heq
    | cons t rest =>
      rw [joined_cons, String.append_eq_empty_iff] at heq
      exact hs heq.1
  induction items generalizing items' with
  | nil =>
    cases items' with
    | nil => rfl
    | cons s' rest' => exact (hnil (h' s' List.mem_cons_self).2 heq.symm).elim
  | cons s rest ih =>
    obtain ⟨⟨hs, hne⟩, hrest⟩ := List.forall_mem_cons.mp h
    cases items' with
    | nil => exact (hnil hne heq).elim
    | cons s' rest' =>
      obtain ⟨⟨hs', hne'⟩, hrest'⟩ := List.forall_mem_cons.mp h'
      cases rest with
      | nil =>
        cases rest' with
        | nil => exact congrArg (fun s => [s]) heq
        | cons t' rest' => exact (hsingle hs heq).elim
      | cons t rest =>
        cases rest' with
        | nil => exact (hsingle hs' heq.symm).elim
        | cons t' rest' =>
          rw [joined_cons, joined_cons] at heq
          obtain ⟨rfl, htail⟩ := cut_first hs hs' heq
          rw [ih hrest hrest' htail]

end Cutting

section Characters

variable {p : Char → Bool} {s t : String}

/-- Every character of the text is in the class. -/
def Consists (p : Char → Bool) (s : String) : Prop := ∀ c ∈ s.toList, p c = true

lemma consists_ofList {cs : List Char} (h : cs.all p = true) : Consists p (String.ofList cs) := by
  rw [Consists, String.toList_ofList]
  exact List.all_eq_true.mp h

lemma consists_append : Consists p (s ++ t) ↔ Consists p s ∧ Consists p t := by
  simp only [Consists, String.toList_append, List.forall_mem_append]

lemma lacks_of_consists {x : Char} (h : Consists p s) (hx : p x = false) : Lacks x s := by
  intro hmem
  rw [h x hmem] at hx
  cases hx

lemma consists_toString (n : Nat) : Consists Char.isDigit (toString n) := by
  intro c hc
  have hmem : c ∈ Nat.toDigits 10 n := Nat.toList_repr ▸ hc
  exact Nat.isDigit_of_mem_toDigits (by decide) (by decide) hmem

lemma toString_injective : Function.Injective (toString : Nat → String) := by
  intro n n' h
  have hdigits : Nat.toDigits 10 n = Nat.toDigits 10 n' := by
    rw [← Nat.toList_repr, ← Nat.toList_repr]
    exact congrArg String.toList h
  calc
    n = Nat.ofDigitChars 10 (Nat.toDigits 10 n) 0 := Nat.ofDigitChars_ten_toDigits.symm
    _ = Nat.ofDigitChars 10 (Nat.toDigits 10 n') 0 := by rw [hdigits]
    _ = n' := Nat.ofDigitChars_ten_toDigits

/-- The text may be the name of a function or of a parameter. -/
def IsIdentifier (s : String) : Prop := Pattern.identifier.holds s.toList = true

instance : DecidablePred IsIdentifier := fun s =>
  inferInstanceAs (Decidable (Pattern.identifier.holds s.toList = true))

lemma ne_empty_of_identifier (h : IsIdentifier s) : s ≠ "" := by
  rintro rfl
  cases h

lemma consists_of_identifier (h : IsIdentifier s) : Consists Pattern.isWord s := by
  unfold IsIdentifier at h
  unfold Consists
  cases hs : s.toList with
  | nil => exact fun c hc => (List.not_mem_nil hc).elim
  | cons c rest =>
    rw [hs, Pattern.holds, Bool.and_eq_true, List.all_eq_true] at h
    refine List.forall_mem_cons.mpr ⟨?_, h.2⟩
    have hinitial := h.1
    unfold Pattern.isInitial at hinitial
    unfold Pattern.isWord Char.isAlphanum
    grind

/-- What spellings of types are made of. -/
def isSpellingChar (c : Char) : Bool :=
  Pattern.isWord c || ['<', '>', '[', ']', '*', ' '].contains c

/-- The characters of what the spelling of an array or a list puts around its element. -/
def wrapperChars : List Char :=
  ['[', ']', '<', '>', 'B', 'D', 'F', 'I', 'L', 'S', 'a', 'b', 'c', 'e', 'g', 'i', 'l', 'n', 'o',
    'r', 's', 't', 'u', 'v']

lemma consists_of_subset {cs : List Char} (hp : wrapperChars.all p = true)
    (h : cs ⊆ wrapperChars) : Consists p (String.ofList cs) :=
  consists_ofList (List.all_eq_true.mpr fun c hc => List.all_eq_true.mp hp c (h hc))

lemma consists_arrayOf (family : Family) (hp : wrapperChars.all p = true)
    (h : Consists p s) : Consists p (family.arrayOf s) := by
  cases family <;> simp only [Family.arrayOf, consists_append, h, true_and, and_true]
  case java | javascript => exact consists_of_subset hp (by decide)
  all_goals exact ⟨consists_of_subset hp (by decide), consists_of_subset hp (by decide)⟩

lemma consists_listOf (family : Family) (element : TypeExpr) (hp : wrapperChars.all p = true)
    (h : Consists p s) : Consists p (family.listOf element s) := by
  cases family with
  | java =>
    cases element with
    | primitive q =>
      have hboxed : Consists p (Family.boxed q) := by
        cases q <;> exact consists_of_subset hp (by decide)
      exact consists_append.mpr ⟨consists_append.mpr ⟨consists_of_subset hp (by decide), hboxed⟩,
        consists_of_subset hp (by decide)⟩
    | _ =>
      exact consists_append.mpr ⟨consists_append.mpr ⟨consists_of_subset hp (by decide), h⟩,
        consists_of_subset hp (by decide)⟩
  | _ => exact consists_arrayOf _ hp h

lemma consists_spell (family : Family) (t : TypeExpr) :
    Consists isSpellingChar (family.spell t) := by
  induction t with
  | primitive p => cases family <;> cases p <;> exact consists_ofList (by decide)
  | array element ih => exact consists_arrayOf family (by decide) ih
  | list element ih => exact consists_listOf family element (by decide) ih
  | tree value => cases family <;> exact consists_ofList (by decide)
  | graph => cases family <;> exact consists_ofList (by decide)

end Characters

end StubGen.Proofs
