import Mathlib.Data.List.DropRight
import Mathlib.Logic.Relation
import StubGen.Proofs.Separators

/-!
# Joining blocks

What joining keeps of a block is not blank and has no line break at its ends, and so is the text
that joins several of them. Blocks can therefore be joined in groups first, and neither blank blocks
nor line breaks at the ends of blocks matter.
-/

namespace StubGen.Proofs

section Trimming

variable {cs : List Char}

/-- There is no line break at the ends of the text. -/
structure Trimmed (cs : List Char) : Prop where
  starts : cs.head? ≠ some '\n'
  ends : cs.getLast? ≠ some '\n'

lemma head?_dropWhile_break (cs : List Char) :
    (cs.dropWhile (· == '\n')).head? ≠ some '\n' := by
  intro hhead
  have hbreak := List.head?_dropWhile_not (· == '\n') cs
  rw [hhead] at hbreak
  cases hbreak

lemma dropWhile_break_eq_self (h : cs.head? ≠ some '\n') : cs.dropWhile (· == '\n') = cs := by
  cases cs with
  | nil => rfl
  | cons c rest => exact List.dropWhile_cons_of_neg (by simpa using h)

lemma trimmed_trimBreaks (cs : List Char) : Trimmed (Text.trimBreaks cs) where
  starts := by
    -- What is trimmed at the right end is the front of what was trimmed at the left one.
    obtain ⟨tail, htail⟩ : Text.trimBreaks cs <+: cs.dropWhile (· == '\n') :=
      List.rdropWhile_prefix _ _
    intro hhead
    refine head?_dropWhile_break cs ?_
    rw [← htail, List.head?_append, hhead]
    rfl
  ends := by
    rw [Text.trimBreaks, Text.trimRight, List.getLast?_reverse]
    exact head?_dropWhile_break _

lemma trimBreaks_of_trimmed (h : Trimmed cs) : Text.trimBreaks cs = cs := by
  have hends : cs.reverse.head? ≠ some '\n' := by
    rw [List.head?_reverse]
    exact h.ends
  rw [Text.trimBreaks, Text.trimLeft, dropWhile_break_eq_self h.starts, Text.trimRight,
    dropWhile_break_eq_self hends, List.reverse_reverse]

lemma trimBreaks_cons_break (cs : List Char) :
    Text.trimBreaks ('\n' :: cs) = Text.trimBreaks cs := by
  rw [Text.trimBreaks, Text.trimLeft, List.dropWhile_cons_of_pos (by decide)]
  rfl

lemma trimBreaks_append_break (cs : List Char) :
    Text.trimBreaks (cs ++ ['\n']) = Text.trimBreaks cs := by
  rw [Text.trimBreaks, Text.trimLeft, List.dropWhile_append]
  split_ifs with hempty
  · rw [Text.trimBreaks, Text.trimLeft, List.isEmpty_iff.mp hempty]
    rfl
  · exact List.rdropWhile_concat_pos _ _ _ (by decide)

/-- Trimming takes blank characters away only. -/
lemma allBlank_trimBreaks (cs : List Char) :
    Text.allBlank (Text.trimBreaks cs) = Text.allBlank cs := by
  have hleft : ∀ ds : List Char,
      (ds.dropWhile (· == '\n')).all Text.isBlank = ds.all Text.isBlank := by
    intro ds
    induction ds with
    | nil => rfl
    | cons c rest ih =>
      by_cases hc : c = '\n'
      · subst hc
        rw [List.dropWhile_cons_of_pos (by decide), ih, List.all_cons]
        rfl
      · rw [List.dropWhile_cons_of_neg (by simpa using hc)]
  rw [Text.allBlank, Text.trimBreaks, Text.trimRight, List.all_reverse, hleft, List.all_reverse,
    Text.trimLeft, hleft, Text.allBlank]

end Trimming

section Parts

variable {cs ds : List Char} {blocks : List String}

/-- A text that joining keeps as it is. -/
structure IsPart (cs : List Char) : Prop extends Trimmed cs where
  visible : Text.allBlank cs = false

lemma isPart_of_ends {c d : Char} (hc : c ∈ cs.head?) (hd : d ∈ cs.getLast?)
    (hvisible : Text.isBlank c = false) (hbreak : d ≠ '\n') : IsPart cs where
  starts := by
    rw [Option.mem_def.mp hc]
    rintro ⟨⟩
    cases hvisible
  ends := by
    rw [Option.mem_def.mp hd]
    exact fun hend => hbreak (Option.some.inj hend)
  visible := by
    rw [Text.allBlank, List.all_eq_false]
    exact ⟨c, List.mem_of_mem_head? hc, by simp [hvisible]⟩

lemma ne_nil_of_isPart (h : IsPart cs) : cs ≠ [] := by
  rintro rfl
  cases h.visible

/-- What joining keeps of blocks. -/
def kept (blocks : List String) : List (List Char) :=
  ((blocks.map String.toList).filter fun b => !Text.allBlank b).map Text.trimBreaks

lemma joinBlocks_eq (blocks : List String) :
    Text.joinBlocks blocks = String.ofList (['\n', '\n'].intercalate (kept blocks)) := rfl

lemma kept_append (blocks more : List String) :
    kept (blocks ++ more) = kept blocks ++ kept more := by
  simp only [kept, List.map_append, List.filter_append]

lemma kept_middle (front back : List String) (b : String) :
    kept (front ++ b :: back) = kept front ++ (kept [b] ++ kept back) := by
  rw [kept_append, ← kept_append [b] back, List.singleton_append]

lemma kept_empty : kept [""] = [] := rfl

lemma kept_singleton (b : String) :
    kept [b] = if Text.allBlank b.toList then [] else [Text.trimBreaks b.toList] := by
  rw [kept, List.map_singleton, List.filter_singleton]
  cases Text.allBlank b.toList <;> rfl

lemma kept_of_isPart {text : String} (h : IsPart text.toList) : kept [text] = [text.toList] := by
  rw [kept_singleton, h.visible, trimBreaks_of_trimmed h.toTrimmed]
  rfl

lemma kept_of_forall_isPart (h : ∀ b ∈ blocks, IsPart b.toList) :
    kept blocks = blocks.map String.toList := by
  induction blocks with
  | nil => rfl
  | cons b rest ih =>
    obtain ⟨hb, hrest⟩ := List.forall_mem_cons.mp h
    rw [← List.singleton_append, kept_append, kept_of_isPart hb, ih hrest, List.map_append,
      List.map_singleton]

lemma isPart_of_mem_kept (h : cs ∈ kept blocks) : IsPart cs := by
  obtain ⟨b, hb, rfl⟩ := List.mem_map.mp h
  have hvisible : Text.allBlank b = false := by simpa using (List.mem_filter.mp hb).2
  exact ⟨trimmed_trimBreaks b, (allBlank_trimBreaks b).trans hvisible⟩

lemma kept_eq_nil_iff : kept blocks = [] ↔ ∀ b ∈ blocks, Text.allBlank b.toList = true := by
  simp [kept]

/-- The ends of a text that is put together from two parts are ends of these. -/
lemma isPart_append (h : IsPart cs) (h' : IsPart ds) (between : List Char) :
    IsPart (cs ++ between ++ ds) where
  starts := by
    rw [List.append_assoc, List.head?_append_of_ne_nil _ (ne_nil_of_isPart h)]
    exact h.starts
  ends := by
    rw [List.getLast?_append_of_ne_nil _ (ne_nil_of_isPart h')]
    exact h'.ends
  visible := by
    have hvisible := h.visible
    rw [Text.allBlank] at hvisible ⊢
    rw [List.all_append, List.all_append, hvisible, Bool.false_and, Bool.false_and]

lemma isPart_intercalate {parts : List (List Char)} (hne : parts ≠ [])
    (h : ∀ part ∈ parts, IsPart part) (between : List Char) :
    IsPart (between.intercalate parts) := by
  induction parts with
  | nil => exact (hne rfl).elim
  | cons part rest ih =>
    obtain ⟨hpart, hrest⟩ := List.forall_mem_cons.mp h
    cases rest with
    | nil =>
      rw [List.intercalate_singleton]
      exact hpart
    | cons next rest =>
      rw [List.intercalate_cons_cons]
      exact isPart_append hpart (ih (List.cons_ne_nil _ _) hrest) between

lemma isPart_joinBlocks (h : kept blocks ≠ []) : IsPart (Text.joinBlocks blocks).toList := by
  rw [joinBlocks_eq, String.toList_ofList]
  exact isPart_intercalate h (fun _ => isPart_of_mem_kept) _

lemma joinBlocks_of_kept_nil (h : kept blocks = []) : Text.joinBlocks blocks = "" := by
  rw [joinBlocks_eq, h]
  rfl

lemma trimmed_joinBlocks (blocks : List String) : Trimmed (Text.joinBlocks blocks).toList := by
  by_cases hkept : kept blocks = []
  · rw [joinBlocks_of_kept_nil hkept]
    exact ⟨nofun, nofun⟩
  · exact (isPart_joinBlocks hkept).toTrimmed

lemma joinBlocks_eq_empty_iff :
    Text.joinBlocks blocks = "" ↔ ∀ b ∈ blocks, Text.allBlank b.toList = true := by
  rw [← kept_eq_nil_iff]
  refine ⟨fun hempty => ?_, joinBlocks_of_kept_nil⟩
  by_contra hkept
  exact ne_nil_of_isPart (isPart_joinBlocks hkept) (String.toList_eq_nil_iff.mpr hempty)

end Parts

section Joined

lemma toList_joined (separator : String) (items : List String) :
    (Text.joined separator items).toList =
      separator.toList.intercalate (items.map String.toList) := by
  induction items with
  | nil => rfl
  | cons s rest ih =>
    cases rest with
    | nil => simp [Text.joined]
    | cons t rest =>
      rw [joined_cons, String.toList_append, String.toList_append, ih]
      simp only [List.map_cons, List.intercalate_cons_cons, List.append_assoc]

/-- Blocks that are kept as they are only get blank lines between them. -/
lemma joinBlocks_of_forall_isPart {blocks : List String} (h : ∀ b ∈ blocks, IsPart b.toList) :
    Text.joinBlocks blocks = Text.joined "\n\n" blocks := by
  rw [joinBlocks_eq, kept_of_forall_isPart h, ← String.toList_inj, String.toList_ofList,
    toList_joined]
  rfl

end Joined

section Groups

variable {xs ys : List String}

lemma intercalate_append {α : Type} {between : List α} {parts more : List (List α)}
    (hne : parts ≠ []) (hmore : more ≠ []) :
    between.intercalate (parts ++ more) =
      between.intercalate parts ++ between ++ between.intercalate more := by
  induction parts with
  | nil => exact (hne rfl).elim
  | cons part rest ih =>
    by_cases hrest : rest = []
    · rw [hrest, List.singleton_append, List.intercalate_cons_of_ne_nil hmore,
        List.intercalate_singleton]
    · rw [List.cons_append, List.intercalate_cons_of_ne_nil (by simp [hrest]), ih hrest,
        List.intercalate_cons_of_ne_nil hrest]
      simp only [List.append_assoc]

/-- Some parts in a row may be joined first. -/
lemma intercalate_group {α : Type} (between : List α) (front back : List (List α))
    {parts : List (List α)} (hne : parts ≠ []) :
    between.intercalate (front ++ ([between.intercalate parts] ++ back)) =
      between.intercalate (front ++ (parts ++ back)) := by
  have hgroup : between.intercalate ([between.intercalate parts] ++ back) =
      between.intercalate (parts ++ back) := by
    cases back with
    | nil => rw [List.append_nil, List.append_nil, List.intercalate_singleton]
    | cons next back =>
      have hback := List.cons_ne_nil next back
      rw [intercalate_append (List.cons_ne_nil _ _) hback, intercalate_append hne hback,
        List.intercalate_singleton]
  cases front with
  | nil => exact hgroup
  | cons first front =>
    have hfront := List.cons_ne_nil first front
    rw [intercalate_append hfront (List.append_ne_nil_of_left_ne_nil (List.cons_ne_nil _ _) _),
      intercalate_append hfront (List.append_ne_nil_of_left_ne_nil hne _), hgroup]

/-- Some blocks in a row may be joined first. -/
lemma joinBlocks_group (front xs back : List String) :
    Text.joinBlocks (front ++ Text.joinBlocks xs :: back) =
      Text.joinBlocks (front ++ (xs ++ back)) := by
  rw [joinBlocks_eq, joinBlocks_eq (front ++ (xs ++ back)), kept_middle, kept_append, kept_append]
  by_cases hkept : kept xs = []
  · rw [joinBlocks_of_kept_nil hkept, kept_empty, hkept]
  · have hgroup := intercalate_group ['\n', '\n'] (kept front) (kept back) hkept
    rw [kept_of_isPart (isPart_joinBlocks hkept), joinBlocks_eq xs, String.toList_ofList, hgroup]

lemma joinBlocks_append (xs ys : List String) :
    Text.joinBlocks (xs ++ ys) = Text.joinBlocks [Text.joinBlocks xs, Text.joinBlocks ys] := by
  have hfirst : Text.joinBlocks [Text.joinBlocks xs, Text.joinBlocks ys] =
      Text.joinBlocks (xs ++ [Text.joinBlocks ys]) := joinBlocks_group [] xs _
  rw [hfirst, joinBlocks_group xs ys [], List.append_nil]

/-- A blank block is put in, or a line break is put in front of a block or behind it. -/
inductive Pads : List String → List String → Prop
  | blank {b : String} (front back : List String) (h : Text.allBlank b.toList = true) :
    Pads (front ++ back) (front ++ b :: back)
  | before (front back : List String) (b : String) :
    Pads (front ++ b :: back) (front ++ ("\n" ++ b) :: back)
  | behind (front back : List String) (b : String) :
    Pads (front ++ b :: back) (front ++ (b ++ "\n") :: back)

lemma kept_break_append (b : String) : kept ["\n" ++ b] = kept [b] := by
  have hchars : ("\n" ++ b).toList = '\n' :: b.toList := String.toList_append
  rw [kept_singleton, kept_singleton, ← allBlank_trimBreaks, hchars, trimBreaks_cons_break,
    allBlank_trimBreaks]

lemma kept_append_break (b : String) : kept [b ++ "\n"] = kept [b] := by
  have hchars : (b ++ "\n").toList = b.toList ++ ['\n'] := String.toList_append
  rw [kept_singleton, kept_singleton, ← allBlank_trimBreaks, hchars, trimBreaks_append_break,
    allBlank_trimBreaks]

lemma kept_of_pads (h : Pads xs ys) : kept xs = kept ys := by
  cases h with
  | blank front back hblank =>
    rw [kept_middle, kept_eq_nil_iff.mpr (List.forall_mem_singleton.mpr hblank), List.nil_append,
      kept_append]
  | before front back b => rw [kept_middle, kept_middle, kept_break_append]
  | behind front back b => rw [kept_middle, kept_middle, kept_append_break]

/-- Blocks that are padded, or from which padding is taken away, any number of times, are joined to
the same text. -/
lemma joinBlocks_of_padded (h : Relation.EqvGen Pads xs ys) :
    Text.joinBlocks xs = Text.joinBlocks ys := by
  have hkept : kept xs = kept ys := by
    induction h with
    | rel xs ys hpads => exact kept_of_pads hpads
    | refl xs => rfl
    | symm xs ys _ ih => exact ih.symm
    | trans xs ys zs _ _ hfirst hsecond => exact hfirst.trans hsecond
  rw [joinBlocks_eq, hkept, joinBlocks_eq]

end Groups

end StubGen.Proofs
