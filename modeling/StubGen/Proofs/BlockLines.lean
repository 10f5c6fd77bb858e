import StubGen.Proofs.BlockJoining

/-!
# Lines and blocks

Lines can be joined to a text and found again in it. When lines are joined to blocks, and these to a
file, no line is lost: the lines of the file are those of its blocks, with an empty line after each.
-/

namespace StubGen.Proofs

/-- The lines of a text, the last one being what follows the last line break. -/
def linesOf (text : String) : List String := (text.toList.splitOn '\n').map String.ofList

section Lines

lemma linesOf_append_break (s t : String) :
    linesOf (s ++ ("\n" ++ t)) = linesOf s ++ linesOf t := by
  have hsplit : (s ++ ("\n" ++ t)).toList.splitOn '\n' =
      s.toList.splitOn '\n' ++ t.toList.splitOn '\n' := by
    simp only [List.splitOn_eq_splitOnP, String.toList_append]
    exact List.splitOnP_append_cons s.toList t.toList rfl
  rw [linesOf, hsplit, List.map_append]
  rfl

lemma linesOf_of_lacks {s : String} (h : Lacks '\n' s) : linesOf s = [s] := by
  have hsplit : s.toList.splitOn '\n' = [s.toList] := by
    simpa using List.splitOn_intercalate '\n' (List.forall_mem_singleton.mpr h) (by simp)
  rw [linesOf, hsplit, List.map_singleton, String.ofList_toList]

lemma linesOf_lines {ls : List String} (hne : ls ≠ []) (h : ∀ l ∈ ls, Lacks '\n' l) :
    linesOf (Text.lines ls) = ls := by
  induction ls with
  | nil => exact (hne rfl).elim
  | cons l rest ih =>
    obtain ⟨hl, hrest⟩ := List.forall_mem_cons.mp h
    cases rest with
    | nil => exact linesOf_of_lacks hl
    | cons next rest =>
      have htail := ih (List.cons_ne_nil _ _) hrest
      rw [Text.lines] at htail ⊢
      rw [joined_cons, linesOf_append_break, linesOf_of_lacks hl, htail, List.singleton_append]

end Lines

section Blocks

variable {ls : List String}

/-- The first line starts with a visible character. -/
def OpensVisibly (ls : List String) : Prop :=
  ∃ c front rest, ls = String.ofList (c :: front) :: rest ∧ Text.isBlank c = false

/-- Lines that are kept as a block: the first one starts with a visible character, and the last one
is not empty. -/
structure IsBlock (ls : List String) : Prop where
  oneLine : ∀ l ∈ ls, Lacks '\n' l
  starts : OpensVisibly ls
  ends : ∃ l ∈ ls.getLast?, l ≠ ""

lemma ends_append {p : String → Prop} (front : List String) (h : ∃ l ∈ ls.getLast?, p l) :
    ∃ l ∈ (front ++ ls).getLast?, p l := by
  obtain ⟨l, hl, hp⟩ := h
  refine ⟨l, ?_, hp⟩
  rw [List.getLast?_append, Option.mem_def.mp hl]
  rfl

lemma ne_nil_of_isBlock (h : IsBlock ls) : ls ≠ [] := by
  obtain ⟨c, front, rest, rfl, -⟩ := h.starts
  exact List.cons_ne_nil _ _

lemma lines_starts (h : OpensVisibly ls) :
    ∃ c ∈ (Text.lines ls).toList.head?, Text.isBlank c = false := by
  obtain ⟨c, front, rest, rfl, hc⟩ := h
  refine ⟨c, ?_, hc⟩
  cases rest with
  | nil => simp [Text.lines, Text.joined]
  | cons next rest => simp [Text.lines, joined_cons]

/-- The last line, if it is not empty, ends the text. -/
lemma lines_ends {l : String} {c : Char} (hl : l ∈ ls.getLast?) (hc : c ∈ l.toList.getLast?) :
    c ∈ (Text.lines ls).toList.getLast? := by
  induction ls with
  | nil => cases hl
  | cons first rest ih =>
    cases rest with
    | nil =>
      obtain rfl : first = l := Option.some.inj hl
      exact hc
    | cons next rest =>
      rw [List.getLast?_cons_cons] at hl
      have htail := ih hl
      rw [Text.lines] at htail ⊢
      rw [joined_cons, ← String.append_assoc, String.toList_append, List.getLast?_append,
        Option.mem_def.mp htail]
      rfl

lemma isPart_of_isBlock (h : IsBlock ls) : IsPart (Text.lines ls).toList := by
  obtain ⟨c, hc, hvisible⟩ := lines_starts h.starts
  obtain ⟨l, hl, hne⟩ := h.ends
  have hlast := List.getLast?_eq_some_getLast (mt String.toList_eq_nil_iff.mp hne)
  refine isPart_of_ends hc (lines_ends hl hlast) hvisible fun hbreak => ?_
  exact h.oneLine l (List.mem_of_getLast? hl) (hbreak ▸ List.getLast_mem _)

lemma unlines_eq (hne : ls ≠ []) : Text.unlines ls = Text.lines ls ++ "\n" := by
  induction ls with
  | nil => exact (hne rfl).elim
  | cons l rest ih =>
    cases rest with
    | nil => exact String.append_empty
    | cons next rest =>
      have htail := ih (List.cons_ne_nil _ _)
      rw [Text.lines] at htail ⊢
      rw [Text.unlines, htail, joined_cons]
      simp only [String.append_assoc]

/-- Blocks with one empty line between them and a line break at the end have the lines of the
blocks, with an empty line after each. -/
lemma linesOf_joined {blocks : List (List String)} (hne : blocks ≠ [])
    (h : ∀ ls ∈ blocks, IsBlock ls) :
    linesOf (Text.joined "\n\n" (blocks.map Text.lines) ++ "\n") =
      blocks.flatMap fun ls => ls ++ [""] := by
  have hempty : linesOf "" = [""] := linesOf_of_lacks (lacks_ofList List.not_mem_nil)
  induction blocks with
  | nil => exact (hne rfl).elim
  | cons ls rest ih =>
    obtain ⟨hls, hrest⟩ := List.forall_mem_cons.mp h
    have hlines := linesOf_lines (ne_nil_of_isBlock hls) hls.oneLine
    cases rest with
    | nil =>
      show linesOf (Text.lines ls ++ ("\n" ++ "")) = ls ++ [""] ++ []
      rw [linesOf_append_break, hlines, hempty, List.append_nil]
    | cons next rest =>
      have hbreaks : ∀ s, "\n\n" ++ s = "\n" ++ ("" ++ ("\n" ++ s)) := by
        intro s
        rw [← String.toList_inj]
        simp
      have hfirst : Text.joined "\n\n" ((ls :: next :: rest).map Text.lines) ++ "\n" =
          Text.lines ls ++ ("\n" ++ ("" ++ ("\n" ++
            (Text.joined "\n\n" ((next :: rest).map Text.lines) ++ "\n")))) := by
        rw [List.map_cons, List.map_cons, joined_cons, String.append_assoc, String.append_assoc,
          hbreaks]
      rw [hfirst, linesOf_append_break, linesOf_append_break, ih (List.cons_ne_nil _ _) hrest,
        hlines, hempty]
      simp only [List.flatMap_cons, List.append_assoc]

end Blocks

end StubGen.Proofs
