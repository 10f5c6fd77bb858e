import StubGen.Proofs.BlockLines
import StubGen.Proofs.CommandLines
import StubGen.Proofs.CommandRuns
import StubGen.Proofs.SettingsReading
import StubGen.Proofs.TableGroups

/-!
# The printed type table

A row of the table is printed as a line of two columns. No spelling of a type has a blank in it, and
no spelling in a target language starts with one, so that the row can be read off its line again,
even where the second column has blanks of its own.
-/

namespace StubGen.Proofs
open Command (Outcome Output)

section Rows

variable {key spelled : String}

/-- The text of a line before its first blank. -/
def keyPart (line : String) : List Char := line.toList.takeWhile (· != ' ')

/-- The rest of the line, from its first blank on. -/
def restPart (line : String) : List Char := line.toList.dropWhile (· != ' ')

/-- The row that a line shows: what stands before the first blank, and what follows the run of
blanks there. -/
def rowOf (line : String) : String × String :=
  (String.ofList (keyPart line), String.ofList ((restPart line).dropWhile (· == ' ')))

/-- Where the second part of the row starts in the line. -/
def columnOf (line : String) : Nat :=
  (keyPart line).length + ((restPart line).takeWhile (· == ' ')).length

/-- The first character is there and is no blank. -/
def StartsVisible (s : String) : Prop := ∃ c rest, s.toList = c :: rest ∧ c ≠ ' '

/-- A row of texts without line breaks whose parts can be told apart. -/
structure IsRow (row : String × String) : Prop where
  key_oneWord : Lacks ' ' row.1
  key_oneLine : Lacks '\n' row.1
  starts : StartsVisible row.2
  oneLine : Lacks '\n' row.2

lemma toList_blanks (n : Nat) : (Command.blanks n).toList = List.replicate n ' ' := by
  rw [Command.blanks, String.pushn]
  induction n with
  | zero => rfl
  | succ n ih => rw [Nat.repeat, String.toList_push, ih, List.replicate_succ']

/-- A line with the key, at least two blanks, and the other part of the row. -/
def lineOf (width : Nat) (row : String × String) : String :=
  Command.padded width row.1 ++ "  " ++ row.2

lemma toList_lineOf (width : Nat) (row : String × String) :
    (lineOf width row).toList =
      row.1.toList ++ (List.replicate (width - row.1.length + 2) ' ' ++ row.2.toList) := by
  simp only [lineOf, Command.padded, String.toList_append, toList_blanks, List.append_assoc]
  rw [List.replicate_add, List.append_assoc]
  rfl

lemma parts_lineOf {row : String × String} (h : IsRow row) (width : Nat) :
    keyPart (lineOf width row) = row.1.toList ∧
      restPart (lineOf width row) =
        List.replicate (width - row.1.length + 2) ' ' ++ row.2.toList := by
  have hkey : ∀ c ∈ row.1.toList, (c != ' ') = true := fun c hc =>
    bne_iff_ne.mpr fun heq => h.key_oneWord (heq ▸ hc)
  have hblank : ∀ rest, List.replicate (width - row.1.length + 2) ' ' ++ rest =
      ' ' :: (List.replicate (width - row.1.length + 1) ' ' ++ rest) := fun rest => rfl
  rw [keyPart, restPart, toList_lineOf, List.takeWhile_append_of_pos hkey,
    List.dropWhile_append_of_pos hkey, hblank, List.takeWhile_cons_of_neg (by decide),
    List.dropWhile_cons_of_neg (by decide), List.append_nil]
  exact ⟨rfl, rfl⟩

/-- The run of blanks ends where the second part of the row starts. -/
lemma blanks_restPart {row : String × String} (h : IsRow row) (width : Nat) :
    (restPart (lineOf width row)).takeWhile (· == ' ') =
        List.replicate (width - row.1.length + 2) ' ' ∧
      (restPart (lineOf width row)).dropWhile (· == ' ') = row.2.toList := by
  obtain ⟨c, rest, hspelled, hc⟩ := h.starts
  have hblanks : ∀ c ∈ List.replicate (width - row.1.length + 2) ' ', (c == ' ') = true :=
    fun c hc => beq_iff_eq.mpr (List.eq_of_mem_replicate hc)
  have hvisible : ¬(c == ' ') = true := by simpa using hc
  rw [(parts_lineOf h width).2, List.takeWhile_append_of_pos hblanks,
    List.dropWhile_append_of_pos hblanks, hspelled,
    List.takeWhile_cons_of_neg (p := (· == ' ')) hvisible,
    List.dropWhile_cons_of_neg (p := (· == ' ')) hvisible, List.append_nil]
  exact ⟨rfl, rfl⟩

lemma rowOf_lineOf {row : String × String} (h : IsRow row) (width : Nat) :
    rowOf (lineOf width row) = row := by
  rw [rowOf, (parts_lineOf h width).1, (blanks_restPart h width).2, String.ofList_toList,
    String.ofList_toList]

lemma columnOf_lineOf {row : String × String} (h : IsRow row) {width : Nat}
    (hwidth : row.1.length ≤ width) : columnOf (lineOf width row) = width + 2 := by
  rw [columnOf, (parts_lineOf h width).1, (blanks_restPart h width).1, List.length_replicate,
    String.length_toList]
  omega

lemma lacks_break_lineOf {row : String × String} (h : IsRow row) (width : Nat) :
    Lacks '\n' (lineOf width row) := by
  rw [Lacks, toList_lineOf, List.mem_append, List.mem_append, not_or, not_or]
  exact ⟨h.key_oneLine, fun hmem => absurd (List.eq_of_mem_replicate hmem) (by decide), h.oneLine⟩

end Rows

section Tables

variable {table : List (String × String)}

/-- The text has a line for each row of the table, in order, from which the row can be read, and the
second parts of all rows start two columns behind the longest key. -/
def Copies (table : List (String × String)) (text : String) : Prop :=
  ∃ lines widest, linesOf text = lines ++ [""] ∧ lines.map rowOf = table ∧
    (table.map fun row => row.1.length).max? = some widest ∧
    ∀ line ∈ lines, columnOf line = widest + 2

lemma linesOf_unlines {ls : List String} (h : ∀ l ∈ ls, Lacks '\n' l) :
    linesOf (Text.unlines ls) = ls ++ [""] := by
  induction ls with
  | nil => rfl
  | cons l rest ih =>
    obtain ⟨hl, hrest⟩ := List.forall_mem_cons.mp h
    rw [Text.unlines, String.append_assoc, linesOf_append_break, linesOf_of_lacks hl, ih hrest]
    rfl

lemma tableLines_eq {widest : Nat} (h : (table.map fun row => row.1.length).max? = some widest) :
    Command.tableLines table = some (table.map (lineOf widest)) := by
  have hlines : Command.tableLines table =
      (table.map fun row => row.1.length).max?.map fun width => table.map (lineOf width) := rfl
  rw [hlines, h, Option.map_some]

/-- Every table of such rows has lines, and it can be read off them. -/
lemma copies_tableLines (hne : table ≠ []) (h : ∀ row ∈ table, IsRow row) :
    ∃ lines, Command.tableLines table = some lines ∧ Copies table (Text.unlines lines) := by
  have hsome : (table.map fun row => row.1.length).max?.isSome = true := by
    simpa using hne
  obtain ⟨widest, hwidest⟩ := Option.isSome_iff_exists.mp hsome
  have hbound := (List.max?_eq_some_iff.mp hwidest).2
  refine ⟨_, tableLines_eq hwidest, _, widest, linesOf_unlines ?_, ?_, hwidest, ?_⟩
  · exact List.forall_mem_map.mpr fun row hrow => lacks_break_lineOf (h row hrow) widest
  · rw [List.map_map]
    exact (List.map_congr_left fun row hrow => rowOf_lineOf (h row hrow) widest).trans
      (List.map_id table)
  · refine List.forall_mem_map.mpr fun row hrow => columnOf_lineOf (h row hrow) ?_
    exact hbound _ (List.mem_map_of_mem hrow)

end Tables

section Spellings

variable {s t : String}

lemma startsVisible_append (h : StartsVisible s) : StartsVisible (s ++ t) := by
  obtain ⟨c, rest, hs, hc⟩ := h
  exact ⟨c, rest ++ t.toList, by rw [String.toList_append, hs]; rfl, hc⟩

lemma startsVisible_ofList {c : Char} {rest : List Char} (h : c ≠ ' ') :
    StartsVisible (String.ofList (c :: rest)) := ⟨c, rest, String.toList_ofList, h⟩

lemma startsVisible_arrayOf (family : Family) (h : StartsVisible s) :
    StartsVisible (family.arrayOf s) := by
  cases family
  case java | javascript => exact startsVisible_append h
  case python | cpp =>
    exact startsVisible_append (startsVisible_append (startsVisible_ofList (by decide)))

lemma startsVisible_spell (family : Family) (t : TypeExpr) : StartsVisible (family.spell t) := by
  induction t with
  | primitive p => cases family <;> cases p <;> exact startsVisible_ofList (by decide)
  | array element ih => exact startsVisible_arrayOf family ih
  | list element ih =>
    cases family with
    | java =>
      cases element <;>
        exact startsVisible_append (startsVisible_append (startsVisible_ofList (by decide)))
    | _ => exact startsVisible_arrayOf _ ih
  | tree value => cases family <;> exact startsVisible_ofList (by decide)
  | graph => cases family <;> exact startsVisible_ofList (by decide)

/-- What canonical spellings are made of. -/
def isTokenChar (c : Char) : Bool := c.isAlpha || ['<', '>', '[', ']'].contains c

lemma consists_spelling (t : TypeExpr) : Consists isTokenChar t.spelling := by
  induction t with
  | primitive p => cases p <;> exact consists_ofList (by decide)
  | array element ih =>
    rw [spelling_array, consists_append]
    exact ⟨ih, consists_ofList (by decide)⟩
  | list element ih =>
    rw [spelling_list, consists_append, consists_append]
    exact ⟨⟨consists_ofList (by decide), ih⟩, consists_ofList (by decide)⟩
  | tree value => cases value <;> exact consists_ofList (by decide)
  | graph => exact consists_ofList (by decide)

lemma isRow_of_type (family : Family) (t : TypeExpr) : IsRow (t.spelling, family.spell t) where
  key_oneWord := lacks_of_consists (consists_spelling t) rfl
  key_oneLine := lacks_of_consists (consists_spelling t) rfl
  starts := startsVisible_spell family t
  oneLine := lacks_of_consists (consists_spell family t) rfl

end Spellings

section Runs

variable {surroundings : Command.Surroundings} {config : Option String} {settings : Settings}
  {language : String}

lemma standardOutput_lines (ls : List String) :
    (Outcome.success (ls.map fun l => .line (.whole l))).standardOutput =
      .whole (Text.unlines ls) := by
  rw [Outcome.standardOutput, Outcome.success, List.map_map]
  induction ls with
  | nil => rfl
  | cons l rest ih =>
    rw [List.map_cons, Text.unlines]
    cases rest with
    | nil => exact congrArg RawText.whole String.append_empty.symm
    | cons next rest =>
      rw [List.map_cons] at ih ⊢
      rw [RawText.joined, ih]
      · rfl
      · exact List.cons_ne_nil _ _

/-- The table of an enabled language has rows, all of them with a type and its spelling. -/
lemma typeTable_rows (h : language ∈ Registry.builtin.languages) (limit : Int) :
    Registry.builtin.typeTable language limit ≠ [] ∧
      ∀ row ∈ Registry.builtin.typeTable language limit, IsRow row := by
  obtain ⟨target, ht⟩ := find?_of_isRegistered (List.contains_iff_mem.mpr h)
  refine ⟨List.ne_nil_of_mem (mem_typeTable_builtin ht limit .int), fun row hrow => ?_⟩
  rw [typeTable_eq ht] at hrow
  obtain ⟨t, -, rfl⟩ := List.mem_map.mp hrow
  exact isRow_of_type target.family t

lemma types_enabled (h : language ∈ settings.languages)
    (hregistered : language ∈ Registry.builtin.languages) :
    ∃ outcome printed, Command.types .builtin settings language = .ok outcome ∧
      outcome.exitCode = 0 ∧ outcome.standardOutput = .whole printed ∧
      Copies (Registry.builtin.typeTable language settings.maxNestingDepth) printed := by
  obtain ⟨hne, hrows⟩ := typeTable_rows hregistered settings.maxNestingDepth
  obtain ⟨lines, hlines, hcopies⟩ := copies_tableLines hne hrows
  rw [Command.types, if_pos (List.contains_iff_mem.mpr h), hlines]
  exact ⟨_, _, rfl, rfl, standardOutput_lines lines, hcopies⟩

lemma types_not_enabled (h : language ∉ settings.languages) :
    ∃ outcome, Command.types .builtin settings language = .ok outcome ∧ Fails outcome := by
  rw [Command.types, if_neg (mt List.contains_iff_mem.mp h)]
  exact ⟨_, rfl, fails_failure (List.cons_ne_nil _ _)⟩

/-- Under settings that can be loaded, a line that asks for the types of an enabled language prints
a copy of its table, and every other language is refused with an error line only. A language that
does not start with a dash can be asked for. -/
theorem types_prints_copy
    (hsettings : (Settings.load .builtin surroundings.files surroundings.environment
      (Command.settingsFile surroundings config)).value = .ok settings) :
    (∀ line logLevel language,
      Command.Invocation.ofArguments line = .ok ⟨config, logLevel, .types language⟩ →
        ∃ outcome, (Command.run .builtin surroundings line).value = .ok outcome ∧
          (language ∈ settings.languages → outcome.exitCode = 0 ∧
            ∃ printed, outcome.standardOutput = .whole printed ∧
              Copies (Registry.builtin.typeTable language settings.maxNestingDepth) printed) ∧
          (language ∉ settings.languages → Fails outcome)) ∧
      ∀ level language, TakesLevel level → language.toList.head? ≠ some '-' →
        Command.Invocation.ofArguments (outerFlags config level ++ ["types", language]) =
          .ok ⟨config, level.map Text.upper, .types language⟩ := by
  have hsound : Sound .builtin settings := sound_of_load (isSelection_languages []) hsettings
  refine ⟨fun line logLevel language hline => ?_, fun level language => ofArguments_types⟩
  have hrun := run_of_loaded hline hsettings
  by_cases henabled : language ∈ settings.languages
  · obtain ⟨outcome, printed, htypes, hexit, hprinted, hcopies⟩ :=
      types_enabled henabled (hsound.languages.registered henabled)
    exact ⟨outcome, hrun.trans htypes, fun _ => ⟨hexit, printed, hprinted, hcopies⟩,
      fun hnot => absurd henabled hnot⟩
  · obtain ⟨outcome, htypes, hfails⟩ := types_not_enabled henabled
    exact ⟨outcome, hrun.trans htypes, fun h => absurd h henabled, fun _ => hfails⟩

/-- A spelling with a blank in it is read whole. -/
theorem types_prints_copy_for_cpp :
    let surroundings : Command.Surroundings := ⟨Files.Folder.files [], .ofString "/", []⟩
    (Settings.load .builtin surroundings.files surroundings.environment
        (Command.settingsFile surroundings none)).value = .ok (.default .builtin) ∧
      ∃ outcome printed,
        (Command.run .builtin surroundings ["types", "cpp"]).value = .ok outcome ∧
        outcome.standardOutput = .whole printed ∧
        Copies (Registry.builtin.typeTable "cpp" 2) printed ∧
        ("long", "long long") ∈ Registry.builtin.typeTable "cpp" 2 := by
  intro surroundings
  have hsettings : (Settings.load .builtin surroundings.files surroundings.environment
      (Command.settingsFile surroundings none)).value = .ok (.default .builtin) := by
    decide +kernel
  obtain ⟨hlines, hread⟩ := types_prints_copy hsettings
  have hline := hread none "cpp" nofun (by decide)
  obtain ⟨outcome, hrun, henabled, -⟩ := hlines ["types", "cpp"] none "cpp" hline
  obtain ⟨-, printed, hprinted, hcopies⟩ := henabled (by decide)
  exact ⟨hsettings, outcome, printed, hrun, hprinted, hcopies, by decide⟩

end Runs

end StubGen.Proofs
