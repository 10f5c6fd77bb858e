import Mathlib.Tactic.Common
import StubGen.Command.Invocation
import StubGen.Proofs.Except

/-!
# Command lines that ask for a job

A flag takes the value that is attached to it as it is, whatever the value is. Lines in which all
values are attached are read as what they say. Whatever the line, a log level that is read from it
is one of those that the command line takes.
-/

namespace StubGen.Proofs
open Command (Arguments Flag Invocation Job Scope Verb Word logLevels wordOf wordsOf)

section Reading

variable {scope : Scope} {text : String} {line rest : List String} {b : Arguments}

/-- The arguments that are known after the line, read from those known before it. -/
def ReadsTo (scope : Scope) (line : List String) (a b : Arguments) : Prop :=
  ∃ words, wordsOf scope line = .ok words ∧ Arguments.read scope words a = .ok b

lemma readsTo_nil (scope : Scope) (a : Arguments) : ReadsTo scope [] a a := ⟨[], rfl, rfl⟩

lemma ofList_of_readsTo (h : ReadsTo scope line Arguments.empty b) :
    Arguments.ofList scope line = .ok b := by
  obtain ⟨words, hwords, hread⟩ := h
  rw [Arguments.ofList, hwords]
  exact hread

lemma wordsOf_cons {word : Word} {words : List Word} (hdash : text ≠ Command.doubleDash)
    (hword : wordOf scope text = .ok word) (hrest : wordsOf scope rest = .ok words) :
    wordsOf scope (text :: rest) = .ok (word :: words) := by
  rw [wordsOf, if_neg hdash, hword, hrest]
  rfl

lemma text_abbreviated {word : Word} (h : Command.abbreviated scope text = .ok word) :
    word.text = text := by
  unfold Command.abbreviated at h
  dsimp only at h
  split at h
  · cases h
    rfl
  · cases h
  · split at h <;> cases h <;> rfl

/-- Reading an argument keeps its text. -/
lemma text_wordOf {word : Word} (h : wordOf scope text = .ok word) : word.text = text := by
  unfold wordOf at h
  split at h
  case h_4 =>
    dsimp only at h
    split at h
    · cases h
      rfl
    · exact text_abbreviated h
  all_goals
    cases h
    rfl

lemma texts_wordsOf {words : List Word} (h : wordsOf scope line = .ok words) :
    words.map Word.text = line := by
  induction line generalizing words with
  | nil =>
    cases h
    rfl
  | cons text rest ih =>
    rw [wordsOf] at h
    split at h
    · next hdash =>
      cases h
      rw [List.map_cons, List.map_map, hdash]
      exact congrArg _ (List.map_id rest)
    · split at h
      · cases h
      · next word hword =>
        obtain ⟨words, hwords, rfl⟩ := map_eq_ok_iff.mp h
        rw [List.map_cons, text_wordOf hword, ih hwords]

end Reading

section Flags

variable {scope : Scope} {flag : Flag} {value : String}

/-- A flag with its value in one argument. -/
def withValue (flag : Flag) (value : String) : String := flag.title ++ ("=" ++ value)

lemma toList_withValue (flag : Flag) (value : String) :
    (withValue flag value).toList = flag.title.toList ++ '=' :: value.toList := by
  rw [withValue, String.toList_append, String.toList_append]
  rfl

lemma withValue_ne_doubleDash (flag : Flag) (value : String) :
    withValue flag value ≠ Command.doubleDash := by
  intro heq
  have hmem : '=' ∈ (withValue flag value).toList := by
    rw [toList_withValue]
    exact List.mem_append_right _ List.mem_cons_self
  rw [heq] at hmem
  exact absurd hmem (by decide)

lemma splitValue_withValue {name : List Char} (h : '=' ∉ name) (value : List Char) :
    Command.splitValue (name ++ '=' :: value) = (name, some value) := by
  have hall : ∀ c ∈ name, (c != '=') = true := fun c hc =>
    bne_iff_ne.mpr fun heq => h (heq ▸ hc)
  rw [Command.splitValue, List.dropWhile_append_of_pos hall, List.takeWhile_append_of_pos hall,
    List.dropWhile_cons_of_neg (by decide), List.takeWhile_cons_of_neg (by decide), List.append_nil]

/-- Every flag with a value has one spelling, which starts with two dashes. -/
lemma title_shape (h : flag ≠ .help) :
    '=' ∉ flag.title.toList ∧ ∃ letters, flag.title.toList = '-' :: '-' :: letters := by
  cases flag with
  | help => exact absurd rfl h
  | _ => exact ⟨by decide, _, rfl⟩

/-- How a scope sees a flag with a value depends on whether it has the flag. -/
lemma wordOf_withValue (h : flag ≠ .help) (scope : Scope) (value : String) :
    wordOf scope (withValue flag value) =
      match scope.spellings.lookup flag.title with
      | some found => .ok (.flag (withValue flag value) (found.use (some value)))
      | none => Command.abbreviated scope (withValue flag value) := by
  obtain ⟨hsign, letters, hletters⟩ := title_shape h
  have htext : (withValue flag value).toList = '-' :: '-' :: (letters ++ '=' :: value.toList) := by
    rw [toList_withValue, hletters]
    rfl
  have hsplit : Command.splitValue ('-' :: '-' :: (letters ++ '=' :: value.toList)) =
      (flag.title.toList, some value.toList) := by
    rw [← htext, toList_withValue, splitValue_withValue hsign]
  unfold wordOf
  rw [htext]
  dsimp only
  rw [hsplit]
  simp only [String.ofList_toList, Option.map_some]
  rfl

variable {rest : List String} {a b c : Arguments}

lemma readsTo_withValue (h : flag ≠ .help) (hscope : scope.spellings.lookup flag.title = some flag)
    (hassign : a.assign value flag = .ok b) (hrest : ReadsTo scope rest b c) :
    ReadsTo scope (withValue flag value :: rest) a c := by
  obtain ⟨words, hwords, hread⟩ := hrest
  have huse : flag.use (some value) = .valued flag (some value) := by
    cases flag with
    | help => exact absurd rfl h
    | _ => rfl
  have hword : wordOf scope (withValue flag value) =
      .ok (.flag (withValue flag value) (.valued flag (some value))) := by
    rw [wordOf_withValue h, hscope, ← huse]
  refine ⟨_, wordsOf_cons (withValue_ne_doubleDash flag value) hword hwords, ?_⟩
  rw [Arguments.read, hassign]
  exact hread

/-- A scope that has no such flag still makes a word of it. -/
lemma exists_wordOf_foreign (h : flag ≠ .help) (hlookup : scope.spellings.lookup flag.title = none)
    (hcandidates : Command.candidates scope flag.title.toList = []) (value : String) :
    ∃ word, wordOf scope (withValue flag value) = .ok word := by
  rw [wordOf_withValue h, hlookup]
  dsimp only
  rw [Command.abbreviated, toList_withValue, splitValue_withValue (title_shape h).1]
  dsimp only
  rw [hcandidates]
  dsimp only
  split <;> exact ⟨_, rfl⟩

end Flags

section Operands

variable {scope : Scope} {text : String} {rest : List String} {a : Arguments} {words : List Word}

lemma wordOf_operand (h : text.toList.head? ≠ some '-') (scope : Scope) :
    wordOf scope text = .ok (.operand text) := by
  unfold wordOf
  split
  · rfl
  · rfl
  · next htext => exact absurd (congrArg List.head? htext) h
  · next htext => exact absurd (congrArg List.head? htext) h
  · rfl

lemma ne_doubleDash (h : text.toList.head? ≠ some '-') : text ≠ Command.doubleDash := by
  rintro rfl
  exact h rfl

/-- The first operand of a scope that wants a verb is the verb, and what follows is left alone. -/
lemma readsTo_verb (verb : Verb) (hrest : wordsOf none rest = .ok words) (a : Arguments) :
    ReadsTo none (verb.name :: rest) a { a with verb := some (verb.name, rest) } := by
  have hname : verb.name.toList.head? ≠ some '-' := by cases verb <;> decide
  refine ⟨_, wordsOf_cons (ne_doubleDash hname) (wordOf_operand hname none) hrest, ?_⟩
  have htexts := texts_wordsOf hrest
  subst htexts
  match words with
  | [] => rfl
  | .separator :: _ => rfl
  | .operand _ :: _ => rfl
  | .flag _ _ :: _ => rfl
  | .unknownFlag _ :: _ => rfl

lemma readsTo_operand {verb : Verb} (hverb : verb.needsOperand = true) (ha : a.operand = none)
    (h : text.toList.head? ≠ some '-') :
    ReadsTo (some verb) [text] a { a with operand := some text } := by
  refine ⟨_, wordsOf_cons (ne_doubleDash h) (wordOf_operand h _) rfl, ?_⟩
  have hwanted : Scope.wanted (some verb) = .operand := by
    rw [Scope.wanted, hverb]
    rfl
  rw [Arguments.read, hwanted, ha]
  · rfl
  · exact nofun

end Operands

section Lines

variable {config level host : Option String} {rest : List String} {words : List Word}
  {inner : Arguments} {job : Job}

/-- The flags before a verb. -/
def outerFlags (config level : Option String) : List String :=
  (config.map (withValue .config)).toList ++ (level.map (withValue .logLevel)).toList

/-- The log level, if one is given, is the name of one that the command line takes, in any case. -/
def TakesLevel (level : Option String) : Prop := ∀ name ∈ level, Text.upper name ∈ logLevels

lemma assign_logLevel {name : String} (h : Text.upper name ∈ logLevels) (a : Arguments) :
    a.assign name .logLevel = .ok { a with logLevel := some (Text.upper name) } := by
  rw [Arguments.assign, if_pos (List.contains_iff_mem.mpr h)]

lemma readsTo_outerFlags {b : Arguments} (hlevel : TakesLevel level)
    (h : ReadsTo none rest
      { Arguments.empty with config := config, logLevel := level.map Text.upper } b) :
    ReadsTo none (outerFlags config level ++ rest) Arguments.empty b := by
  have hafter : ReadsTo none ((level.map (withValue .logLevel)).toList ++ rest)
      { Arguments.empty with config := config } b := by
    cases level with
    | none => exact h
    | some name =>
      exact readsTo_withValue (by decide) rfl (assign_logLevel (hlevel name rfl) _) h
  rw [outerFlags, List.append_assoc]
  cases config with
  | none => exact hafter
  | some file => exact readsTo_withValue (by decide) rfl rfl hafter

/-- A line asks for the job that its verb makes of the arguments behind it. -/
lemma ofArguments_of_readsTo (verb : Verb) (hlevel : TakesLevel level)
    (hrest : wordsOf none rest = .ok words)
    (hinner : ReadsTo (some verb) rest Arguments.empty inner) (hjob : verb.job inner = .ok job)
    (hused : inner.unused = []) :
    Invocation.ofArguments (outerFlags config level ++ verb.name :: rest) =
      .ok ⟨config, level.map Text.upper, job⟩ := by
  have houter : Arguments.ofList none (outerFlags config level ++ verb.name :: rest) =
      .ok { Arguments.empty with
        config := config, logLevel := level.map Text.upper, verb := some (verb.name, rest) } :=
    ofList_of_readsTo (readsTo_outerFlags hlevel (readsTo_verb verb hrest _))
  have hverb : Verb.ofName? verb.name = some verb := by cases verb <;> rfl
  have hinner := ofList_of_readsTo hinner
  rw [Invocation.ofArguments, houter]
  simp only [bind, Except.bind, hverb, hinner, hjob, Except.mapError, hused]
  rfl

/-- A language that does not look like a flag is what the table is printed for. -/
lemma ofArguments_types {language : String} (hlevel : TakesLevel level)
    (h : language.toList.head? ≠ some '-') :
    Invocation.ofArguments (outerFlags config level ++ ["types", language]) =
      .ok ⟨config, level.map Text.upper, .types language⟩ := by
  have hwords : wordsOf none [language] = .ok [.operand language] :=
    wordsOf_cons (ne_doubleDash h) (wordOf_operand h none) rfl
  exact ofArguments_of_readsTo .types hlevel hwords (readsTo_operand rfl rfl h) rfl rfl

/-- The flags behind the verb that starts the service. -/
def serveFlags (port host : Option String) : List String :=
  (port.map (withValue .port)).toList ++ (host.map (withValue .host)).toList

lemma exists_wordsOf_serveFlags (port host : Option String) :
    ∃ words, wordsOf none (serveFlags port host) = .ok words := by
  have hhost : ∃ words, wordsOf none (host.map (withValue .host)).toList = .ok words := by
    cases host with
    | none => exact ⟨_, rfl⟩
    | some name =>
      obtain ⟨word, hword⟩ : ∃ word, wordOf none (withValue .host name) = .ok word :=
        exists_wordOf_foreign (by decide) rfl (by decide) name
      exact ⟨_, wordsOf_cons (withValue_ne_doubleDash _ _) hword rfl⟩
  obtain ⟨words, hwords⟩ := hhost
  cases port with
  | none => exact ⟨_, hwords⟩
  | some text =>
    obtain ⟨word, hword⟩ : ∃ word, wordOf none (withValue .port text) = .ok word :=
      exists_wordOf_foreign (by decide) rfl (by decide) text
    exact ⟨_, wordsOf_cons (withValue_ne_doubleDash _ _) hword hwords⟩

/-- The service is asked for with the number that the text of the port spells, and the host as it is
given. -/
lemma ofArguments_serve {portText : Option String} {port : Option Int} (hlevel : TakesLevel level)
    (hport : portText.map Text.readInt = port.map some) :
    Invocation.ofArguments (outerFlags config level ++ "serve" :: serveFlags portText host) =
      .ok ⟨config, level.map Text.upper, .serve port host⟩ := by
  obtain ⟨words, hwords⟩ := exists_wordsOf_serveFlags portText host
  have hhost : ReadsTo (some .serve) (host.map (withValue .host)).toList
      { Arguments.empty with port := port }
      { Arguments.empty with port := port, host := host } := by
    cases host with
    | none => exact readsTo_nil _ _
    | some name => exact readsTo_withValue (by decide) rfl rfl (readsTo_nil _ _)
  have hinner : ReadsTo (some .serve) (serveFlags portText host) Arguments.empty
      { Arguments.empty with port := port, host := host } := by
    cases portText with
    | none =>
      cases port with
      | none => exact hhost
      | some n => cases hport
    | some text =>
      cases port with
      | none => cases hport
      | some n =>
        have hread : Text.readInt text = some n := Option.some.inj hport
        have hassign : Arguments.empty.assign text .port =
            .ok { Arguments.empty with port := some n } := by
          rw [Arguments.assign, hread]
        exact readsTo_withValue (by decide) rfl hassign hhost
  exact ofArguments_of_readsTo .serve hlevel hwords hinner rfl rfl

end Lines

section Levels

variable {scope : Scope} {a b : Arguments}

/-- The log level that has been read, if any, is one that the command line takes. -/
def LevelKnown (a : Arguments) : Prop := ∀ level ∈ a.logLevel, level ∈ logLevels

lemma levelKnown_assign {value : String} {flag : Flag} (h : a.assign value flag = .ok b)
    (ha : LevelKnown a) : LevelKnown b := by
  cases flag with
  | logLevel =>
    rw [Arguments.assign] at h
    split at h
    · next hlevel =>
      cases h
      intro level hmem
      rw [← Option.mem_some_iff.mp hmem]
      exact List.contains_iff_mem.mp hlevel
    · cases h
  | port =>
    rw [Arguments.assign] at h
    split at h <;> cases h
    exact ha
  | _ =>
    cases h
    exact ha

/-- Reading goes on or ends with a level that is known; only assigning a value can change it. -/
lemma levelKnown_read {words : List Word} (h : Arguments.read scope words a = .ok b)
    (ha : LevelKnown a) : LevelKnown b := by
  fun_induction Arguments.read scope words a with
  | case4 _ _ _ _ _ _ hassign ih => exact ih h (levelKnown_assign hassign ha)
  | case6 _ _ _ _ _ _ hassign ih => exact ih h (levelKnown_assign hassign ha)
  | case2 | case3 | case5 | case7 | case8 => cases h
  | case1 | case10 | case13 | case16 =>
    cases h
    exact ha
  | _ =>
    rename_i ih
    exact ih h ha

lemma level_mem_of_ofArguments {line : List String} {invocation : Invocation}
    (h : Invocation.ofArguments line = .ok invocation) :
    ∀ level ∈ invocation.logLevel, level ∈ logLevels := by
  obtain ⟨outer, houter, h⟩ := bind_eq_ok_iff.mp h
  have hknown : LevelKnown outer := by
    rw [Arguments.ofList] at houter
    split at houter
    · cases houter
    · exact levelKnown_read houter nofun
  split at h
  · obtain ⟨_, -, h⟩ := bind_eq_ok_iff.mp h
    cases h
  · split at h
    · cases h
    · obtain ⟨inner, -, h⟩ := bind_eq_ok_iff.mp h
      obtain ⟨job, -, h⟩ := bind_eq_ok_iff.mp h
      obtain ⟨_, -, h⟩ := bind_eq_ok_iff.mp h
      cases h
      exact hknown

end Levels

end StubGen.Proofs
