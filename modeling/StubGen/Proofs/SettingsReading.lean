import StubGen.Proofs.Except
import StubGen.Proofs.RegistryRuns
import StubGen.Settings.Loading

/-!
# Settings that a document describes

A document of settings is a mapping. `Describes` says which settings it describes, key by key, and
`FirstInvalid` which of its keys is reported where it describes none.
-/

namespace StubGen.Proofs

open Yaml (Data Document)

variable {α β : Type} {r : Registry} {d : Document} {settings : Settings}

section Specification

inductive SettingsKey where
  | environment | languages | depth | logLevel | server
  deriving DecidableEq, Repr, Inhabited

namespace SettingsKey

def name : SettingsKey → String
  | environment => "environment"
  | languages => "languages"
  | depth => "max-nesting-depth"
  | logLevel => "log-level"
  | server => "server"

/-- The keys in the order in which they are checked. -/
def all : List SettingsKey := [environment, languages, depth, logLevel, server]

/-- The key that a fault is about; a fault of the whole document is about none. -/
def ofFault? : SettingsFault → Option SettingsKey
  | .notMapping => none
  | .notString name | .notInteger name => all.find? fun key => key.name = name
  | .unknownEnvironment => some environment
  | .noLanguages | .languageNotString _ | .languageNotAvailable _ _ _ => some languages
  | .depthTooSmall => some depth
  | .unknownLogLevel _ => some logLevel
  | .serverNotMapping | .hostNotString | .portNotInteger | .portOutOfRange => some server

end SettingsKey

def IsMapping (d : Document) (value : Data) : Prop :=
  ∃ place entries, value = .collection place ∧ d.collection place = .map entries

/-- What a key of a mapping gives: the meaning of the value that stands there, or the default where
the key is absent. -/
def Given (d : Document) (mapping : Data) (name : String) (otherwise : α)
    (Means : Data → α → Prop) (a : α) : Prop :=
  match d.get? mapping name with
  | none => a = otherwise
  | some value => Means value a

def IsEnvironment (value : Data) (environment : String) : Prop :=
  value = .str environment ∧ environment ∈ Settings.environments

def IsLanguages (r : Registry) (d : Document) (value : Data) (languages : List String) : Prop :=
  ∃ place names, value = .collection place ∧
    d.collection place = .list (names.map fun name => .str (.whole name)) ∧
    names ≠ [] ∧ names ⊆ r.languages ∧ languages = names.eraseDups

def IsDepth (value : Data) (depth : Int) : Prop := value = .int depth ∧ 1 ≤ depth

/-- An upper-case name of a level. -/
def IsLevelName (name : String) : Prop := name ∈ Log.Level.names.map Prod.fst

instance : DecidablePred IsLevelName := fun name =>
  inferInstanceAs (Decidable (name ∈ Log.Level.names.map Prod.fst))

def IsLogLevel (value : Data) (level : String) : Prop :=
  ∃ name : String, value = .str name ∧ level = Text.upper name ∧ IsLevelName level

def IsServer (d : Document) (value : Data) (server : ServerAddress) : Prop :=
  IsMapping d value ∧
    Given d value "host" ServerAddress.default.host (fun v host => v = .str host) server.host ∧
    Given d value "port" ServerAddress.default.port (fun v port => v = .int port) server.port ∧
    1 ≤ server.port ∧ server.port ≤ 65535

/-- Each key gives its part of the settings. -/
structure Describes (r : Registry) (d : Document) (settings : Settings) : Prop where
  environment : Given d d.root "environment" "development" IsEnvironment settings.environment
  languages : Given d d.root "languages" r.languages (IsLanguages r d) settings.languages
  depth : Given d d.root "max-nesting-depth" 2 IsDepth settings.maxNestingDepth
  logLevel : Given d d.root "log-level" "INFO" IsLogLevel settings.logLevel
  server : Given d d.root "server" .default (IsServer d) settings.server

/-- A key is valid if it is absent or its value has a meaning. -/
def IsValid (r : Registry) (d : Document) (key : SettingsKey) : Prop :=
  ∀ value, d.get? d.root key.name = some value →
    match key with
    | .environment => ∃ environment, IsEnvironment value environment
    | .languages => ∃ languages, IsLanguages r d value languages
    | .depth => ∃ depth, IsDepth value depth
    | .logLevel => ∃ level, IsLogLevel value level
    | .server => ∃ server, IsServer d value server

/-- The first of some keys that is invalid. -/
def FirstInvalid (r : Registry) (d : Document) (keys : List SettingsKey) (key : SettingsKey) :
    Prop :=
  ∃ front rest, keys = front ++ key :: rest ∧ (∀ earlier ∈ front, IsValid r d earlier) ∧
    ¬IsValid r d key

/-- Some of the registered languages, each of them once. -/
structure IsSelection (r : Registry) (languages : List String) : Prop where
  ne_nil : languages ≠ []
  nodup : languages.Nodup
  registered : languages ⊆ r.languages

/-- What holds of all settings that are ever loaded. -/
structure Sound (r : Registry) (settings : Settings) : Prop where
  environment : settings.environment ∈ Settings.environments
  languages : IsSelection r settings.languages
  depth : 1 ≤ settings.maxNestingDepth
  logLevel : IsLevelName settings.logLevel
  port : 1 ≤ settings.server.port ∧ settings.server.port ≤ 65535

/-- What becomes of settings in an environment: a variable that is set and not empty replaces their
log level, and is refused if it names none. -/
inductive Overridden (environment : Environment) (settings : Settings) :
    Except LoadError Settings → Prop
  | kept (h : environment.lookup Settings.logLevelVariable = none ∨
      environment.lookup Settings.logLevelVariable = some "") :
    Overridden environment settings (.ok settings)
  | replaced {name : String} (h : environment.lookup Settings.logLevelVariable = some name)
      (hset : name ≠ "") (hlevel : IsLevelName (Text.upper name)) :
    Overridden environment settings (.ok { settings with logLevel := Text.upper name })
  | refused {name : String} (h : environment.lookup Settings.logLevelVariable = some name)
      (hset : name ≠ "") (hlevel : ¬IsLevelName (Text.upper name)) :
    Overridden environment settings
      (.error (.reported (.fault Settings.logLevelVariable (.unknownLogLevel name))))

end Specification

section Readers

lemma isMapping_iff {value : Data} : IsMapping d value ↔ (d.entries? value).isSome = true := by
  unfold IsMapping Document.entries?
  cases value with
  | collection place => cases h : d.collection place <;> simp [h]
  | _ => simp

lemma exists_given_iff {mapping : Data} {name : String} {otherwise : α}
    {Means : Data → α → Prop} :
    (∃ a, Given d mapping name otherwise Means a) ↔
      ∀ value, d.get? mapping name = some value → ∃ a, Means value a := by
  unfold Given
  cases d.get? mapping name <;> simp

/-- A computation gives what is meant, and its faults are about a key. -/
structure Reads (key : SettingsKey) (x : Except SettingsFault α) (Meant : α → Prop) : Prop where
  ok_iff : ∀ a, x = .ok a ↔ Meant a
  of_error : ∀ fault, x = .error fault → SettingsKey.ofFault? fault = some key

lemma pure_reads {key : SettingsKey} {a : α} :
    Reads key (.ok a : Except SettingsFault α) fun b => b = a where
  ok_iff _ := ⟨fun h => (Except.ok.inj h).symm, fun h => congrArg Except.ok h.symm⟩
  of_error := nofun

lemma throw_reads {key : SettingsKey} {fault : SettingsFault}
    (h : SettingsKey.ofFault? fault = some key) :
    Reads key (.error fault : Except SettingsFault α) fun _ => False where
  ok_iff _ := ⟨nofun, False.elim⟩
  of_error fault' he := by
    cases he
    exact h

lemma Reads.congr {key : SettingsKey} {x : Except SettingsFault α} {Meant Meant' : α → Prop}
    (hx : Reads key x Meant) (h : ∀ a, Meant a ↔ Meant' a) : Reads key x Meant' :=
  ⟨fun a => (hx.ok_iff a).trans (h a), hx.of_error⟩

lemma guard_reads {key : SettingsKey} {fault : SettingsFault} {c : Prop} [Decidable c] (a : α)
    (h : SettingsKey.ofFault? fault = some key) :
    Reads key (if c then return a else throw fault : Except SettingsFault α)
      fun b => b = a ∧ c := by
  by_cases hc : c
  · rw [if_pos hc]
    exact pure_reads.congr fun b => (and_iff_left hc).symm
  · rw [if_neg hc]
    exact (throw_reads h).congr fun b => ⟨False.elim, fun hb => hc hb.2⟩

lemma Reads.bind {key : SettingsKey} {x : Except SettingsFault α} {f : α → Except SettingsFault β}
    {Meant : α → Prop} {Meant' : α → β → Prop} (hx : Reads key x Meant)
    (hf : ∀ a, Reads key (f a) (Meant' a)) :
    Reads key (x >>= f) fun b => ∃ a, Meant a ∧ Meant' a b where
  ok_iff b := by
    rw [bind_eq_ok_iff]
    exact exists_congr fun a => and_congr (hx.ok_iff a) ((hf a).ok_iff b)
  of_error fault he := by
    obtain he | ⟨a, -, he⟩ := bind_eq_error_iff.mp he
    · exact hx.of_error fault he
    · exact (hf a).of_error fault he

/-- What is read at a key is read further, the default as well. -/
lemma Reads.given {key : SettingsKey} {mapping : Data} {name : String} {a : α} {otherwise : β}
    {x : Except SettingsFault α} {f : α → Except SettingsFault β} {Means : Data → α → Prop}
    {Means' : Data → β → Prop} {P : α → β → Prop}
    (hx : Reads key x (Given d mapping name a Means)) (hf : ∀ a, Reads key (f a) (P a))
    (hdefault : ∀ b, P a b ↔ b = otherwise)
    (hvalue : ∀ v b, (∃ a, Means v a ∧ P a b) ↔ Means' v b) :
    Reads key (x >>= f) (Given d mapping name otherwise Means') := by
  have hread := hx.bind hf
  refine hread.congr fun b => ?_
  unfold Given
  cases d.get? mapping name with
  | none =>
    simp only [exists_eq_left]
    exact hdefault b
  | some v => exact hvalue v b

lemma textOf_reads {key : SettingsKey} {mapping : Data} {name : String} {otherwise : RawText}
    {fault : SettingsFault} (h : SettingsKey.ofFault? fault = some key) :
    Reads key (Settings.textOf d mapping name otherwise fault)
      (Given d mapping name otherwise fun v t => v = .str t) := by
  unfold Settings.textOf Given
  constructor
  · intro t
    cases d.get? mapping name with
    | none => simp [eq_comm]
    | some v => cases v <;> simp
  · intro fault' he
    split at he <;> cases he
    exact h

lemma integerOf_reads {key : SettingsKey} {mapping : Data} {name : String} {otherwise : Int}
    {fault : SettingsFault} (h : SettingsKey.ofFault? fault = some key) :
    Reads key (Settings.integerOf d mapping name otherwise fault)
      (Given d mapping name otherwise fun v n => v = .int n) := by
  unfold Settings.integerOf Given
  constructor
  · intro n
    cases d.get? mapping name with
    | none => simp [eq_comm]
    | some v => cases v <;> simp
  · intro fault' he
    split at he <;> cases he
    exact h

lemma find?_environment_iff {name : RawText} {environment : String} :
    Settings.environments.find? (name = RawText.whole ·) = some environment ↔
      name = .whole environment ∧ environment ∈ Settings.environments := by
  constructor
  · intro h
    have hname : name = .whole environment := by simpa using List.find?_some h
    exact ⟨hname, List.mem_of_find?_eq_some h⟩
  · rintro ⟨rfl, hmem⟩
    simp only [Settings.environments, List.mem_cons, List.not_mem_nil, or_false] at hmem
    obtain rfl | rfl | rfl := hmem <;> rfl

lemma environmentOf_reads :
    Reads .environment (Settings.environmentOf d "development")
      (Given d d.root "environment" "development" IsEnvironment) := by
  refine (textOf_reads rfl).given (P := fun name environment =>
    name = .whole environment ∧ environment ∈ Settings.environments) ?_ ?_ ?_
  · intro name
    simp only [← find?_environment_iff]
    cases Settings.environments.find? (name = RawText.whole ·) with
    | none => exact (throw_reads rfl).congr fun _ => ⟨False.elim, nofun⟩
    | some found => exact pure_reads.congr fun _ => by rw [Option.some.injEq, eq_comm]
  · intro environment
    constructor
    · rintro ⟨h, -⟩
      exact (RawText.whole.inj h).symm
    · rintro rfl
      exact ⟨rfl, by decide⟩
  · intro v environment
    simp [IsEnvironment]

lemma depthOf_reads :
    Reads .depth (Settings.depthOf d 2) (Given d d.root "max-nesting-depth" 2 IsDepth) := by
  refine (integerOf_reads rfl).given (P := fun n depth => depth = n ∧ 1 ≤ n) ?_ ?_ ?_
  · intro n
    rw [← ite_not]
    simp only [Int.not_lt]
    exact guard_reads n rfl
  · intro depth
    simp
  · intro v depth
    simp [IsDepth]

lemma isLevelName_iff {name : String} :
    IsLevelName name ↔ (Log.Level.ofName? name).isSome = true := by
  rw [IsLevelName, Log.Level.ofName?, List.lookup_isSome_iff, List.mem_map]
  constructor
  · rintro ⟨entry, hmem, rfl⟩
    exact ⟨entry, hmem, beq_self_eq_true _⟩
  · rintro ⟨entry, hmem, heq⟩
    exact ⟨entry, hmem, (eq_of_beq heq).symm⟩

/-- The name of a level in any case gives its upper-case form. -/
lemma readLogLevel_of_isLevelName {name : String} (h : IsLevelName (Text.upper name)) :
    Settings.readLogLevel name = .ok (Text.upper name) := by
  obtain ⟨level, hlevel⟩ := Option.isSome_iff_exists.mp (isLevelName_iff.mp h)
  simp only [Settings.readLogLevel, RawText.toString?, Option.map_some, hlevel]

lemma readLogLevel_of_not_isLevelName {name : String} (h : ¬IsLevelName (Text.upper name)) :
    Settings.readLogLevel name = .error (.unknownLogLevel name) := by
  have hlevel : Log.Level.ofName? (Text.upper name) = none := by
    rwa [isLevelName_iff, Option.not_isSome_iff_eq_none] at h
  simp only [Settings.readLogLevel, RawText.toString?, Option.map_some, hlevel]

lemma readLogLevel_reads (name : RawText) :
    Reads .logLevel (Settings.readLogLevel name) fun level =>
      ∃ s : String, name = s ∧ level = Text.upper s ∧ IsLevelName level := by
  cases name with
  | broken before half rest => exact (throw_reads rfl).congr fun _ => ⟨False.elim, nofun⟩
  | whole s =>
    by_cases hlevel : IsLevelName (Text.upper s)
    · rw [readLogLevel_of_isLevelName hlevel]
      refine pure_reads.congr fun level => ⟨?_, ?_⟩
      · rintro rfl
        exact ⟨s, rfl, rfl, hlevel⟩
      · rintro ⟨_, heq, rfl, -⟩
        rw [RawText.whole.inj heq]
    · rw [readLogLevel_of_not_isLevelName hlevel]
      refine (throw_reads rfl).congr fun level => ⟨False.elim, ?_⟩
      rintro ⟨_, heq, rfl, hname⟩
      cases heq
      exact hlevel hname

lemma logLevelOf_reads :
    Reads .logLevel (Settings.logLevelOf d "INFO")
      (Given d d.root "log-level" "INFO" IsLogLevel) := by
  refine (textOf_reads rfl).given readLogLevel_reads ?_ ?_
  · intro level
    constructor
    · rintro ⟨s, hs, rfl, -⟩
      rw [← RawText.whole.inj hs]
      decide
    · rintro rfl
      exact ⟨"INFO", rfl, by decide, isLevelName_iff.mpr rfl⟩
  · intro v level
    simp [IsLogLevel]

/-- The items of a list of languages are their names, and all of them are registered. -/
lemma namesOf_eq_ok_iff {index : Nat} {items : List Data} {names : List String} :
    Settings.namesOf r index items = .ok names ↔
      items = names.map (fun name => .str (.whole name)) ∧ names ⊆ r.languages := by
  fun_induction Settings.namesOf r index items generalizing names with
  | case1 =>
    constructor
    · intro h
      cases h
      exact ⟨rfl, List.nil_subset _⟩
    · rintro ⟨h, -⟩
      rw [List.map_eq_nil_iff.mp h.symm]
  | case2 index name rest language hlanguage ih =>
    obtain ⟨hname, hregistered⟩ := Option.filter_eq_some_iff.mp hlanguage
    have hname := RawText.toString?_eq_some_iff.mp hname
    rw [map_eq_ok_iff]
    constructor
    · rintro ⟨tail, htail, rfl⟩
      obtain ⟨hrest, hsub⟩ := ih.mp htail
      rw [hname, hrest]
      exact ⟨rfl, List.cons_subset.mpr ⟨isRegistered_iff_mem.mp hregistered, hsub⟩⟩
    · rintro ⟨hitems, hsub⟩
      cases names with
      | nil => cases hitems
      | cons first tail =>
        obtain ⟨hitem, hrest⟩ := List.cons.inj hitems
        cases hname.symm.trans (Data.str.inj hitem)
        exact ⟨tail, ih.mpr ⟨hrest, (List.cons_subset.mp hsub).2⟩, rfl⟩
  | case3 index name rest hlanguage =>
    refine ⟨nofun, ?_⟩
    rintro ⟨hitems, hsub⟩
    cases names with
    | nil => cases hitems
    | cons first tail =>
      cases Data.str.inj (List.cons.inj hitems).1
      have hregistered := isRegistered_iff_mem.mpr (List.cons_subset.mp hsub).1
      cases hlanguage.symm.trans (Option.filter_eq_some_iff.mpr ⟨rfl, hregistered⟩)
  | case4 index item rest hitem =>
    refine ⟨nofun, ?_⟩
    rintro ⟨hitems, -⟩
    cases names with
    | nil => cases hitems
    | cons first tail => exact (hitem _ (List.cons.inj hitems).1).elim

lemma namesOf_of_error {index : Nat} {items : List Data} {fault : SettingsFault}
    (h : Settings.namesOf r index items = .error fault) :
    SettingsKey.ofFault? fault = some .languages := by
  fun_induction Settings.namesOf r index items with
  | case1 => cases h
  | case2 index name rest language hlanguage ih => exact ih (map_eq_error_iff.mp h)
  | case3 => cases h; rfl
  | case4 => cases h; rfl

lemma languagesOf_reads :
    Reads .languages (Settings.languagesOf r d r.languages)
      (Given d d.root "languages" r.languages (IsLanguages r d)) := by
  unfold Settings.languagesOf Given
  constructor
  · intro languages
    cases d.get? d.root "languages" with
    | none => simp [eq_comm]
    | some value =>
      cases value with
      | collection p =>
        dsimp only
        cases h : d.collection p with
        | list items =>
          cases items with
          | nil => simp [IsLanguages, h]
          | cons item rest =>
            rw [map_eq_ok_iff]
            constructor
            · rintro ⟨names, hnames, rfl⟩
              obtain ⟨hitems, hsub⟩ := namesOf_eq_ok_iff.mp hnames
              refine ⟨p, names, rfl, h.trans (congrArg _ hitems), ?_, hsub, rfl⟩
              rintro rfl
              cases hitems
            · rintro ⟨_, names, hplace, hlist, -, hsub, rfl⟩
              cases hplace
              have hitems := Yaml.Collection.list.inj (h.symm.trans hlist)
              exact ⟨names, namesOf_eq_ok_iff.mpr ⟨hitems, hsub⟩, rfl⟩
        | pairs entries => cases entries <;> simp [IsLanguages, h]
        | _ => simp [IsLanguages, h]
      | _ => simp [IsLanguages]
  · intro fault he
    split at he
    · cases he
    · split at he
      · exact namesOf_of_error (map_eq_error_iff.mp he)
      · cases he
        rfl
      · cases he
        rfl
    · cases he
      rfl

/-- The address in a mapping. -/
lemma addressIn_reads {value : Data} (h : IsMapping d value) :
    Reads .server (do
      let host ← Settings.textOf d value "host" ServerAddress.default.host .hostNotString
      let port ← Settings.integerOf d value "port" ServerAddress.default.port .portNotInteger
      if 1 ≤ port ∧ port ≤ Settings.maxPort then return (⟨host, port⟩ : ServerAddress)
        else throw .portOutOfRange) (IsServer d value) := by
  have hhost : Reads .server
      (Settings.textOf d value "host" ServerAddress.default.host .hostNotString)
      (Given d value "host" ServerAddress.default.host fun v host => v = .str host) :=
    textOf_reads rfl
  have hport : Reads .server
      (Settings.integerOf d value "port" ServerAddress.default.port .portNotInteger)
      (Given d value "port" ServerAddress.default.port fun v port => v = .int port) :=
    integerOf_reads rfl
  have hrange : ∀ host port, Reads .server
      (if 1 ≤ port ∧ port ≤ Settings.maxPort then return (⟨host, port⟩ : ServerAddress)
        else throw .portOutOfRange)
      fun server => server = ⟨host, port⟩ ∧ 1 ≤ port ∧ port ≤ 65535 :=
    fun host port => guard_reads _ rfl
  have hread := hhost.bind fun host => hport.bind (hrange host)
  refine hread.congr fun server => ⟨?_, ?_⟩
  · rintro ⟨host, hhost, port, hport, rfl, hrange⟩
    exact ⟨h, hhost, hport, hrange⟩
  · rintro ⟨-, hhost, hport, hrange⟩
    exact ⟨_, hhost, _, hport, rfl, hrange⟩

lemma serverOf_reads :
    Reads .server (Settings.serverOf d .default)
      (Given d d.root "server" .default (IsServer d)) := by
  unfold Settings.serverOf Given
  cases d.get? d.root "server" with
  | none => exact pure_reads
  | some value =>
    dsimp only
    by_cases hmapping : IsMapping d value
    · have hentries := isMapping_iff.mp hmapping
      rw [if_neg (by rwa [Bool.not_eq_true, Option.isNone_eq_false_iff])]
      exact addressIn_reads hmapping
    · have hentries := mt isMapping_iff.mpr hmapping
      rw [if_pos (by simpa using hentries)]
      exact (throw_reads rfl).congr fun server => ⟨False.elim, fun h => hmapping h.1⟩

end Readers

section Documents

lemma Reads.valid_iff {key : SettingsKey} {name : String} {otherwise : α}
    {x : Except SettingsFault α} {Means : Data → α → Prop}
    (hx : Reads key x (Given d d.root name otherwise Means)) :
    (∀ value, d.get? d.root name = some value → ∃ a, Means value a) ↔ ∃ a, x = .ok a := by
  have hgiven : (∃ a, Given d d.root name otherwise Means a) ↔
      ∀ value, d.get? d.root name = some value → ∃ a, Means value a := exists_given_iff
  rw [← hgiven]
  exact exists_congr fun a => (hx.ok_iff a).symm

/-- The faults of a computation are about the first invalid key. -/
def BlamesFirst (r : Registry) (d : Document) (keys : List SettingsKey)
    (x : Except SettingsFault α) : Prop :=
  ∀ fault, x = .error fault →
    ∃ key, FirstInvalid r d keys key ∧ SettingsKey.ofFault? fault = some key

lemma blamesFirst_bind {key : SettingsKey} {keys : List SettingsKey}
    {x : Except SettingsFault α} {f : α → Except SettingsFault β}
    {Meant : α → Prop} (hx : Reads key x Meant) (hvalid : IsValid r d key ↔ ∃ a, x = .ok a)
    (hf : ∀ a, BlamesFirst r d keys (f a)) : BlamesFirst r d (key :: keys) (x >>= f) := by
  -- Either this key is at fault, or it is valid and stands before the one at fault.
  intro fault he
  obtain he | ⟨a, ha, he⟩ := bind_eq_error_iff.mp he
  · have hinvalid : ¬IsValid r d key := by
      rw [hvalid, he]
      exact nofun
    exact ⟨key, ⟨[], keys, rfl, List.forall_mem_nil _, hinvalid⟩, hx.of_error fault he⟩
  · obtain ⟨found, ⟨front, rest, rfl, hfront, hinvalid⟩, hfault⟩ := hf a fault he
    have hkey : IsValid r d key := hvalid.mpr ⟨a, ha⟩
    exact ⟨found, ⟨key :: front, rest, rfl, List.forall_mem_cons.mpr ⟨hkey, hfront⟩, hinvalid⟩,
      hfault⟩

lemma ofDocument_of_isMapping (h : IsMapping d d.root) :
    Settings.ofDocument r d = (do
      let environment ← Settings.environmentOf d "development"
      let languages ← Settings.languagesOf r d r.languages
      let depth ← Settings.depthOf d 2
      let logLevel ← Settings.logLevelOf d "INFO"
      let server ← Settings.serverOf d .default
      return ⟨environment, languages, depth, logLevel, server⟩) := by
  have hroot : d.root ≠ .null := by
    obtain ⟨place, entries, hplace, -⟩ := h
    rw [hplace]
    exact Data.noConfusion
  have hentries := isMapping_iff.mp h
  unfold Settings.ofDocument
  dsimp only
  rw [if_neg hroot, if_neg (by rwa [Bool.not_eq_true, Option.isNone_eq_false_iff])]
  rfl

lemma ofDocument_of_not_isMapping (hroot : d.root ≠ .null) (h : ¬IsMapping d d.root) :
    Settings.ofDocument r d = .error .notMapping := by
  have hentries := mt isMapping_iff.mpr h
  unfold Settings.ofDocument
  dsimp only
  rw [if_neg hroot, if_pos (by simpa using hentries)]
  rfl

lemma ofDocument_of_null (hroot : d.root = .null) :
    Settings.ofDocument r d = .ok (.default r) := by
  unfold Settings.ofDocument
  dsimp only
  rw [if_pos hroot]
  rfl

lemma ofDocument_eq_ok_iff (h : IsMapping d d.root) :
    Settings.ofDocument r d = .ok settings ↔ Describes r d settings := by
  rw [ofDocument_of_isMapping h]
  simp only [bind_eq_ok_iff, environmentOf_reads.ok_iff, languagesOf_reads.ok_iff,
    depthOf_reads.ok_iff, logLevelOf_reads.ok_iff, serverOf_reads.ok_iff]
  constructor
  · rintro ⟨_, henvironment, _, hlanguages, _, hdepth, _, hlevel, _, hserver, hsettings⟩
    cases hsettings
    exact ⟨henvironment, hlanguages, hdepth, hlevel, hserver⟩
  · rintro ⟨henvironment, hlanguages, hdepth, hlevel, hserver⟩
    exact ⟨_, henvironment, _, hlanguages, _, hdepth, _, hlevel, _, hserver, rfl⟩

lemma ofDocument_blamesFirst (h : IsMapping d d.root) :
    BlamesFirst r d SettingsKey.all (Settings.ofDocument r d) := by
  rw [ofDocument_of_isMapping h]
  refine blamesFirst_bind environmentOf_reads environmentOf_reads.valid_iff fun environment => ?_
  refine blamesFirst_bind languagesOf_reads languagesOf_reads.valid_iff fun languages => ?_
  refine blamesFirst_bind depthOf_reads depthOf_reads.valid_iff fun depth => ?_
  refine blamesFirst_bind logLevelOf_reads logLevelOf_reads.valid_iff fun level => ?_
  refine blamesFirst_bind serverOf_reads serverOf_reads.valid_iff fun server => ?_
  exact fun fault he => nomatch he

lemma exists_describes_iff :
    (∃ settings, Describes r d settings) ↔ ∀ key, IsValid r d key := by
  constructor
  · rintro ⟨settings, h⟩ key
    cases key with
    | environment => exact exists_given_iff.mp ⟨_, h.environment⟩
    | languages => exact exists_given_iff.mp ⟨_, h.languages⟩
    | depth => exact exists_given_iff.mp ⟨_, h.depth⟩
    | logLevel => exact exists_given_iff.mp ⟨_, h.logLevel⟩
    | server => exact exists_given_iff.mp ⟨_, h.server⟩
  · intro h
    obtain ⟨environment, henvironment⟩ := exists_given_iff.mpr (h .environment)
    obtain ⟨languages, hlanguages⟩ := exists_given_iff.mpr (h .languages)
    obtain ⟨depth, hdepth⟩ := exists_given_iff.mpr (h .depth)
    obtain ⟨level, hlevel⟩ := exists_given_iff.mpr (h .logLevel)
    obtain ⟨server, hserver⟩ := exists_given_iff.mpr (h .server)
    exact ⟨⟨environment, languages, depth, level, server⟩,
      ⟨henvironment, hlanguages, hdepth, hlevel, hserver⟩⟩

end Documents

section Soundness

lemma given_induction {mapping : Data} {name : String} {a otherwise : α}
    {Means : Data → α → Prop} {P : α → Prop} (h : Given d mapping name otherwise Means a)
    (hdefault : P otherwise) (hvalue : ∀ v, Means v a → P a) : P a := by
  unfold Given at h
  split at h
  · rw [h]
    exact hdefault
  · exact hvalue _ h

lemma eraseDups_eq_nil_iff {names : List String} : names.eraseDups = [] ↔ names = [] := by
  simp only [List.eq_nil_iff_forall_not_mem, List.mem_eraseDups]

lemma isSelection_of_isLanguages {value : Data} {languages : List String}
    (h : IsLanguages r d value languages) : IsSelection r languages := by
  obtain ⟨_, names, -, -, hne, hsub, rfl⟩ := h
  refine ⟨mt eraseDups_eq_nil_iff.mp hne, nodup_eraseDups names, fun name hname => ?_⟩
  exact hsub (List.mem_eraseDups.mp hname)

lemma sound_of_describes (hr : IsSelection r r.languages) (h : Describes r d settings) :
    Sound r settings where
  environment := given_induction h.environment (by decide) fun _ h => h.2
  languages := given_induction h.languages hr fun _ => isSelection_of_isLanguages
  depth := given_induction h.depth (by decide) fun _ h => h.2
  logLevel := by
    refine given_induction h.logLevel (by decide) ?_
    rintro _ ⟨_, -, -, hlevel⟩
    exact hlevel
  port := by
    refine given_induction (P := fun server => 1 ≤ server.port ∧ server.port ≤ 65535) h.server ?_ ?_
    · decide
    · exact fun _ h => h.2.2.2

lemma sound_default (hr : IsSelection r r.languages) : Sound r (.default r) where
  environment := List.mem_cons_self
  languages := hr
  depth := by
    show (1 : Int) ≤ defaultMaxNestingDepth
    decide
  logLevel := by
    show IsLevelName "INFO"
    decide
  port := by
    show 1 ≤ ServerAddress.default.port ∧ ServerAddress.default.port ≤ 65535
    decide

/-- The registered languages are a selection after any run of registrations. -/
lemma isSelection_languages (attempts : List Target) :
    let r := attempts.foldl Registry.attempt .builtin
    IsSelection r r.languages := by
  have hkeeps := keepsFirst_run keepsFirst_builtin attempts
  refine ⟨?_, ?_, fun _ => id⟩
  · rw [hkeeps.languages, List.map_append]
    exact mt eraseDups_eq_nil_iff.mp (List.append_ne_nil_of_left_ne_nil (by decide) _)
  · rw [hkeeps.languages]
    exact nodup_eraseDups _

/-- Settings are the default ones for an empty document, and described by every other document. -/
lemma document_cases (h : Settings.ofDocument r d = .ok settings) :
    (d.root = .null ∧ settings = .default r) ∨ (IsMapping d d.root ∧ Describes r d settings) := by
  by_cases hroot : d.root = .null
  · rw [ofDocument_of_null hroot] at h
    cases h
    exact .inl ⟨hroot, rfl⟩
  · by_cases hmapping : IsMapping d d.root
    · exact .inr ⟨hmapping, (ofDocument_eq_ok_iff hmapping).mp h⟩
    · rw [ofDocument_of_not_isMapping hroot hmapping] at h
      cases h

lemma exists_document_of_parse {label text : String}
    (h : Settings.parse r label text = .ok settings) :
    ∃ d, Yaml.load text = .ok d ∧ Settings.ofDocument r d = .ok settings := by
  unfold Settings.parse at h
  split at h
  · cases h
  · cases h
  · next d hload => exact ⟨d, hload, mapError_eq_ok_iff.mp h⟩

lemma sound_of_parse (hr : IsSelection r r.languages) {label text : String}
    (h : Settings.parse r label text = .ok settings) : Sound r settings := by
  obtain ⟨d, -, hdocument⟩ := exists_document_of_parse h
  obtain ⟨-, rfl⟩ | ⟨-, hdescribes⟩ := document_cases hdocument
  · exact sound_default hr
  · exact sound_of_describes hr hdescribes

variable {environment : Environment}

lemma withEnvironment_overridden (environment : Environment) (settings : Settings) :
    Overridden environment settings (Settings.withEnvironment environment settings).value := by
  unfold Settings.withEnvironment
  split
  · next h => exact .kept (.inl h)
  · next h => exact .kept (.inr h)
  · next name hne h =>
    dsimp only
    by_cases hlevel : IsLevelName (Text.upper name)
    · rw [readLogLevel_of_isLevelName hlevel]
      exact .replaced h hne hlevel
    · rw [readLogLevel_of_not_isLevelName hlevel]
      exact .refused h hne hlevel

lemma sound_of_overridden {settings' : Settings} (h : Sound r settings)
    (ho : Overridden environment settings (.ok settings')) : Sound r settings' := by
  cases ho with
  | kept _ => exact h
  | replaced _ _ hlevel => exact { h with logLevel := hlevel }

lemma parse_of_load {label text : String} (h : Yaml.load text = .ok d) :
    Settings.parse r label text =
      (Settings.ofDocument r d).mapError fun fault => .reported (.fault label fault) := by
  rw [Settings.parse, h]

lemma load_of_readText {files : Files.Source} {path : Files.Path} {text : String}
    (h : Files.readText files path = .ok text) :
    (Settings.load r files environment (some path)).value =
      match Settings.parse r path.spelling text with
      | .ok settings => (Settings.withEnvironment environment settings).value
      | .error e => .error e := by
  rw [Settings.load, Settings.ofFile, h]
  dsimp only
  cases Settings.parse r path.spelling text <;> rfl

lemma exists_text_of_ofFile {files : Files.Source} {path : Files.Path}
    (h : Settings.ofFile r files path = .ok settings) :
    ∃ text, Files.readText files path = .ok text ∧
      Settings.parse r path.spelling text = .ok settings := by
  unfold Settings.ofFile at h
  split at h
  · next text hread => exact ⟨text, hread, h⟩
  all_goals cases h

/-- Loaded settings are those of the file, or the default ones without a file, apart from what the
environment replaces. -/
lemma exists_overridden_of_load {files : Files.Source} {source : Option Files.Path}
    (h : (Settings.load r files environment source).value = .ok settings) :
    ∃ found, Overridden environment found (.ok settings) ∧
      ((source = none ∧ found = .default r) ∨
        ∃ path, source = some path ∧ Settings.ofFile r files path = .ok found) := by
  have hafter : ∀ found, (Settings.withEnvironment environment found).value = .ok settings →
      Overridden environment found (.ok settings) := by
    intro found hvalue
    rw [← hvalue]
    exact withEnvironment_overridden environment found
  cases source with
  | none => exact ⟨_, hafter _ h, .inl ⟨rfl, rfl⟩⟩
  | some path =>
    rw [Settings.load] at h
    cases hfile : Settings.ofFile r files path with
    | ok found =>
      rw [hfile] at h
      exact ⟨found, hafter found h, .inr ⟨path, rfl, hfile⟩⟩
    | error e =>
      rw [hfile] at h
      cases h

lemma sound_of_load (hr : IsSelection r r.languages) {files : Files.Source}
    {source : Option Files.Path}
    (h : (Settings.load r files environment source).value = .ok settings) :
    Sound r settings := by
  obtain ⟨found, hover, hsource⟩ := exists_overridden_of_load h
  refine sound_of_overridden ?_ hover
  obtain ⟨-, rfl⟩ | ⟨path, -, hfile⟩ := hsource
  · exact sound_default hr
  · obtain ⟨text, -, hparse⟩ := exists_text_of_ofFile hfile
    exact sound_of_parse hr hparse

/-- A document with one nested list and one nested mapping. -/
def testDocument : Document :=
  let list : List Data := [.str "java", .str "python", .str "java"]
  let root : List (Data × Data) :=
    [(.str "environment", .str "test"), (.str "languages", .collection 4),
      (.str "log-level", .str "debug"), (.str "server", .collection 11)]
  let collection : Nat → Yaml.Collection
    | 0 => .map root
    | 4 => .list list
    | 11 => .map [(.str "port", .int 80)]
    | _ => .list []
  ⟨.collection 0, ((List.range 14).map collection).toArray⟩

end Soundness

end StubGen.Proofs
