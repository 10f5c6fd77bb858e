import StubGen.Proofs.CommandLines
import StubGen.Proofs.LogSetup
import StubGen.Proofs.SettingsLoading
import StubGen.Proofs.SettingsReading

/-!
# Sources of settings

The log level and the address of the service can be given on the command line, in the environment
and in a file. For the level the most specific source that has one counts. For the address it counts
too, but a port zero and an empty host on the command line do not count as given.
-/

namespace StubGen.Proofs
open Yaml (Data Document)
open Command (Invocation Service)

section Specification

variable {α : Type}

/-- What the file of the settings gives for a key, or the default if there is no such file or it
does not have the key. -/
def FileGives (files : Files.Source) (source : Option Files.Path) (key : String) (otherwise : α)
    (Means : Document → Data → α → Prop) (a : α) : Prop :=
  match source with
  | none => a = otherwise
  | some path => ∃ text d, Files.readText files path = .ok text ∧ Yaml.load text = .ok d ∧
      Given d d.root key otherwise (Means d) a

/-- The level of the most specific source: the command line, a variable that is not empty, or the
file. -/
def levelDue (given variableValue : Option String) (written : String) : String :=
  match given, variableValue with
  | some level, _ => level
  | none, none | none, some "" => written
  | none, some name => Text.upper name

/-- The address of the service comes from the command line where it is given there. -/
structure SpecificWins (port : Option Int) (host : Option String) (address : ServerAddress)
    (service : Service) : Prop where
  port : service.port = port.getD address.port
  host : service.host = (host.map RawText.whole).getD address.host

/-- The address of the service comes from the command line where a port other than zero or a host
that is not empty is given there. -/
structure ListensOn (port : Option Int) (host : Option String) (address : ServerAddress)
    (service : Service) : Prop where
  port : service.port = (port.filter (· ≠ 0)).getD address.port
  host : service.host = ((host.map RawText.whole).filter (· ≠ .whole "")).getD address.host

end Specification

section Files

variable {r : Registry} {files : Files.Source} {environment : Environment}
  {source : Option Files.Path} {settings configured : Settings}

/-- A document gives the log level and the address, also if it is empty. -/
lemma given_of_ofDocument {d : Document} (h : Settings.ofDocument r d = .ok configured) :
    Given d d.root "log-level" "INFO" IsLogLevel configured.logLevel ∧
      Given d d.root "server" .default (IsServer d) configured.server := by
  obtain ⟨hroot, rfl⟩ | ⟨-, hdescribes⟩ := document_cases h
  · rw [hroot]
    exact ⟨rfl, rfl⟩
  · exact ⟨hdescribes.logLevel, hdescribes.server⟩

/-- Loaded settings have what the file gives, apart from what the environment replaces. -/
lemma exists_configured (h : (Settings.load r files environment source).value = .ok settings) :
    ∃ configured, Overridden environment configured (.ok settings) ∧
      FileGives files source "log-level" "INFO" (fun _ => IsLogLevel) configured.logLevel ∧
      FileGives files source "server" .default IsServer configured.server := by
  obtain ⟨configured, hover, hsource⟩ := exists_overridden_of_load h
  refine ⟨configured, hover, ?_⟩
  obtain ⟨rfl, rfl⟩ | ⟨path, rfl, hfile⟩ := hsource
  · exact ⟨rfl, rfl⟩
  · obtain ⟨text, hread, hparse⟩ := exists_text_of_ofFile hfile
    obtain ⟨d, hload, hdocument⟩ := exists_document_of_parse hparse
    obtain ⟨hlevel, hserver⟩ := given_of_ofDocument hdocument
    exact ⟨⟨text, d, hread, hload, hlevel⟩, ⟨text, d, hread, hload, hserver⟩⟩

lemma server_of_overridden (h : Overridden environment configured (.ok settings)) :
    settings.server = configured.server := by
  cases h <;> rfl

lemma levelName_of_overridden (h : Overridden environment configured (.ok settings))
    (invocation : Invocation) :
    invocation.levelName settings = levelDue invocation.logLevel
      (environment.lookup Settings.logLevelVariable) configured.logLevel := by
  rw [Invocation.levelName]
  cases invocation.logLevel with
  | some level => rfl
  | none =>
    cases h with
    | kept hvariable =>
      obtain hvariable | hvariable := hvariable <;> rw [hvariable] <;> rfl
    | @replaced name hvariable hset hlevel =>
      rw [hvariable, levelDue]
      · rfl
      · exact hset

end Files

section Levels

variable {name : String}

lemma upper_of_isLevelName (h : IsLevelName name) : Text.upper name = name := by
  simp only [IsLevelName, Log.Level.names, List.map_cons, List.map_nil, List.mem_cons,
    List.not_mem_nil, or_false] at h
  obtain rfl | rfl | rfl | rfl | rfl | rfl | rfl | rfl := h <;> decide +kernel

/-- The log can be set up with every name of a level. -/
lemma setUp_of_isLevelName (h : IsLevelName name) (logger : Log.Logger) :
    let level := (Log.Level.ofName? name).getD .info
    logger.setUp name = .ok (loggerAt level) := by
  have hupper := upper_of_isLevelName h
  have hdisjoint : ∀ other ∈ otherNames, ¬IsLevelName other := by decide
  have hdue : ¬NamesNoLevel name := by
    rw [NamesNoLevel, hupper]
    exact fun hother => hdisjoint name hother h
  have hlevel : dueLevel name = (Log.Level.ofName? name).getD .info := by rw [dueLevel, hupper]
  rw [setUp_of_due hdue, hlevel]

/-- The level of a run has a name, whichever source it comes from. -/
lemma isLevelName_levelName {line : List String} {invocation : Invocation} {settings : Settings}
    (hline : Invocation.ofArguments line = .ok invocation)
    (hsettings : IsLevelName settings.logLevel) : IsLevelName (invocation.levelName settings) := by
  have hsub : Command.logLevels ⊆ Log.Level.names.map Prod.fst := by decide
  have hgiven := level_mem_of_ofArguments hline
  rw [Invocation.levelName]
  cases hlevel : invocation.logLevel with
  | none => exact hsettings
  | some level => exact hsub (hgiven level hlevel)

end Levels

section Serving

variable {settings : Settings} {port : Option Int} {host : Option String}

/-- Leaving a value out changes nothing unless it is the one that is given. -/
lemma getD_filter_ne_iff {α : Type} [DecidableEq α] {given : Option α} {left otherwise : α} :
    (given.filter (· ≠ left)).getD otherwise = given.getD otherwise ↔
      (given = some left → otherwise = left) := by
  cases given with
  | none => exact iff_of_true rfl nofun
  | some value =>
    by_cases hvalue : value = left
    · subst hvalue
      rw [Option.filter_some_neg (by simp)]
      exact ⟨fun h _ => h, fun h => h rfl⟩
    · rw [Option.filter_some_pos (by simpa using hvalue)]
      exact iff_of_true rfl fun h => absurd (Option.some.inj h) hvalue

lemma exists_service (settings : Settings) (port : Option Int) (host : Option String) :
    ∃ service, (Command.serve settings port host).service = some service ∧
      ListensOn port host settings.server service := by
  refine ⟨_, rfl, ?_, ?_⟩
  · dsimp only
    split
    · rfl
    · rfl
    · next n hn =>
      rw [Option.filter_some_pos (by simpa using hn)]
      rfl
  · dsimp only
    split
    · rfl
    · rfl
    · next name hname =>
      rw [Option.map_some, Option.filter_some_pos (by simpa using hname)]
      rfl

/-- The address is as specific as can be unless zero or the empty host are given. -/
lemma specificWins_iff {address : ServerAddress} {service : Service} (hpositive : 1 ≤ address.port)
    (h : ListensOn port host address service) :
    SpecificWins port host address service ↔
      port ≠ some 0 ∧ (host = some "" → address.host = .whole "") := by
  have hzero : (port = some 0 → address.port = 0) ↔ port ≠ some 0 :=
    ⟨fun h hgiven => absurd (h hgiven) (by omega), fun h hgiven => absurd hgiven h⟩
  have hempty : host.map RawText.whole = some (.whole "") ↔ host = some "" := by
    cases host <;> simp
  rw [← hzero, ← hempty, ← getD_filter_ne_iff, ← getD_filter_ne_iff, ← h.port, ← h.host]
  exact ⟨fun h => ⟨h.port, h.host⟩, fun h => ⟨h.1, h.2⟩⟩

end Serving

section Runs

variable {surroundings : Command.Surroundings} {config : Option String} {settings : Settings}

/-- Under settings that can be loaded, the log of every run has the level of the most specific
source and can be set up with it. The service is started with the port and the host of the most
specific source exactly if the port on the command line is not zero and the host there is not empty,
or the file has an empty host, too. A port zero and an empty host give way to the file and the
default. -/
theorem specific_sources_win_iff
    (hsettings : (Settings.load .builtin surroundings.files surroundings.environment
      (Command.settingsFile surroundings config)).value = .ok settings) :
    let source := Command.settingsFile surroundings config
    (∃ written address,
      FileGives surroundings.files source "log-level" "INFO" (fun _ => IsLogLevel) written ∧
      FileGives surroundings.files source "server" .default IsServer address ∧
      ∀ line invocation, Invocation.ofArguments line = .ok invocation →
        invocation.config = config →
        let due := levelDue invocation.logLevel
          (surroundings.environment.lookup Settings.logLevelVariable) written
        invocation.levelName settings = due ∧
        ∃ level, (∀ logger : Log.Logger, logger.setUp due = .ok (loggerAt level)) ∧
          (Command.run .builtin surroundings line).value =
            Command.perform .builtin settings level surroundings.files invocation.job ∧
          ∀ port host, invocation.job = .serve port host → ∃ outcome service,
            (Command.run .builtin surroundings line).value = .ok outcome ∧
            outcome.service = some service ∧ ListensOn port host address service ∧
            (SpecificWins port host address service ↔
              port ≠ some 0 ∧ (host = some "" → address.host = .whole ""))) ∧
    ∀ level portText port host, TakesLevel level → portText.map Text.readInt = port.map some →
      Invocation.ofArguments (outerFlags config level ++ "serve" :: serveFlags portText host) =
        .ok ⟨config, level.map Text.upper, .serve port host⟩ := by
  intro source
  have hsound : Sound .builtin settings := sound_of_load (isSelection_languages []) hsettings
  obtain ⟨configured, hover, hwritten, haddress⟩ := exists_configured hsettings
  refine ⟨⟨_, _, hwritten, haddress, fun line invocation hline hconfig => ?_⟩,
    fun level portText port host => ofArguments_serve⟩
  subst hconfig
  have hname := levelName_of_overridden hover invocation
  have hrun := run_of_loaded hline hsettings
  have hknown := isLevelName_levelName hline hsound.logLevel
  refine ⟨hname, (Log.Level.ofName? (invocation.levelName settings)).getD .info, ?_, hrun, ?_⟩
  · intro logger
    rw [← hname]
    exact setUp_of_isLevelName hknown logger
  · intro port host hjob
    obtain ⟨service, hservice, hlistens⟩ := exists_service settings port host
    have hpositive := hsound.port.1
    rw [server_of_overridden hover] at hlistens hpositive
    rw [hjob] at hrun
    exact ⟨_, service, hrun, hservice, hlistens, specificWins_iff hpositive hlistens⟩

/-- A file of settings with an address and a log level. -/
def addressFolder : Files.Source :=
  let text := "server:\n  host: h\n  port: 99\nlog-level: error\n"
  Files.Folder.files [(.ofString "c.yaml", .file (text.toList.map fun c => c.toNat.toUInt8))]

/-- The command line has a port and a level, the environment another level. -/
theorem specific_sources_win_over_file :
    let surroundings : Command.Surroundings :=
      ⟨addressFolder, .ofString "/", [("CODESTUB_LOG_LEVEL", "warn")]⟩
    let settings : Settings :=
      ⟨"development", ["java", "python", "cpp", "javascript"], 2, "WARN", ⟨"h", 99⟩⟩
    let line := ["--config", "c.yaml", "--log-level", "debug", "serve", "--port", "7"]
    (Settings.load .builtin surroundings.files surroundings.environment
        (Command.settingsFile surroundings (some "c.yaml"))).value = .ok settings ∧
      Invocation.ofArguments line = .ok ⟨some "c.yaml", some "DEBUG", .serve (some 7) none⟩ ∧
      ∃ outcome service, (Command.run .builtin surroundings line).value = .ok outcome ∧
        outcome.service = some service ∧ service.port = 7 ∧
        ∃ level, ∀ logger : Log.Logger, logger.setUp "DEBUG" = .ok (loggerAt level) := by
  intro surroundings settings line
  have hsettings : (Settings.load .builtin surroundings.files surroundings.environment
      (Command.settingsFile surroundings (some "c.yaml"))).value = .ok settings := by
    decide +kernel
  have hline : Invocation.ofArguments line =
      .ok ⟨some "c.yaml", some "DEBUG", .serve (some 7) none⟩ := by
    decide +kernel
  obtain ⟨⟨written, address, -, -, hruns⟩, -⟩ := specific_sources_win_iff hsettings
  obtain ⟨-, level, hlevel, -, hserve⟩ := hruns line _ hline rfl
  obtain ⟨outcome, service, hrun, hservice, hlistens, -⟩ := hserve (some 7) none rfl
  exact ⟨hsettings, hline, outcome, service, hrun, hservice, hlistens.port, level, hlevel⟩

/-- Zero and the empty host are given, but the defaults are used. -/
theorem zero_port_and_empty_host_give_way :
    let surroundings : Command.Surroundings := ⟨Files.Folder.files [], .ofString "/", []⟩
    ∃ outcome service,
      Invocation.ofArguments ["serve", "--port", "0", "--host", ""] =
        .ok ⟨none, none, .serve (some 0) (some "")⟩ ∧
      (Command.run .builtin surroundings ["serve", "--port", "0", "--host", ""]).value =
        .ok outcome ∧
      outcome.service = some service ∧ service.port = 8050 ∧ service.host = .whole "127.0.0.1" ∧
      ¬SpecificWins (some 0) (some "") .default service := by
  intro surroundings
  have hline : Invocation.ofArguments ["serve", "--port", "0", "--host", ""] =
      .ok ⟨none, none, .serve (some 0) (some "")⟩ := by
    decide +kernel
  have hsettings : (Settings.load .builtin surroundings.files surroundings.environment
      (Command.settingsFile surroundings none)).value = .ok (.default .builtin) := by
    decide +kernel
  exact ⟨_, _, hline, run_of_loaded hline hsettings, rfl, rfl, rfl, fun h => nomatch h.port⟩

end Runs

end StubGen.Proofs
