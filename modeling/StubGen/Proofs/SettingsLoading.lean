import StubGen.Command.Run
import StubGen.Files.Folder
import StubGen.Proofs.Except

/-!
# Failures of loading settings

Loading settings ends in settings, in a reported failure, or in an interruption. `Unexplained` lists
what interrupts it: a path that cannot be spelled, bytes that are no text, and a text that spells a
value which does not exist. Everything else is reported, and the command line shows the report.
-/

namespace StubGen.Proofs

variable {r : Registry} {files : Files.Source} {environment : Environment} {path : Files.Path}
  {settings : Settings} {i : Interruption}

/-- What in a file of settings interrupts the loading. -/
inductive Unexplained (files : Files.Source) (path : Files.Path) : Interruption → Prop
  | path (h : files path = .error .nullCharacter) :
    Unexplained files path (.path path .nullCharacter)
  | encoding {bytes : List UInt8} {e : Text.Utf8.DecodeError} (hread : files path = .ok bytes)
      (h : Text.Utf8.decode bytes = .error e) :
    Unexplained files path (.encoding e)
  | value {text : String} {e : Yaml.Error} (hread : Files.readText files path = .ok text)
      (h : Yaml.load text = .error e) (hvalue : e ≠ .markup) :
    Unexplained files path (.value e)

lemma readText_eq_access_iff {e : Files.ReadError} :
    Files.readText files path = .error (.access e) ↔ files path = .error e := by
  unfold Files.readText
  cases files path with
  | error e' => simp
  | ok bytes => cases h : Text.Utf8.decode bytes <;> simp [h]

lemma readText_eq_encoding_iff {e : Text.Utf8.DecodeError} :
    Files.readText files path = .error (.encoding e) ↔
      ∃ bytes, files path = .ok bytes ∧ Text.Utf8.decode bytes = .error e := by
  unfold Files.readText
  cases files path with
  | error e' => simp
  | ok bytes => cases h : Text.Utf8.decode bytes <;> simp [h]

lemma parse_interrupted_iff {label text : String} :
    Settings.parse r label text = .error (.interrupted i) ↔
      ∃ e, Yaml.load text = .error e ∧ e ≠ .markup ∧ i = .value e := by
  unfold Settings.parse
  split
  · next h => simp [h]
  · next e hvalue h =>
    rw [h]
    constructor
    · intro heq
      cases heq
      exact ⟨e, rfl, hvalue, rfl⟩
    · rintro ⟨_, heq, -, rfl⟩
      cases heq
      rfl
  · next document h => simp [h, mapError_eq_error_iff]

lemma unexplained_iff :
    Unexplained files path i ↔
      match Files.readText files path with
      | .ok text => ∃ e, Yaml.load text = .error e ∧ e ≠ .markup ∧ i = .value e
      | .error (.encoding e) => i = .encoding e
      | .error (.access e) => e = .nullCharacter ∧ i = .path path .nullCharacter := by
  constructor
  · intro h
    cases h with
    | path hnull =>
      rw [readText_eq_access_iff.mpr hnull]
      exact ⟨rfl, rfl⟩
    | encoding hbytes hdecode => rw [readText_eq_encoding_iff.mpr ⟨_, hbytes, hdecode⟩]
    | value hread hload hvalue =>
      rw [hread]
      exact ⟨_, hload, hvalue, rfl⟩
  · intro h
    split at h
    · next hread =>
      obtain ⟨e, hload, hvalue, rfl⟩ := h
      exact .value hread hload hvalue
    · next hread =>
      obtain ⟨bytes, hbytes, hdecode⟩ := readText_eq_encoding_iff.mp hread
      rw [h]
      exact .encoding hbytes hdecode
    · next hread =>
      obtain ⟨rfl, rfl⟩ := h
      exact .path (readText_eq_access_iff.mp hread)

lemma ofFile_interrupted_iff :
    Settings.ofFile r files path = .error (.interrupted i) ↔ Unexplained files path i := by
  rw [unexplained_iff, Settings.ofFile]
  cases hread : Files.readText files path with
  | ok text => exact parse_interrupted_iff
  | error e =>
    cases e with
    | encoding e => simp [eq_comm]
    | access e => cases e <;> simp [eq_comm]

/-- The environment only causes failures that are reported. -/
lemma withEnvironment_ne_interrupted :
    (Settings.withEnvironment environment settings).value ≠ .error (.interrupted i) := by
  unfold Settings.withEnvironment
  split
  · simp [Log.silent]
  · simp [Log.silent]
  · dsimp only
    split <;> simp

lemma load_interrupted_iff {source : Option Files.Path} :
    (Settings.load r files environment source).value = .error (.interrupted i) ↔
      ∃ path, source = some path ∧ Unexplained files path i := by
  cases source with
  | none => simp [Settings.load, withEnvironment_ne_interrupted]
  | some path =>
    simp only [Option.some.injEq, exists_eq_left', Settings.load]
    rw [← ofFile_interrupted_iff (r := r)]
    cases Settings.ofFile r files path with
    | ok settings => simp [withEnvironment_ne_interrupted]
    | error e => simp [Log.silent]

section Runs

variable {surroundings : Command.Surroundings} {line : List String}
  {invocation : Command.Invocation}

/-- A reported failure to load the settings is all that a run shows. -/
lemma run_of_reported {e : SettingsError}
    (hline : Command.Invocation.ofArguments line = .ok invocation)
    (hload : (Settings.load r surroundings.files surroundings.environment
      (Command.settingsFile surroundings invocation.config)).value = .error (.reported e)) :
    (Command.run r surroundings line).value = .ok (.failure [e.message]) := by
  simp only [Command.run, hline, Command.Invocation.run, Log.Logged.map, hload]

lemma run_of_loaded (hline : Command.Invocation.ofArguments line = .ok invocation)
    (hload : (Settings.load r surroundings.files surroundings.environment
      (Command.settingsFile surroundings invocation.config)).value = .ok settings) :
    (Command.run r surroundings line).value =
      Command.perform r settings
        ((Log.Level.ofName? (invocation.levelName settings)).getD .info) surroundings.files
        invocation.job := by
  simp only [Command.run, hline, Command.Invocation.run, Log.Logged.map, hload]

end Runs

/-- A file that holds one byte which starts no character. -/
def undecodable : Files.Source := Files.Folder.files [(.ofString "c.yaml", .file [0xff])]

end StubGen.Proofs
