import Mathlib.Data.List.Induction
import Mathlib.Data.List.Nodup
import StubGen.Proofs.GenerationOutcome

/-!
# Runs of registrations

A program registers targets one after the other, and goes on when a registration is refused.
Whatever the run, a language is held by the first definition registered for it, and the languages
are listed once, in the order of these first registrations.
-/

namespace StubGen.Proofs

section Repetitions

variable {α : Type} [DecidableEq α]

lemma eraseDups_concat (xs : List α) (x : α) :
    (xs ++ [x]).eraseDups = if x ∈ xs then xs.eraseDups else xs.eraseDups ++ [x] := by
  rw [List.eraseDups_append, List.removeAll]
  by_cases hmem : x ∈ xs
  · rw [if_pos hmem, List.filter_cons_of_neg (by simpa using hmem)]
    exact List.append_nil _
  · rw [if_neg hmem, List.filter_cons_of_pos (by simpa using hmem)]
    rfl

lemma nodup_eraseDups (xs : List α) : xs.eraseDups.Nodup := by
  induction xs using List.reverseRecOn with
  | nil => exact List.nodup_nil
  | append_singleton xs x ih =>
    rw [eraseDups_concat]
    split_ifs with hmem
    · exact ih
    · apply List.nodup_append.mpr
      refine ⟨ih, List.nodup_singleton x, fun y hy z hz heq => hmem ?_⟩
      rw [← List.mem_singleton.mp hz, ← heq]
      exact List.mem_eraseDups.mp hy

end Repetitions

variable {r : Registry} {target : Target} {targets : List Target}

section Steps

lemma put_of_absent (h : targets.find? (fun t => t.language = target.language) = none) :
    Registry.put target targets = targets ++ [target] := by
  induction targets with
  | nil => rfl
  | cons t rest ih =>
    have hne : ¬t.language = target.language := by
      intro heq
      simp [heq] at h
    rw [List.find?_cons_of_neg (by simpa using hne)] at h
    rw [Registry.put, if_neg hne, ih h, List.cons_append]

/-- Putting a target where it stands already changes nothing. -/
lemma put_of_held (h : targets.find? (fun t => t.language = target.language) = some target) :
    Registry.put target targets = targets := by
  induction targets with
  | nil => cases h
  | cons t rest ih =>
    by_cases heq : t.language = target.language
    · rw [List.find?_cons_of_pos (by simpa using heq)] at h
      rw [Registry.put, if_pos heq, Option.some.inj h]
    · rw [List.find?_cons_of_neg (by simpa using heq)] at h
      rw [Registry.put, if_neg heq, ih h]

/-- How a registration ends: the target is new and comes last, it is there already and nothing
changes, or its language is held by another definition. -/
inductive Registration (r : Registry) (target : Target) :
    Except AlreadyRegistered Registry → Prop
  | added (h : r.find? target.language = none) :
    Registration r target (.ok ⟨r.targets ++ [target]⟩)
  | repeated (h : r.find? target.language = some target) : Registration r target (.ok r)
  | refused {held : Target} (h : r.find? target.language = some held) (hne : held ≠ target) :
    Registration r target (.error ⟨target.language⟩)

theorem register_ends (r : Registry) (target : Target) :
    Registration r target (r.register target) := by
  unfold Registry.register
  cases h : r.find? target.language with
  | none =>
    dsimp only
    rw [put_of_absent h]
    exact .added h
  | some held =>
    dsimp only
    split_ifs with heq
    · subst heq
      rw [put_of_held h]
      exact .repeated h
    · exact .refused h heq

lemma register_eq_error_iff {e : AlreadyRegistered} :
    r.register target = .error e ↔
      e = ⟨target.language⟩ ∧ ∃ held, r.find? target.language = some held ∧ held ≠ target := by
  have hends := register_ends r target
  constructor
  · intro he
    rw [he] at hends
    cases hends with
    | refused h hne => exact ⟨rfl, _, h, hne⟩
  · rintro ⟨rfl, held, h, hne⟩
    cases hresult : r.register target with
    | error e =>
      rw [hresult] at hends
      cases hends
      rfl
    | ok r' =>
      rw [hresult] at hends
      cases hends with
      | added habsent => cases habsent.symm.trans h
      | repeated hheld => exact (hne (Option.some.inj (h.symm.trans hheld))).elim

lemma register_of_held (h : r.find? target.language = some target) :
    r.register target = .ok r := by
  have hends := register_ends r target
  cases hresult : r.register target with
  | error e =>
    obtain ⟨-, held, hheld, hne⟩ := register_eq_error_iff.mp hresult
    exact (hne (Option.some.inj (hheld.symm.trans h))).elim
  | ok r' =>
    rw [hresult] at hends
    cases hends with
    | added habsent => cases habsent.symm.trans h
    | repeated _ => rfl

lemma attempt_of_error {e : AlreadyRegistered} (h : r.register target = .error e) :
    r.attempt target = r := by
  rw [Registry.attempt, h]

end Steps

section Runs

/-- The registry is what remains of the targets offered to it: the first of each language. -/
structure KeepsFirst (r : Registry) (offered : List Target) : Prop where
  held : ∀ language, r.find? language = offered.find? fun t => t.language = language
  languages : r.languages = (offered.map Target.language).eraseDups

lemma find?_append_of_held {language : String} {held : Target}
    (h : targets.find? (fun t => t.language = target.language) = some held) :
    (targets ++ [target]).find? (fun t => t.language = language) =
      targets.find? fun t => t.language = language := by
  rw [List.find?_append]
  by_cases heq : target.language = language
  · subst heq
    rw [h]
    rfl
  · rw [List.find?_cons_of_neg (by simpa using heq), List.find?_nil, Option.or_none]

lemma language_mem_iff {language : String} :
    language ∈ targets.map Target.language ↔
      ∃ held, targets.find? (fun t => t.language = language) = some held := by
  rw [← Option.isSome_iff_exists, List.find?_isSome, List.mem_map]
  simp only [decide_eq_true_eq]

lemma keepsFirst_of_held {held : Target} (h : KeepsFirst r targets)
    (hheld : r.find? target.language = some held) : KeepsFirst r (targets ++ [target]) := by
  rw [h.held] at hheld
  constructor
  · intro language
    rw [h.held, find?_append_of_held hheld]
  · rw [h.languages, List.map_append, List.map_singleton, eraseDups_concat,
      if_pos (language_mem_iff.mpr ⟨held, hheld⟩)]

/-- A registration keeps the first of each language, whether or not it is refused. -/
lemma keepsFirst_attempt (h : KeepsFirst r targets) (target : Target) :
    KeepsFirst (r.attempt target) (targets ++ [target]) := by
  have hends := register_ends r target
  unfold Registry.attempt
  generalize r.register target = result at hends ⊢
  cases hends with
  | added habsent =>
    constructor
    · intro language
      show (r.targets ++ [target]).find? _ = _
      rw [List.find?_append, List.find?_append]
      exact congrArg (Option.or · _) (h.held language)
    · have hnew : target.language ∉ targets.map Target.language := by
        rw [language_mem_iff, ← h.held, habsent]
        rintro ⟨_, hheld⟩
        cases hheld
      rw [List.map_append, List.map_singleton, eraseDups_concat, if_neg hnew, ← h.languages]
      exact List.map_append
  | repeated hheld => exact keepsFirst_of_held h hheld
  | refused hheld _ => exact keepsFirst_of_held h hheld

/-- So does a run of registrations. -/
lemma keepsFirst_run (h : KeepsFirst r targets) (attempts : List Target) :
    KeepsFirst (attempts.foldl Registry.attempt r) (targets ++ attempts) := by
  induction attempts generalizing r targets with
  | nil => rwa [List.append_nil]
  | cons target rest ih =>
    have hrest := ih (keepsFirst_attempt h target)
    rwa [List.append_assoc] at hrest

/-- The targets among the attempted ones whose registration succeeds. -/
def accepted (r : Registry) : List Target → List Target
  | [] => []
  | target :: rest =>
    match r.register target with
    | .ok registered => target :: accepted registered rest
    | .error _ => accepted r rest

/-- The refused registrations of a run may be left out. -/
lemma keepsFirst_accepted (h : KeepsFirst r targets) (attempts : List Target) :
    KeepsFirst (attempts.foldl Registry.attempt r) (targets ++ accepted r attempts) := by
  induction attempts generalizing r targets with
  | nil =>
    rw [accepted, List.append_nil]
    exact h
  | cons target rest ih =>
    have hnext := keepsFirst_attempt h target
    rw [List.foldl_cons, accepted]
    unfold Registry.attempt at hnext ⊢
    cases hresult : r.register target with
    | ok registered =>
      rw [hresult] at hnext
      have hrest := ih hnext
      rwa [List.append_assoc] at hrest
    | error e => exact ih h

lemma keepsFirst_builtin : KeepsFirst .builtin Target.builtins where
  held _ := rfl
  languages := by decide

lemma target_eq_ok_iff {language : String} :
    r.target language = .ok target ↔ r.find? language = some target := by
  unfold Registry.target
  cases r.find? language <;> simp

lemma isRegistered_iff_mem {language : String} :
    r.isRegistered language = true ↔ language ∈ r.languages := by
  rw [Registry.isRegistered, List.contains_iff_mem]

lemma mem_languages_iff {language : String} :
    language ∈ r.languages ↔ ∃ target, r.target language = .ok target := by
  simp only [target_eq_ok_iff]
  exact language_mem_iff

/-- After any run of registrations the built-in languages come first and are followed by the new
ones in the order of their first successful registration, each listed once. A language has the
target that was first registered for it, and has one exactly if it is listed. A further registration
is refused exactly if another definition holds the language, and then it changes nothing; nor does
registering the same definition again. -/
theorem registrations_keep_first (attempts : List Target) :
    let r := attempts.foldl Registry.attempt .builtin
    let registered := accepted .builtin attempts
    (r.languages.Nodup ∧
      r.languages = Registry.builtin.languages ++
        ((registered.map Target.language).removeAll Registry.builtin.languages).eraseDups) ∧
    (∀ language target, r.target language = .ok target ↔
      (Target.builtins ++ registered).find? (fun t => t.language = language) = some target) ∧
    (∀ language, (r.isRegistered language = true ↔ language ∈ r.languages) ∧
      (language ∈ r.languages ↔ ∃ target, r.target language = .ok target)) ∧
    ∀ target,
      (∀ e, r.register target = .error e ↔ e = ⟨target.language⟩ ∧
        ∃ held, r.target target.language = .ok held ∧ held ≠ target) ∧
      (∀ e, r.register target = .error e → r.attempt target = r) ∧
      (r.target target.language = .ok target → r.register target = .ok r) := by
  intro r registered
  have hkeeps : KeepsFirst r (Target.builtins ++ registered) :=
    keepsFirst_accepted keepsFirst_builtin attempts
  have hbuiltin : Registry.builtin.languages = (Target.builtins.map Target.language).eraseDups :=
    keepsFirst_builtin.languages
  have hlanguages : r.languages = Registry.builtin.languages ++
      ((registered.map Target.language).removeAll Registry.builtin.languages).eraseDups := by
    rw [hkeeps.languages, List.map_append, List.eraseDups_append, ← hbuiltin]
    rfl
  refine ⟨⟨?_, hlanguages⟩, ?_, ?_, ?_⟩
  · rw [hkeeps.languages]
    exact nodup_eraseDups _
  · intro language target
    rw [target_eq_ok_iff, hkeeps.held]
  · exact fun language => ⟨isRegistered_iff_mem, mem_languages_iff⟩
  · intro target
    simp only [target_eq_ok_iff]
    exact ⟨fun _ => register_eq_error_iff, fun _ => attempt_of_error, register_of_held⟩

end Runs

end StubGen.Proofs
