import Mathlib.Data.List.Induction
import Mathlib.Tactic.Common
import StubGen.Log.Setup

/-!
# Repeated setting up of the log

A call either sets the logger up completely, whatever handlers it had, or is refused before anything
has changed. Only the two names that stand for something else than a level are refused, so that a
run of calls leaves the logger as the last call with another name does.
-/

namespace StubGen.Proofs
open Log (Constant Handler Level Logger)

section Specification

/-- The names in upper case that stand for something else than a level. -/
def otherNames : List String := ["BASIC_FORMAT", "_STYLES"]

/-- The name stands, in upper case, for something else than a level. -/
def NamesNoLevel : RawText → Prop
  | .whole s => Text.upper s ∈ otherNames
  | .broken _ _ _ => False

instance : DecidablePred NamesNoLevel
  | .whole s => inferInstanceAs (Decidable (Text.upper s ∈ otherNames))
  | .broken _ _ _ => isFalse id

/-- The level that is named in upper case, or that of information if none is. -/
def dueLevel : RawText → Level
  | .whole s => (Level.ofName? (Text.upper s)).getD .info
  | .broken _ _ _ => .info

/-- The logger at a level, with one handler for the same records, which go nowhere else. -/
def loggerAt (level : Level) : Logger := ⟨level, [⟨level.number, Log.recordFormat⟩], false⟩

/-- The logger has the level with the number, one handler with the same number, and keeps its
records to itself. -/
structure IsSetUp (number : Nat) (logger : Logger) : Prop where
  level : logger.level.number = number
  handler : ∃ handler, logger.handlers = [handler] ∧ handler.number = number
  propagates : logger.propagates = false

/-- A call succeeds and sets the logger up at the level that is due. -/
def SetsUp (logger : Logger) (name : RawText) : Prop :=
  ∃ after, logger.setUp name = .ok after ∧ IsSetUp (dueLevel name).number after

/-- The logger after a call, whether or not it is refused. -/
def loggerAfter (logger : Logger) (name : RawText) : Logger := (logger.call name).2

/-- Each call of a run sets the logger up. -/
def EachSetsUp (logger : Logger) : List RawText → Prop
  | [] => True
  | name :: rest => SetsUp logger name ∧ EachSetsUp (loggerAfter logger name) rest

end Specification

section Levels

variable {name : RawText}

lemma lookup_levels (s : String) (names : List (String × Level)) :
    List.lookup s (names.map fun (key, l) => (key, Constant.level l)) =
      (names.lookup s).map .level := by
  induction names with
  | nil => rfl
  | cons entry rest ih =>
    rw [List.map_cons, List.lookup_cons, List.lookup_cons, ih]
    cases s == entry.1 <;> rfl

lemma lookup_constants (s : String) :
    Constant.all.lookup s = ((Level.ofName? s).map .level).or
      (List.lookup s [("BASIC_FORMAT", .text Log.basicFormat), ("_STYLES", .table)]) := by
  rw [Constant.all, List.lookup_append, lookup_levels]
  rfl

lemma toLevel_of_due (h : ¬NamesNoLevel name) :
    (Constant.ofName name).toLevel = .ok (dueLevel name) := by
  cases name with
  | broken before half rest => rfl
  | whole s =>
    have hother : List.lookup (Text.upper s)
        [("BASIC_FORMAT", Constant.text Log.basicFormat), ("_STYLES", .table)] = none := by
      rw [List.lookup_eq_none_iff]
      rintro ⟨key, constant⟩ hentry
      refine bne_iff_ne.mpr fun heq => h ?_
      rw [NamesNoLevel, heq]
      exact List.mem_map_of_mem (f := Prod.fst) hentry
    rw [Constant.ofName, RawText.toString?, Option.bind_some, lookup_constants, hother,
      Option.or_none, dueLevel]
    cases Level.ofName? (Text.upper s) <;> rfl

/-- What has such a name is no level, and names none. -/
lemma toLevel_of_other (h : NamesNoLevel name) :
    ∃ e, (Constant.ofName name).toLevel = .error e := by
  cases name with
  | broken before half rest => exact h.elim
  | whole s =>
    simp only [NamesNoLevel, otherNames, List.mem_cons, List.not_mem_nil, or_false] at h
    rw [Constant.ofName, RawText.toString?, Option.bind_some]
    obtain h | h := h
    · rw [h]
      exact ⟨_, rfl⟩
    · rw [h]
      exact ⟨_, rfl⟩

end Levels

section Calls

variable {logger : Logger} {name : RawText}

lemma foldl_remove (handlers : List Handler) (level : Level) (propagates : Bool) :
    handlers.foldl Logger.remove ⟨level, handlers, propagates⟩ = ⟨level, [], propagates⟩ := by
  induction handlers with
  | nil => rfl
  | cons handler rest ih =>
    have hremove : Logger.remove ⟨level, handler :: rest, propagates⟩ handler =
        ⟨level, rest, propagates⟩ := by
      rw [Logger.remove, List.erase_cons_head]
    rw [List.foldl_cons, hremove, ih]

/-- Once the level can be set, every step succeeds. -/
lemma call_of_toLevel {level : Level} (h : (Constant.ofName name).toLevel = .ok level) :
    logger.call name = (.ok (), loggerAt level) := by
  have hcall : logger.call name = (.ok (), { (logger.handlers.foldl Logger.remove
      { logger with level := level }).add ⟨level.number, Log.recordFormat⟩ with
        propagates := false }) := by
    rw [Logger.call, Logger.steps, h]
    rfl
  rw [hcall, foldl_remove]
  rfl

/-- If it cannot be set, the first step ends the call. -/
lemma call_of_refused {e : Log.SetupError} (h : (Constant.ofName name).toLevel = .error e) :
    logger.call name = (.error e, logger) := by
  rw [Logger.call, Logger.steps, h]
  rfl

lemma setUp_of_due (h : ¬NamesNoLevel name) :
    logger.setUp name = .ok (loggerAt (dueLevel name)) := by
  rw [Logger.setUp, call_of_toLevel (toLevel_of_due h)]
  rfl

lemma loggerAfter_of_due (h : ¬NamesNoLevel name) :
    loggerAfter logger name = loggerAt (dueLevel name) := by
  rw [loggerAfter, call_of_toLevel (toLevel_of_due h)]

lemma refused_of_other (h : NamesNoLevel name) :
    (∃ e, logger.setUp name = .error e) ∧ loggerAfter logger name = logger := by
  obtain ⟨e, he⟩ := toLevel_of_other h
  rw [Logger.setUp, loggerAfter, call_of_refused he]
  exact ⟨⟨e, rfl⟩, rfl⟩

/-- A step of a run: a call sets the logger up unless its name stands for no level. -/
lemma setsUp_iff : SetsUp logger name ↔ ¬NamesNoLevel name := by
  constructor
  · rintro ⟨after, hafter, -⟩ hname
    obtain ⟨e, he⟩ : ∃ e, logger.setUp name = .error e := (refused_of_other hname).1
    cases hafter.symm.trans he
  · intro h
    exact ⟨_, setUp_of_due h, rfl, ⟨_, rfl, rfl⟩, rfl⟩

end Calls

section Runs

variable {logger : Logger}

lemma eachSetsUp_iff {names : List RawText} :
    EachSetsUp logger names ↔ ∀ name ∈ names, ¬NamesNoLevel name := by
  induction names generalizing logger with
  | nil => exact iff_of_true trivial (List.forall_mem_nil _)
  | cons name rest ih => rw [EachSetsUp, setsUp_iff, ih, List.forall_mem_cons]

/-- What a run leaves of a logger: the work of the last call that is not refused. -/
lemma foldl_loggerAfter (logger : Logger) (names : List RawText) :
    names.foldl loggerAfter logger =
      match (names.filter fun name => ¬NamesNoLevel name).getLast? with
      | some name => loggerAt (dueLevel name)
      | none => logger := by
  induction names using List.reverseRecOn with
  | nil => rfl
  | append_singleton names name ih =>
    rw [List.foldl_append, List.foldl_cons, List.foldl_nil, List.filter_append]
    by_cases h : NamesNoLevel name
    · rw [(refused_of_other h).2, ih, List.filter_cons_of_neg (by simpa using h), List.filter_nil,
        List.append_nil]
    · rw [loggerAfter_of_due h, List.filter_cons_of_pos (by simpa using h), List.filter_nil,
        List.getLast?_concat]

end Runs

/-- Every call of a run sets the logger up with one handler at the level that is due exactly if no
name of the run stands for something else than a level. Whatever has been called before, a call with
such a name is refused and leaves the logger as it was, and every other call sets it up, so that the
run leaves the logger to the last of these. -/
theorem calls_set_up_iff (logger : Logger) (names : List RawText) :
    (EachSetsUp logger names ↔ ∀ name ∈ names, ¬NamesNoLevel name) ∧
      (∀ name, (SetsUp (names.foldl loggerAfter logger) name ↔ ¬NamesNoLevel name) ∧
        ((∃ e, (names.foldl loggerAfter logger).setUp name = .error e) ↔ NamesNoLevel name) ∧
        (names ++ [name]).foldl loggerAfter logger =
          if NamesNoLevel name then names.foldl loggerAfter logger
          else loggerAt (dueLevel name)) ∧
      names.foldl loggerAfter logger =
        match (names.filter fun name => ¬NamesNoLevel name).getLast? with
        | some name => loggerAt (dueLevel name)
        | none => logger := by
  refine ⟨eachSetsUp_iff, fun name => ⟨setsUp_iff, ⟨?_, ?_⟩, ?_⟩, foldl_loggerAfter logger names⟩
  · rintro ⟨e, he⟩
    by_contra h
    cases (setUp_of_due h).symm.trans he
  · exact fun h => (refused_of_other h).1
  · rw [List.foldl_append, List.foldl_cons, List.foldl_nil]
    by_cases h : NamesNoLevel name
    · rw [if_pos h, (refused_of_other h).2]
    · rw [if_neg h, loggerAfter_of_due h]

/-- The name of a layout is no name of a level, but setting up does not fall back for it. -/
theorem layout_name_refused :
    let logger : Logger := ⟨.warning, [⟨10, Log.basicFormat⟩, ⟨15, Log.recordFormat⟩], true⟩
    dueLevel "basic_format" = .info ∧
      logger.setUp "basic_format" = .error (.unknownLevel Log.basicFormat) ∧
      loggerAfter logger "basic_format" = logger ∧
      ¬EachSetsUp logger ["debug", "basic_format"] := by
  intro logger
  have hname : NamesNoLevel "basic_format" := by decide +kernel
  refine ⟨by decide +kernel, by decide +kernel, (refused_of_other hname).2, fun h => ?_⟩
  exact eachSetsUp_iff.mp h "basic_format" (List.mem_cons_of_mem _ List.mem_cons_self) hname

end StubGen.Proofs
