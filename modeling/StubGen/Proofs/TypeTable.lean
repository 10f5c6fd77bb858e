import StubGen.Proofs.Enumeration
import StubGen.Proofs.GenerationOutcome

/-!
# The type table

The table enumerates types from the bottom up, while a text is supported if it can be read and its
depth is within the limit. The two agree for every limit from zero on. Below zero no text is
supported, but the table still has the types of depth zero.
-/

namespace StubGen.Proofs
open TypeExpr

variable {r : Registry} {language : String} {target : Target} {limit : Int}

lemma mem_supportedTypes {t : TypeExpr} :
    t ∈ target.supportedTypes limit ↔
      t.WellFormed ∧ t.depth ≤ limit.toNat ∧ target.supports t = true := by
  rw [Target.supportedTypes, List.mem_filter, mem_upTo, and_assoc]

lemma resolve_eq_some_iff_mem {text : RawText} {t : TypeExpr} (h : 0 ≤ limit) :
    target.resolve text limit = some t ↔ t ∈ target.supportedTypes limit ∧ text = t.spelling := by
  have hlimit : (t.depth : Int) ≤ limit ↔ t.depth ≤ limit.toNat := by omega
  rw [resolve_eq_some_iff, ofText?_eq_some_iff, mem_supportedTypes, hlimit]
  tauto

lemma resolve_below_zero (h : limit < 0) (text : RawText) : target.resolve text limit = none := by
  refine Option.eq_none_iff_forall_ne_some.mpr fun t ht => ?_
  have hdepth := (resolve_eq_some_iff.mp ht).2.1
  omega

lemma supportedTypes_below_zero (h : limit < 0) :
    target.supportedTypes limit = target.supportedTypes 0 := by
  have hzero : limit.toNat = (0 : Int).toNat := by omega
  rw [Target.supportedTypes, Target.supportedTypes, hzero]

lemma registered_resolve (ht : r.find? language = some target) (text : RawText) :
    r.resolve text language limit = target.resolve text limit := by
  rw [Registry.resolve, ht]

lemma typeTable_eq (ht : r.find? language = some target) :
    r.typeTable language limit =
      (target.supportedTypes limit).map fun t => (t.spelling, target.family.spell t) := by
  rw [Registry.typeTable, ht]

lemma describe_of_resolve {text : RawText} {t : TypeExpr} (ht : r.find? language = some target)
    (h : target.resolve text limit = some t) :
    r.describe text language limit = .ok (target.mapType t) := by
  simp only [Registry.describe, ht, h]

lemma describe_of_unresolved {text : RawText} (ht : r.find? language = some target)
    (h : target.resolve text limit = none) :
    r.describe text language limit = .error (.type text language) := by
  simp only [Registry.describe, ht, h]

/-- The table is the support boundary of the language: its keys are the texts that resolve, each
listed once and with the spelling that it is mapped and described by. A text that does not resolve
is mapped to itself and has no description. -/
structure IsBoundary (r : Registry) (language : String) (limit : Int)
    (table : List (String × String)) : Prop where
  keys_nodup : (table.map Prod.fst).Nodup
  mem_keys_iff : ∀ text : RawText, (∃ key ∈ table.map Prod.fst, text = .whole key) ↔
    ∃ t, r.resolve text language limit = some t
  inside : ∀ key spelled, (key, spelled) ∈ table →
    r.spellingOf key language limit = .whole spelled ∧
      ∃ m, r.describe key language limit = .ok m ∧ m.syntaxText = spelled
  outside : ∀ text, r.resolve text language limit = none →
    r.describe text language limit = .error (.type text language) ∧
      r.spellingOf text language limit = text

lemma typeTable_keys_nodup (ht : r.find? language = some target) (limit : Int) :
    ((r.typeTable language limit).map Prod.fst).Nodup := by
  rw [typeTable_eq ht, List.map_map]
  exact (upTo_spellings_nodup limit.toNat).sublist (List.filter_sublist.map spelling)

/-- Within a limit from zero on, the table of any registered language is its support boundary. -/
theorem typeTable_isBoundary (ht : r.find? language = some target) (h : 0 ≤ limit) :
    IsBoundary r language limit (r.typeTable language limit) := by
  constructor
  case keys_nodup => exact typeTable_keys_nodup ht limit
  case mem_keys_iff =>
    intro text
    simp only [typeTable_eq ht, List.map_map, List.mem_map, Function.comp_apply, registered_resolve ht,
      resolve_eq_some_iff_mem h]
    constructor
    · rintro ⟨key, ⟨t, hmem, rfl⟩, rfl⟩
      exact ⟨t, hmem, rfl⟩
    · rintro ⟨t, hmem, rfl⟩
      exact ⟨t.spelling, ⟨t, hmem, rfl⟩, rfl⟩
  case inside =>
    intro key spelled hentry
    rw [typeTable_eq ht] at hentry
    obtain ⟨t, hmem, hpair⟩ := List.mem_map.mp hentry
    cases hpair
    have hdescribe := describe_of_resolve ht ((resolve_eq_some_iff_mem h).mpr ⟨hmem, rfl⟩)
    refine ⟨?_, _, hdescribe, rfl⟩
    rw [Registry.spellingOf, hdescribe]
    rfl
  case outside =>
    intro text hresolve
    rw [registered_resolve ht] at hresolve
    have hdescribe := describe_of_unresolved ht hresolve
    refine ⟨hdescribe, ?_⟩
    rw [Registry.spellingOf, hdescribe]

/-- Whatever the limit is, the table lists the primitives. -/
lemma mem_typeTable_builtin (h : Registry.builtin.find? language = some target) (limit : Int)
    (p : Primitive) :
    (p.name, target.family.primitive p) ∈ Registry.builtin.typeTable language limit := by
  rw [typeTable_eq h]
  refine List.mem_map.mpr ⟨.primitive p, ?_, Prod.ext_iff.mpr ⟨String.ofList_toList, rfl⟩⟩
  exact mem_supportedTypes.mpr ⟨trivial, Nat.zero_le _, supports_of_find?_builtin h _⟩

/-- The table of a built-in language is its support boundary exactly for the limits from zero on.
Below zero it lists what it lists at zero, and no text is supported. -/
theorem typeTable_isBoundary_iff (h : language ∈ Registry.builtin.languages) (limit : Int) :
    (IsBoundary .builtin language limit (Registry.builtin.typeTable language limit) ↔ 0 ≤ limit) ∧
      (limit < 0 →
        Registry.builtin.typeTable language limit = Registry.builtin.typeTable language 0 ∧
        ∀ text, Registry.builtin.resolve text language limit = none) := by
  obtain ⟨target, ht⟩ := find?_of_isRegistered (List.contains_iff_mem.mpr h)
  have hbelow : limit < 0 → ∀ text, Registry.builtin.resolve text language limit = none := by
    intro hneg text
    rw [registered_resolve ht, resolve_below_zero hneg]
  refine ⟨⟨fun hboundary => ?_, typeTable_isBoundary ht⟩, fun hneg => ⟨?_, hbelow hneg⟩⟩
  · -- Each built-in table lists `int`, which is supported within no limit below zero.
    by_contra hneg
    have hkey := List.mem_map_of_mem (f := Prod.fst) (mem_typeTable_builtin ht limit .int)
    obtain ⟨t, hresolve⟩ := (hboundary.mem_keys_iff "int").mp ⟨_, hkey, rfl⟩
    rw [hbelow (Int.not_le.mp hneg)] at hresolve
    cases hresolve
  · rw [typeTable_eq ht, typeTable_eq ht, supportedTypes_below_zero hneg]

theorem typeTable_isBoundary_of_java :
    "java" ∈ Registry.builtin.languages ∧
      IsBoundary .builtin "java" 3 (Registry.builtin.typeTable "java" 3) := by
  have hmem : "java" ∈ Registry.builtin.languages := by decide
  exact ⟨hmem, (typeTable_isBoundary_iff hmem 3).1.mpr (by decide)⟩

/-- Below zero the table lists a type that is not supported. -/
theorem typeTable_of_java_below_zero :
    ("int", "int") ∈ Registry.builtin.typeTable "java" (-1) ∧
      Registry.builtin.resolve "int" "java" (-1) = none ∧
      ¬IsBoundary .builtin "java" (-1) (Registry.builtin.typeTable "java" (-1)) := by
  have hentry : ("int", "int") ∈ Registry.builtin.typeTable "java" (-1) := by decide
  have hresolve : Registry.builtin.resolve "int" "java" (-1) = none := by decide +kernel
  refine ⟨hentry, hresolve, fun hboundary => ?_⟩
  obtain ⟨t, ht⟩ := (hboundary.mem_keys_iff "int").mp
    ⟨_, List.mem_map_of_mem (f := Prod.fst) hentry, rfl⟩
  rw [hresolve] at ht
  cases ht

end StubGen.Proofs
