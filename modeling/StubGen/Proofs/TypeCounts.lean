import Mathlib.Data.Set.Card
import Mathlib.Tactic.Ring
import StubGen.Proofs.TypeTable
import StubGen.Service.Response

/-!
# The number of supported types

A layer of the enumeration has one array for each primitive and one list for each type of the layer
below. So every layer but the first two has six types more than the one before, and the number of
types up to a depth is quadratic in it. Distinct types have distinct spellings, so that this is also
the number of texts that are supported, and the services report it.
-/

namespace StubGen.Proofs
open TypeExpr

section Layers

/-- Of the types of a next layer, trees aside, the arrays may stand in an array. -/
lemma filter_wrapped (layer : List TypeExpr) :
    (wrapped layer).filter isArrayElement = (layer.filter isArrayElement).map array := by
  have harrays : ((layer.filter isArrayElement).map array).filter isArrayElement =
      (layer.filter isArrayElement).map array := by
    refine List.filter_eq_self.mpr fun t ht => ?_
    obtain ⟨_, -, rfl⟩ := List.mem_map.mp ht
    rfl
  have hlists : (layer.map list).filter isArrayElement = [] := by
    refine List.filter_eq_nil_iff.mpr fun t ht => ?_
    obtain ⟨_, -, rfl⟩ := List.mem_map.mp ht
    exact Bool.false_ne_true
  rw [wrapped, List.filter_append, harrays, hlists, List.append_nil]

lemma length_arrayElements (d : Nat) : ((ofDepth d).filter isArrayElement).length = 6 := by
  induction d using ofDepth.induct with
  | case1 => rfl
  | case2 => rfl
  | case3 d ih => rw [ofDepth, filter_wrapped, List.length_map, ih]

lemma length_wrapped (layer : List TypeExpr) :
    (wrapped layer).length = (layer.filter isArrayElement).length + layer.length := by
  rw [wrapped, List.length_append, List.length_map, List.length_map]

/-- From depth one on, each layer has six types more than the one before. -/
lemma length_ofDepth_succ (d : Nat) : (ofDepth (d + 1)).length = 6 * d + 19 := by
  induction d with
  | zero => rfl
  | succ d ih =>
    rw [ofDepth, length_wrapped, length_arrayElements, ih]
    omega

theorem length_upTo (d : Nat) : (upTo d).length = 3 * d * d + 16 * d + 7 := by
  induction d with
  | zero => rfl
  | succ d ih =>
    rw [upTo, List.length_append, ih, length_ofDepth_succ]
    ring

end Layers

section Tables

variable {r : Registry} {language : String} {target : Target} {limit : Int}

/-- A table that is the support boundary has one entry for each text that is supported. -/
lemma ncard_of_isBoundary {table : List (String × String)}
    (h : IsBoundary r language limit table) :
    {text : RawText | ∃ t, r.resolve text language limit = some t}.ncard = table.length := by
  let keys : List RawText := (table.map Prod.fst).map RawText.whole
  have hkeys : {text : RawText | ∃ t, r.resolve text language limit = some t} =
      (keys.toFinset : Set RawText) := by
    ext text
    rw [List.coe_toFinset]
    refine (h.mem_keys_iff text).symm.trans ?_
    simp only [keys, Set.mem_ofPred_eq, List.mem_map, eq_comm]
  have hnodup : keys.Nodup := h.keys_nodup.map fun _ _ heq => RawText.whole.inj heq
  rw [hkeys, Set.ncard_coe_finset, List.toFinset_card_of_nodup hnodup, List.length_map,
    List.length_map]

lemma length_typeTable (h : Registry.builtin.find? language = some target) (limit : Int) :
    (Registry.builtin.typeTable language limit).length = (upTo limit.toNat).length := by
  have hall : (upTo limit.toNat).filter target.supports = upTo limit.toNat :=
    List.filter_eq_self.mpr fun t _ => supports_of_find?_builtin h t
  rw [typeTable_eq h, List.length_map, Target.supportedTypes, hall]

end Tables

section Reports

lemma lookup_assign (name key : RawText) (value : Json) (fields : Json.Fields) :
    Json.lookup name (Json.assign key value fields) =
      if name = key then some value else Json.lookup name fields := by
  induction fields with
  | nil => simp [Json.assign, Json.lookup, eq_comm]
  | cons field rest ih =>
    obtain ⟨n, v⟩ := field
    by_cases hkey : n = key
    · rw [Json.assign, if_pos hkey]
      by_cases hname : name = key <;> simp [Json.lookup, hkey, hname, eq_comm]
    · rw [Json.assign, if_neg hkey, Json.lookup, ih, Json.lookup]
      by_cases hname : name = key <;> simp [hname, hkey, eq_comm]

/-- Where a field's value only depends on its name, it is found under the name, however often the
name was given. -/
lemma lookup_dedup_map {names : List String} {name : String} (value : String → Json)
    (h : name ∈ names) :
    Json.lookup name (Json.dedup (names.map fun n => (.whole n, value n))) =
      some (value name) := by
  -- The fields assigned so far count where the name does not come again.
  have hfold : ∀ done : Json.Fields,
      Json.lookup name ((names.map fun n => (RawText.whole n, value n)).foldl
        (fun done field => Json.assign field.1 field.2 done) done) =
      if name ∈ names then some (value name) else Json.lookup name done := by
    clear h
    induction names with
    | nil => simp
    | cons n rest ih =>
      intro done
      rw [List.map_cons, List.foldl_cons, ih, lookup_assign]
      by_cases hrest : name ∈ rest
      · simp [hrest]
      · by_cases heq : name = n <;> simp [hrest, heq]
  exact (hfold []).trans (if_pos h)

/-- In a built-in language that is enabled, the texts that are supported up to depth `d` are
`3d² + 16d + 7` in number. The type table reports this as its total, and so do the statistics under
the name of the language. -/
theorem supported_texts_count {settings : Settings} {d : Nat} {language : String}
    (hd : settings.maxNestingDepth = d) (h : language ∈ Registry.builtin.languages)
    (henabled : language ∈ settings.languages) (moment : Moment) :
    let count := 3 * d * d + 16 * d + 7
    {text : RawText | ∃ t, Registry.builtin.resolve text language settings.maxNestingDepth =
      some t}.ncard = count ∧
    (Registry.builtin.tablePayload settings language).field? "total_types" = some (.int count) ∧
    ∃ totals, (Registry.builtin.statsPayload settings moment).field? "total_supported_types" =
      some (.obj totals) ∧ Json.lookup language totals = some (.int count) := by
  intro count
  obtain ⟨target, ht⟩ := find?_of_isRegistered (List.contains_iff_mem.mpr h)
  have hlength : (Registry.builtin.typeTable language settings.maxNestingDepth).length = count := by
    rw [length_typeTable ht, hd, Int.toNat_natCast, length_upTo]
  have hlimit : 0 ≤ settings.maxNestingDepth := hd ▸ Int.natCast_nonneg d
  refine ⟨?_, ?_, _, rfl, ?_⟩
  · rw [ncard_of_isBoundary (typeTable_isBoundary ht hlimit), hlength]
  · rw [← hlength]
    rfl
  · rw [lookup_dedup_map _ henabled, hlength]

/-- A language that is enabled twice is reported once. -/
theorem supported_texts_count_of_java :
    let settings := { Settings.default .builtin with languages := ["java", "java"] }
    settings.maxNestingDepth = 2 ∧ "java" ∈ Registry.builtin.languages ∧
      "java" ∈ settings.languages ∧
      {text : RawText | ∃ t, Registry.builtin.resolve text "java" 2 = some t}.ncard = 51 ∧
      (Registry.builtin.tablePayload settings "java").field? "total_types" = some (.int 51) ∧
      ∃ totals, (Registry.builtin.statsPayload settings default).field? "total_supported_types" =
        some (.obj totals) ∧ Json.lookup "java" totals = some (.int 51) := by
  intro settings
  have hmem : "java" ∈ Registry.builtin.languages := by decide
  have henabled : "java" ∈ settings.languages := List.mem_cons_self
  have hdepth : settings.maxNestingDepth = (2 : Nat) := rfl
  exact ⟨hdepth, hmem, henabled, supported_texts_count hdepth hmem henabled default⟩

end Reports

end StubGen.Proofs
