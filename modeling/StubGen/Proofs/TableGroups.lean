import StubGen.Proofs.TypeTable
import StubGen.Service.Response

/-!
# The groups of a type table

The service shows a type table in three groups. Every key of the table is read again and grouped by
what it is outermost; keys that cannot be read would count as special. As each key is a spelling, no
such key exists, and the groups are a partition of the table that the keys themselves show.
-/

namespace StubGen.Proofs
open TypeExpr

section Groups

variable {g : TableGroup} {token : String} {t : TypeExpr}

/-- The token belongs to the group: it is a primitive, it has the form of an array or a list around
some element, or it is `Graph` or a tree. -/
inductive Belongs : TableGroup → String → Prop
  | primitive (p : Primitive) : Belongs .primitives p.name
  | array {element : TypeExpr} (h : (TypeExpr.array element).WellFormed) :
    Belongs .collections (element.spelling ++ "[]")
  | list {element : TypeExpr} (h : element.WellFormed) :
    Belongs .collections ("List<" ++ element.spelling ++ ">")
  | tree (value : Primitive) : Belongs .special ("Tree<" ++ value.name ++ ">")
  | graph : Belongs .special "Graph"

lemma spelling_primitive (p : Primitive) : (TypeExpr.primitive p).spelling = p.name :=
  String.ofList_toList

lemma spelling_array (element : TypeExpr) :
    (TypeExpr.array element).spelling = element.spelling ++ "[]" := String.ofList_append

lemma spelling_list (element : TypeExpr) :
    (TypeExpr.list element).spelling = "List<" ++ element.spelling ++ ">" := by
  rw [spelling_eq_iff]
  simp only [spellingChars_list, spelling, String.toList_append, String.toList_ofList]
  rfl

lemma spelling_tree (value : Primitive) :
    (TypeExpr.tree value).spelling = "Tree<" ++ value.name ++ ">" := by
  rw [spelling_eq_iff]
  simp only [spellingChars_tree, String.toList_append]
  rfl

/-- The tokens of a group are the spellings of the types of its categories. -/
lemma belongs_iff :
    Belongs g token ↔
      ∃ t : TypeExpr, t.WellFormed ∧ t.spelling = token ∧ .ofCategory t.category = g := by
  constructor
  · intro h
    cases h with
    | primitive p => exact ⟨.primitive p, trivial, spelling_primitive p, rfl⟩
    | @array element h => exact ⟨.array element, h, spelling_array element, rfl⟩
    | @list element h => exact ⟨.list element, h, spelling_list element, rfl⟩
    | tree value => exact ⟨.tree value, trivial, spelling_tree value, rfl⟩
    | graph => exact ⟨.graph, trivial, rfl, rfl⟩
  · rintro ⟨t, ht, rfl, rfl⟩
    cases t with
    | primitive p => exact spelling_primitive p ▸ .primitive p
    | array element => exact spelling_array element ▸ .array ht
    | list element => exact spelling_list element ▸ .list ht
    | tree value => exact spelling_tree value ▸ .tree value
    | graph => exact .graph

/-- A key that is a spelling is grouped by its type, and not for want of one. -/
lemma ofSpelling_spelling (ht : t.WellFormed) :
    TableGroup.ofSpelling t.spelling = .ofCategory t.category := by
  have hparse : parse? t.spelling = some t := toOption_eq_some_iff.mpr (parse_spelling ht)
  rw [TableGroup.ofSpelling, hparse]

lemma ofSpelling_eq_iff (ht : t.WellFormed) :
    TableGroup.ofSpelling t.spelling = g ↔ Belongs g t.spelling := by
  rw [ofSpelling_spelling ht, belongs_iff]
  constructor
  · exact fun hg => ⟨t, ht, rfl, hg⟩
  · rintro ⟨u, hu, hspelling, hg⟩
    rwa [spelling_injective hu ht hspelling] at hg

end Groups

section Partition

variable {table : List (String × String)} {entry : String × String} {g : TableGroup}

/-- The keys of the entries, in order. -/
def keys (entries : List (String × String)) : List String := entries.map Prod.fst

/-- The groups hold each entry of the table once and nothing else, each of them in the order of the
table, and the keys show to which group an entry belongs. -/
structure IsPartition (table : List (String × String))
    (part : TableGroup → List (String × String)) : Prop where
  disjoint : ∀ g g', g ≠ g' → (keys (part g)).Disjoint (keys (part g'))
  unique : ∀ entry ∈ table, ∃! g, entry ∈ part g
  ordered : ∀ g, (part g).Sublist table
  total : (part .primitives).length + (part .collections).length + (part .special).length =
    table.length
  mem_keys_iff : ∀ g token, token ∈ keys (part g) ↔ token ∈ keys table ∧ Belongs g token

lemma mem_select : entry ∈ g.select table ↔ entry ∈ table ∧ TableGroup.ofSpelling entry.1 = g := by
  rw [TableGroup.select, List.mem_filter, decide_eq_true_iff]

lemma mem_keys_select {token : String} :
    token ∈ keys (g.select table) ↔ token ∈ keys table ∧ TableGroup.ofSpelling token = g := by
  simp only [keys, List.mem_map, mem_select]
  constructor
  · rintro ⟨entry, ⟨hentry, hg⟩, rfl⟩
    exact ⟨⟨entry, hentry, rfl⟩, hg⟩
  · rintro ⟨⟨entry, hentry, rfl⟩, hg⟩
    exact ⟨entry, ⟨hentry, hg⟩, rfl⟩

lemma length_select (table : List (String × String)) :
    (TableGroup.primitives.select table).length + (TableGroup.collections.select table).length +
      (TableGroup.special.select table).length = table.length := by
  induction table with
  | nil => rfl
  | cons entry rest ih =>
    simp only [TableGroup.select, List.filter_cons, List.length_cons] at ih ⊢
    cases TableGroup.ofSpelling entry.1 <;>
      simp only [reduceCtorEq, decide_true, decide_false, if_true, if_false, Bool.false_eq_true,
        List.length_cons] <;> omega

/-- A table whose keys are spellings is partitioned by what they are outermost. -/
lemma isPartition_select
    (h : ∀ token ∈ keys table, ∃ t : TypeExpr, t.WellFormed ∧ t.spelling = token) :
    IsPartition table fun g => g.select table := by
  constructor
  case disjoint =>
    intro g g' hne token hg hg'
    exact hne ((mem_keys_select.mp hg).2.symm.trans (mem_keys_select.mp hg').2)
  case unique =>
    intro entry hentry
    exact ⟨_, mem_select.mpr ⟨hentry, rfl⟩, fun g hg => (mem_select.mp hg).2.symm⟩
  case ordered => exact fun g => List.filter_sublist
  case total => exact length_select table
  case mem_keys_iff =>
    intro g token
    rw [mem_keys_select]
    refine and_congr_right fun hmem => ?_
    obtain ⟨t, ht, rfl⟩ := h token hmem
    exact ofSpelling_eq_iff ht

end Partition

section Table

variable {language : String}

lemma spelled_of_mem_keys {r : Registry} {target : Target} (ht : r.find? language = some target)
    {limit : Int} {token : String} (h : token ∈ keys (r.typeTable language limit)) :
    ∃ t : TypeExpr, t.WellFormed ∧ t.spelling = token := by
  rw [keys, typeTable_eq ht, List.map_map] at h
  obtain ⟨t, hmem, rfl⟩ := List.mem_map.mp h
  exact ⟨t, (mem_supportedTypes.mp hmem).1, rfl⟩

end Table

end StubGen.Proofs
