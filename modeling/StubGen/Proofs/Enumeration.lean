import Mathlib.Data.List.Nodup
import StubGen.Proofs.SpellingRoundTrip
import StubGen.TypeExpr.Enumeration

/-!
# Enumeration of types

`ofDepth d` holds the well-formed types of depth exactly `d`, each once: trees enter at depth one,
arrays hold primitives and arrays, lists hold anything. The layers are disjoint because their depths
differ, and distinct types have distinct spellings because reading inverts spelling.
-/

namespace StubGen.Proofs
open TypeExpr

lemma mem_atoms {t : TypeExpr} : t ∈ atoms ↔ t.WellFormed ∧ t.depth = 0 := by
  cases t with
  | primitive p => simp [atoms, Primitive.mem_all, WellFormed, depth]
  | graph => simp [atoms, WellFormed, depth]
  | array element => simp [atoms, depth]
  | list element => simp [atoms, depth]
  | tree value => simp [atoms, depth]

/-- Wrapping a layer of all well-formed types of one depth gives those of the next, trees aside. -/
lemma mem_wrapped {d : Nat} {layer : List TypeExpr}
    (hl : ∀ t, t ∈ layer ↔ t.WellFormed ∧ t.depth = d) {t : TypeExpr} :
    t ∈ wrapped layer ↔ t.WellFormed ∧ t.depth = d + 1 ∧ t.category ≠ .tree := by
  cases t with
  | array element =>
    simp only [wrapped, List.mem_append, List.mem_map, List.mem_filter, hl, array.injEq,
      exists_eq_right, reduceCtorEq, and_false, exists_false, or_false, WellFormed, depth, category,
      Nat.add_right_cancel_iff]
    tauto
  | list element => simp [wrapped, hl, WellFormed, depth, category]
  | primitive p => simp [wrapped, depth]
  | tree value => simp [wrapped, category]
  | graph => simp [wrapped, depth]

lemma depth_of_category_tree {t : TypeExpr} (h : t.category = .tree) :
    t.WellFormed ∧ t.depth = 1 := by
  cases t with
  | tree value => exact ⟨trivial, rfl⟩
  | _ => cases h

lemma mem_trees {t : TypeExpr} : t ∈ Primitive.all.map tree ↔ t.category = .tree := by
  cases t <;> simp [category, Primitive.mem_all]

/-- Layer `d` holds exactly the well-formed types of depth `d`. -/
theorem mem_ofDepth (d : Nat) (t : TypeExpr) : t ∈ ofDepth d ↔ t.WellFormed ∧ t.depth = d := by
  induction d using ofDepth.induct generalizing t with
  | case1 => exact mem_atoms
  | case2 =>
    rw [ofDepth, List.mem_append, mem_wrapped (fun u => mem_atoms), mem_trees]
    constructor
    · rintro (⟨hw, hd, -⟩ | hc)
      · exact ⟨hw, hd⟩
      · exact depth_of_category_tree hc
    · rintro ⟨hw, hd⟩
      by_cases hc : t.category = .tree
      · exact .inr hc
      · exact .inl ⟨hw, hd, hc⟩
  | case3 d ih =>
    rw [ofDepth, mem_wrapped ih]
    constructor
    · rintro ⟨hw, hd, -⟩
      exact ⟨hw, hd⟩
    · rintro ⟨hw, hd⟩
      refine ⟨hw, hd, fun hc => ?_⟩
      have hone := (depth_of_category_tree hc).2
      omega

theorem mem_upTo (d : Nat) (t : TypeExpr) : t ∈ upTo d ↔ t.WellFormed ∧ t.depth ≤ d := by
  induction d with
  | zero => rw [upTo, mem_ofDepth, Nat.le_zero]
  | succ d ih =>
    rw [upTo, List.mem_append, ih, mem_ofDepth, Nat.le_succ_iff]
    tauto

lemma wrapped_nodup {layer : List TypeExpr} (hl : layer.Nodup) : (wrapped layer).Nodup := by
  have harrays : ((layer.filter isArrayElement).map array).Nodup :=
    (hl.filter _).map fun _ _ h => array.inj h
  have hlists : (layer.map list).Nodup := hl.map fun _ _ h => list.inj h
  refine List.nodup_append.mpr ⟨harrays, hlists, ?_⟩
  intro t ht u hu
  obtain ⟨_, -, rfl⟩ := List.mem_map.mp ht
  obtain ⟨_, -, rfl⟩ := List.mem_map.mp hu
  exact TypeExpr.noConfusion

theorem ofDepth_nodup (d : Nat) : (ofDepth d).Nodup := by
  induction d using ofDepth.induct with
  | case1 => decide
  | case2 => decide
  | case3 d ih => exact wrapped_nodup ih

theorem upTo_nodup (d : Nat) : (upTo d).Nodup := by
  induction d with
  | zero => exact ofDepth_nodup 0
  | succ d ih =>
    refine List.nodup_append.mpr ⟨ih, ofDepth_nodup (d + 1), ?_⟩
    intro t ht u hu htu
    have hlow := ((mem_upTo d t).mp ht).2
    have hhigh := ((mem_ofDepth (d + 1) u).mp hu).2
    rw [htu] at hlow
    omega

lemma ofDepth_sorted (d : Nat) : (ofDepth d).Pairwise fun t u => t.depth ≤ u.depth := by
  refine List.pairwise_of_forall_mem_list fun t ht u hu => ?_
  have hleft := ((mem_ofDepth d t).mp ht).2
  have hright := ((mem_ofDepth d u).mp hu).2
  omega

theorem upTo_sorted (d : Nat) : (upTo d).Pairwise fun t u => t.depth ≤ u.depth := by
  induction d with
  | zero => exact ofDepth_sorted 0
  | succ d ih =>
    refine List.pairwise_append.mpr ⟨ih, ofDepth_sorted (d + 1), ?_⟩
    intro t ht u hu
    have hlow := ((mem_upTo d t).mp ht).2
    have hhigh := ((mem_ofDepth (d + 1) u).mp hu).2
    omega

theorem upTo_spellings_nodup (d : Nat) : ((upTo d).map spelling).Nodup := by
  refine List.Nodup.map_on (fun t ht u hu htu => ?_) (upTo_nodup d)
  exact spelling_injective ((mem_upTo d t).mp ht).1 ((mem_upTo d u).mp hu).1 htu

/-- Up to any depth the enumeration is sound, complete, free of repetitions even between spellings,
and sorted by depth; a larger bound only adds types at the end. -/
theorem upTo_enumerates_wellFormed (d : Nat) :
    (∀ t, t ∈ upTo d ↔ t.WellFormed ∧ t.depth ≤ d) ∧ (upTo d).Nodup ∧
      ((upTo d).map spelling).Nodup ∧ ((upTo d).Pairwise fun t u => t.depth ≤ u.depth) ∧
      upTo d <+: upTo (d + 1) :=
  ⟨mem_upTo d, upTo_nodup d, upTo_spellings_nodup d, upTo_sorted d, List.prefix_append _ _⟩

end StubGen.Proofs
