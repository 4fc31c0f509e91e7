/-
This file says which neighbours a compiled node has. Their kinds are those of the definition without
the blanks around them. Kinds that differ only in such blanks become one, which keeps the weight of
the last of them, and the neighbours are all kept exactly when there are no such kinds.
-/

import Gamebook.Compile
import Gamebook.Proofs.Lookup
import Mathlib.Data.List.Dedup
import Mathlib.Data.List.Induction
import Mathlib.Data.String.Basic
import Mathlib.Tactic.SplitIfs

namespace Gamebook

namespace Neighbours

variable {kind other : String} {weight : Binary32} {entries : List (String × Binary32)}

theorem lookup_insertInto :
    (insertInto kind weight entries).lookup other =
      if other = kind then some weight else entries.lookup other := by
  induction entries with
  | nil => rw [insertInto, lookup_cons_eq_ite]
  | cons entry rest inductionHypothesis =>
      rw [insertInto]
      split
      next before => rw [lookup_cons_eq_ite]
      next notBefore =>
        split
        next replaced =>
          rw [lookup_cons_eq_ite, lookup_cons_eq_ite, ← replaced]
          split <;> rfl
        next apart =>
          rw [lookup_cons_eq_ite, lookup_cons_eq_ite, inductionHypothesis]
          split_ifs with same equal
          · exact (apart (equal.symm.trans same)).elim
          · rfl
          · rfl
          · rfl

theorem mem_kinds_insertInto :
    other ∈ (insertInto kind weight entries).map Prod.fst ↔
      other = kind ∨ other ∈ entries.map Prod.fst := by
  rw [← lookup_isSome_iff_mem, ← lookup_isSome_iff_mem, lookup_insertInto]
  split_ifs with same <;> simp [same]

/-- The kinds stay in ascending order. -/
theorem ascending_insertInto (ascending : (entries.map Prod.fst).Pairwise (· < ·)) :
    ((insertInto kind weight entries).map Prod.fst).Pairwise (· < ·) := by
  induction entries with
  | nil => exact List.pairwise_singleton _ _
  | cons entry rest inductionHypothesis =>
      obtain ⟨below, later⟩ := List.pairwise_cons.mp ascending
      rw [insertInto]
      split
      next before =>
        refine List.pairwise_cons.mpr ⟨fun next listed => ?_, ascending⟩
        rcases List.mem_cons.mp listed with rfl | behind
        · exact before
        · exact before.trans (below next behind)
      next notBefore =>
        split
        next replaced =>
          rw [List.map_cons, replaced]
          exact ascending
        next apart =>
          refine List.pairwise_cons.mpr ⟨fun next listed => ?_, inductionHypothesis later⟩
          rcases mem_kinds_insertInto.mp listed with rfl | behind
          · exact lt_of_le_of_ne (not_lt.mp notBefore) (Ne.symm apart)
          · exact below next behind

theorem ofList_append_singleton (entries : List (String × Binary32)) (entry : String × Binary32) :
    ofList (entries ++ [entry]) = (ofList entries).insert entry.1 entry.2 := by
  rw [ofList, List.foldl_append]
  rfl

theorem ascending_ofList : (ofList entries).kinds.Pairwise (· < ·) := by
  induction entries using List.reverseRecOn with
  | nil => exact .nil
  | append_singleton rest entry inductionHypothesis =>
      rw [ofList_append_singleton]
      exact ascending_insertInto inductionHypothesis

/-- Of several weights for a kind the last one counts. -/
theorem weight?_ofList : (ofList entries).weight? kind = entries.reverse.lookup kind := by
  induction entries using List.reverseRecOn with
  | nil => rfl
  | append_singleton rest entry inductionHypothesis =>
      rw [ofList_append_singleton, List.reverse_append, List.reverse_singleton,
        List.singleton_append, lookup_cons_eq_ite, ← inductionHypothesis]
      exact lookup_insertInto

/-- Every kind is kept once. -/
theorem kinds_ofList_perm : (ofList entries).kinds.Perm (entries.map Prod.fst).dedup := by
  have distinct : (ofList entries).kinds.Nodup := ascending_ofList.imp ne_of_lt
  refine (List.perm_ext_iff_of_nodup distinct (List.nodup_dedup _)).mpr fun kind => ?_
  rw [List.mem_dedup, kinds, ← lookup_isSome_iff_mem]
  change ((ofList entries).weight? kind).isSome ↔ _
  rw [weight?_ofList, lookup_isSome_iff_mem, List.map_reverse, List.mem_reverse]

/-- As many neighbours are kept as there are entries exactly when no kind is repeated. -/
theorem length_ofList_iff (entries : List (String × Binary32)) :
    (ofList entries).entries.length = entries.length ↔ (entries.map Prod.fst).Nodup := by
  have kept : (ofList entries).entries.length = (entries.map Prod.fst).dedup.length := by
    rw [← kinds_ofList_perm.length_eq, kinds, List.length_map]
  rw [kept, ← List.dedup_eq_self, ← List.length_map Prod.fst]
  exact ⟨(List.dedup_sublist _).eq_of_length, congrArg List.length⟩

/-- Every entry keeps its weight exactly when no kind has two different weights. -/
theorem weight?_ofList_iff (entries : List (String × Binary32)) :
    (∀ entry ∈ entries, (ofList entries).weight? entry.1 = some entry.2) ↔
      ∀ first ∈ entries, ∀ second ∈ entries, first.1 = second.1 → first.2 = second.2 := by
  constructor
  · intro kept first firstListed second secondListed same
    have weight := kept first firstListed
    rw [same, kept second secondListed] at weight
    exact (Option.some.inj weight).symm
  · intro agreed entry listed
    rw [weight?_ofList]
    have known : (entries.reverse.lookup entry.1).isSome := by
      rw [lookup_isSome_iff_mem]
      exact List.mem_map_of_mem (List.mem_reverse.mpr listed)
    obtain ⟨weight, found⟩ := Option.isSome_iff_exists.mp known
    have last := List.mem_reverse.mp (mem_of_lookup_eq_some found)
    exact found.trans (congrArg some (agreed _ last entry listed rfl))

end Neighbours

/-- These are the neighbours of a definition without the blanks around their kinds. -/
def NodeDefinition.trimmedNeighbours (definition : NodeDefinition) : List (String × Binary32) :=
  definition.neighbours.entries.map fun entry => (Text.trim entry.1, entry.2)

/-- A compiled node keeps the neighbours of its definition when every entry has its weight under the
trimmed kind and there are as many neighbours as entries. -/
structure KeepsNeighbours (definition : NodeDefinition) (node : Node) : Prop where
  weights : ∀ entry ∈ definition.neighbours.entries,
    node.neighbours.weight? (Text.trim entry.1) = some entry.2
  count : node.neighbours.entries.length = definition.neighbours.entries.length

theorem NodeDefinition.neighbours_of_compiled {definition : NodeDefinition} {node : Node}
    (compiled : definition.compile = .ok node) :
    node.neighbours = Neighbours.ofList definition.trimmedNeighbours := by
  rw [compile] at compiled
  split at compiled
  next => cases compiled
  next =>
    split at compiled
    next =>
      cases compiled
      rfl
    next => cases compiled

/-- The kinds of a compiled node are the trimmed kinds of its definition, each of them once and in
ascending order, with the weight of the last entry for it. The neighbours are all kept exactly when
no two kinds differ only in the blanks around them. -/
theorem compiled_neighbours (definition : NodeDefinition) (node : Node)
    (compiled : definition.compile = .ok node) :
    node.neighbours.kinds.Pairwise (· < ·) ∧
      node.neighbours.kinds.Perm (definition.trimmedNeighbours.map Prod.fst).dedup ∧
      (∀ kind, node.neighbours.weight? kind = definition.trimmedNeighbours.reverse.lookup kind) ∧
      ((∀ entry ∈ definition.neighbours.entries,
          node.neighbours.weight? (Text.trim entry.1) = some entry.2) ↔
        ∀ first ∈ definition.neighbours.entries, ∀ second ∈ definition.neighbours.entries,
          Text.trim first.1 = Text.trim second.1 → first.2 = second.2) ∧
      (KeepsNeighbours definition node ↔
        (definition.neighbours.entries.map fun entry => Text.trim entry.1).Nodup) := by
  have kinds : definition.trimmedNeighbours.map Prod.fst =
      definition.neighbours.entries.map fun entry => Text.trim entry.1 := by
    rw [NodeDefinition.trimmedNeighbours, List.map_map]
    rfl
  have weights := Neighbours.weight?_ofList_iff definition.trimmedNeighbours
  rw [NodeDefinition.trimmedNeighbours] at weights
  simp only [List.forall_mem_map] at weights
  have count := Neighbours.length_ofList_iff definition.trimmedNeighbours
  rw [kinds, NodeDefinition.trimmedNeighbours, List.length_map] at count
  have neighbours := definition.neighbours_of_compiled compiled
  refine ⟨?_, ?_, fun kind => ?_, ?_, ?_⟩
  · rw [neighbours]
    exact Neighbours.ascending_ofList
  · rw [neighbours]
    exact Neighbours.kinds_ofList_perm
  · rw [neighbours, Neighbours.weight?_ofList]
  · rw [neighbours]
    exact weights
  · constructor
    · intro keeps
      exact count.mp (neighbours ▸ keeps.count)
    · intro distinct
      have agreed : ∀ first ∈ definition.neighbours.entries,
          ∀ second ∈ definition.neighbours.entries,
            Text.trim first.1 = Text.trim second.1 → first.2 = second.2 :=
        fun first firstListed second secondListed same =>
          congrArg Prod.snd (List.inj_on_of_nodup_map distinct firstListed secondListed same)
      exact ⟨neighbours ▸ weights.mpr agreed, neighbours ▸ count.mpr distinct⟩

/-- A crossing has roads to these kinds. -/
def crossing (kinds : List (String × Binary32)) : NodeDefinition where
  kind := "crossing"
  name := "Crossing"
  description := "Roads meet here."
  neighbours := ⟨kinds⟩

/-- This is what a crossing is compiled to. -/
def compiledCrossing (kinds : List (String × Binary32)) : Node where
  kind := "crossing"
  name := "Crossing"
  description := "Roads meet here."
  art := ""
  neighbours := ⟨kinds⟩
  forcedEvent := none
  pool := []

/-- Blanks around different kinds do no harm. -/
theorem compiled_neighbours_crossing :
    (crossing [(" hall", ⟨0x40000000⟩), ("fen ", ⟨0x3F800000⟩)]).compile =
        .ok (compiledCrossing [("fen", ⟨0x3F800000⟩), ("hall", ⟨0x40000000⟩)]) ∧
      KeepsNeighbours (crossing [(" hall", ⟨0x40000000⟩), ("fen ", ⟨0x3F800000⟩)])
        (compiledCrossing [("fen", ⟨0x3F800000⟩), ("hall", ⟨0x40000000⟩)]) := by
  have compiled : (crossing [(" hall", ⟨0x40000000⟩), ("fen ", ⟨0x3F800000⟩)]).compile =
      .ok (compiledCrossing [("fen", ⟨0x3F800000⟩), ("hall", ⟨0x40000000⟩)]) := by
    decide +kernel
  obtain ⟨-, -, -, -, keeps⟩ := compiled_neighbours _ _ compiled
  exact ⟨compiled, keeps.mpr (by decide +kernel)⟩

/-- The road to a hall with the weight 2 is lost beside another one with the weight 1. -/
theorem lost_road_to_hall :
    (crossing [(" hall", ⟨0x40000000⟩), ("hall", ⟨0x3F800000⟩)]).compile =
        .ok (compiledCrossing [("hall", ⟨0x3F800000⟩)]) ∧
      (compiledCrossing [("hall", ⟨0x3F800000⟩)]).neighbours.weight? (Text.trim " hall") ≠
        some ⟨0x40000000⟩ ∧
      ¬KeepsNeighbours (crossing [(" hall", ⟨0x40000000⟩), ("hall", ⟨0x3F800000⟩)])
        (compiledCrossing [("hall", ⟨0x3F800000⟩)]) := by
  refine ⟨by decide +kernel, by decide +kernel, fun keeps => ?_⟩
  have count := keeps.count
  exact absurd count (by decide)

end Gamebook
