/-
This file says where one can travel to from a node.
A pick leads to a loaded neighbour whose weight is not zero, or there is none and nothing is drawn.
It fails exactly when the sum of the weights overflows. The weights of accepted definitions are
finite one by one, which is not enough for that, but small weights never overflow.
-/

import Gamebook.Catalog.Pick
import Gamebook.Proofs.Catalog.Order
import Gamebook.Proofs.Catalog.References
import Gamebook.Proofs.Compile.Neighbours
import Gamebook.Proofs.Random.Weighted

namespace Gamebook

/-- The neighbours can be weighed when their weights are finite and not below zero and the sum of
the weights is finite as well. -/
structure Neighbours.Weighable (neighbours : Neighbours) : Prop where
  usable : ∀ weight ∈ neighbours.weights, isUsableWeight weight = true
  finite : Binary32.sum neighbours.weights < Binary32.infinityCode

theorem isNonnegative_of_isUsableWeight {weight : Binary32}
    (usable : isUsableWeight weight = true) : weight.isNonnegative = true :=
  (Bool.and_eq_true_iff.mp usable).2

namespace Catalog

/-- There is no way on from a kind that is not loaded, that has no neighbours, or whose neighbours
all have the weight zero. -/
inductive NoWayOn (nodes : NodeCatalog) (kind : String) : Prop
  | notLoaded (missing : nodes.find? kind = none)
  | noNeighbours {node : Node} (found : nodes.find? kind = some node)
      (none : node.neighbours.entries = [])
  | allZero {node : Node} (found : nodes.find? kind = some node)
      (zero : ∀ entry ∈ node.neighbours.entries, entry.2.isZero = true)

theorem noWayOn_iff {nodes : NodeCatalog} {kind : String} :
    nodes.NoWayOn kind ↔ ∀ node, nodes.find? kind = some node →
      ¬∃ weight ∈ node.neighbours.weights, weight.isZero = false := by
  simp only [Neighbours.weights, List.mem_map, not_exists, not_and, Bool.not_eq_false,
    forall_exists_index, and_imp, forall_apply_eq_imp_iff₂]
  constructor
  · intro stuck node found entry listed
    cases stuck with
    | notLoaded missing => cases missing.symm.trans found
    | noNeighbours known none =>
        obtain rfl := Option.some.inj (found.symm.trans known)
        rw [none] at listed
        cases listed
    | allZero known zero =>
        obtain rfl := Option.some.inj (found.symm.trans known)
        exact zero entry listed
  · intro zero
    cases found : nodes.find? kind with
    | none => exact .notLoaded found
    | some node => exact .allZero found (zero node found)

/-- A pick leads to a neighbour with a weight that is not zero, and one word is drawn for it. -/
theorem exists_pick_of_table {nodes : NodeCatalog} {kind : String} {node : Node}
    {table : WeightTable} (found : nodes.find? kind = some node)
    (made : WeightTable.ofWeights node.neighbours.weights = .ok table) (source : RandomSource) :
    ∃ neighbour weight, nodes.pickNeighbour kind source = .ok (some neighbour, source.next.2) ∧
      (neighbour, weight) ∈ node.neighbours.entries ∧ weight.isZero = false := by
  obtain ⟨weight, picked, nonzero⟩ := WeightTable.exists_weight_at_position made source.next.1
  rw [Neighbours.weights, List.getElem?_map, Option.map_eq_some_iff] at picked
  obtain ⟨⟨neighbour, _⟩, stands, rfl⟩ := picked
  refine ⟨neighbour, _, ?_, List.mem_of_getElem? stands, nonzero⟩
  have kindStands : node.neighbours.kinds[table.position source.next.1]? = some neighbour := by
    rw [Neighbours.kinds, List.getElem?_map, stands]
    rfl
  rw [pickNeighbour, found]
  dsimp only
  rw [made]
  dsimp only [WeightTable.pick]
  rw [kindStands]

/-- Nothing is drawn where there is no way on. -/
theorem NoWayOn.pickNeighbour_eq {nodes : NodeCatalog} {kind : String} (stuck : nodes.NoWayOn kind)
    (weighable : ∀ node, nodes.find? kind = some node → node.neighbours.Weighable)
    (source : RandomSource) : nodes.pickNeighbour kind source = .ok (none, source) := by
  rw [pickNeighbour]
  cases found : nodes.find? kind with
  | none => rfl
  | some node =>
      obtain ⟨usable, finite⟩ := weighable node found
      have sound : ∀ weight ∈ node.neighbours.weights, weight.isNonnegative = true :=
        fun weight listed => isNonnegative_of_isUsableWeight (usable weight listed)
      have unusable := noWayOn_iff.mp stuck node found
      rw [← WeightTable.exists_ofWeights_iff sound finite] at unusable
      dsimp only
      split
      next overflows =>
        have infinite := (WeightTable.ofWeights_eq_overflow_iff.mp overflows).2
        exact absurd (Binary32.overflows_iff.mp infinite) (Nat.not_le_of_lt finite)
      next => rfl
      next table made => exact (unusable ⟨table, made⟩).elim

/-- Where there is a way on, a pick takes it. -/
theorem Built.exists_pick {nodes : NodeCatalog} (built : nodes.Built) {kind : String}
    (source : RandomSource)
    (weighable : ∀ node, nodes.find? kind = some node → node.neighbours.Weighable)
    (passable : ¬nodes.NoWayOn kind) :
    ∃ node neighbour weight next, nodes.find? kind = some node ∧
      nodes.pickNeighbour kind source = .ok (some neighbour, source.next.2) ∧
      (neighbour, weight) ∈ node.neighbours.entries ∧ weight.isZero = false ∧
      nodes.find? neighbour = some next := by
  rw [noWayOn_iff] at passable
  simp only [not_forall, not_not] at passable
  obtain ⟨node, found, some⟩ := passable
  obtain ⟨usable, finite⟩ := weighable node found
  obtain ⟨table, made⟩ := (WeightTable.exists_ofWeights_iff
    (fun weight listed => isNonnegative_of_isUsableWeight (usable weight listed)) finite).mpr some
  obtain ⟨neighbour, weight, picked, stands, nonzero⟩ := exists_pick_of_table found made source
  -- A catalog is only made when every neighbour is loaded.
  have closed := built.sound.closed node (mem_of_find? found).1
  have loaded := Node.dangling?_eq_none_iff.mp closed neighbour (List.mem_map_of_mem stands)
  obtain ⟨next, reached⟩ := Option.isSome_iff_exists.mp loaded
  exact ⟨node, neighbour, weight, next, found, picked, stands, nonzero, reached⟩

/-- When the weights of a node can be weighed, a pick finds nothing exactly when there is no way on,
and it draws nothing then. Otherwise it draws one word and leads to a neighbour of the node that is
loaded and whose weight is not zero. -/
theorem Built.neighbour_picks_legal {nodes : NodeCatalog} (built : nodes.Built) (kind : String)
    (source : RandomSource)
    (weighable : ∀ node, nodes.find? kind = some node → node.neighbours.Weighable) :
    (∀ later, nodes.pickNeighbour kind source = .ok (none, later) ↔
      nodes.NoWayOn kind ∧ later = source) ∧
    (¬nodes.NoWayOn kind → ∃ node neighbour weight next,
      nodes.find? kind = some node ∧
      nodes.pickNeighbour kind source = .ok (some neighbour, source.next.2) ∧
      (neighbour, weight) ∈ node.neighbours.entries ∧ weight.isZero = false ∧
      nodes.find? neighbour = some next) := by
  refine ⟨fun later => ⟨fun nothing => ?_, ?_⟩, built.exists_pick source weighable⟩
  · have stuck : nodes.NoWayOn kind := by
      by_contra passable
      obtain ⟨_, _, _, _, -, picked, -⟩ := built.exists_pick source weighable passable
      cases nothing.symm.trans picked
    have drawn := nothing.symm.trans (stuck.pickNeighbour_eq weighable source)
    simp only [Except.ok.injEq, Prod.mk.injEq, true_and] at drawn
    exact ⟨stuck, drawn⟩
  · rintro ⟨stuck, rfl⟩
    exact stuck.pickNeighbour_eq weighable later

end Catalog

/-- A crossing has a road of no weight to itself and one of the weight 1 to the fen. -/
def roadToFen : NodeCatalog where
  entries := [
    compiledCrossing [("crossing", ⟨0⟩), ("fen", ⟨0x3F800000⟩)],
    { compiledCrossing [] with kind := "fen" }]

/-- Every pick at the crossing leads to the fen, since the other road has no weight. -/
theorem Catalog.neighbour_picks_legal_fen :
    roadToFen.Built ∧
      roadToFen.pickNeighbour "crossing" (.ofWords [7]) =
        .ok (some "fen", (RandomSource.ofWords [7]).next.2) := by
  have made : Catalog.ofList roadToFen.entries = .ok roadToFen := by decide +kernel
  have found : roadToFen.find? "crossing" =
      some (compiledCrossing [("crossing", ⟨0⟩), ("fen", ⟨0x3F800000⟩)]) := by decide +kernel
  have built : roadToFen.Built := .ofList made
  obtain ⟨-, leads⟩ := built.neighbour_picks_legal "crossing" (.ofWords [7]) fun node known => by
    obtain rfl := Option.some.inj (found.symm.trans known)
    exact ⟨by decide +kernel, by decide +kernel⟩
  obtain ⟨node, neighbour, weight, -, known, picked, listed, nonzero, -⟩ := leads fun stuck => by
    refine Catalog.noWayOn_iff.mp stuck _ found ?_
    exact ⟨⟨0x3F800000⟩, by decide, by decide⟩
  obtain rfl := Option.some.inj (found.symm.trans known)
  refine ⟨built, ?_⟩
  rcases List.mem_cons.mp listed with same | other
  · cases same
    cases nonzero
  · cases List.mem_singleton.mp other
    exact picked

section Acceptance

/-- A neighbour of a made list comes from one of its entries. -/
theorem Neighbours.mem_of_mem_ofList {entries : List (String × Binary32)}
    {entry : String × Binary32} (listed : entry ∈ (ofList entries).entries) : entry ∈ entries := by
  have distinct : ((ofList entries).entries.map Prod.fst).Nodup := ascending_ofList.imp ne_of_lt
  have found := (lookup_eq_some_iff_mem distinct).mpr listed
  exact List.mem_reverse.mp (mem_of_lookup_eq_some (weight?_ofList.symm.trans found))

theorem NodeDefinition.usable_of_compiled {definition : NodeDefinition} {node : Node}
    (compiled : definition.compile = .ok node) :
    ∀ weight ∈ node.neighbours.weights, isUsableWeight weight = true := by
  have authored : ∀ entry ∈ definition.neighbours.entries, isUsableWeight entry.2 = true := by
    rw [compile] at compiled
    split at compiled
    next => cases compiled
    next =>
      split at compiled
      next none => simpa using List.filter_eq_nil_iff.mp none
      next => cases compiled
  intro weight listed
  rw [neighbours_of_compiled compiled] at listed
  obtain ⟨entry, stands, rfl⟩ := List.mem_map.mp listed
  obtain ⟨source, written, rfl⟩ := List.mem_map.mp (Neighbours.mem_of_mem_ofList stands)
  exact authored source written

/-- Definitions are accepted when each of them compiles and the nodes make up a catalog. -/
def Accepted (definitions : List NodeDefinition) (nodes : NodeCatalog) : Prop :=
  ∃ entries, definitions.map NodeDefinition.compile = entries.map .ok ∧
    Catalog.ofList entries = .ok nodes

theorem Accepted.usable {definitions : List NodeDefinition} {nodes : NodeCatalog}
    (accepted : Accepted definitions nodes) {node : Node} (listed : node ∈ nodes.entries) :
    ∀ weight ∈ node.neighbours.weights, isUsableWeight weight = true := by
  obtain ⟨entries, compiled, made⟩ := accepted
  obtain ⟨rfl, -⟩ := Catalog.ofList_eq_ok_iff.mp made
  have yielded : Except.ok node ∈ definitions.map NodeDefinition.compile :=
    compiled ▸ List.mem_map_of_mem listed
  obtain ⟨definition, -, compiles⟩ := List.mem_map.mp yielded
  exact NodeDefinition.usable_of_compiled compiles

theorem Accepted.pickNeighbour_eq_overflow_iff {definitions : List NodeDefinition}
    {nodes : NodeCatalog} (accepted : Accepted definitions nodes) {kind : String}
    {source : RandomSource} : nodes.pickNeighbour kind source = .error .overflow ↔
      ∃ node, nodes.find? kind = some node ∧ Binary32.Overflows node.neighbours.weights := by
  rw [Catalog.pickNeighbour]
  cases found : nodes.find? kind with
  | none => simp
  | some node =>
      have usable := accepted.usable (Catalog.mem_of_find? found).1
      have overflow_iff :
          WeightTable.ofWeights node.neighbours.weights = .error .overflow ↔
            Binary32.Overflows node.neighbours.weights := by
        rw [WeightTable.ofWeights_eq_overflow_iff]
        exact and_iff_right fun weight listed =>
          isNonnegative_of_isUsableWeight (usable weight listed)
      simp only [Option.some.injEq, exists_eq_left', ← overflow_iff]
      cases made : WeightTable.ofWeights node.neighbours.weights with
      | ok table => simp
      | error fault => cases fault <;> simp

/-- A pick among accepted nodes fails exactly when one of the weights of the node leads beyond the
finite numbers when it is added to the sum of those before it. It does not fail as long as up to
`2 ^ size` neighbours have weights of at most `2 ^ (127 - size)`, which are `2 ^ (276 - size)` units.
Weights of at most `2 ^ 103` never make it fail, however many neighbours there are. -/
theorem travel_fails_iff_overflow {definitions : List NodeDefinition} {nodes : NodeCatalog}
    (accepted : Accepted definitions nodes) (kind : String) (source : RandomSource) :
    (nodes.pickNeighbour kind source = .error .overflow ↔
      ∃ node, nodes.find? kind = some node ∧ Binary32.Overflows node.neighbours.weights) ∧
    ∀ size ≤ 24,
      (∀ node, nodes.find? kind = some node →
        (node.neighbours.weights.length ≤ 2 ^ size ∨ size = 24) ∧
          ∀ weight ∈ node.neighbours.weights, Binary32.magnitude weight.code ≤ 2 ^ (276 - size)) →
      ∃ result, nodes.pickNeighbour kind source = .ok result := by
  refine ⟨accepted.pickNeighbour_eq_overflow_iff, fun size possible small => ?_⟩
  cases picked : nodes.pickNeighbour kind source with
  | ok result => exact ⟨result, rfl⟩
  | error fault =>
      cases fault
      obtain ⟨node, found, overflows⟩ := accepted.pickNeighbour_eq_overflow_iff.mp picked
      obtain ⟨count, bounded⟩ := small node found
      exact (Binary32.not_overflows_of_small possible count bounded overflows).elim

/-- These define a crossing with a road to itself and one of the same weight to the fen. -/
def evenRoads (weight : Binary32) : List NodeDefinition :=
  [crossing [("crossing", weight), ("fen", weight)], { crossing [] with kind := "fen" }]

/-- This is what the definitions make up. -/
def evenNodes (weight : Binary32) : NodeCatalog where
  entries := [
    compiledCrossing [("crossing", weight), ("fen", weight)],
    { compiledCrossing [] with kind := "fen" }]

theorem find?_evenNodes (weight : Binary32) : (evenNodes weight).find? "crossing" =
    some (compiledCrossing [("crossing", weight), ("fen", weight)]) := rfl

/-- With the weight `2 ^ 103` for each road a pick is made. -/
theorem travel_fails_iff_overflow_even :
    Accepted (evenRoads ⟨0x73000000⟩) (evenNodes ⟨0x73000000⟩) ∧
      ∃ result, (evenNodes ⟨0x73000000⟩).pickNeighbour "crossing" (.ofWords [7]) = .ok result := by
  have accepted : Accepted (evenRoads ⟨0x73000000⟩) (evenNodes ⟨0x73000000⟩) :=
    ⟨(evenNodes ⟨0x73000000⟩).entries, by decide +kernel, by decide +kernel⟩
  refine ⟨accepted, (travel_fails_iff_overflow accepted "crossing" (.ofWords [7])).2 24 le_rfl
    fun node known => ?_⟩
  obtain rfl := Option.some.inj ((find?_evenNodes _).symm.trans known)
  exact ⟨.inr rfl, by decide +kernel⟩

/-- The greatest finite weight is accepted for each road, but the sum of the two overflows. -/
theorem roads_too_heavy :
    Accepted (evenRoads ⟨0x7F7FFFFF⟩) (evenNodes ⟨0x7F7FFFFF⟩) ∧
      (evenNodes ⟨0x7F7FFFFF⟩).pickNeighbour "crossing" (.ofWords [7]) = .error .overflow := by
  refine ⟨⟨(evenNodes ⟨0x7F7FFFFF⟩).entries, by decide +kernel, by decide +kernel⟩, ?_⟩
  have overflow : WeightTable.ofWeights (compiledCrossing
      [("crossing", ⟨0x7F7FFFFF⟩), ("fen", ⟨0x7F7FFFFF⟩)]).neighbours.weights =
        .error .overflow := by
    decide +kernel
  rw [Catalog.pickNeighbour, find?_evenNodes]
  dsimp only
  rw [overflow]

end Acceptance

end Gamebook
