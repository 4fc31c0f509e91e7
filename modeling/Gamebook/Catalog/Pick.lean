/-
This file picks the event that fires at a node and the node that is travelled to.
-/

import Gamebook.Catalog.Basic
import Gamebook.Random.Choice
import Gamebook.Random.Weighted

namespace Gamebook.Catalog

/-- A forced event always fires. Otherwise every place in the pool has the same chance. -/
def pickEvent (nodes : NodeCatalog) (kind : String) (source : RandomSource) :
    Option String × RandomSource :=
  match nodes.find? kind with
  | none => (none, source)
  | some node =>
      match node.forcedEvent with
      | some event => (some event, source)
      | none => source.choose node.pool

/-- The sum of weights that are finite one by one can still overflow. -/
inductive PickFault where
  | overflow
  deriving DecidableEq

/-- Nothing is picked when there are no neighbours or all their weights are zero. -/
def pickNeighbour (nodes : NodeCatalog) (kind : String) (source : RandomSource) :
    Except PickFault (Option String × RandomSource) :=
  match nodes.find? kind with
  | none => .ok (none, source)
  | some node =>
      match WeightTable.ofWeights node.neighbours.weights with
      | .error .overflow => .error .overflow
      | .error _ => .ok (none, source)
      | .ok table =>
          let picked := table.pick source
          .ok (node.neighbours.kinds[picked.1]?, picked.2)

end Gamebook.Catalog
