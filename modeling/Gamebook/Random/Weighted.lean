/-
This file picks a position in a list of weights, each with a chance in proportion to its weight.
One word is drawn, scaled to the total of the weights, and looked up in their running sums.
-/

import Gamebook.Binary32.Basic
import Gamebook.Random.Source

namespace Gamebook

/-- These are the reasons for which weights cannot be used. -/
inductive WeightFault where
  | noWeights
  | badWeight
  | allZero
  /-- The weights are finite, but their rounded sum is not. -/
  | overflow
  deriving DecidableEq

/-- The sums are those before each weight but the first, and all numbers are codes. -/
structure WeightTable where
  sums : List Nat
  total : Nat
  scale : Nat
  deriving DecidableEq

namespace WeightTable

/-- These are the sums before each further weight, with the total in the end. -/
def runningSums (sum : Nat) : List Binary32 → List Nat × Nat
  | [] => ([], sum)
  | weight :: rest =>
      let further := runningSums (Binary32.addCodes sum weight.code) rest
      (sum :: further.1, further.2)

/-- The scale is lowered until its greatest multiple that can be drawn lies below the total. -/
def fittingScale (total : Nat) : Nat → Nat
  | 0 => 0
  | scale + 1 =>
      if Binary32.scaleCode (scale + 1) 8388607 < total then scale + 1
      else fittingScale total scale

def ofWeights : List Binary32 → Except WeightFault WeightTable
  | [] => .error .noWeights
  | first :: rest =>
      if !(first :: rest).all Binary32.isNonnegative then .error .badWeight
      else
        let sums := runningSums first.code rest
        if sums.2 = 0 then .error .allZero
        else if Binary32.infinityCode ≤ sums.2 then .error .overflow
        else .ok ⟨sums.1, sums.2, fittingScale sums.2 sums.2⟩

/-- The upper twenty-three bits of the word are the fraction of the scale that is chosen. -/
def position (table : WeightTable) (word : UInt32) : Nat :=
  let chosen := Binary32.scaleCode table.scale (word.toNat / 512)
  (table.sums.filter fun sum => decide (sum ≤ chosen)).length

def pick (table : WeightTable) (source : RandomSource) : Nat × RandomSource :=
  (table.position source.next.1, source.next.2)

end WeightTable

end Gamebook
