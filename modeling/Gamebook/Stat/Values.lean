/-
This file holds the current values of all stats and the only ways to change them.
Every change saturates: a stat stays between zero and its ceiling,
and a stat without a ceiling stays below `2 ^ 32`.
-/

import Gamebook.Stat.Basic

namespace Gamebook

/-- This sum stops at the largest word instead of wrapping. -/
def saturatingAdd (left right : UInt32) : UInt32 :=
  if left.toNat + right.toNat < UInt32.size then left + right else 4294967295

/-- This difference stops at zero instead of wrapping. -/
def saturatingSub (left right : UInt32) : UInt32 :=
  if right ≤ left then left - right else 0

/-- A stat amount is a quantity that can be asked for as a price. -/
structure StatAmount where
  stat : Stat
  amount : UInt32
  deriving DecidableEq

def StatAmount.text (cost : StatAmount) : String :=
  s!"{cost.amount.toNat} {cost.stat.name}"

/-- The values stand in the order of the stats. -/
structure Stats where
  values : Vector UInt32 9
  deriving DecidableEq

namespace Stats

def zero : Stats := ⟨Vector.replicate 9 0⟩

def get (stats : Stats) (stat : Stat) : UInt32 :=
  stats.values[stat.index]

def set (stats : Stats) (stat : Stat) (value : UInt32) : Stats :=
  ⟨stats.values.set stat.index value⟩

/-- This lowers a capped stat to its ceiling and leaves any other stat as it is. -/
def lower (stats : Stats) (stat : Stat) : Stats :=
  match stat.ceiling? with
  | none => stats
  | some maximum => stats.set stat (min (stats.get stat) (stats.get maximum))

/-- This restores the ceilings after the given stat has changed. -/
def clamp (stats : Stats) (stat : Stat) : Stats :=
  match stat.capped? with
  | none => stats.lower stat
  | some capped => (stats.lower stat).lower capped

/-- The last value that is listed for a stat counts, and a stat that is not listed is zero. -/
def ofList (values : List (Stat × UInt32)) : Stats :=
  Stat.all.foldl clamp (values.foldl (fun stats entry => stats.set entry.1 entry.2) zero)

/-- This increases a stat and stops at its ceiling. -/
def add (stats : Stats) (stat : Stat) (amount : UInt32) : Stats :=
  (stats.set stat (saturatingAdd (stats.get stat) amount)).clamp stat

/-- This decreases a stat and stops at zero. -/
def spend (stats : Stats) (stat : Stat) (amount : UInt32) : Stats :=
  (stats.set stat (saturatingSub (stats.get stat) amount)).clamp stat

/-- A change that is not negative is a gain, and any other change is a loss. -/
def change (stats : Stats) (stat : Stat) (amount : Int32) : Stats :=
  let magnitude := UInt32.ofNat amount.toInt.natAbs
  if 0 ≤ amount.toInt then stats.add stat magnitude else stats.spend stat magnitude

/-- Each amount is compared with the current value on its own. -/
def canPay (stats : Stats) (costs : List StatAmount) : Bool :=
  costs.all fun cost => decide (cost.amount ≤ stats.get cost.stat)

/-- The costs are paid one after the other. -/
def pay (stats : Stats) (costs : List StatAmount) : Stats :=
  costs.foldl (fun current cost => current.spend cost.stat cost.amount) stats

/-- The story is over when the settlement is empty or the hero is spent. -/
def isGameOver (stats : Stats) : Bool :=
  stats.get .population == 0 || stats.get .strength == 0

def toList (stats : Stats) : List UInt32 :=
  Stat.all.map stats.get

@[simp] theorem get_set_self (stats : Stats) (stat : Stat) (value : UInt32) :
    (stats.set stat value).get stat = value := by
  simp [get, set]

@[simp] theorem get_set_of_ne (stats : Stats) {stat other : Stat} (different : stat ≠ other)
    (value : UInt32) : (stats.set stat value).get other = stats.get other := by
  have apart : stat.index.val ≠ other.index.val := fun same =>
    different (Stat.index_injective (Fin.ext same))
  simp [get, set, apart]

end Stats

end Gamebook
