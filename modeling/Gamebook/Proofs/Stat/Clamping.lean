/-
This file says which values the stats have after they are set and clamped.
-/

import Gamebook.Proofs.Lookup
import Gamebook.Stat.Values
import Mathlib.Data.List.Basic
import Mathlib.Data.List.Induction

namespace Gamebook

theorem saturatingAdd_toNat (left right : UInt32) :
    (saturatingAdd left right).toNat = min (left.toNat + right.toNat) 4294967295 := by
  have size : UInt32.size = 4294967296 := rfl
  rw [saturatingAdd]
  split
  next fits =>
    rw [UInt32.toNat_add, Nat.mod_eq_of_lt fits]
    omega
  next beyond =>
    have largest : (4294967295 : UInt32).toNat = 4294967295 := rfl
    omega

theorem saturatingSub_toNat (left right : UInt32) :
    (saturatingSub left right).toNat = left.toNat - right.toNat := by
  rw [saturatingSub]
  split
  next covered => exact UInt32.toNat_sub_of_le left right covered
  next short =>
    have above := UInt32.lt_iff_toNat_lt.mp (UInt32.not_le.mp short)
    have none : (0 : UInt32).toNat = 0 := rfl
    omega

theorem toNat_min (left right : UInt32) : (min left right).toNat = min left.toNat right.toNat := by
  change (if left ≤ right then left else right).toNat = _
  split
  next below => exact (Nat.min_eq_left (UInt32.le_iff_toNat_le.mp below)).symm
  next above =>
    have less := UInt32.lt_iff_toNat_lt.mp (UInt32.not_le.mp above)
    exact (Nat.min_eq_right (Nat.le_of_lt less)).symm

/-- A ceiling has no ceiling of its own. -/
theorem Stat.ceiling?_of_ceiling? {stat maximum : Stat} (capped : stat.ceiling? = some maximum) :
    maximum.ceiling? = none := by
  cases stat <;> cases capped <;> rfl

theorem Stat.ceiling?_of_capped? {maximum stat : Stat} (caps : maximum.capped? = some stat) :
    maximum.ceiling? = none :=
  ceiling?_of_ceiling? (capped?_eq_some_iff.mp caps)

namespace Stats

variable (stats : Stats)

theorem get_zero (stat : Stat) : zero.get stat = 0 := by
  cases stat <;> rfl

theorem get_set (stat other : Stat) (value : UInt32) :
    (stats.set stat value).get other = if other = stat then value else stats.get other := by
  split
  next same => rw [same, get_set_self]
  next apart => rw [get_set_of_ne stats (Ne.symm apart)]

/-- This is a value of the stat that is lowered to the current ceiling. -/
def bounded (stat : Stat) (value : UInt32) : UInt32 :=
  match stat.ceiling? with
  | none => value
  | some maximum => min value (stats.get maximum)

theorem bounded_of_free {stat : Stat} (free : stat.ceiling? = none) (value : UInt32) :
    stats.bounded stat value = value := by
  rw [bounded, free]

theorem bounded_of_ceiling {stat maximum : Stat} (capped : stat.ceiling? = some maximum)
    (value : UInt32) : stats.bounded stat value = min value (stats.get maximum) := by
  rw [bounded, capped]

theorem get_lower (stat other : Stat) :
    (stats.lower stat).get other =
      if other = stat then stats.bounded stat (stats.get stat) else stats.get other := by
  rw [lower, bounded]
  cases stat.ceiling? with
  | none =>
      dsimp only
      split
      next same => rw [same]
      next => rfl
  | some maximum => rw [get_set]

/-- Clamping lowers the stat itself and the stat below it, and nothing else. -/
theorem get_clamp (stat other : Stat) :
    (stats.clamp stat).get other =
      if other = stat ∨ other.ceiling? = some stat then stats.bounded other (stats.get other)
      else stats.get other := by
  rw [clamp]
  cases caps : stat.capped? with
  | none =>
      have alone : other.ceiling? ≠ some stat := fun capped => by
        rw [Stat.capped?_eq_some_iff.mpr capped] at caps
        cases caps
      rw [get_lower]
      by_cases same : other = stat <;> simp [same, alone]
  | some capped =>
      -- A maximum has no ceiling of its own, so that only the stat below it is lowered.
      have free := Stat.ceiling?_of_capped? caps
      have kept : stats.lower stat = stats := by rw [lower, free]
      dsimp only
      rw [kept, get_lower]
      by_cases below : other = capped
      · simp [below, Stat.capped?_eq_some_iff.mp caps]
      · have apart : other.ceiling? ≠ some stat := fun otherCapped => by
          rw [Stat.capped?_eq_some_iff.mpr otherCapped] at caps
          exact below (Option.some.inj caps)
        by_cases same : other = stat
        · rw [if_neg below, if_pos (.inl same), same, bounded_of_free stats free]
        · rw [if_neg below, if_neg (not_or.mpr ⟨same, apart⟩)]

/-- A stat without a ceiling is never clamped. -/
theorem get_clamp_of_free {other : Stat} (free : other.ceiling? = none) (stat : Stat) :
    (stats.clamp stat).get other = stats.get other := by
  rw [get_clamp, bounded_of_free stats free, ite_self]

theorem bounded_clamp (stat other : Stat) :
    (stats.clamp stat).bounded other ((stats.clamp stat).get other) =
      stats.bounded other (stats.get other) := by
  cases capped : other.ceiling? with
  | none =>
      rw [bounded_of_free _ capped, bounded_of_free _ capped, get_clamp_of_free stats capped]
  | some maximum =>
      have kept := get_clamp_of_free stats (Stat.ceiling?_of_ceiling? capped) stat
      rw [bounded_of_ceiling _ capped, bounded_of_ceiling _ capped, kept, get_clamp,
        bounded_of_ceiling _ capped]
      split
      next =>
        rw [← UInt32.toNat_inj, toNat_min, toNat_min]
        omega
      next => rfl

/-- Clamping several stats lowers those that are listed and those below them, in any order. -/
theorem get_foldl_clamp (listed : List Stat) (other : Stat) :
    (listed.foldl clamp stats).get other =
      if ∃ stat ∈ listed, other = stat ∨ other.ceiling? = some stat then
        stats.bounded other (stats.get other)
      else stats.get other := by
  induction listed generalizing stats with
  | nil => simp
  | cons stat rest inductionHypothesis =>
      rw [List.foldl_cons, inductionHypothesis, bounded_clamp, get_clamp]
      simp only [List.exists_mem_cons_iff]
      by_cases later : ∃ stat ∈ rest, other = stat ∨ other.ceiling? = some stat <;> simp [later]

theorem get_foldl_clamp_of_mem {listed : List Stat} {other : Stat} (member : other ∈ listed) :
    (listed.foldl clamp stats).get other = stats.bounded other (stats.get other) := by
  rw [get_foldl_clamp, if_pos ⟨other, member, .inl rfl⟩]

/-- After a list of values the last one of each stat counts. -/
theorem get_foldl_set (values : List (Stat × UInt32)) (stat : Stat) :
    (values.foldl (fun stats entry => stats.set entry.1 entry.2) stats).get stat =
      (values.reverse.lookup stat).getD (stats.get stat) := by
  induction values using List.reverseRecOn with
  | nil => rfl
  | append_singleton earlier last inductionHypothesis =>
      rw [List.foldl_append, List.foldl_cons, List.foldl_nil, get_set, List.reverse_append,
        List.reverse_singleton, List.singleton_append, inductionHypothesis, lookup_cons_eq_ite]
      split <;> rfl

end Stats

end Gamebook
