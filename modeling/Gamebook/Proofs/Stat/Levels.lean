/-
This file compares the stats with levels, which are plain integers. A move adds to one level and
brings it back between zero and its ceiling. The stats follow the levels over every run.
-/

import Gamebook.Proofs.Scene.Operation
import Gamebook.Proofs.Stat.Clamping

namespace Gamebook

/-- Levels give every stat an integer. -/
abbrev Levels : Type := Stat → Int

/-- These are the values of the stats as integers. -/
def Stats.levels (stats : Stats) : Levels :=
  fun stat => (stats.get stat).toNat

namespace Levels

/-- The ceiling of a stat is the level of its maximum, or else the largest word. -/
def ceiling (levels : Levels) (stat : Stat) : Int :=
  match stat.ceiling? with
  | some maximum => levels maximum
  | none => 4294967295

/-- This is the level that a stat reaches when it is moved. -/
def reached (levels : Levels) (stat : Stat) (amount : Int) : Int :=
  max 0 (min (levels stat + amount) (levels.ceiling stat))

/-- A stat is moved. When it is a maximum, the stat below it is lowered to its new level. -/
def move (levels : Levels) (stat : Stat) (amount : Int) : Levels := fun other =>
  if other = stat then levels.reached stat amount
  else if other.ceiling? = some stat then min (levels other) (levels.reached stat amount)
  else levels other

/-- The last value that is listed for a stat counts, and a stat that is not listed is at zero. -/
def listed (values : List (Stat × UInt32)) : Levels := fun stat =>
  match values.reverse.lookup stat with
  | some value => value.toNat
  | none => 0

/-- A capped stat begins at the listed level of its maximum when its own level is higher. -/
def start (values : List (Stat × UInt32)) : Levels := fun stat =>
  match stat.ceiling? with
  | some maximum => min (listed values stat) (listed values maximum)
  | none => listed values stat

end Levels

namespace Stats

/-- New stats begin at the levels of their list. -/
theorem levels_ofList (values : List (Stat × UInt32)) :
    (ofList values).levels = Levels.start values := by
  have raw : ∀ stat,
      ((values.foldl (fun stats entry => stats.set entry.1 entry.2) zero).get stat).toNat =
        Levels.listed values stat := by
    intro stat
    rw [get_foldl_set, get_zero, Levels.listed]
    cases values.reverse.lookup stat <;> rfl
  funext stat
  rw [levels, ofList, get_foldl_clamp_of_mem _ (Stat.mem_all stat), Levels.start]
  cases capped : stat.ceiling? with
  | none => rw [bounded_of_free _ capped, raw]
  | some maximum =>
      dsimp only
      rw [bounded_of_ceiling _ capped, toNat_min, ← raw, ← raw]
      omega

/-- A stat that is set and clamped moves its level when its value is the level without a ceiling. -/
theorem levels_clamp_set {stats : Stats} {stat : Stat} {value : UInt32} {amount : Int}
    (sum : (value.toNat : Int) = max 0 (min ((stats.get stat).toNat + amount) 4294967295)) :
    ((stats.set stat value).clamp stat).levels = stats.levels.move stat amount := by
  have reached : (((stats.set stat value).bounded stat value).toNat : Int) =
      stats.levels.reached stat amount := by
    rw [Levels.reached, Levels.ceiling]
    cases capped : stat.ceiling? with
    | none => rw [bounded_of_free _ capped, sum, levels]
    | some maximum =>
        have apart : maximum ≠ stat := fun same => by
          have free := Stat.ceiling?_of_ceiling? capped
          rw [same, capped] at free
          cases free
        have fits := (stats.get maximum).toNat_lt
        dsimp only
        rw [bounded_of_ceiling _ capped, get_set, if_neg apart, toNat_min, levels, levels]
        omega
  funext other
  rw [levels, get_clamp, Levels.move]
  by_cases same : other = stat
  · rw [if_pos (.inl same), if_pos same, same, get_set_self, reached]
  · by_cases below : other.ceiling? = some stat
    · have free := Stat.ceiling?_of_ceiling? below
      rw [if_pos (.inr below), if_neg same, if_pos below, ← reached, bounded_of_free _ free,
        bounded_of_ceiling _ below, get_set_self, get_set, if_neg same, toNat_min, levels]
      omega
    · rw [if_neg (not_or.mpr ⟨same, below⟩), if_neg same, if_neg below, get_set, if_neg same,
        levels]

theorem levels_add (stats : Stats) (stat : Stat) (amount : UInt32) :
    (stats.add stat amount).levels = stats.levels.move stat amount.toNat := by
  refine levels_clamp_set ?_
  rw [saturatingAdd_toNat]
  omega

theorem levels_spend (stats : Stats) (stat : Stat) (amount : UInt32) :
    (stats.spend stat amount).levels = stats.levels.move stat (-amount.toNat) := by
  refine levels_clamp_set ?_
  rw [saturatingSub_toNat]
  have fits := (stats.get stat).toNat_lt
  omega

theorem levels_change (stats : Stats) (stat : Stat) (amount : Int32) :
    (stats.change stat amount).levels = stats.levels.move stat amount.toInt := by
  have least := amount.le_toInt
  have greatest := amount.toInt_lt
  have magnitude : (UInt32.ofNat amount.toInt.natAbs).toNat = amount.toInt.natAbs :=
    UInt32.toNat_ofNat_of_lt' (by simp only [UInt32.size]; omega)
  rw [change]
  split
  next gain =>
    rw [levels_add, magnitude]
    congr 1
    omega
  next loss =>
    rw [levels_spend, magnitude]
    congr 1
    omega

end Stats

/-- Levels are in bounds when each lies between zero and its ceiling. -/
def Levels.InBounds (levels : Levels) : Prop :=
  ∀ stat, 0 ≤ levels stat ∧ levels stat ≤ levels.ceiling stat

namespace Levels

theorem listed_word (values : List (Stat × UInt32)) (stat : Stat) :
    0 ≤ listed values stat ∧ listed values stat ≤ 4294967295 := by
  rw [listed]
  split
  next value found =>
    have fits := value.toNat_lt
    omega
  next => omega

theorem start_inBounds (values : List (Stat × UInt32)) : (start values).InBounds := by
  intro stat
  have own := listed_word values stat
  rw [ceiling]
  cases capped : stat.ceiling? with
  | none =>
      simp only [start, capped]
      exact own
  | some maximum =>
      have above := listed_word values maximum
      simp only [start, capped, Stat.ceiling?_of_ceiling? capped]
      omega

/-- A maximum is only changed when it is moved itself. -/
theorem move_of_free {levels : Levels} {stat other : Stat} {amount : Int} (apart : other ≠ stat)
    (free : other.ceiling? = none) : levels.move stat amount other = levels other := by
  simp [move, apart, free]

/-- Every move keeps all levels in bounds. -/
theorem InBounds.move {levels : Levels} (bounds : levels.InBounds) (stat : Stat) (amount : Int) :
    (levels.move stat amount).InBounds := by
  intro other
  have own := bounds other
  rw [ceiling] at own ⊢
  by_cases same : other = stat
  · subst same
    rw [Levels.move, if_pos rfl, reached, ceiling]
    cases capped : other.ceiling? with
    | none =>
        dsimp only
        omega
    | some maximum =>
        have free := Stat.ceiling?_of_ceiling? capped
        have apart : maximum ≠ other := fun same => by
          rw [same, capped] at free
          cases free
        have above := (bounds maximum).1
        dsimp only
        rw [move_of_free apart free]
        omega
  · by_cases below : other.ceiling? = some stat
    -- The ceiling of this stat is the level that moves, and the stat is lowered with it.
    · have ceilingMoved : levels.move stat amount stat = levels.reached stat amount := if_pos rfl
      rw [below] at own ⊢
      dsimp only at own ⊢
      rw [ceilingMoved, Levels.move, if_neg same, if_pos below, reached]
      omega
    · rw [Levels.move, if_neg same, if_neg below]
      cases capped : other.ceiling? with
      | none => simpa [capped] using own
      | some maximum =>
          have apart : maximum ≠ stat := fun isMoved => below (isMoved ▸ capped)
          have free := Stat.ceiling?_of_ceiling? capped
          rw [capped] at own
          dsimp only at own ⊢
          rw [move_of_free apart free]
          exact own

end Levels

/-- A stat is moved by a gain, by a spending, or by an effect with a signed amount. -/
inductive StatMove where
  | gain (stat : Stat) (amount : UInt32)
  | spend (stat : Stat) (amount : UInt32)
  | effect (stat : Stat) (amount : Int32)

namespace StatMove

def operation : StatMove → Operation
  | .gain stat amount => .gain stat amount
  | .spend stat amount => .spend stat amount
  | .effect stat amount => .settle (.statChange stat amount)

def stat : StatMove → Stat
  | .gain stat _ => stat
  | .spend stat _ => stat
  | .effect stat _ => stat

/-- This is the amount that the move adds to the level of its stat. -/
def amount : StatMove → Int
  | .gain _ amount => amount.toNat
  | .spend _ amount => -amount.toNat
  | .effect _ amount => amount.toInt

/-- One move of the stats is one move of the levels. -/
theorem levels_run (items : ItemCatalog) (scene : Scene) (move : StatMove) :
    (move.operation.run items scene).1.stats.levels =
      scene.stats.levels.move move.stat move.amount := by
  cases move with
  | gain stat amount => exact scene.stats.levels_add stat amount
  | spend stat amount => exact scene.stats.levels_spend stat amount
  | effect stat amount =>
      have settled : (settle items [.statChange stat amount] scene).1.stats =
          scene.stats.change stat amount := by
        rw [settle, settle]
      rw [operation, Operation.run, settled]
      exact scene.stats.levels_change stat amount

/-- The levels follow a whole run of moves. -/
theorem levels_play (items : ItemCatalog) (scene : Scene) (moves : List StatMove) :
    (scene.play items (moves.map operation)).stats.levels =
      moves.foldl (fun levels move => levels.move move.stat move.amount) scene.stats.levels := by
  induction moves generalizing scene with
  | nil => rfl
  | cons move rest inductionHypothesis =>
      rw [List.foldl_cons, ← levels_run items scene move]
      exact inductionHypothesis _

end StatMove

/-- No run of moves takes a level out of its bounds. -/
theorem Levels.InBounds.run {levels : Levels} (bounds : levels.InBounds) (moves : List StatMove) :
    (moves.foldl (fun levels move => levels.move move.stat move.amount) levels).InBounds :=
  List.foldlRecOn moves _ bounds fun _ kept move _ => kept.move move.stat move.amount

theorem Stats.le_of_inBounds {stats : Stats} (bounds : stats.levels.InBounds) {stat maximum : Stat}
    (capped : stat.ceiling? = some maximum) : stats.get stat ≤ stats.get maximum := by
  have below := (bounds stat).2
  simp only [Levels.ceiling, capped, levels] at below
  exact UInt32.le_iff_toNat_le.mpr (Int.ofNat_le.mp below)

/-- The stats of a hero begin at their listed levels and follow the levels over every run. Each move
adds its amount to one level within bounds, so that no capped stat is ever above its maximum. -/
theorem Stats.follow_levels (items : ItemCatalog) (scene : Scene) (values : List (Stat × UInt32))
    (moves : List StatMove) :
    (Stats.ofList values).levels = Levels.start values ∧
      let after := { scene with stats := Stats.ofList values }.play items
        (moves.map StatMove.operation)
      after.stats.levels =
          moves.foldl (fun levels move => levels.move move.stat move.amount) (Levels.start values) ∧
        (∀ move : StatMove, (move.operation.run items after).1.stats.levels =
          after.stats.levels.move move.stat move.amount) ∧
        after.stats.get .strength ≤ after.stats.get .maxStrength ∧
        after.stats.get .honor ≤ after.stats.get .maxHonor ∧
        after.stats.get .feats ≤ after.stats.get .maxFeats := by
  have begins := Stats.levels_ofList values
  refine ⟨begins, ?_⟩
  intro after
  have followed : after.stats.levels =
      moves.foldl (fun levels move => levels.move move.stat move.amount) (Levels.start values) := by
    rw [← begins]
    exact StatMove.levels_play items { scene with stats := Stats.ofList values } moves
  have bounds : after.stats.levels.InBounds := by
    rw [followed]
    exact (Levels.start_inBounds values).run moves
  exact ⟨followed, StatMove.levels_run items after, le_of_inBounds bounds rfl,
    le_of_inBounds bounds rfl, le_of_inBounds bounds rfl⟩

end Gamebook
