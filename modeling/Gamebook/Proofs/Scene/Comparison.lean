/-
This file plays the same operations in two scenes that differ in the stats alone. Where no stat is
lower, nothing is lost: what succeeds in the one scene succeeds in the other with the same answer.
-/

import Gamebook.Proofs.Scene.Operation
import Gamebook.Proofs.Stat.Comparison

namespace Gamebook

/-- A scene is below another when its stats are and when they agree in everything else. -/
structure Scene.Below (worse better : Scene) : Prop where
  stats : worse.stats ≤ better.stats
  inventory : worse.inventory = better.inventory
  title : worse.title = better.title
  location : worse.location = better.location
  triggered : worse.triggered = better.triggered

/-- Two results agree when they answer the same and the first ends in a scene below the other. -/
structure Agree {A : Type} (worse better : Scene × Except EvaluationError A) : Prop where
  below : worse.1.Below better.1
  answer : worse.2 = better.2

theorem Agree.exists_answer {A : Type} {worse better : Scene × Except EvaluationError A}
    (agree : Agree worse better) : ∃ answer worseAfter betterAfter,
      worse = (worseAfter, answer) ∧ better = (betterAfter, answer) ∧ worseAfter.Below betterAfter :=
  ⟨worse.2, worse.1, better.1, rfl, by rw [agree.answer], agree.below⟩

theorem Agree.map {A B : Type} {worse better : Scene × Except EvaluationError A}
    (agree : Agree worse better) (f : A → B) :
    Agree (worse.1, worse.2.map f) (better.1, better.2.map f) :=
  ⟨agree.below, congrArg (Except.map f) agree.answer⟩

namespace Scene.Below

variable {worse better : Scene} (below : worse.Below better)

include below

theorem withStats {lower upper : Stats} (less : lower ≤ upper) :
    Scene.Below { worse with stats := lower } { better with stats := upper } where
  stats := less
  inventory := below.inventory
  title := below.title
  location := below.location
  triggered := below.triggered

theorem withInventory {first second : Inventory} (same : first = second) :
    Scene.Below { worse with inventory := first } { better with inventory := second } where
  stats := below.stats
  inventory := same
  title := below.title
  location := below.location
  triggered := below.triggered

theorem perform (items : ItemCatalog) (effect : Effect) :
    Scene.Below (worse.perform items effect) (better.perform items effect) := by
  cases effect with
  | statChange stat amount => exact below.withStats (Stats.change_mono below.stats stat amount)
  | changeTitle title => exact { below with title := rfl }
  | triggerEvent event => exact { below with triggered := rfl }
  | grantItem id =>
      exact below.withInventory (congrArg (·.receive items (.grantItem id)) below.inventory)

/-- Settling is steered by the inventory alone. -/
theorem settle (items : ItemCatalog) (effects : List Effect) :
    Agree (settle items effects worse) (settle items effects better) := by
  generalize carried : worse.inventory = inventory
  induction effects, inventory using settlement_induction items generalizing worse better with
  | done inventory =>
      rw [Gamebook.settle, Gamebook.settle]
      exact ⟨below, rfl⟩
  | stopped id rest inventory unknown =>
      rw [settle_unknown unknown, settle_unknown unknown]
      exact ⟨below, rfl⟩
  | next effect following rest inventory follows inductionHypothesis =>
      subst carried
      rw [settle_next follows, settle_next (below.inventory ▸ follows)]
      exact inductionHypothesis (below.perform items effect) (worse.perform_inventory items effect)

theorem conditionHolds {condition : Condition} (holds : condition.holds worse = true) :
    condition.holds better = true := by
  cases condition with
  | threshold stat minimum =>
      simp only [Condition.holds, decide_eq_true_eq] at holds ⊢
      exact UInt32.le_trans holds (below.stats stat)
  | hasItem item => simpa only [Condition.holds, below.inventory] using holds
  | hasTitle title => simpa only [Condition.holds, below.title] using holds
  | atNode kind => simpa only [Condition.holds, below.location] using holds

theorem isVisible {option : EventOption} (visible : option.isVisible worse = true) :
    option.isVisible better = true := by
  simp only [EventOption.isVisible, List.all_eq_true] at visible ⊢
  exact fun condition listed => below.conditionHolds (visible condition listed)

theorem isAffordable {option : EventOption} (affordable : option.isAffordable worse = true) :
    option.isAffordable better = true :=
  Stats.canPay_mono below.stats affordable

/-- An option asks for stats only by its costs. -/
theorem apply {items : ItemCatalog} {option : EventOption} {resolution : Resolution}
    (applied : (option.apply items worse).2 = .ok resolution) :
    Agree (option.apply items worse) (option.apply items better) := by
  rw [EventOption.apply] at applied
  split at applied
  next => cases applied
  next worsePaid =>
    have betterPaid : (option.costs.find? fun cost =>
        decide (better.stats.get cost.stat < cost.amount)) = none := by
      simp only [List.find?_eq_none, decide_eq_true_eq, UInt32.not_lt] at worsePaid ⊢
      exact fun cost listed => UInt32.le_trans (worsePaid cost listed) (below.stats cost.stat)
    rw [EventOption.apply, EventOption.apply, worsePaid, betterPaid]
    dsimp only
    split
    next => exact ⟨below, rfl⟩
    next =>
      have paid := below.withStats (Stats.pay_mono below.stats option.costs)
      obtain ⟨answer, worseAfter, betterAfter, worseSettled, betterSettled, settled⟩ :=
        (paid.settle items option.effects).exists_answer
      rw [worseSettled, betterSettled]
      cases answer with
      | error error => exact ⟨settled, rfl⟩
      | ok _ => exact ⟨settled, by dsimp only; rw [settled.triggered]⟩

theorem useItem (items : ItemCatalog) (slot : Nat) :
    Agree (worse.useItem items slot) (better.useItem items slot) := by
  rw [Scene.useItem, Scene.useItem, ← below.inventory]
  split
  · exact ⟨below, rfl⟩
  · split
    next => exact ⟨below, rfl⟩
    next item carried =>
      split
      next => exact ⟨below, rfl⟩
      next =>
        obtain ⟨answer, worseAfter, betterAfter, worseSettled, betterSettled, settled⟩ :=
          (below.settle items item.onUse).exists_answer
        rw [worseSettled, betterSettled]
        cases answer with
        | error error => exact ⟨settled, rfl⟩
        | ok _ =>
            have spent := congrArg (·.spendCharge slot) settled.inventory
            exact ⟨settled.withInventory spent, rfl⟩

theorem unequipItem (items : ItemCatalog) (slot : Nat) :
    Agree (worse.unequipItem items slot) (better.unequipItem items slot) := by
  rw [Scene.unequipItem, Scene.unequipItem, ← below.inventory]
  split
  · exact ⟨below, rfl⟩
  · split
    next => exact ⟨below, rfl⟩
    next item carried =>
      split
      · exact ⟨below, rfl⟩
      · split
        next => exact ⟨below, rfl⟩
        next =>
          have freed := below.withInventory (rfl : (worse.inventory.remove slot).2 = _)
          obtain ⟨answer, worseAfter, betterAfter, worseSettled, betterSettled, settled⟩ :=
            (freed.settle items item.onUnequip).exists_answer
          dsimp only
          rw [worseSettled, betterSettled]
          cases answer with
          | error error => exact ⟨settled, rfl⟩
          | ok _ => exact ⟨settled, rfl⟩

/-- An operation that succeeds in a scene succeeds in a scene above it with the same answer. -/
theorem run {items : ItemCatalog} {operation : Operation} {outcome : Outcome}
    (succeeded : (operation.run items worse).2 = .ok outcome) :
    Agree (operation.run items worse) (operation.run items better) := by
  cases operation with
  | apply option =>
      rw [Operation.run] at succeeded
      cases applied : (option.apply items worse).2 with
      | error error => simp [applied, Except.map] at succeeded
      | ok resolution => exact (below.apply applied).map _
  | settle effect => exact (below.settle items [effect]).map _
  | useItem slot => exact (below.useItem items slot).map _
  | unequipItem slot => exact (below.unequipItem items slot).map _
  | gain stat amount => exact ⟨below.withStats (Stats.add_mono below.stats stat amount), rfl⟩
  | spend stat amount => exact ⟨below.withStats (Stats.spend_mono below.stats stat amount), rfl⟩
  | reopen location => exact ⟨{ below with location := rfl, triggered := rfl }, rfl⟩

end Scene.Below

/-- This says that every operation of a list succeeds, one after the other. -/
def Scene.Succeeds (items : ItemCatalog) (scene : Scene) (operations : List Operation) : Prop :=
  ∀ past operation, past ++ [operation] <+: operations →
    ∃ outcome, (operation.run items (scene.play items past)).2 = .ok outcome

/-- Operations that all succeed keep a scene below another. -/
theorem Scene.Below.play {items : ItemCatalog} {worse better : Scene} (below : worse.Below better)
    {operations : List Operation} (succeeds : worse.Succeeds items operations) :
    (worse.play items operations).Below (better.play items operations) := by
  induction operations using List.reverseRecOn with
  | nil => exact below
  | append_singleton earlier last inductionHypothesis =>
      have earlierBelow := inductionHypothesis fun past operation before =>
        succeeds past operation (before.trans (List.prefix_append earlier [last]))
      obtain ⟨outcome, succeeded⟩ := succeeds earlier last (List.prefix_refl _)
      rw [Scene.play_append_singleton, Scene.play_append_singleton]
      exact (earlierBelow.run succeeded).below

/-- Being better off never hurts. Operations that all succeed in one scene all succeed in a scene
above it, with the same answers. Before and after each of them the second scene is still above the
first. It then shows and affords every option that the first does, and the story is over in it only
if it is over in the first. -/
theorem better_off_never_hurts (items : ItemCatalog) {worse better : Scene}
    (below : worse.Below better) {operations : List Operation}
    (succeeds : worse.Succeeds items operations) :
    ∀ past, past <+: operations →
      (worse.play items past).Below (better.play items past) ∧
      (∀ option : EventOption, option.isVisible (worse.play items past) = true →
        option.isVisible (better.play items past) = true) ∧
      (∀ option : EventOption, option.isAffordable (worse.play items past) = true →
        option.isAffordable (better.play items past) = true) ∧
      ((better.play items past).stats.isGameOver = true →
        (worse.play items past).stats.isGameOver = true) ∧
      ∀ operation, past ++ [operation] <+: operations →
        ∃ outcome, (operation.run items (worse.play items past)).2 = .ok outcome ∧
          (operation.run items (better.play items past)).2 = .ok outcome := by
  intro past before
  have now := below.play fun earlier operation first => succeeds earlier operation (first.trans before)
  refine ⟨now, fun option => now.isVisible, fun option => now.isAffordable,
    Stats.isGameOver_anti now.stats, fun operation next => ?_⟩
  obtain ⟨outcome, succeeded⟩ := succeeds past operation next
  exact ⟨outcome, succeeded, (now.run succeeded).answer.symm.trans succeeded⟩

/-- A feast costs food and gives strength, as far as there is room for it. -/
def feast : EventOption where
  displayText := "Feast"
  resolutionText := "You feast."
  order := 1
  displayCost := true
  conditions := [.threshold .food 1]
  costs := [⟨.food, 1⟩]
  effects := [.statChange .strength 3]
  nextEvent := none

def hungryScene : Scene where
  stats := Stats.ofList [(.population, 2), (.food, 1), (.strength, 2), (.maxStrength, 4)]
  inventory := Inventory.empty
  title := "Thrall"
  location := none
  triggered := none

def wealthyScene : Scene :=
  { hungryScene with
    stats := Stats.ofList [(.population, 2), (.food, 7), (.strength, 4), (.maxStrength, 6)] }

theorem better_off_never_hurts_feast :
    hungryScene.Below wealthyScene ∧ hungryScene.Succeeds ⟨[]⟩ [.apply feast, .spend .maxStrength 2] ∧
      Scene.Below (hungryScene.play ⟨[]⟩ [.apply feast]) (wealthyScene.play ⟨[]⟩ [.apply feast]) ∧
      ∃ outcome, ((Operation.apply feast).run ⟨[]⟩ hungryScene).2 = .ok outcome ∧
        ((Operation.apply feast).run ⟨[]⟩ wealthyScene).2 = .ok outcome := by
  have stats : hungryScene.stats ≤ wealthyScene.stats := by
    intro stat
    cases stat <;> decide
  have below : hungryScene.Below wealthyScene := ⟨stats, rfl, rfl, rfl, rfl⟩
  have feasts : ((Operation.apply feast).run ⟨[]⟩ hungryScene).2 = .ok (.resolved {
      text := "You feast."
      lines := [⟨"+3 Strength", true⟩]
      nextEvent := none }) := by
    have payable : feast.costs.find?
        (fun cost => decide (hungryScene.stats.get cost.stat < cost.amount)) = none := by decide
    have known : unknownGrant? ⟨[]⟩ feast.effects = none := by decide
    have lines : effectLines ⟨[]⟩ feast.effects = [⟨"+3 Strength", true⟩] := by decide +kernel
    rw [Operation.run, EventOption.apply]
    simp only [payable, known, lines]
    simp [feast, settle, hungryScene, Except.map]
  have succeeds : hungryScene.Succeeds ⟨[]⟩ [.apply feast, .spend .maxStrength 2] := by
    rintro past operation ⟨later, same⟩
    rcases past with _ | ⟨first, _ | ⟨second, rest⟩⟩
    · cases same
      exact ⟨_, feasts⟩
    · cases same
      exact ⟨_, rfl⟩
    · simp at same
  have claimed := better_off_never_hurts ⟨[]⟩ below succeeds
  obtain ⟨-, -, -, -, next⟩ := claimed [] List.nil_prefix
  exact ⟨below, succeeds, (claimed [.apply feast] (by simp)).1, next (.apply feast) (by simp)⟩

end Gamebook
