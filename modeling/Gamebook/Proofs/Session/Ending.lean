/-
This file says what can still happen in a session when its saga is over.
A choice that ends the saga leaves no event in progress, and then nothing is resolved until a command
begins an event. An item can end the saga amid an event, and nothing asks whether the saga is over
when an option of that event is chosen.
-/

import Gamebook.Proofs.Session.Gift
import Gamebook.Proofs.Session.Onward

namespace Gamebook

/-- These commands can begin an event. -/
def Command.beginsEvent : Command → Bool
  | .event id => id.isSome
  | .node kind => kind.isSome
  | .travel => true
  | .auto _ => true
  | _ => false

/-- These commands apply no option, handle no item and load nothing. -/
def Command.sparesHero : Command → Bool
  | .choose _ => false
  | .auto _ => false
  | .useSlot _ => false
  | .unequip _ => false
  | .reload => false
  | _ => true

/-- A turn spares the hero when it leaves him and the content as they are and applies no option. -/
structure Turn.Spares (turn : Turn) (session : Session) : Prop where
  player : turn.session.player = session.player
  content : turn.session.content = session.content
  silent : ¬turn.AppliesOption

/-- A turn heeds the end of the saga when it does not end the saga amid an event. -/
structure Turn.HeedsEnd (turn : Turn) (session : Session) : Prop where
  sound : turn.session.content.items.Sound
  ended : session.player.stats.isGameOver = false →
    turn.session.player.stats.isGameOver = true → turn.session.current = none

namespace Turn

variable {session earlier : Session} {turn : Turn}

theorem silent_say (session : Session) {remark : Remark}
    (other : remark.resolution? = none) : ¬(say session remark).AppliesOption := by
  rintro ⟨resolution, told⟩
  rw [← List.mem_singleton.mp told] at other
  cases other

theorem Spares.quiet (session : Session) : (quiet session).Spares session := by
  refine ⟨rfl, rfl, ?_⟩
  rintro ⟨resolution, told⟩
  cases told

theorem Spares.say (session : Session) {remark : Remark}
    (other : remark.resolution? = none) : (say session remark).Spares session :=
  ⟨rfl, rfl, silent_say session other⟩

/-- It makes no difference where the hero stands and what is in progress. -/
theorem Spares.elsewhere (spares : turn.Spares session) (player : session.player = earlier.player)
    (content : session.content = earlier.content) : turn.Spares earlier :=
  ⟨spares.player.trans player, spares.content.trans content, spares.silent⟩

theorem Spares.andThen {next : Session → Turn} (spares : turn.Spares session)
    (further : (next turn.session).Spares turn.session) : (turn.andThen next).Spares session := by
  rw [Turn.andThen]
  split
  · exact spares
  · refine ⟨further.player.trans spares.player, further.content.trans spares.content, ?_⟩
    rintro ⟨resolution, told⟩
    rcases List.mem_append.mp told with before | after
    · exact spares.silent ⟨resolution, before⟩
    · exact further.silent ⟨resolution, after⟩

/-- A hero who is spared lives on if he was alive. -/
theorem Spares.heedsEnd (spares : turn.Spares session) (sound : session.content.items.Sound) :
    turn.HeedsEnd session where
  sound := spares.content ▸ sound
  ended alive finished := by
    rw [spares.player, alive] at finished
    cases finished

/-- What matters about the session before the turn is whether the hero was alive. -/
theorem HeedsEnd.since (heeds : turn.HeedsEnd session)
    (alive : earlier.player.stats.isGameOver = false → session.player.stats.isGameOver = false) :
    turn.HeedsEnd earlier :=
  ⟨heeds.sound, fun before => heeds.ended (alive before)⟩

end Turn

/-- A reload keeps the items sound, also when it is refused. -/
theorem Content.sound_reloadWith {content : Content} (sound : content.items.Sound) (tree : FileTree)
    (context : TemplateContext) : (content.reloadWith tree context).1.items.Sound := by
  rw [reloadWith]
  split
  next loaded => exact (Content.items_built loaded).sound
  next => exact sound

namespace Session

section

variable (session : Session)

theorem showEvent_spares : session.showEvent.Spares session := by
  rw [showEvent]
  split
  next => exact .say session rfl
  next =>
    split
    next => exact .quiet session
    next => exact .say session rfl

theorem startEvent_spares (id : String) : (session.startEvent id).Spares session := by
  rw [startEvent]
  split
  next => exact .say session rfl
  next => exact (showEvent_spares _).elsewhere rfl rfl

theorem arrive_spares (kind : String) : (session.arrive kind).Spares session := by
  rw [arrive]
  split
  next => exact .say session rfl
  next =>
    refine Turn.Spares.elsewhere (.andThen (.say _ rfl) ?_) rfl rfl
    split
    next id _ => exact startEvent_spares _ id
    next => exact .say _ rfl

theorem travel_spares : session.travel.Spares session := by
  rw [travel]
  split
  next => exact .say session rfl
  next =>
    split
    next => exact ⟨rfl, rfl, (Turn.Spares.quiet session).silent⟩
    next => exact Turn.Spares.elsewhere (.say _ rfl) rfl rfl
    next next _ _ => exact (arrive_spares _ next).elsewhere rfl rfl

theorem findEvent_spares : session.findEvent.Spares session := by
  rw [findEvent]
  split
  next => exact .quiet session
  next => exact .say session rfl
  next => exact session.travel_spares

theorem moveOn_spares (resolution : Resolution) : (session.moveOn resolution).Spares session := by
  rw [moveOn]
  split
  next => exact Turn.Spares.elsewhere (.say _ rfl) rfl rfl
  next =>
    split
    next id _ => exact session.startEvent_spares id
    next => exact Turn.Spares.elsewhere (.say _ rfl) rfl rfl

/-- A choice applies an option exactly when it resolves one. -/
theorem choose_appliesOption_iff (tree : FileTree) (order : Int32) :
    (session.choose tree order).AppliesOption ↔
      ∃ option scene resolution, session.Resolves order option scene resolution := by
  constructor
  · intro applies
    rcases choose_cases tree session order with
      resolves | ⟨_, scene, error, -, result⟩ | ⟨remark, -, other, result⟩ | ⟨-, result⟩
    · exact resolves
    · rw [result] at applies
      exact absurd applies (Turn.silent_say _ rfl)
    · rw [result] at applies
      exact absurd applies (Turn.silent_say _ other)
    · rw [result] at applies
      exact absurd applies (Turn.Spares.quiet session).silent
  · rintro ⟨option, scene, resolution, resolves⟩
    rw [resolves.choose_eq]
    exact ⟨resolution, List.mem_cons_self⟩

end

section

variable {motive : Content → Prop} {tree : FileTree}
  (reloads : ∀ content context, motive content → motive (content.reloadWith tree context).1)
  {session : Session} (begins : motive session.content)

include reloads begins

/-- What every reload keeps is kept when the content follows the title of the hero. -/
theorem content_followTitle : motive (session.followTitle tree).session.content := by
  have reloaded := reloads session.content session.player.templateContext begins
  rw [followTitle]
  split
  next => exact begins
  next =>
    split
    all_goals
      next result =>
        rw [result] at reloaded
        exact reloaded

theorem content_resolve (resolution : Resolution) :
    motive (session.resolve tree resolution).session.content := by
  have followed := content_followTitle reloads begins
  rw [← ((session.followTitle tree).session.moveOn_spares resolution).content] at followed
  obtain ⟨content, remarks, same⟩ := exists_followTitle tree session
  rw [same] at followed
  simpa [resolve, Turn.andThen, Turn.say, same] using followed

/-- Only a resolution can load the content again. -/
theorem content_choose (order : Int32) : motive (session.choose tree order).session.content := by
  rcases choose_cases tree session order with
    ⟨option, scene, resolution, resolves⟩ | ⟨option, scene, error, -, result⟩ |
      ⟨remark, -, -, result⟩ | ⟨-, result⟩
  · rw [resolves.choose_eq]
    have kept : motive (session.afterScene scene).content := begins
    exact content_resolve reloads kept resolution
  all_goals
    rw [result]
    exact begins

theorem content_autoChoice : motive (session.autoChoice tree).1.session.content := by
  rw [autoChoice]
  split
  next => exact begins
  next =>
    split
    next => exact begins
    next event _ =>
      split
      next => exact begins
      next order source _ =>
        have kept : motive ({ session with source := source } : Session).content := begins
        exact content_choose reloads kept order

end

section

variable {session : Session} (sound : session.content.items.Sound) (tree : FileTree)

include sound

/-- A choice that ends the saga leaves no event in progress. A refused option changes nothing. -/
theorem choose_heedsEnd (order : Int32) : (session.choose tree order).HeedsEnd session := by
  rcases choose_cases tree session order with
    ⟨option, scene, resolution, resolves⟩ | ⟨option, scene, error, refused, result⟩ |
      ⟨remark, -, other, result⟩ | ⟨-, result⟩
  · refine ⟨?_, fun _ finished => ?_⟩
    · exact content_choose (motive := fun content => content.items.Sound)
        (fun _ context kept => Content.sound_reloadWith kept tree context) sound order
    · cases resolves.onward tree with
      | storyEnds _ ended => exact ended
      | eventEnds alive => cases alive.symm.trans finished
      | begins alive => cases alive.symm.trans finished
      | heldUp alive => cases alive.symm.trans finished
  · -- Without sound items a refusal could come after the costs are paid and end the saga.
    have same := (option.apply_failure sound session.scene (congrArg Prod.snd refused)).2
    rw [refused] at same
    obtain rfl : scene = session.scene := same
    rw [result]
    exact Turn.Spares.heedsEnd (.say session rfl) sound
  · rw [result]
    exact Turn.Spares.heedsEnd (.say session other) sound
  · rw [result]
    exact Turn.Spares.heedsEnd (.quiet session) sound

theorem autoChoice_heedsEnd : (session.autoChoice tree).1.HeedsEnd session := by
  rw [autoChoice]
  split
  next => exact Turn.Spares.heedsEnd (.quiet session) sound
  next =>
    split
    next => exact Turn.Spares.heedsEnd (.quiet session) sound
    next event _ =>
      split
      next => exact Turn.Spares.heedsEnd (.elsewhere (.say _ rfl) rfl rfl) sound
      next order source _ =>
        have kept : ({ session with source := source } : Session).content.items.Sound := sound
        have chosen := choose_heedsEnd kept tree order
        exact ⟨chosen.sound, chosen.ended⟩

omit sound in
/-- A hero who plays alone goes on only while he is alive. -/
theorem alive_of_autoChoice (goesOn : (session.autoChoice tree).2 = true) :
    (session.autoChoice tree).1.session.player.stats.isGameOver = false := by
  rw [autoChoice] at goesOn ⊢
  split at goesOn
  next => cases goesOn
  next =>
    split at goesOn
    next => cases goesOn
    next =>
      split at goesOn
      next => cases goesOn
      next => simpa using goesOn

theorem autoTurns_heedEnd (steps : Nat) :
    ∀ turn ∈ session.autoTurns tree steps, turn.HeedsEnd session := by
  induction steps generalizing session with
  | zero => exact List.forall_mem_nil _
  | succ steps inductionHypothesis =>
      have spared := session.findEvent_spares
      have found := spared.heedsEnd sound
      have chosen := (autoChoice_heedsEnd found.sound tree).since fun alive => by
        rwa [spared.player]
      rw [autoTurns]
      dsimp only
      split
      · exact List.forall_mem_singleton.mpr found
      · split
        next goesOn =>
          -- He is alive whenever he goes on, so that no later turn begins after the end.
          have alive := alive_of_autoChoice tree (Bool.and_eq_true_iff.mp goesOn).1
          refine List.forall_mem_cons.mpr ⟨found, List.forall_mem_cons.mpr ⟨chosen, ?_⟩⟩
          exact fun turn listed => (inductionHypothesis chosen.sound turn listed).since fun _ => alive
        next => exact List.forall_mem_cons.mpr ⟨found, List.forall_mem_singleton.mpr chosen⟩

end

section

variable (session : Session) (tree : FileTree) {command : Command}

theorem step_spares (spares : command.sparesHero = true) :
    (session.step tree command).Spares session := by
  cases command with
  | look => exact session.showEvent_spares
  | travel => exact session.travel_spares
  | event id =>
      cases id with
      | none => exact .say session rfl
      | some id => exact session.startEvent_spares id
  | node kind =>
      cases kind with
      | none => exact .say session rfl
      | some kind => exact session.arrive_spares kind
  | quit =>
      have other : Remark.goodbye.resolution? = none := rfl
      exact ⟨rfl, rfl, Turn.silent_say session other⟩
  | choose order => cases spares
  | auto steps => cases spares
  | useSlot slot => cases spares
  | unequip slot => cases spares
  | reload => cases spares
  | _ => exact .say session rfl

/-- An item can change nothing but the hero. -/
theorem step_of_item (handles : command.handlesItem = true) :
    (session.step tree command).session.content = session.content ∧
      (session.step tree command).session.current = session.current ∧
      ¬(session.step tree command).AppliesOption := by
  cases command with
  | useSlot slot =>
      cases slot with
      | none => exact ⟨rfl, rfl, Turn.silent_say session rfl⟩
      | some slot =>
          rw [step, useSlot]
          split <;> exact ⟨rfl, rfl, Turn.silent_say _ rfl⟩
  | unequip slot =>
      cases slot with
      | none => exact ⟨rfl, rfl, Turn.silent_say session rfl⟩
      | some slot =>
          rw [step, unequipSlot]
          split <;> exact ⟨rfl, rfl, Turn.silent_say _ rfl⟩
  | _ => cases handles

/-- A reload can change nothing but the content. -/
theorem reload_cases : ∃ content remark, remark.resolution? = none ∧
    session.reload tree = .say { session with content := content } remark ∧
    (session.content.items.Sound → content.items.Sound) := by
  have reloaded := fun sound : session.content.items.Sound =>
    Content.sound_reloadWith sound tree session.player.templateContext
  rw [reload]
  split
  next content result =>
    rw [result] at reloaded
    exact ⟨content, .reloaded _ _ _, rfl, rfl, reloaded⟩
  next content error result =>
    rw [result] at reloaded
    exact ⟨content, .kept error, rfl, rfl, reloaded⟩

theorem step_heedsEnd (sound : session.content.items.Sound) (bare : command.handlesItem = false) :
    (session.step tree command).HeedsEnd session := by
  cases command with
  | choose order => exact choose_heedsEnd sound tree order
  | auto steps =>
      rw [step, auto_eq_joined]
      have begun := (Turn.Spares.quiet session).heedsEnd sound
      have joined := Turn.joined_session
        (motive := fun later => (Turn.quiet later).HeedsEnd session) begun
        fun turn (listed : turn ∈ session.autoTurns tree steps) =>
          have heeds := autoTurns_heedEnd sound tree steps turn listed
          ⟨heeds.sound, heeds.ended⟩
      exact ⟨joined.sound, joined.ended⟩
  | reload =>
      obtain ⟨content, remark, -, result, reloaded⟩ := session.reload_cases tree
      rw [step, result]
      refine ⟨reloaded sound, fun alive finished => ?_⟩
      cases alive.symm.trans finished
  | useSlot slot => cases bare
  | unequip slot => cases bare
  | _ => exact (session.step_spares tree rfl).heedsEnd sound

theorem sound_step (sound : session.content.items.Sound) (command : Command) :
    (session.step tree command).session.content.items.Sound := by
  cases handles : command.handlesItem with
  | false => exact (session.step_heedsEnd tree sound handles).sound
  | true => exact (session.step_of_item tree handles).1 ▸ sound

/-- Only a choice and a hero who plays alone apply options. -/
theorem exists_of_appliesOption (applies : (session.step tree command).AppliesOption) :
    (∃ order, command = .choose order) ∨ ∃ steps, command = .auto steps := by
  cases command with
  | choose order => exact .inl ⟨order, rfl⟩
  | auto steps => exact .inr ⟨steps, rfl⟩
  | useSlot slot => exact absurd applies (session.step_of_item tree rfl).2.2
  | unequip slot => exact absurd applies (session.step_of_item tree rfl).2.2
  | reload =>
      obtain ⟨content, remark, other, result, -⟩ := session.reload_cases tree
      rw [step, result] at applies
      exact absurd applies (Turn.silent_say _ other)
  | _ => exact absurd applies (session.step_spares tree rfl).silent

/-- Without an event in progress none is in progress later, and the hero is left alone but for his
items, until a command begins an event. -/
theorem step_of_resting (resting : session.current = none) (begins : command.beginsEvent = false) :
    (session.step tree command).session.current = none ∧
      ¬(session.step tree command).AppliesOption ∧
      (command.handlesItem = false → (session.step tree command).session.player = session.player) := by
  cases command with
  | choose order =>
      rw [step, choose, resting]
      exact ⟨resting, Turn.silent_say session rfl, fun _ => rfl⟩
  | look =>
      rw [step, showEvent, resting]
      exact ⟨resting, Turn.silent_say session rfl, fun _ => rfl⟩
  | event id =>
      cases id with
      | none => exact ⟨resting, Turn.silent_say session rfl, fun _ => rfl⟩
      | some id => cases begins
  | node kind =>
      cases kind with
      | none => exact ⟨resting, Turn.silent_say session rfl, fun _ => rfl⟩
      | some kind => cases begins
  | travel => cases begins
  | auto steps => cases begins
  | useSlot slot =>
      have handles : (Command.useSlot slot).handlesItem = true := rfl
      obtain ⟨-, same, silent⟩ := session.step_of_item tree handles
      exact ⟨same.trans resting, silent, fun bare => by cases handles.symm.trans bare⟩
  | unequip slot =>
      have handles : (Command.unequip slot).handlesItem = true := rfl
      obtain ⟨-, same, silent⟩ := session.step_of_item tree handles
      exact ⟨same.trans resting, silent, fun bare => by cases handles.symm.trans bare⟩
  | reload =>
      obtain ⟨content, remark, other, result, -⟩ := session.reload_cases tree
      rw [step, result]
      exact ⟨resting, Turn.silent_say _ other, fun _ => rfl⟩
  | quit =>
      have other : Remark.goodbye.resolution? = none := rfl
      exact ⟨resting, Turn.silent_say session other, fun _ => rfl⟩
  | _ => exact ⟨resting, Turn.silent_say session rfl, fun _ => rfl⟩

end

/-- This is what a session makes of the end of its saga. -/
structure HeedsEnd (session : Session) : Prop where
  /-- Whether the saga is over makes no difference to a choice. -/
  choices : ∀ tree order, (session.step tree (.choose order)).AppliesOption ↔
    ∃ option scene resolution, session.Resolves order option scene resolution
  others : ∀ tree command, (session.step tree command).AppliesOption →
    (∃ order, command = .choose order) ∨ ∃ steps, command = .auto steps
  /-- A command that ends the saga leaves no event in progress, unless it handles an item. -/
  ends : ∀ tree command, command.handlesItem = false →
    session.player.stats.isGameOver = false →
    (session.step tree command).session.player.stats.isGameOver = true →
    (session.step tree command).session.current = none
  items : ∀ tree command, command.handlesItem = true →
    (session.step tree command).session.current = session.current
  /-- Without an event in progress the session rests until a command begins an event. -/
  rests : session.current = none → ∀ tree command, command.beginsEvent = false →
    (session.step tree command).session.current = none ∧
      ¬(session.step tree command).AppliesOption ∧
      (command.handlesItem = false → (session.step tree command).session.player = session.player)

theorem heedsEnd {session : Session} (sound : session.content.items.Sound) : session.HeedsEnd where
  choices tree order := session.choose_appliesOption_iff tree order
  others tree _ applies := session.exists_of_appliesOption tree applies
  ends tree _ bare alive finished := (session.step_heedsEnd tree sound bare).ended alive finished
  items tree _ handles := (session.step_of_item tree handles).2.1
  rests resting tree _ begins := session.step_of_resting tree resting begins

/-- The items stay sound, whatever becomes of the files between the lines. -/
theorem sound_follow {session later : Session} (sound : session.content.items.Sound)
    {lines : List (FileTree × String)} (reached : session.follow? lines = some later) :
    later.content.items.Sound :=
  follow?_induction sound
    (fun line _ command _ earlier kept => earlier.sound_step line.1 kept command) reached

/-- A session rests while no line begins an event. The hero is left alone but for his items. -/
theorem follow_of_resting {session later : Session} (resting : session.current = none)
    {lines : List (FileTree × String)}
    (begins : ∀ line ∈ lines, (Command.ofLine? line.2).any Command.beginsEvent = false)
    (reached : session.follow? lines = some later) :
    later.current = none ∧
      ((∀ line ∈ lines, (Command.ofLine? line.2).any Command.handlesItem = false) →
        later.player = session.player) := by
  refine follow?_induction (motive := fun later => later.current = none ∧
    ((∀ line ∈ lines, (Command.ofLine? line.2).any Command.handlesItem = false) →
      later.player = session.player)) ⟨resting, fun _ => rfl⟩ ?_ reached
  intro line listed command understood earlier kept
  have noEvent := begins line listed
  rw [understood, Option.any_some] at noEvent
  obtain ⟨rests, -, same⟩ := earlier.step_of_resting line.1 kept.1 noEvent
  refine ⟨rests, fun bare => ?_⟩
  have noItem := bare line listed
  rw [understood, Option.any_some] at noItem
  exact (same noItem).trans (kept.2 bare)

theorem greet_spares (options : SessionOptions) (session : Session) :
    (session.greet options).Spares session := by
  refine Turn.Spares.andThen ⟨rfl, rfl, ?_⟩ ?_
  · rintro ⟨resolution, told⟩
    simp at told
  · dsimp only
    split
    next kind _ => exact session.arrive_spares kind
    next => exact .quiet session

/-- Nobody is born at the end of his saga. -/
theorem alive_of_opening {tree : FileTree} {options : SessionOptions} {opened : Turn}
    (opens : opening tree options = .ok opened) :
    opened.session.player.stats.isGameOver = false := by
  obtain ⟨content, player, source, -, titled, -, rfl⟩ := exists_fresh opens
  have each : ∀ stats ∈ StartingTitle.all.map StartingTitle.stats, stats.isGameOver = false := by
    decide
  rw [(greet_spares options _).player]
  exact each _ titled

theorem sound_of_opening {tree : FileTree} {options : SessionOptions} {opened : Turn}
    (opens : opening tree options = .ok opened) : opened.session.content.items.Sound := by
  obtain ⟨content, player, source, -, -, loaded, rfl⟩ := exists_fresh opens
  rw [(greet_spares options _).content]
  exact (Content.items_built loaded).sound

/-- A saga begins before its end. When it ends by anything but an item, no event is in progress, and
from there no option is applied until a command begins an event. The files may change between the
lines. -/
theorem finished_saga_rests {tree : FileTree} {options : SessionOptions} {opened : Turn}
    (opens : opening tree options = .ok opened) :
    opened.session.player.stats.isGameOver = false ∧
    ∀ lines session, opened.session.follow? lines = some session →
      session.HeedsEnd ∧
      (session.current = none → ∀ further later,
        (∀ line ∈ further, (Command.ofLine? line.2).any Command.beginsEvent = false) →
        session.follow? further = some later →
        later.HeedsEnd ∧ later.current = none ∧
          ((∀ line ∈ further, (Command.ofLine? line.2).any Command.handlesItem = false) →
            later.player = session.player)) := by
  refine ⟨alive_of_opening opens, fun lines session reached => ?_⟩
  have sound := sound_follow (sound_of_opening opens) reached
  refine ⟨heedsEnd sound, fun resting further later begins continued => ?_⟩
  exact ⟨heedsEnd (sound_follow sound continued), follow_of_resting resting begins continued⟩

/-- Whoever eats at this feast gets a bane that kills him, and the feast begins again. -/
def baneTree : FileTree where
  directories := [["items"], ["events"]]
  files := [
    (["items", "bane.ron"],
      "(Id:\"bane\",Name:\"B\",Description:\"B\",EffectsOnUse:[\"strength:-99\"])".toUTF8),
    (["events", "feast.ron"],
      ("(Id:\"feast\",Name:\"F\",Description:\"F\",Options:[" ++
        "(DisplayText:\"A\",ResolutionText:\"A\",Order:1,Effects:[\"item:bane\"]," ++
        "NextEventId:\"feast\")])").toUTF8)]

def bane : Item where
  id := "bane"
  name := "B"
  description := "B"
  art := ""
  isCursed := false
  charges := none
  onUse := [.statChange .strength (-99)]
  onEquip := []
  onUnequip := []

def baneOption : EventOption where
  displayText := "A"
  resolutionText := "A"
  order := 1
  displayCost := false
  conditions := []
  costs := []
  effects := [.grantItem "bane"]
  nextEvent := some "feast"

def baneFeast : Event where
  id := "feast"
  name := "F"
  description := "F"
  options := [baneOption]

/-- A session reaches the feast of a hero without items, whom the bane will kill. -/
theorem exists_baneFeast : ∃ opened session, opening baneTree .atRoot = .ok opened ∧
    opened.session.prompt? baneTree ["event feast"] = some session ∧
    session.current = some "feast" ∧ session.content.events.find? "feast" = some baneFeast ∧
    session.content.items = ⟨[bane]⟩ ∧ session.player.inventory = Inventory.empty ∧
    session.player.stats.isGameOver = false ∧
    (session.player.stats.change .strength (-99)).isGameOver = true ∧
    session.player.title = session.content.context.title := by
  refine exists_prompt ?_
  decide +kernel

/-- The first banes take the first slots. -/
def oneBane : Inventory := ⟨#v[some bane, none, none]⟩

def twoBanes : Inventory := ⟨#v[some bane, some bane, none]⟩

theorem bane_offered {session : Session} (inProgress : session.current = some "feast")
    (found : session.content.events.find? "feast" = some baneFeast)
    (items : session.content.items = ⟨[bane]⟩) :
    session.OffersGift 1 baneOption bane (.statChange .strength (-99)) where
  offered := ⟨"feast", baneFeast, inProgress, found, rfl⟩
  gives := ⟨rfl, rfl⟩
  found := items ▸ rfl
  acts := ⟨rfl, rfl, rfl, rfl⟩

/-- The bane slays the hero amid the feast. -/
theorem exists_slain :
    ∃ opened session, opening baneTree .atRoot = .ok opened ∧
      opened.session.prompt? baneTree ["event feast", "1", "use 0"] = some session ∧
      session.player.stats.isGameOver = true ∧
      ∃ option scene resolution, session.Resolves 1 option scene resolution := by
  obtain ⟨opened, session, opens, reached, inProgress, found, items, bare, alive, deadly, title⟩ :=
    exists_baneFeast
  have added : session.player.inventory.add? bane = some (0, oneBane) := bare ▸ rfl
  have loaded : ∀ id, baneOption.nextEvent = some id →
      session.content.events.contains id = true := by
    rintro id next
    cases next
    rw [Catalog.contains, found]
    rfl
  have slain : opened.session.prompt? baneTree (["event feast"] ++ ["1", "use 0"]) = some _ :=
    (bane_offered inProgress found items).prompt?_eq added title alive loaded reached
      (by decide +kernel) (by decide +kernel)
  have addedAgain : oneBane.add? bane = some (1, twoBanes) := rfl
  refine ⟨opened, _, opens, slain, deadly, ?_⟩
  exact ⟨_, _, _, OffersGift.resolves (bane_offered rfl found items) addedAgain⟩

/-- A hero who was slain amid the feast still eats at it. -/
theorem slain_hero_eats :
    ∃ opened session, opening baneTree .atRoot = .ok opened ∧
      opened.session.prompt? baneTree ["event feast", "1", "use 0"] = some session ∧
      session.player.stats.isGameOver = true ∧
      (session.step baneTree (.choose 1)).AppliesOption := by
  obtain ⟨opened, session, opens, reached, finished, resolves⟩ := exists_slain
  exact ⟨opened, session, opens, reached, finished,
    (session.choose_appliesOption_iff baneTree 1).mpr resolves⟩

theorem finished_saga_rests_feast :
    ∃ opened session, opening baneTree .atRoot = .ok opened ∧
      opened.session.player.stats.isGameOver = false ∧
      opened.session.follow? (["event feast", "1", "use 0"].map (Prod.mk baneTree)) = some session ∧
      session.player.stats.isGameOver = true ∧ session.HeedsEnd ∧
      ∃ later, opened.session.follow? [(baneTree, "stats")] = some later ∧
        later.current = none ∧ later.player = opened.session.player := by
  obtain ⟨opened, session, opens, reached, finished, -⟩ := exists_slain
  rw [prompt?_eq_follow?] at reached
  have understood : Command.ofLine? "stats" = some .stats := by decide +kernel
  have continued : opened.session.follow? [(baneTree, "stats")] = some opened.session := by
    rw [follow?, List.foldlM_cons, next?_of_step understood rfl]
    rfl
  have resting : opened.session.current = none := by
    obtain ⟨content, player, source, -, -, -, rfl⟩ := exists_fresh opens
    rfl
  obtain ⟨alive, each⟩ := finished_saga_rests opens
  have rests := (each [] opened.session rfl).2 resting [(baneTree, "stats")] opened.session
    (by rw [List.forall_mem_singleton, understood]; rfl) continued
  have same := rests.2.2 (by rw [List.forall_mem_singleton, understood]; rfl)
  exact ⟨opened, session, opens, alive, reached, finished, (each _ session reached).1,
    opened.session, continued, rests.2.1, same⟩

end Session

end Gamebook
