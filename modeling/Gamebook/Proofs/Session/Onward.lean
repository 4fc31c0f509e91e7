/-
This file says where a resolved choice leads a session.
The event in progress is over unless an effect asks for an event that is not loaded.
-/

import Gamebook.Proofs.Content.Exposure
import Gamebook.Proofs.Content.Safety
import Gamebook.Proofs.Session.Opening

namespace Gamebook.Session

/-- After a resolution the story or the event has ended, or the next event has begun. When the next
event is not loaded, the session is held up in the event that was in progress. -/
inductive Onward (resolution : Resolution) (inProgress : Option String) (after : Session) : Prop
  | storyEnds (gameOver : after.player.stats.isGameOver = true) (ended : after.current = none)
  | eventEnds (alive : after.player.stats.isGameOver = false) (last : resolution.nextEvent = none)
      (ended : after.current = none)
  | begins {id : String} (alive : after.player.stats.isGameOver = false)
      (next : resolution.nextEvent = some id) (loaded : after.content.events.contains id = true)
      (begun : after.current = some id)
  | heldUp {id : String} (alive : after.player.stats.isGameOver = false)
      (next : resolution.nextEvent = some id) (missing : after.content.events.contains id = false)
      (held : after.current = inProgress)

/-- To show an event changes nothing. -/
@[simp] theorem showEvent_session (session : Session) : session.showEvent.session = session := by
  rw [showEvent]
  split
  · rfl
  · split <;> rfl

/-- What follows the title of the hero is the content only. -/
theorem exists_followTitle (tree : FileTree) (session : Session) :
    ∃ content remarks,
      session.followTitle tree = ⟨{ session with content := content }, remarks, none⟩ := by
  rw [followTitle]
  split
  next => exact ⟨session.content, [], rfl⟩
  next =>
    split
    next content _ => exact ⟨content, [], rfl⟩
    next content error _ => exact ⟨content, [.reloadRefused error], rfl⟩

theorem moveOn_onward (session : Session) (resolution : Resolution) :
    Onward resolution session.current (session.moveOn resolution).session := by
  rw [moveOn]
  split
  next gameOver => exact .storyEnds gameOver rfl
  next notOver =>
    have alive : session.player.stats.isGameOver = false := by simpa using notOver
    split
    next id next =>
      rw [startEvent]
      split
      next missing =>
        exact .heldUp alive next (by rw [Turn.say, Catalog.contains, missing]; rfl) rfl
      next event found =>
        rw [showEvent_session]
        exact .begins alive next (by rw [Catalog.contains, found]; rfl) rfl
    next last => exact .eventEnds alive last rfl

/-- A resolution leads onward whatever the files have become. -/
theorem resolve_onward (tree : FileTree) (session : Session) (resolution : Resolution) :
    Onward resolution session.current (session.resolve tree resolution).session := by
  obtain ⟨content, remarks, followed⟩ := exists_followTitle tree session
  have same : (session.resolve tree resolution).session =
      (moveOn { session with content := content } resolution).session := by
    simp [resolve, Turn.andThen, Turn.say, followed]
  rw [same]
  exact moveOn_onward { session with content := content } resolution

theorem Resolves.onward {session : Session} {order : Int32} {option : EventOption} {scene : Scene}
    {resolution : Resolution} (resolves : session.Resolves order option scene resolution)
    (tree : FileTree) : Onward resolution session.current (session.choose tree order).session := by
  rw [resolves.choose_eq]
  exact resolve_onward tree (session.afterScene scene) resolution

section

variable {tree : FileTree} {draft : Content} {session : Session} {order : Int32}
  {option : EventOption} {scene : Scene} {resolution : Resolution}

/-- An option that is resolved belongs to a loaded event. -/
theorem Resolves.isOffered (resolves : session.Resolves order option scene resolution) :
    (Operation.apply option).IsOffered session.content := by
  obtain ⟨id, event, -, found, shown⟩ := resolves.offered
  have visible := List.mem_of_find?_eq_some shown
  exact ⟨event, (Catalog.mem_of_find? found).1, (List.mem_filter.mp visible).1⟩

theorem Resolves.run_eq (resolves : session.Resolves order option scene resolution) :
    (Operation.apply option).run session.content.items session.scene =
      (scene, .ok (.resolved resolution)) := by
  rw [Operation.run, resolves.applied]
  rfl

theorem Grounded.loaded (grounded : session.Grounded draft) (holds : tree.Holds draft) :
    Content.load tree draft.paths session.content.context = .ok session.content :=
  (holds.loads _).trans (congrArg Except.ok grounded.content.symm)

theorem Grounded.scene_provided (grounded : session.Grounded draft) :
    session.scene.Provided session.content where
  sourced := grounded.items_eq ▸ grounded.sourced
  asked _ asked := by cases asked

/-- A next event that is not loaded is not the chain of the option. It was asked for by an effect. -/
theorem Grounded.asked_of_missing (grounded : session.Grounded draft) (holds : tree.Holds draft)
    (resolves : session.Resolves order option scene resolution) {id : String}
    (next : resolution.nextEvent = some id) (missing : session.content.events.contains id = false) :
    option.nextEvent = none ∧
      Effect.triggerEvent id ∈
        performed session.content.items option.effects session.player.inventory := by
  have loaded := grounded.loaded holds
  have sound := (Content.items_built loaded).sound
  have ran := resolves.run_eq
  obtain ⟨_, same, leads⟩ := Operation.nextEvent_of_run sound (congrArg Prod.snd ran)
  obtain rfl := Operation.apply.inj same
  rw [ran, next] at leads
  obtain ⟨event, listed, owned⟩ := resolves.isOffered
  have chains := (Content.consistent_of_load loaded).chains event listed option owned
  cases chained : option.nextEvent with
  | some target =>
      -- A chain wins over what effects ask for, and the chains of loaded events are loaded.
      rw [chained, Option.some_or] at leads
      obtain rfl := Option.some.inj leads
      rw [Catalog.next?, chained, Option.bind_some] at chains
      cases missing.symm.trans chains
  | none =>
      rw [chained, Option.none_or] at leads
      refine ⟨rfl, ?_⟩
      have asked := Operation.triggered_of_run sound ((congrArg (·.1.triggered) ran).trans leads.symm)
      rcases asked with before | triggered
      · cases before
      · exact triggered

/-- In content that is checked without problems the next event is always loaded. -/
theorem Grounded.next_loaded (grounded : session.Grounded draft) (holds : tree.Holds draft)
    {context : TemplateContext} (clean : (validate tree draft.paths context).isOk = true)
    (resolves : session.Resolves order option scene resolution) {id : String}
    (next : resolution.nextEvent = some id) : session.content.events.contains id = true := by
  have loaded := grounded.loaded holds
  rw [validate_for_hero tree draft.paths context session.content.context] at clean
  have closed := Content.closed_of_isOk clean loaded
  have sound := (Content.items_built loaded).sound
  exact closed.contains_of_resolution grounded.scene_provided resolves.isOffered sound
    (congrArg Prod.snd resolves.run_eq) next

end

/-- A choice of a reachable session that applies an option leads onward. It leaves the session in its
event when the resolution leads back to it or to an event that is not loaded. The latter is asked for
by an effect of an option without a chain, and it does not happen in content that is checked without
problems. -/
theorem choice_leads_onward {tree : FileTree} {options : SessionOptions} {session : Session}
    (reachable : session.Reachable tree options) {order : Int32} {option : EventOption} {scene : Scene}
    {resolution : Resolution} (resolves : session.Resolves order option scene resolution) :
    Onward resolution session.current (session.choose tree order).session ∧
    ((session.choose tree order).session.current = session.current →
      resolution.nextEvent = session.current ∨
        ∃ id, resolution.nextEvent = some id ∧ session.content.events.contains id = false) ∧
    (∀ id, resolution.nextEvent = some id → session.content.events.contains id = false →
      option.nextEvent = none ∧ Effect.triggerEvent id ∈
        performed session.content.items option.effects session.player.inventory) ∧
    ∀ context, (validate tree (ContentPaths.ofRoot tree options.root) context).isOk = true →
      (session.choose tree order).session.current = none ∨
        (session.choose tree order).session.current = resolution.nextEvent := by
  obtain ⟨draft, holds, placed, grounded⟩ := reachable.exists_ground
  have onward := resolves.onward tree
  have later := (choose_keeps holds grounded order).session
  -- The choice may load the content again, but the ids stay.
  have sameEvents : ∀ id, (session.choose tree order).session.content.events.contains id =
      session.content.events.contains id := fun id =>
    (later.contains_event id).trans (grounded.contains_event id).symm
  refine ⟨onward, fun still => ?_, fun id next missing =>
    grounded.asked_of_missing holds resolves next missing, fun context clean => ?_⟩
  · -- An event was in progress, so a session that has ended its event is not where it was.
    obtain ⟨current, event, inProgress, -⟩ := resolves.offered
    cases onward with
    | storyEnds gameOver ended => cases (ended.symm.trans still).trans inProgress
    | eventEnds alive last ended => cases (ended.symm.trans still).trans inProgress
    | begins alive next loaded begun => exact .inl (next.trans (begun.symm.trans still))
    | heldUp alive next missing held => exact .inr ⟨_, next, (sameEvents _).symm.trans missing⟩
  · cases onward with
    | storyEnds gameOver ended => exact .inl ended
    | eventEnds alive last ended => exact .inl ended
    | begins alive next loaded begun => exact .inr (begun.trans next.symm)
    | heldUp alive next missing held =>
        have known := grounded.next_loaded holds (placed ▸ clean) resolves next
        cases missing.symm.trans ((sameEvents _).trans known)

/-- The raid asks for a ghost that no file tells of. -/
def ghostTree : FileTree where
  directories := [["events"]]
  files := [
    (["events", "raid.ron"],
      ("(Id:\"raid\",Name:\"R\",Description:\"R\",Options:[" ++
        "(DisplayText:\"A\",ResolutionText:\"A\",Order:1,Effects:[\"event:ghost\"])])").toUTF8)]

def raidOption : EventOption where
  displayText := "A"
  resolutionText := "A"
  order := 1
  conditions := []
  costs := []
  displayCost := false
  effects := [.triggerEvent "ghost"]
  nextEvent := none

def raid : Event where
  id := "raid"
  name := "R"
  description := "R"
  options := [raidOption]

/-- The raid can be chosen whenever it is in progress. -/
theorem raid_resolves {session : Session} (inProgress : session.current = some "raid")
    (found : session.content.events.find? "raid" = some raid) :
    session.Resolves 1 raidOption { session.scene with triggered := some "ghost" }
      ⟨"A", [], some "ghost"⟩ where
  offered := ⟨"raid", raid, inProgress, found, rfl⟩
  affordable := rfl
  applied := by
    have unpaid : session.scene.stats.pay [] = session.scene.stats := rfl
    simp [EventOption.apply, raidOption, unknownGrant?, grantedItems, settle, effectLines,
      Effect.text?, unpaid]

/-- A session reaches the raid, and the ghost is not loaded. -/
theorem exists_raid : ∃ opened session, opening ghostTree .atRoot = .ok opened ∧
    opened.session.prompt? ghostTree ["event raid"] = some session ∧
    session.current = some "raid" ∧ session.content.events.find? "raid" = some raid ∧
    session.content.events.find? "ghost" = none ∧ session.player.stats.isGameOver = false ∧
    session.player.title = session.content.context.title := by
  refine exists_prompt ?_
  decide +kernel

theorem choice_leads_onward_raid :
    ∃ (session : Session) (scene : Scene) (resolution : Resolution),
      session.Reachable ghostTree .atRoot ∧ session.Resolves 1 raidOption scene resolution ∧
      Onward resolution session.current (session.choose ghostTree 1).session ∧
      raidOption.nextEvent = none ∧ Effect.triggerEvent "ghost" ∈
        performed session.content.items raidOption.effects session.player.inventory := by
  obtain ⟨opened, session, opens, reached, inProgress, found, missing, -⟩ := exists_raid
  have reachable : session.Reachable ghostTree .atRoot := Reachable.prompt (.opened opens) reached
  have resolves := raid_resolves inProgress found
  have unknown : session.content.events.contains "ghost" = false := by
    rw [Catalog.contains, missing]
    rfl
  obtain ⟨onward, -, asked, -⟩ := choice_leads_onward reachable resolves
  exact ⟨session, _, _, reachable, resolves, onward, asked "ghost" rfl unknown⟩

/-- The choice of the raid leaves the raid in progress, and it can be made again. -/
theorem held_up_in_raid :
    ∃ opened session scene resolution, opening ghostTree .atRoot = .ok opened ∧
      opened.session.prompt? ghostTree ["event raid"] = some session ∧
      session.Resolves 1 raidOption scene resolution ∧ resolution.nextEvent = some "ghost" ∧
      (session.choose ghostTree 1).session.current = some "raid" ∧
      (session.choose ghostTree 1).session.Resolves 1 raidOption scene resolution := by
  obtain ⟨opened, session, opens, reached, inProgress, found, missing, alive, sameTitle⟩ := exists_raid
  have resolves := raid_resolves inProgress found
  have held : (session.choose ghostTree 1).session = session := by
    rw [resolves.choose_eq]
    show (session.resolve ghostTree _).session = session
    simp [resolve, Turn.andThen, Turn.say, Turn.quiet, followTitle, moveOn, startEvent, sameTitle,
      alive, missing]
  refine ⟨opened, session, _, _, opens, reached, resolves, rfl, ?_⟩
  rw [held]
  exact ⟨inProgress, resolves⟩

end Gamebook.Session
