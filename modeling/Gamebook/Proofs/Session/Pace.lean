/-
This file shows how far the shown texts speak of the hero as he is.
Choices and reloads bring the content up to the title of the hero. Only an item that he uses or takes
off can leave the content behind.
-/

import Gamebook.Proofs.Session.Gift
import Gamebook.Proofs.Session.Opening

namespace Gamebook

/-- A turn speaks of the hero when every event that it shows is rendered for him as he is. -/
def Turn.SpeaksOfHero (draft : Content) (turn : Turn) : Prop :=
  ∀ name description options, .shown name description options ∈ turn.remarks →
    ∃ event ∈ draft.events.entries, turn.session.current = some event.id ∧
      .shown name description options =
        (event.rendered turn.session.player.templateContext).shown turn.session.scene

theorem Turn.Grounded.speaksOfHero {draft : Content} {turn : Turn} (grounded : turn.Grounded draft)
    (inPace : turn.session.InPace) : turn.SpeaksOfHero draft := by
  intro name description options told
  rcases grounded.told _ told with plain | ⟨event, listed, inProgress, shown⟩
  · exact plain.elim
  · exact ⟨event, listed, inProgress, shown.trans (by rw [inPace])⟩

namespace Session

/-- The items keep the title when no line that uses one or takes one off changes it. -/
def ItemsKeepTitle (tree : FileTree) (session : Session) : List String → Prop
  | [] => True
  | line :: rest => ∀ later, session.next? tree line = some later →
      ((Command.ofLine? line).any Command.handlesItem = true →
        later.player.title = session.player.title) ∧
      ItemsKeepTitle tree later rest

/-- A session follows its hero when its content speaks of him, if only under an earlier title. Every
resolution and reload brings it up to his title. An item leaves it behind when it changes the title. -/
structure FollowsHero (tree : FileTree) (draft : Content) (session : Session) : Prop where
  content : session.content = draft.rendered
    { session.player.templateContext with title := session.content.context.title }
  resolution : ∀ order option scene resolution,
    session.Resolves order option scene resolution → (session.choose tree order).session.InPace
  reload : (session.reload tree).session.InPace
  others : ∀ command : Command, command.handlesItem = false →
    ∀ turn ∈ session.turns tree command, session.KeepsPace turn.session
  items : ∀ command : Command, command.handlesItem = true → session.InPace →
    ((session.step tree command).session.InPace ↔
      (session.step tree command).session.player.title = session.player.title)

section

variable {tree : FileTree} {draft : Content} {session later : Session}

variable (holds : tree.Holds draft) (grounded : session.Grounded draft)

include holds grounded

theorem followsHero : session.FollowsHero tree draft where
  content := grounded.content.trans (congrArg draft.rendered grounded.context_eq)
  resolution order option scene resolution resolves := (choose_resolved holds grounded resolves).2
  reload := (reload_keeps holds grounded).2
  others command bare turn listed := (turns_keeps holds grounded bare turn listed).paced
  items command handles inPace := by
    obtain ⟨kept, -, sameContent⟩ := step_of_handlesItem holds grounded handles
    rw [kept.inPace_iff, sameContent, grounded.inPace_iff.mp inPace]
    exact eq_comm

/-- A session stays in pace while the items keep the title. -/
theorem inPace_of_itemsKeepTitle (inPace : session.InPace) {lines : List String}
    (keeps : session.ItemsKeepTitle tree lines)
    (reached : session.prompt? tree lines = some later) : later.InPace := by
  induction lines generalizing session with
  | nil => exact Option.some.inj reached ▸ inPace
  | cons line rest inductionHypothesis =>
      obtain ⟨next, goesOn, continued⟩ := Option.bind_eq_some_iff.mp reached
      obtain ⟨kept, further⟩ := keeps next goesOn
      rcases next?_cases goesOn with ⟨-, rfl⟩ | ⟨command, understood, -, rfl⟩
      · exact inductionHypothesis grounded inPace further continued
      · refine inductionHypothesis (step_grounded holds grounded command) ?_ further continued
        cases handles : command.handlesItem with
        | false => exact (step_keepsPace holds grounded handles).inPace inPace
        | true =>
            refine ((followsHero holds grounded).items command handles inPace).mpr (kept ?_)
            rw [understood, Option.any_some, handles]

/-- In pace, every turn speaks of the hero. -/
theorem turns_speakOfHero (inPace : session.InPace) (command : Command) :
    ∀ turn ∈ session.turns tree command, turn.SpeaksOfHero draft := by
  cases handles : command.handlesItem with
  | false =>
      intro turn listed
      have keeps := turns_keeps holds grounded handles turn listed
      exact keeps.toGrounded.speaksOfHero (keeps.paced.inPace inPace)
  | true =>
      rw [turns_of_handlesItem tree session handles]
      refine List.forall_mem_singleton.mpr fun name description options told => ?_
      exact ((step_of_handlesItem holds grounded handles).2.1 _ told).elim

end

/-- Over unchanging files the content follows the hero from prompt to prompt. As long as no item
changes his title while he uses it or takes it off, everything that is shown speaks of him as he is. -/
theorem content_follows_hero {tree : FileTree} {options : SessionOptions} {opened : Turn}
    (opens : opening tree options = .ok opened) :
    ∃ draft, draft.IsDraft tree (ContentPaths.ofRoot tree options.root) ∧
      opened.SpeaksOfHero draft ∧
      ∀ lines session, opened.session.prompt? tree lines = some session →
        session.FollowsHero tree draft ∧
        (opened.session.ItemsKeepTitle tree lines → session.InPace ∧
          ∀ command, ∀ turn ∈ session.turns tree command, turn.SpeaksOfHero draft) := by
  obtain ⟨draft, holds, placed, begun, inPace⟩ := exists_ground opens
  refine ⟨draft, placed ▸ holds.drafted, begun.speaksOfHero inPace, fun lines session reached => ?_⟩
  have grounded := begun.session.prompt holds reached
  refine ⟨followsHero holds grounded, fun keeps => ?_⟩
  have stillInPace := inPace_of_itemsKeepTitle holds begun.session inPace keeps reached
  exact ⟨stillInPace, turns_speakOfHero holds grounded stillInPace⟩

/-- Whoever drinks the mead of this feast gets another title. -/
def meadTree : FileTree where
  directories := [["items"], ["events"]]
  files := [
    (["items", "mead.ron"],
      "(Id:\"mead\",Name:\"M\",Description:\"M\",EffectsOnUse:[\"title:the Merry\"])".toUTF8),
    (["events", "feast.ron"],
      ("(Id:\"feast\",Name:\"F\",Description:\"{Title}\",Options:[" ++
        "(DisplayText:\"A\",ResolutionText:\"A\",Order:1,Effects:[\"item:mead\"])])").toUTF8)]

def mead : Item where
  id := "mead"
  name := "M"
  description := "M"
  art := ""
  isCursed := false
  charges := none
  onUse := [.changeTitle "the Merry"]
  onEquip := []
  onUnequip := []

def meadOption : EventOption where
  displayText := "A"
  resolutionText := "A"
  order := 1
  displayCost := false
  conditions := []
  costs := []
  effects := [.grantItem "mead"]
  nextEvent := none

def meadFeast : Event where
  id := "feast"
  name := "F"
  description := "the Oathkeeper"
  options := [meadOption]

/-- A session reaches the feast of a hero without items. -/
theorem exists_feast : ∃ opened session, opening meadTree .atRoot = .ok opened ∧
    opened.session.prompt? meadTree ["event feast"] = some session ∧
    session.current = some "feast" ∧ session.content.events.find? "feast" = some meadFeast ∧
    session.content.items = ⟨[mead]⟩ ∧ session.player.inventory = Inventory.empty ∧
    session.player.stats.isGameOver = false ∧ session.player.title = "the Oathkeeper" ∧
    session.content.context.title = "the Oathkeeper" := by
  refine exists_prompt ?_
  decide +kernel

theorem content_follows_hero_feast :
    ∃ opened, opening meadTree .atRoot = .ok opened ∧
      opened.session.ItemsKeepTitle meadTree ["event feast"] ∧
      ∃ draft, draft.IsDraft meadTree (ContentPaths.ofRoot meadTree SessionOptions.atRoot.root) ∧
        opened.SpeaksOfHero draft ∧
        ∃ session, opened.session.prompt? meadTree ["event feast"] = some session ∧
          session.FollowsHero meadTree draft ∧ session.InPace ∧
          ∀ command, ∀ turn ∈ session.turns meadTree command, turn.SpeaksOfHero draft := by
  obtain ⟨opened, session, opens, reached, -⟩ := exists_feast
  have bare : (Command.ofLine? "event feast").any Command.handlesItem = false := by decide +kernel
  have keeps : opened.session.ItemsKeepTitle meadTree ["event feast"] := by
    intro later _
    refine ⟨fun handles => ?_, trivial⟩
    cases bare.symm.trans handles
  obtain ⟨draft, drafted, speaks, follows⟩ := content_follows_hero opens
  obtain ⟨followed, inPace⟩ := follows ["event feast"] session reached
  exact ⟨opened, opens, keeps, draft, drafted, speaks, session, reached, followed, inPace keeps⟩

/-- The only slot that is not free holds the mead. -/
def oneMead : Inventory := Inventory.empty.set 0 (some mead)

/-- A hero who drinks the mead is still shown the feast of the Oathkeeper. -/
theorem out_of_pace_after_mead :
    ∃ opened session, opening meadTree .atRoot = .ok opened ∧
      opened.session.prompt? meadTree ["event feast", "1", "use 0"] = some session ∧
      session.player.title = "the Merry" ∧ session.content.context.title = "the Oathkeeper" ∧
      (session.step meadTree (.event (some "feast"))).remarks =
        [.shown "F" "the Oathkeeper" [⟨meadOption, true⟩]] := by
  obtain ⟨opened, session, opens, reached, inProgress, found, items, bare, alive, title, shown⟩ :=
    exists_feast
  have offers : session.OffersGift 1 meadOption mead (.changeTitle "the Merry") := {
    offered := ⟨"feast", meadFeast, inProgress, found, rfl⟩
    gives := ⟨rfl, rfl⟩
    found := items ▸ rfl
    acts := ⟨rfl, rfl, rfl, rfl⟩ }
  have added : session.player.inventory.add? mead = some (0, oneMead) := bare ▸ rfl
  have drunk : opened.session.prompt? meadTree (["event feast"] ++ ["1", "use 0"]) = some _ :=
    offers.prompt?_eq added (title.trans shown.symm) alive (fun _ next => by cases next) reached
      (by decide +kernel) (by decide +kernel)
  refine ⟨opened, _, opens, drunk, rfl, shown, ?_⟩
  simp only [step, startEvent, showEvent, given, afterScene, found]
  rfl

end Session

end Gamebook
