/-
This file shows that a session keeps its ground while the files stay as they are. Whatever is done,
the hero stands at a loaded node, the event in progress is loaded, and the content is the same draft
rendered for some title of the hero.
-/

import Gamebook.Proofs.Content.Reload
import Gamebook.Proofs.Scene.Atomicity
import Gamebook.Proofs.Scene.Provenance
import Gamebook.Proofs.Session.Choice
import Gamebook.Proofs.Session.Turns

namespace Gamebook

/-- This is what a player sees of an event. -/
def Event.shown (event : Event) (scene : Scene) : Remark :=
  .shown event.name event.description
    ((event.visibleOptions scene).map fun option => ⟨option, option.isAffordable scene⟩)

/-- These commands use an item or take it off. -/
def Command.handlesItem : Command → Bool
  | .useSlot _ => true
  | .unequip _ => true
  | _ => false

namespace Session

/-- A session is grounded in a draft when it holds the draft rendered for its hero under some title,
and when everything that it refers to is in the draft. -/
structure Grounded (draft : Content) (session : Session) : Prop where
  content : session.content = draft.rendered session.content.context
  birth : session.content.context.birth = session.player.birth
  name : session.content.context.name = session.player.name
  location : ∀ kind, session.location = some kind → draft.nodes.contains kind = true
  current : ∀ id, session.current = some id → draft.events.contains id = true
  sourced : session.player.inventory.Sourced draft.items

/-- A session is in pace when its content is rendered for the hero as he is. -/
def InPace (session : Session) : Prop :=
  session.content.context = session.player.templateContext

/-- A session catches up with its hero when the draft is rendered for him as he is. -/
def caughtUp (draft : Content) (session : Session) : Session :=
  { session with content := draft.rendered session.player.templateContext }

theorem caughtUp_inPace (draft : Content) (session : Session) : (session.caughtUp draft).InPace :=
  rfl

/-- A session keeps pace when its content is rendered anew or when nothing happens to the hero. -/
def KeepsPace (before after : Session) : Prop :=
  after.InPace ∨ after.content = before.content ∧ after.player = before.player

/-- This says that a remark shows the event in progress as the content renders it. -/
def Shows (draft : Content) (session : Session) (remark : Remark) : Prop :=
  ∃ event ∈ draft.events.entries, session.current = some event.id ∧
    remark = (event.rendered session.content.context).shown session.scene

theorem KeepsPace.refl (session : Session) : session.KeepsPace session :=
  .inr ⟨rfl, rfl⟩

theorem KeepsPace.inPace {before after : Session} (keeps : before.KeepsPace after)
    (inPace : before.InPace) : after.InPace := by
  rcases keeps with anew | ⟨sameContent, samePlayer⟩
  · exact anew
  · rw [InPace, sameContent, samePlayer]
    exact inPace

theorem KeepsPace.trans {first second third : Session} (earlier : first.KeepsPace second)
    (later : second.KeepsPace third) : first.KeepsPace third := by
  rcases later with anew | ⟨sameContent, samePlayer⟩
  · exact .inl anew
  · rcases earlier with anew | ⟨earlierContent, earlierPlayer⟩
    · exact .inl (KeepsPace.inPace (.inr ⟨sameContent, samePlayer⟩) anew)
    · exact .inr ⟨sameContent.trans earlierContent, samePlayer.trans earlierPlayer⟩

end Session

/-- A turn is grounded when its session is, and when it tells nothing but plain remarks and the
event that is in progress at its end. -/
structure Turn.Grounded (draft : Content) (turn : Turn) : Prop where
  session : turn.session.Grounded draft
  told : ∀ remark ∈ turn.remarks, remark.IsPlain ∨ turn.session.Shows draft remark

/-- A turn keeps the ground and the pace of the session in which it begins. -/
structure Turn.Keeps (draft : Content) (before : Session) (turn : Turn) : Prop
    extends turn.Grounded draft where
  paced : before.KeepsPace turn.session

namespace Turn

variable {draft : Content} {before session : Session}

theorem Grounded.say (grounded : session.Grounded draft) {remark : Remark} (plain : remark.IsPlain) :
    (say session remark).Grounded draft where
  session := grounded
  told _ told := .inl (List.mem_singleton.mp told ▸ plain)

theorem Keeps.say (grounded : session.Grounded draft) {remark : Remark} (plain : remark.IsPlain)
    (paced : before.KeepsPace session) : (say session remark).Keeps draft before :=
  ⟨.say grounded plain, paced⟩

theorem Keeps.quiet (grounded : session.Grounded draft) (paced : before.KeepsPace session) :
    (quiet session).Keeps draft before :=
  ⟨⟨grounded, List.forall_mem_nil _⟩, paced⟩

/-- A turn is kept up by the next one when it shows no event itself. -/
theorem Keeps.andThen {turn : Turn} {next : Session → Turn} (keeps : turn.Keeps draft before)
    (plain : ∀ remark ∈ turn.remarks, remark.IsPlain)
    (further : (next turn.session).Keeps draft turn.session) :
    (turn.andThen next).Keeps draft before := by
  rw [Turn.andThen]
  split
  · exact keeps
  · refine ⟨⟨further.session, fun remark told => ?_⟩, keeps.paced.trans further.paced⟩
    rcases List.mem_append.mp told with earlier | later
    · exact .inl (plain remark earlier)
    · exact further.told remark later

theorem Keeps.trans {turn : Turn} (keeps : turn.Keeps draft session)
    (paced : before.KeepsPace session) : turn.Keeps draft before :=
  ⟨keeps.toGrounded, paced.trans keeps.paced⟩

end Turn

namespace Session

variable {draft : Content} {session : Session}

namespace Grounded

variable (grounded : session.Grounded draft)

include grounded

theorem items_eq : session.content.items = draft.items :=
  (congrArg Content.items grounded.content).trans rfl

theorem nodes_eq : session.content.nodes = draft.nodes :=
  (congrArg Content.nodes grounded.content).trans rfl

theorem find?_event (id : String) : session.content.events.find? id =
    (draft.events.find? id).map (Event.rendered session.content.context) :=
  (congrArg (fun content : Content => content.events.find? id) grounded.content).trans
    (Catalog.find?_rendered _ _ _)

theorem contains_event (id : String) :
    session.content.events.contains id = draft.events.contains id := by
  rw [Catalog.contains, Catalog.contains, grounded.find?_event, Option.isSome_map]

theorem context_eq : session.content.context =
    { session.player.templateContext with title := session.content.context.title } := by
  rw [TemplateContext.mk.injEq]
  exact ⟨grounded.birth, grounded.name, rfl⟩

/-- Only the title can be out of date. -/
theorem inPace_iff : session.InPace ↔ session.content.context.title = session.player.title := by
  refine ⟨fun inPace => congrArg TemplateContext.title inPace, fun same => ?_⟩
  rw [InPace, grounded.context_eq, same]
  rfl

/-- An event in progress is loaded. -/
theorem exists_event {id : String} (inProgress : session.current = some id) :
    ∃ event, session.content.events.find? id = some event :=
  Option.isSome_iff_exists.mp ((grounded.contains_event id).trans (grounded.current id inProgress))

theorem begin {id : String} (known : draft.events.contains id = true) :
    Grounded draft { session with current := some id } :=
  { grounded with current := fun _ same => Option.some.inj same ▸ known }

theorem finish : Grounded draft { session with current := none } :=
  { grounded with current := fun _ same => by cases same }

theorem draw (source : RandomSource) : Grounded draft { session with source := source } :=
  { grounded with }

theorem arriveAt {kind : String} (known : draft.nodes.contains kind = true) (source : RandomSource) :
    Grounded draft { session with location := some kind, source := source } :=
  { grounded with location := fun _ same => Option.some.inj same ▸ known }

/-- Content that is rendered for the hero as he is takes the place of what was held. -/
theorem catchUp : (session.caughtUp draft).Grounded draft where
  content := rfl
  birth := rfl
  name := rfl
  location := grounded.location
  current := grounded.current
  sourced := grounded.sourced

theorem afterScene {scene : Scene} (sourced : scene.inventory.Sourced draft.items) :
    (session.afterScene scene).Grounded draft :=
  { grounded with sourced := sourced }

/-- Whatever a hero does in his scene leaves him with items of the draft. -/
theorem run (sound : draft.items.Sound) (operation : Operation) :
    (session.afterScene (operation.run draft.items session.scene).1).Grounded draft :=
  grounded.afterScene ((operation.moves_run sound session.scene).sourced grounded.sourced)

theorem showEvent_keeps : session.showEvent.Keeps draft session := by
  rw [showEvent]
  split
  next => exact .say grounded trivial (.refl session)
  next id inProgress =>
    split
    next => exact .quiet grounded (.refl session)
    next event found =>
      rw [grounded.find?_event] at found
      obtain ⟨authored, listed, rfl⟩ := Option.map_eq_some_iff.mp found
      obtain ⟨entry, rfl⟩ := Catalog.mem_of_find? listed
      refine ⟨⟨grounded, fun remark told => .inr ?_⟩, .refl session⟩
      exact ⟨authored, entry, inProgress, List.mem_singleton.mp told⟩

theorem startEvent_keeps (id : String) : (session.startEvent id).Keeps draft session := by
  rw [startEvent]
  split
  next => exact .say grounded trivial (.refl session)
  next event found =>
    have known : session.content.events.contains id = true := by rw [Catalog.contains, found]; rfl
    have begun := grounded.begin ((grounded.contains_event id).symm.trans known)
    exact begun.showEvent_keeps.trans (.refl session)

theorem arrive_keeps (kind : String) : (session.arrive kind).Keeps draft session := by
  rw [arrive]
  split
  next => exact .say grounded trivial (.refl session)
  next node found =>
    have known : draft.nodes.contains kind = true := by
      rw [← grounded.nodes_eq, Catalog.contains, found]
      rfl
    have arrived := grounded.arriveAt known (session.content.nodes.pickEvent kind session.source).2
    refine Turn.Keeps.andThen (.say arrived trivial (.refl session))
      (List.forall_mem_singleton.mpr trivial) ?_
    dsimp only [Turn.say]
    split
    next id _ => exact arrived.startEvent_keeps id
    next => exact .say arrived trivial (.refl _)

theorem travel_keeps : session.travel.Keeps draft session := by
  rw [travel]
  split
  next => exact .say grounded trivial (.refl session)
  next kind _ =>
    split
    next => exact ⟨⟨grounded, List.forall_mem_nil _⟩, .refl session⟩
    next source _ => exact .say (grounded.draw source) trivial (.refl session)
    next next source _ => exact ((grounded.draw source).arrive_keeps next).trans (.refl session)

theorem findEvent_keeps : session.findEvent.Keeps draft session := by
  rw [findEvent]
  split
  next => exact .quiet grounded (.refl session)
  next => exact .say grounded trivial (.refl session)
  next => exact grounded.travel_keeps

theorem moveOn_keeps (resolution : Resolution) : (session.moveOn resolution).Keeps draft session := by
  rw [moveOn]
  split
  next => exact .say grounded.finish trivial (.refl session)
  next =>
    split
    next next _ => exact grounded.startEvent_keeps next
    next => exact .say grounded.finish trivial (.refl session)

end Grounded

theorem turns_of_handlesItem (tree : FileTree) (session : Session) {command : Command}
    (handles : command.handlesItem = true) :
    session.turns tree command = [session.step tree command] := by
  cases command with
  | useSlot slot => rfl
  | unequip slot => rfl
  | _ => cases handles

variable {tree : FileTree} (holds : tree.Holds draft) (grounded : session.Grounded draft)

include holds grounded

theorem reloadWith_eq (context : TemplateContext) :
    session.content.reloadWith tree context = (draft.rendered context, .ok ()) := by
  rw [grounded.content]
  exact holds.reloadWith_eq _ _

/-- The content follows the title of the hero without a word. -/
theorem followTitle_eq : session.followTitle tree = .quiet (session.caughtUp draft) := by
  rw [followTitle, caughtUp]
  split
  next same =>
    have inPace : session.content.context = session.player.templateContext :=
      grounded.inPace_iff.mpr same.symm
    rw [← inPace, ← grounded.content]
  next => rw [reloadWith_eq holds grounded]

/-- A resolution ends in content that is rendered for the hero as he is. -/
theorem resolve_keeps (resolution : Resolution) :
    (session.resolve tree resolution).Keeps draft session ∧
      (session.resolve tree resolution).session.InPace := by
  have moved := grounded.catchUp.moveOn_keeps resolution
  have resolved : session.resolve tree resolution =
      (Turn.say session (.resolved resolution)).andThen fun _ =>
        (session.caughtUp draft).moveOn resolution := by
    refine Turn.andThen_congr ?_
    dsimp only [Turn.say]
    rw [followTitle_eq holds grounded]
    simp [Turn.andThen, Turn.quiet]
  have inPace := session.caughtUp_inPace draft
  rw [resolved]
  refine ⟨Turn.Keeps.andThen (.say grounded trivial (.refl session))
    (List.forall_mem_singleton.mpr trivial) (moved.trans (.inl inPace)), ?_⟩
  exact moved.paced.inPace inPace

/-- A choice that applies an option ends in pace. -/
theorem choose_resolved {order : Int32} {option : EventOption} {scene : Scene}
    {resolution : Resolution}
    (resolves : session.Resolves order option scene resolution) :
    (session.choose tree order).Keeps draft session ∧ (session.choose tree order).session.InPace := by
  have applied := resolves.applied
  rw [grounded.items_eq] at applied
  have ran := grounded.run holds.items_sound (.apply option)
  rw [Operation.run, applied] at ran
  rw [resolves.choose_eq]
  have keeps := resolve_keeps holds ran resolution
  exact ⟨⟨keeps.1.toGrounded, .inl keeps.2⟩, keeps.2⟩

/-- A refused option leaves the scene as it was, and a resolved one is followed by the content. -/
theorem choose_keeps (order : Int32) : (session.choose tree order).Keeps draft session := by
  rcases choose_cases tree session order with
    ⟨option, scene, resolution, resolves⟩ | ⟨option, scene, error, refused, result⟩ |
      ⟨remark, plain, -, result⟩ | ⟨-, result⟩
  · exact (choose_resolved holds grounded resolves).1
  · rw [grounded.items_eq] at refused
    have same := (option.apply_failure holds.items_sound session.scene (congrArg Prod.snd refused)).2
    rw [refused] at same
    obtain rfl : scene = session.scene := same
    rw [result]
    exact .say grounded trivial (.refl session)
  · rw [result]
    exact .say grounded plain (.refl session)
  · rw [result]
    exact .quiet grounded (.refl session)

theorem autoChoice_keeps : (session.autoChoice tree).1.Keeps draft session := by
  rw [autoChoice]
  split
  next => exact .quiet grounded (.refl session)
  next id _ =>
    split
    next => exact .quiet grounded (.refl session)
    next event _ =>
      split
      next source _ => exact .say (grounded.draw source) trivial (.refl session)
      next order source _ =>
        have drawn := grounded.draw source
        dsimp only
        exact Turn.Keeps.andThen (.say drawn trivial (.refl session))
          (List.forall_mem_singleton.mpr trivial) (choose_keeps holds drawn order)

/-- Every turn of a hero who plays alone keeps the ground and the pace. -/
theorem autoTurns_keeps (steps : Nat) :
    ∀ turn ∈ session.autoTurns tree steps, turn.Keeps draft session := by
  induction steps generalizing session with
  | zero => exact List.forall_mem_nil _
  | succ steps inductionHypothesis =>
      have found := grounded.findEvent_keeps
      have chosen := (autoChoice_keeps holds found.session).trans found.paced
      rw [autoTurns]
      dsimp only
      split
      · exact List.forall_mem_singleton.mpr found
      · split
        · refine List.forall_mem_cons.mpr ⟨found, List.forall_mem_cons.mpr ⟨chosen, ?_⟩⟩
          exact fun turn listed => (inductionHypothesis chosen.session turn listed).trans chosen.paced
        · exact List.forall_mem_cons.mpr ⟨found, List.forall_mem_singleton.mpr chosen⟩

theorem reload_keeps :
    (session.reload tree).Keeps draft session ∧ (session.reload tree).session.InPace := by
  have inPace := session.caughtUp_inPace draft
  rw [reload, reloadWith_eq holds grounded]
  exact ⟨.say grounded.catchUp trivial (.inl inPace), inPace⟩

/-- Nothing but the items that a hero carries can let him leave the pace. -/
theorem turns_keeps {command : Command} (bare : command.handlesItem = false) :
    ∀ turn ∈ session.turns tree command, turn.Keeps draft session := by
  cases command with
  | auto steps => exact autoTurns_keeps holds grounded steps
  | choose order => exact List.forall_mem_singleton.mpr (choose_keeps holds grounded order)
  | look => exact List.forall_mem_singleton.mpr grounded.showEvent_keeps
  | event id =>
      refine List.forall_mem_singleton.mpr ?_
      cases id with
      | none => exact .say grounded trivial (.refl session)
      | some id => exact grounded.startEvent_keeps id
  | node kind =>
      refine List.forall_mem_singleton.mpr ?_
      cases kind with
      | none => exact .say grounded trivial (.refl session)
      | some kind => exact grounded.arrive_keeps kind
  | travel => exact List.forall_mem_singleton.mpr grounded.travel_keeps
  | reload => exact List.forall_mem_singleton.mpr (reload_keeps holds grounded).1
  | useSlot slot => cases bare
  | unequip slot => cases bare
  | quit =>
      refine List.forall_mem_singleton.mpr ⟨⟨grounded, fun remark told => .inl ?_⟩, .refl session⟩
      exact List.mem_singleton.mp told ▸ trivial
  | _ => exact List.forall_mem_singleton.mpr (.say grounded trivial (.refl session))

/-- A command for an item is answered by a plain remark, and it leaves the content as it was. -/
theorem step_of_handlesItem {command : Command} (handles : command.handlesItem = true) :
    (session.step tree command).session.Grounded draft ∧
      (∀ remark ∈ (session.step tree command).remarks, remark.IsPlain) ∧
      (session.step tree command).session.content = session.content := by
  have ran := grounded.run holds.items_sound
  rw [← grounded.items_eq] at ran
  cases command with
  | useSlot slot =>
      cases slot with
      | none => exact ⟨grounded, List.forall_mem_singleton.mpr trivial, rfl⟩
      | some slot =>
          have used := ran (.useItem slot)
          rw [Operation.run] at used
          rw [step, useSlot]
          split
          all_goals
            next scene result =>
              rw [result] at used
              exact ⟨used, List.forall_mem_singleton.mpr trivial, rfl⟩
  | unequip slot =>
      cases slot with
      | none => exact ⟨grounded, List.forall_mem_singleton.mpr trivial, rfl⟩
      | some slot =>
          have taken := ran (.unequipItem slot)
          rw [Operation.run] at taken
          rw [step, unequipSlot]
          split
          all_goals
            next result =>
              rw [result] at taken
              exact ⟨taken, List.forall_mem_singleton.mpr trivial, rfl⟩
  | _ => cases handles

/-- Every turn on every command keeps the ground. -/
theorem turns_grounded (command : Command) :
    ∀ turn ∈ session.turns tree command, turn.Grounded draft := by
  cases handles : command.handlesItem with
  | false => exact fun turn listed => (turns_keeps holds grounded handles turn listed).toGrounded
  | true =>
      obtain ⟨kept, plain, -⟩ := step_of_handlesItem holds grounded handles
      rw [turns_of_handlesItem tree session handles]
      exact List.forall_mem_singleton.mpr ⟨kept, fun remark told => .inl (plain remark told)⟩

theorem step_grounded (command : Command) : (session.step tree command).session.Grounded draft := by
  rw [step_eq_joined]
  exact Turn.joined_session grounded fun turn listed =>
    (turns_grounded holds grounded command turn listed).session

theorem step_keepsPace {command : Command} (bare : command.handlesItem = false) :
    session.KeepsPace (session.step tree command).session := by
  rw [step_eq_joined]
  exact Turn.joined_session (.refl session) fun turn listed =>
    (turns_keeps holds grounded bare turn listed).paced

end Session

end Gamebook
