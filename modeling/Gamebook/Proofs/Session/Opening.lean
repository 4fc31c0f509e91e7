/-
This file shows that a session opens on firm ground, which it then keeps at every prompt.
-/

import Gamebook.Proofs.Session.Grounded
import Gamebook.Proofs.Session.Prompt

namespace Gamebook

/-- These options open a session on the directory in which a tree is rooted. -/
def SessionOptions.atRoot : SessionOptions where
  root := "."

namespace Session

/-- A new session counts what is loaded, names its hero and takes him to his first node. -/
def greet (options : SessionOptions) (session : Session) : Turn :=
  Turn.andThen
    ⟨session,
      [.loaded session.content.events.size session.content.items.size session.content.nodes.size,
        .hero session.player.name session.player.title options.seed], none⟩
    fun session =>
      match options.start with
      | some kind => session.arrive kind
      | none => .quiet session

variable {tree : FileTree} {options : SessionOptions} {opened : Turn} {draft : Content}

/-- A starting title is one of the listed titles. -/
theorem roll_mem (source : RandomSource) : (StartingTitle.roll source).1 ∈ StartingTitle.all := by
  rw [StartingTitle.roll]
  split
  next title rest rolled => exact RandomSource.mem_of_choose (congrArg Prod.fst rolled)
  next => exact List.mem_cons_self

/-- A session opens with the content that is loaded for its hero, who has nothing yet but the
settlement of his title. -/
theorem exists_fresh (opens : opening tree options = .ok opened) :
    ∃ content player source, player.inventory = Inventory.empty ∧
      player.stats ∈ StartingTitle.all.map StartingTitle.stats ∧
      Content.load tree (ContentPaths.ofRoot tree options.root) player.templateContext = .ok content ∧
      opened = greet options ⟨content, player, none, none, source⟩ := by
  rw [opening] at opens
  dsimp only at opens
  split at opens
  next => cases opens
  next content built =>
    let title := (StartingTitle.roll (RandomSource.ofSeed options.seed)).1
    exact ⟨content, .ofPrologue options.name options.birth title, _, rfl,
      List.mem_map_of_mem (roll_mem _), ContentPlan.build_eq_ok_iff.mp built,
      (Except.ok.inj opens).symm⟩

theorem Grounded.greet_keeps {session : Session} (grounded : session.Grounded draft)
    (options : SessionOptions) : (session.greet options).Keeps draft session := by
  have plain : ∀ remark ∈ (⟨session, [.loaded session.content.events.size
      session.content.items.size session.content.nodes.size,
      .hero session.player.name session.player.title options.seed], none⟩ : Turn).remarks,
      remark.IsPlain :=
    List.forall_mem_cons.mpr ⟨trivial, List.forall_mem_singleton.mpr trivial⟩
  refine Turn.Keeps.andThen
    ⟨⟨grounded, fun remark told => .inl (plain remark told)⟩, .refl session⟩ plain ?_
  dsimp only
  split
  next kind _ => exact grounded.arrive_keeps kind
  next => exact .quiet grounded (.refl session)

/-- A session opens on a draft of its files, with the content rendered for its hero. -/
theorem exists_ground (opens : opening tree options = .ok opened) :
    ∃ draft, tree.Holds draft ∧ draft.paths = ContentPaths.ofRoot tree options.root ∧
      opened.Grounded draft ∧ opened.session.InPace := by
  obtain ⟨content, player, source, bare, -, loaded, rfl⟩ := exists_fresh opens
  obtain ⟨draft, holds, placed, rfl⟩ := Content.exists_held loaded
  have grounded : Grounded draft
      ⟨draft.rendered player.templateContext, player, none, none, source⟩ := {
    content := rfl
    birth := rfl
    name := rfl
    location := fun _ nowhere => by cases nowhere
    current := fun _ nothing => by cases nothing
    sourced := bare ▸ Inventory.sourced_empty draft.items }
  have keeps := grounded.greet_keeps options
  exact ⟨draft, holds, placed, keeps.toGrounded, keeps.paced.inPace rfl⟩

/-- What is decided about a prompt by evaluation holds at that prompt. -/
theorem exists_prompt {lines : List String} {P : Session → Prop} [DecidablePred P]
    (decided : ((opening tree options).toOption.bind fun opened =>
      (opened.session.prompt? tree lines).map fun session => decide (P session)) = some true) :
    ∃ opened session, opening tree options = .ok opened ∧
      opened.session.prompt? tree lines = some session ∧ P session := by
  obtain ⟨opened, opens, decided⟩ := Option.bind_eq_some_iff.mp decided
  obtain ⟨session, reached, holds⟩ := Option.map_eq_some_iff.mp decided
  refine ⟨opened, session, ?_, reached, of_decide_eq_true holds⟩
  cases result : opening tree options with
  | error error =>
      rw [result] at opens
      cases opens
  | ok turn =>
      rw [result] at opens
      exact congrArg Except.ok (Option.some.inj opens)

/-- These are the sessions between the turns of a conversation over unchanging files. A turn may also
begin after a draw from the random source. -/
inductive Reachable (tree : FileTree) (options : SessionOptions) : Session → Prop
  | opened {opened : Turn} (opens : opening tree options = .ok opened) :
      Reachable tree options opened.session
  | turn {session : Session} {command : Command} {turn : Turn}
      (reachable : Reachable tree options session) (listed : turn ∈ session.turns tree command) :
      Reachable tree options turn.session
  | drawn {session : Session} (reachable : Reachable tree options session) (source : RandomSource) :
      Reachable tree options { session with source := source }

theorem Reachable.exists_ground {session : Session} (reachable : session.Reachable tree options) :
    ∃ draft, tree.Holds draft ∧ draft.paths = ContentPaths.ofRoot tree options.root ∧
      session.Grounded draft := by
  induction reachable with
  | opened opens =>
      obtain ⟨draft, holds, placed, begun, -⟩ := Session.exists_ground opens
      exact ⟨draft, holds, placed, begun.session⟩
  | @turn session command turn _ listed inductionHypothesis =>
      obtain ⟨draft, holds, placed, grounded⟩ := inductionHypothesis
      exact ⟨draft, holds, placed, (turns_grounded holds grounded command turn listed).session⟩
  | drawn _ source inductionHypothesis =>
      obtain ⟨draft, holds, placed, grounded⟩ := inductionHypothesis
      exact ⟨draft, holds, placed, grounded.draw source⟩

/-- A session at a prompt is reachable. -/
theorem Reachable.prompt {session later : Session} {lines : List String}
    (reachable : session.Reachable tree options)
    (reached : session.prompt? tree lines = some later) : later.Reachable tree options := by
  refine prompt?_induction reachable (fun earlier command kept => ?_) reached
  rw [step_eq_joined]
  exact Turn.joined_session kept fun turn listed => .turn kept listed

/-- A session keeps its ground at every prompt. -/
theorem Grounded.prompt {session later : Session} {lines : List String}
    (grounded : session.Grounded draft) (holds : tree.Holds draft)
    (reached : session.prompt? tree lines = some later) : later.Grounded draft :=
  prompt?_induction grounded
    (fun _ command kept => step_grounded holds kept command) reached

end Session

end Gamebook
