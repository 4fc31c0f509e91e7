/-
This file shows that a session over unchanging files never loses its place.
At every prompt the hero stands at a loaded node, and the event in progress is loaded.
-/

import Gamebook.Proofs.Session.Opening

namespace Gamebook

namespace Session

/-- A session has its place when everything that it refers to is loaded, when every reload succeeds
with the ids of the original content, and when no missing event makes it pass over a command in
silence. A hero who plays alone chooses after a draw, which changes nothing about that. -/
structure Placed (tree : FileTree) (original : Content) (session : Session) : Prop where
  location : ∀ kind, session.location = some kind → ∃ node, session.content.nodes.get kind = .ok node
  current : ∀ id, session.current = some id → ∃ event, session.content.events.get id = .ok event
  sameIds : session.content.SameIds original
  reloads : ∀ context, ∃ content,
    session.content.reloadWith tree context = (content, .ok ()) ∧ content.SameIds original
  looks : session.showEvent.remarks ≠ []
  chooses : ∀ source order, ({ session with source := source }.choose tree order).remarks ≠ []
  picks : session.current.isSome = true → (session.autoChoice tree).1.remarks ≠ []

section

variable {session : Session}

theorem showEvent_remarks_ne_nil (found : ¬ session.IsLost) : session.showEvent.remarks ≠ [] := by
  rw [showEvent]
  split
  next => exact List.cons_ne_nil _ _
  next id inProgress =>
    split
    next missing => exact absurd ⟨id, inProgress, missing⟩ found
    next => exact List.cons_ne_nil _ _

theorem choose_remarks_ne_nil (tree : FileTree) (found : ¬ session.IsLost) (order : Int32) :
    (session.choose tree order).remarks ≠ [] := by
  rcases choose_cases tree session order with
    ⟨option, scene, resolution, resolves⟩ | ⟨option, scene, error, -, result⟩ |
      ⟨remark, -, -, result⟩ | ⟨lost, -⟩
  · rw [resolves.choose_eq]
    exact List.cons_ne_nil _ _
  · rw [result]
    exact List.cons_ne_nil _ _
  · rw [result]
    exact List.cons_ne_nil _ _
  · exact absurd lost found

theorem autoChoice_remarks_ne_nil (tree : FileTree) (found : ¬ session.IsLost)
    (inProgress : session.current.isSome = true) : (session.autoChoice tree).1.remarks ≠ [] := by
  obtain ⟨id, inProgress⟩ := Option.isSome_iff_exists.mp inProgress
  rw [autoChoice, inProgress]
  dsimp only
  split
  next missing => exact absurd ⟨id, inProgress, missing⟩ found
  next =>
    split
    next => exact List.cons_ne_nil _ _
    next => exact List.cons_ne_nil _ _

end

namespace Grounded

variable {draft original : Content} {session : Session}

theorem not_isLost (grounded : session.Grounded draft) : ¬ session.IsLost := by
  rintro ⟨id, inProgress, missing⟩
  obtain ⟨event, found⟩ := grounded.exists_event inProgress
  cases missing.symm.trans found

theorem sameIds (grounded : session.Grounded draft) (context : TemplateContext) :
    session.content.SameIds (draft.rendered context) := by
  rw [grounded.content]
  exact draft.rendered_sameIds _ _

/-- A session that has its ground has its place. -/
theorem placed {tree : FileTree} (grounded : session.Grounded draft) (holds : tree.Holds draft)
    (context : TemplateContext) : session.Placed tree (draft.rendered context) where
  location kind stands :=
    Catalog.exists_get_iff.mpr (grounded.nodes_eq ▸ grounded.location kind stands)
  current id inProgress :=
    Catalog.exists_get_iff.mpr ((grounded.contains_event id).trans (grounded.current id inProgress))
  sameIds := grounded.sameIds context
  reloads later :=
    ⟨draft.rendered later, reloadWith_eq holds grounded later, draft.rendered_sameIds later context⟩
  looks := showEvent_remarks_ne_nil grounded.not_isLost
  chooses source := choose_remarks_ne_nil tree (grounded.draw source).not_isLost
  picks := autoChoice_remarks_ne_nil tree grounded.not_isLost

end Grounded

end Session

/-- A grounded turn does not tell of a reload that was refused. -/
theorem Turn.Grounded.not_refused {draft : Content} {turn : Turn} (grounded : turn.Grounded draft)
    {remark : Remark} (told : remark ∈ turn.remarks) :
    ∀ error, remark ≠ .reloadRefused error ∧ remark ≠ .kept error := by
  intro error
  rcases grounded.told remark told with plain | ⟨event, -, -, rfl⟩
  · constructor
    · rintro rfl
      exact plain
    · rintro rfl
      exact plain
  · exact ⟨nofun, nofun⟩

/-- A session over unchanging files never loses its place, whatever its player types. The prompts of
`Session.prompt?` are those of the whole conversation. A command leads from one of them through turns
that keep the place, and none of these turns tells of a reload that was refused. -/
theorem Session.place_kept {tree : FileTree} {options : SessionOptions} {opened : Turn}
    (opens : opening tree options = .ok opened) {lines : List String} {session : Session}
    (reached : opened.session.prompt? tree lines = some session) :
    (∃ said, ∀ rest, opened.session.converse tree (lines ++ rest) =
      { session.converse tree rest with output := said ++ (session.converse tree rest).output }) ∧
    session.Placed tree opened.session.content ∧
    ∀ command, session.step tree command = Turn.joined session (session.turns tree command) ∧
      ∀ turn ∈ session.turns tree command, turn.session.Placed tree opened.session.content ∧
        ∀ error, .reloadRefused error ∉ turn.remarks ∧ .kept error ∉ turn.remarks := by
  obtain ⟨draft, holds, -, begun, -⟩ := exists_ground opens
  have grounded := begun.session.prompt holds reached
  rw [begun.session.content]
  refine ⟨converse_append reached, grounded.placed holds _, fun command =>
    ⟨step_eq_joined tree session command, fun turn listed => ?_⟩⟩
  have kept := turns_grounded holds grounded command turn listed
  refine ⟨kept.session.placed holds _, fun error => ⟨fun told => ?_, fun told => ?_⟩⟩
  · exact (kept.not_refused told error).1 rfl
  · exact (kept.not_refused told error).2 rfl

/-- In this hall there is always a feast, and nothing can be done about it. -/
def hallTree : FileTree where
  directories := [["nodes"], ["events"]]
  files := [
    (["nodes", "hall.ron"],
      "(Kind:\"hall\",Name:\"H\",Description:\"H\",ForcedFirstEvent:\"feast\")".toUTF8),
    (["events", "feast.ron"], "(Id:\"feast\",Name:\"F\",Description:\"F\")".toUTF8)]

theorem Session.place_kept_hall :
    ∃ opened session, opening hallTree .atRoot = .ok opened ∧
      opened.session.prompt? hallTree ["node hall", "", "look", "reload", "auto 2", "7"] =
        some session ∧
      session.location = some "hall" ∧ session.current = some "feast" ∧
      session.Placed hallTree opened.session.content := by
  have reaches : ∃ opened session, opening hallTree .atRoot = .ok opened ∧
      opened.session.prompt? hallTree ["node hall", "", "look", "reload", "auto 2", "7"] =
        some session ∧
      session.location = some "hall" ∧ session.current = some "feast" := by
    refine exists_prompt ?_
    decide +kernel
  obtain ⟨opened, session, opens, reached, stands, inProgress⟩ := reaches
  exact ⟨opened, session, opens, reached, stands, inProgress, (place_kept opens reached).2.1⟩

end Gamebook
