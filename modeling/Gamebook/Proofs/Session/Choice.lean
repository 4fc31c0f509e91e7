/-
This file says what can come of a choice: nothing, a refusal, or a resolution.
-/

import Gamebook.Session.Basic

namespace Gamebook

/-- A plain remark shows no event and does not speak of a reload that was refused. -/
def Remark.IsPlain : Remark → Prop
  | .shown _ _ _ => False
  | .reloadRefused _ => False
  | .kept _ => False
  | _ => True

/-- This is the resolution of which a remark tells. -/
def Remark.resolution? : Remark → Option Resolution
  | .resolved resolution => some resolution
  | _ => none

/-- A turn applies an option when it tells of its resolution. -/
def Turn.AppliesOption (turn : Turn) : Prop :=
  ∃ resolution, .resolved resolution ∈ turn.remarks

namespace Session

/-- A session is lost when the event in progress is not loaded. -/
def IsLost (session : Session) : Prop :=
  ∃ id, session.current = some id ∧ session.content.events.find? id = none

/-- This says that a choice applies an option. The event in progress shows it under the order, the
hero can afford it, and it succeeds. -/
structure Resolves (session : Session) (order : Int32) (option : EventOption) (scene : Scene)
    (resolution : Resolution) : Prop where
  offered : ∃ id event, session.current = some id ∧
    session.content.events.find? id = some event ∧
    ((event.visibleOptions session.scene).find? fun option => option.order == order) = some option
  affordable : option.isAffordable session.scene = true
  applied : option.apply session.content.items session.scene = (scene, .ok resolution)

theorem Resolves.choose_eq {session : Session} {order : Int32} {option : EventOption} {scene : Scene}
    {resolution : Resolution} (resolves : session.Resolves order option scene resolution)
    (tree : FileTree) :
    session.choose tree order = (session.afterScene scene).resolve tree resolution := by
  obtain ⟨id, event, inProgress, found, offered⟩ := resolves.offered
  rw [choose]
  simp only [inProgress, found, offered, resolves.affordable, resolves.applied, if_true]

/-- A choice is resolved or refused, or it is answered by a remark and changes nothing. It is only
left without an answer when the session is lost. -/
theorem choose_cases (tree : FileTree) (session : Session) (order : Int32) :
    (∃ option scene resolution, session.Resolves order option scene resolution) ∨
    (∃ option scene error,
      EventOption.apply option session.content.items session.scene = (scene, .error error) ∧
        session.choose tree order = .say (session.afterScene scene) (.refused error)) ∨
    (∃ remark, remark.IsPlain ∧ remark.resolution? = none ∧
      session.choose tree order = .say session remark) ∨
    (session.IsLost ∧ session.choose tree order = .quiet session) := by
  rw [choose]
  split
  next => exact .inr (.inr (.inl ⟨.noEventInProgress, trivial, rfl, rfl⟩))
  next id inProgress =>
    split
    next missing => exact .inr (.inr (.inr ⟨⟨id, inProgress, missing⟩, rfl⟩))
    next event found =>
      split
      next => exact .inr (.inr (.inl ⟨.noVisibleOption order, trivial, rfl, rfl⟩))
      next option offered =>
        split
        next affordable =>
          split
          next scene resolution applied =>
            exact .inl ⟨option, scene, resolution, ⟨id, event, inProgress, found, offered⟩,
              affordable, applied⟩
          next scene error refused => exact .inr (.inl ⟨option, scene, error, refused, rfl⟩)
        next => exact .inr (.inr (.inl ⟨.cannotAfford option.costText, trivial, rfl, rfl⟩))

end Session

end Gamebook
