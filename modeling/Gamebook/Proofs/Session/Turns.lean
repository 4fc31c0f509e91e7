/-
This file takes what happens on a command apart into turns that follow each other.
Only a hero who plays alone has several turns on one command: again and again he finds an event and
chooses in it.
-/

import Gamebook.Session.Basic

namespace Gamebook

namespace Turn

/-- What comes next only begins where the turn ends. -/
theorem andThen_congr {turn : Turn} {first second : Session → Turn}
    (same : first turn.session = second turn.session) : turn.andThen first = turn.andThen second := by
  rw [andThen, andThen]
  split
  · rfl
  · dsimp only
    rw [same]

theorem andThen_quiet (turn : Turn) : turn.andThen .quiet = turn := by
  obtain ⟨session, remarks, stop⟩ := turn
  cases stop <;> simp [andThen, quiet]

theorem andThen_of_stop {turn : Turn} (stopped : turn.stop.isSome = true) (next : Session → Turn) :
    turn.andThen next = turn := by
  obtain ⟨session, remarks, stop⟩ := turn
  cases stop with
  | none => cases stopped
  | some stop => rfl

/-- Turns that follow each other are one turn. -/
def joined (session : Session) : List Turn → Turn
  | [] => .quiet session
  | turn :: rest => turn.andThen fun later => joined later rest

theorem joined_singleton (session : Session) (turn : Turn) : joined session [turn] = turn :=
  turn.andThen_quiet

/-- A joined turn ends where one of its turns ends. -/
theorem joined_session {motive : Session → Prop} {session : Session} {turns : List Turn}
    (start : motive session) (each : ∀ turn ∈ turns, motive turn.session) :
    motive (joined session turns).session := by
  induction turns generalizing session with
  | nil => exact start
  | cons turn rest inductionHypothesis =>
      have first := each turn List.mem_cons_self
      rw [joined, andThen]
      split
      · exact first
      · exact inductionHypothesis first fun later listed => each later (List.mem_cons_of_mem _ listed)

end Turn

namespace Session

/-- These are the turns of a hero who plays alone. -/
def autoTurns (tree : FileTree) : Nat → Session → List Turn
  | 0, _ => []
  | steps + 1, session =>
      let found := session.findEvent
      if found.stop.isSome then [found]
      else
        let chosen := found.session.autoChoice tree
        if chosen.2 && chosen.1.stop.isNone then
          found :: chosen.1 :: autoTurns tree steps chosen.1.session
        else [found, chosen.1]

theorem auto_eq_joined (tree : FileTree) (steps : Nat) (session : Session) :
    auto tree steps session = Turn.joined session (session.autoTurns tree steps) := by
  induction steps generalizing session with
  | zero => rfl
  | succ steps inductionHypothesis =>
      rw [auto, autoTurns]
      dsimp only
      by_cases stopped : session.findEvent.stop.isSome = true
      · rw [if_pos stopped, Turn.joined_singleton, Turn.andThen_of_stop stopped]
      · rw [if_neg stopped]
        rcases chosen : session.findEvent.session.autoChoice tree with ⟨turn, goesOn⟩
        dsimp only
        by_cases further : (goesOn && turn.stop.isNone) = true
        · obtain ⟨rfl, -⟩ := Bool.and_eq_true_iff.mp further
          rw [if_pos further, Turn.joined]
          refine Turn.andThen_congr ?_
          rw [chosen]
          exact Turn.andThen_congr (inductionHypothesis _)
        · rw [if_neg further, Turn.joined]
          refine Turn.andThen_congr ?_
          rw [chosen, Turn.joined_singleton]
          cases goesOn with
          | false => rfl
          | true =>
              have stopped : turn.stop.isSome = true := by
                simpa [Option.isSome_iff_ne_none] using further
              exact Turn.andThen_of_stop stopped _

/-- These are the turns that follow on a command. -/
def turns (tree : FileTree) (session : Session) : Command → List Turn
  | .auto steps => session.autoTurns tree steps
  | command => [session.step tree command]

theorem step_eq_joined (tree : FileTree) (session : Session) (command : Command) :
    session.step tree command = Turn.joined session (session.turns tree command) := by
  cases command with
  | auto steps => exact auto_eq_joined tree steps session
  | _ => exact (Turn.joined_singleton session _).symm

end Session

end Gamebook
