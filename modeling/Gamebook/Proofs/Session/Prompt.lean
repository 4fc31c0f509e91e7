/-
This file follows a session from prompt to prompt.
-/

import Gamebook.Session.Transcript

namespace Gamebook.Session

/-- This is the session at the next prompt, if it has not stopped. -/
def next? (tree : FileTree) (session : Session) (line : String) : Option Session :=
  match Command.ofLine? line with
  | none => some session
  | some command =>
      let turn := session.step tree command
      if turn.stop.isSome then none else some turn.session

/-- This is the session at the prompt after the given lines. -/
def prompt? (tree : FileTree) (session : Session) (lines : List String) : Option Session :=
  lines.foldlM (next? tree) session

/-- This is the session at the prompt after the given lines, each of which comes with the files as
they have become by then. -/
def follow? (session : Session) (lines : List (FileTree × String)) : Option Session :=
  lines.foldlM (fun earlier line => earlier.next? line.1 line.2) session

/-- At the prompt all lines may come with the same files. -/
theorem prompt?_eq_follow? (tree : FileTree) (session : Session) (lines : List String) :
    session.prompt? tree lines = session.follow? (lines.map (Prod.mk tree)) := by
  rw [prompt?, follow?, List.foldlM_map]

theorem prompt?_append (tree : FileTree) (session : Session) (earlier later : List String) :
    session.prompt? tree (earlier ++ later) =
      (session.prompt? tree earlier).bind (·.prompt? tree later) :=
  List.foldlM_append

variable {tree : FileTree} {session later : Session}

/-- The next prompt is that of a command, or a blank line has changed nothing. -/
theorem next?_cases {line : String} (goesOn : session.next? tree line = some later) :
    (Command.ofLine? line = none ∧ later = session) ∨
      ∃ command, Command.ofLine? line = some command ∧
        (session.step tree command).stop = none ∧ later = (session.step tree command).session := by
  rw [next?] at goesOn
  split at goesOn
  next blank => exact .inl ⟨blank, (Option.some.inj goesOn).symm⟩
  next command understood =>
    dsimp only at goesOn
    split at goesOn
    next => cases goesOn
    next running =>
      refine .inr ⟨command, understood, ?_, (Option.some.inj goesOn).symm⟩
      simpa using running

theorem next?_of_step {line : String} {command : Command} {remarks : List Remark}
    (understood : Command.ofLine? line = some command)
    (stepped : session.step tree command = ⟨later, remarks, none⟩) :
    session.next? tree line = some later := by
  rw [next?, understood]
  simp [stepped]

/-- What every command of the given lines keeps holds at the prompt after them. -/
theorem follow?_induction {motive : Session → Prop} {lines : List (FileTree × String)}
    (start : motive session)
    (step : ∀ line ∈ lines, ∀ command, Command.ofLine? line.2 = some command →
      ∀ earlier, motive earlier → motive (earlier.step line.1 command).session)
    (reached : session.follow? lines = some later) : motive later := by
  induction lines generalizing session with
  | nil => exact Option.some.inj reached ▸ start
  | cons line rest inductionHypothesis =>
      obtain ⟨next, goesOn, continued⟩ := Option.bind_eq_some_iff.mp reached
      rw [List.forall_mem_cons] at step
      refine inductionHypothesis ?_ step.2 continued
      rcases next?_cases goesOn with ⟨-, rfl⟩ | ⟨command, understood, -, rfl⟩
      · exact start
      · exact step.1 command understood session start

/-- What every command keeps holds at every prompt. -/
theorem prompt?_induction {motive : Session → Prop} {lines : List String} (start : motive session)
    (step : ∀ earlier command, motive earlier → motive (earlier.step tree command).session)
    (reached : session.prompt? tree lines = some later) : motive later := by
  rw [prompt?_eq_follow?] at reached
  refine follow?_induction start (fun line listed command _ earlier kept => ?_) reached
  obtain ⟨_, -, rfl⟩ := List.mem_map.mp listed
  exact step earlier command kept

/-- The conversation is the same after a prompt as if it had begun there. -/
theorem converse_append {lines : List String} (reached : session.prompt? tree lines = some later) :
    ∃ said, ∀ rest, session.converse tree (lines ++ rest) =
      { later.converse tree rest with output := said ++ (later.converse tree rest).output } := by
  induction lines generalizing session with
  | nil =>
      cases reached
      exact ⟨"", fun rest => by simp⟩
  | cons line rest inductionHypothesis =>
      obtain ⟨next, goesOn, continued⟩ := Option.bind_eq_some_iff.mp reached
      obtain ⟨said, follows⟩ := inductionHypothesis continued
      rcases next?_cases goesOn with ⟨blank, rfl⟩ | ⟨command, understood, running, rfl⟩
      · refine ⟨promptText ++ said, fun more => ?_⟩
        simp [converse, blank, follows, String.append_assoc]
      · refine ⟨promptText ++ ((session.step tree command).text ++ said), fun more => ?_⟩
        simp [converse, understood, running, follows, String.append_assoc]

end Gamebook.Session
