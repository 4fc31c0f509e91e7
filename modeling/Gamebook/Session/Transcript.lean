/-
This file runs a whole session from its opening to its end and writes down what is printed.
-/

import Gamebook.CommandLine.Output
import Gamebook.Random.ChaCha
import Gamebook.Session.Basic

namespace Gamebook

/-- This is what a player decides before a session opens. -/
structure SessionOptions where
  root : String
  name : String := "Bjorn"
  birth : Birth := .boy
  seed : UInt64 := 42
  start : Option String := none
  deriving DecidableEq

namespace Session

/-- The title is rolled first, and the content is loaded for the hero that it makes. -/
def opening (tree : FileTree) (options : SessionOptions) : Except ContentError Turn :=
  let rolled := StartingTitle.roll (RandomSource.ofSeed options.seed)
  let player := Player.ofPrologue options.name options.birth rolled.1
  let plan : ContentPlan := { context := some player.templateContext }
  match (plan.withPaths (ContentPaths.ofRoot tree options.root)).build tree with
  | .error error => .error error
  | .ok content =>
      let session : Session := ⟨content, player, none, none, rolled.2⟩
      let greeted : Turn :=
        ⟨session,
         [.loaded content.events.size content.items.size content.nodes.size,
          .hero player.name player.title options.seed], none⟩
      .ok (greeted.andThen fun session =>
        match options.start with
        | some kind => session.arrive kind
        | none => .quiet session)

def promptText : String := "saga> "

/-- A session that stops on its own has failed. -/
def Stop.exit : Stop → Nat
  | .left => 0
  | .overflow => 101

end Session

def Turn.text (turn : Turn) : String :=
  printed (turn.remarks.flatMap Remark.lines)

namespace Session

/-- Each line is asked for by a prompt. A session also ends with the last line. -/
def converse (tree : FileTree) (session : Session) : List String → ToolRun
  | [] => ⟨0, promptText⟩
  | line :: rest =>
      match Command.ofLine? line with
      | none =>
          let further := session.converse tree rest
          { further with output := promptText ++ further.output }
      | some command =>
          let turn := session.step tree command
          match turn.stop with
          | some stop => ⟨Stop.exit stop, promptText ++ turn.text⟩
          | none =>
              let further := turn.session.converse tree rest
              { further with output := promptText ++ (turn.text ++ further.output) }

/-- The last line needs no end of its own. -/
def inputLines (input : String) : List String :=
  let lines := (linesFrom input.toList).map String.ofList
  if lines.getLast? = some "" then lines.dropLast else lines
where
  linesFrom : List Char → List (List Char)
    | [] => [[]]
    | character :: rest =>
        if character = '\n' then [] :: linesFrom rest
        else
          match linesFrom rest with
          | [] => [[character]]
          | first :: others => (character :: first) :: others

/-- Content that does not load ends the run before anything is printed. -/
def run (tree : FileTree) (options : SessionOptions) (input : String) : ToolRun :=
  match opening tree options with
  | .error _ => ⟨1, ""⟩
  | .ok turn =>
      match turn.stop with
      | some stop => ⟨Stop.exit stop, turn.text⟩
      | none =>
          let further := turn.session.converse tree (inputLines input)
          { further with output := turn.text ++ further.output }

end Session

end Gamebook
