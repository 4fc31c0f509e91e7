/-
This file reads the lines that a player types in a session.
A line that is a number chooses an option. Otherwise its first word is the command, in any case.
-/

import Gamebook.Numeral
import Gamebook.Text.Blank
import Gamebook.Text.Lowercase

namespace Gamebook

inductive Command where
  | choose (order : Int32)
  | quit
  | help
  | look
  | event (id : Option String)
  | node (kind : Option String)
  | travel
  | auto (steps : Nat)
  | stats
  | inventory
  | useSlot (slot : Option Nat)
  | unequip (slot : Option Nat)
  | reload
  | unknown (word : String)
  deriving DecidableEq

namespace Command

/-- A slot and a number of steps are counts below `2 ^ 64`. -/
def count? (word : String) : Option Nat :=
  (Numeral.word64? word).map UInt64.toNat

/-- The first word is already in lower case. -/
def ofWord (word : String) (argument : Option String) : Command :=
  match Numeral.signed? word with
  | some order => .choose order
  | none =>
      match word with
      | "quit" | "exit" | "q" => .quit
      | "help" | "h" | "?" => .help
      | "look" | "l" => .look
      | "event" => .event argument
      | "node" => .node argument
      | "travel" => .travel
      | "auto" => .auto ((argument.bind count?).getD 1)
      | "stats" => .stats
      | "inv" | "inventory" => .inventory
      | "use" => .useSlot (argument.bind count?)
      | "unequip" => .unequip (argument.bind count?)
      | "reload" => .reload
      | _ => .unknown word

/-- A blank line is no command, and further words of a line are ignored. -/
def ofLine? (line : String) : Option Command :=
  match Text.words line with
  | [] => none
  | word :: rest => some (ofWord (Text.lowercase word) rest.head?)

end Command

end Gamebook
