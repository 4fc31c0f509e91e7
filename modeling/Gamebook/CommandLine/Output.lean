/-
This file holds what a run of a tool leaves behind.
-/

namespace Gamebook

/-- A run of a tool ends with an exit code and what was printed. -/
structure ToolRun where
  exit : Nat
  output : String
  deriving DecidableEq

/-- This is the text in which each of the given texts is followed by the end of a line. -/
def printed (lines : List String) : String :=
  String.join (lines.map fun line => line ++ "\n")

end Gamebook
