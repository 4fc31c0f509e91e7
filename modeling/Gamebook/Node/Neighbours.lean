/-
This file holds the weighted neighbours of a node in the order of their kinds.
A kind stands at most once, and a later weight for it replaces the earlier one.
-/

import Gamebook.Binary32.Basic

namespace Gamebook

/-- The kinds are in ascending order of their code points. -/
structure Neighbours where
  entries : List (String × Binary32)
  deriving DecidableEq

namespace Neighbours

def empty : Neighbours := ⟨[]⟩

def insertInto (kind : String) (weight : Binary32) :
    List (String × Binary32) → List (String × Binary32)
  | [] => [(kind, weight)]
  | entry :: rest =>
      if kind < entry.1 then (kind, weight) :: entry :: rest
      else if kind = entry.1 then (kind, weight) :: rest
      else entry :: insertInto kind weight rest

def insert (neighbours : Neighbours) (kind : String) (weight : Binary32) : Neighbours :=
  ⟨insertInto kind weight neighbours.entries⟩

def ofList (entries : List (String × Binary32)) : Neighbours :=
  entries.foldl (fun neighbours entry => neighbours.insert entry.1 entry.2) empty

def kinds (neighbours : Neighbours) : List String :=
  neighbours.entries.map Prod.fst

def weights (neighbours : Neighbours) : List Binary32 :=
  neighbours.entries.map Prod.snd

def weight? (neighbours : Neighbours) (kind : String) : Option Binary32 :=
  neighbours.entries.lookup kind

end Neighbours

end Gamebook
