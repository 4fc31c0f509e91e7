/-
This file picks one element of a list, each with the same chance.
A number is drawn that has as many words as the length of the list. It is scaled to that length
and refused when its remainder would favour some elements over others.
-/

import Gamebook.Random.Source

namespace Gamebook

/-- A length of less than `2 ^ 32` fills one word, and a longer one fills more. -/
def wordsIn (size : Nat) : Nat := size.log2 / 32 + 1

/-- The numbers with as many words as the length are those below this one. -/
def drawnRange (size : Nat) : Nat := Nat.pow UInt32.size (wordsIn size)

/-- Remainders up to this one occur equally often for every position of the list. -/
def acceptedZone (size : Nat) : Nat :=
  size * Nat.pow 2 (32 * wordsIn size - 1 - size.log2) - 1

/-- The position is the upper half of the product, and its lower half is the remainder. -/
def acceptedPosition? (size number : Nat) : Option Nat :=
  if number * size % drawnRange size ≤ acceptedZone size then
    some (number * size / drawnRange size)
  else none

/-- The words of a number are drawn from the lowest to the highest. -/
def RandomSource.number : Nat → RandomSource → Nat × RandomSource
  | 0, source => (0, source)
  | count + 1, source =>
      let higher := RandomSource.number count source.next.2
      (source.next.1.toNat + UInt32.size * higher.1, higher.2)

/-- The first accepted number decides, and no more than the given number of them are tried. -/
def RandomSource.position? (size : Nat) : Nat → RandomSource → Option Nat × RandomSource
  | 0, source => (none, source)
  | attempts + 1, source =>
      let drawn := RandomSource.number (wordsIn size) source
      match acceptedPosition? size drawn.1 with
      | some position => (some position, drawn.2)
      | none => RandomSource.position? size attempts drawn.2

/-- A source that has only refused numbers for this long is given up. -/
def RandomSource.patience : Nat := Nat.pow 2 64

/-- Nothing is drawn for an empty list. -/
def RandomSource.choose {A : Type} (source : RandomSource) (values : List A) :
    Option A × RandomSource :=
  if values.isEmpty then (none, source)
  else
    match source.position? values.length RandomSource.patience with
    | (some position, rest) => (values[position]?, rest)
    | (none, rest) => (none, rest)

end Gamebook
