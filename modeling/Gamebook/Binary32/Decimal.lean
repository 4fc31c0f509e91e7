/-
This file reads and writes the numbers of 32 bits in decimal digits.
A text is read as the number that is nearest to it.
A number is written with the fewest digits that are nearer to it than to any other number,
always by position and never with an exponent.
-/

import Gamebook.Binary32.Basic
import Gamebook.Numeral

namespace Gamebook.Binary32

/-- This is the magnitude `digits * 10 ^ exponent`. Exponents far out of range are not computed. -/
def ofDecimal (negative : Bool) (digits : Nat) (exponent : Int) : Binary32 :=
  let places : Int := (Nat.toDigits 10 digits).length + exponent
  let code :=
    if digits = 0 then 0
    else if 60 < places then infinityCode
    else if places < -60 then 0
    else if 0 ≤ exponent then nearestCode (digits * Nat.pow 10 exponent.toNat * Nat.pow 2 149) 1
    else nearestCode (digits * Nat.pow 2 149) (Nat.pow 10 (-exponent).toNat)
  ofCode negative code

/-- The digits before and after the point are at least one together. -/
def ofParts? (negative : Bool) (whole fraction : List Char) (exponent : Int) : Option Binary32 :=
  (Numeral.natural? 10 (whole ++ fraction)).map fun digits =>
    ofDecimal negative digits (exponent - fraction.length)

/-- The exponent begins with a letter `e` in either case and has a numeral of its own. -/
def exponent? : List Char → Option Int
  | [] => some 0
  | letter :: numeral =>
      if letter = 'e' ∨ letter = 'E' then Numeral.integer? 10 numeral else none

def ofUnsigned? (negative : Bool) (characters : List Char) : Option Binary32 :=
  let whole := characters.takeWhile Char.isDigit
  match characters.dropWhile Char.isDigit with
  | '.' :: rest =>
      match exponent? (rest.dropWhile Char.isDigit) with
      | some exponent => ofParts? negative whole (rest.takeWhile Char.isDigit) exponent
      | none => none
  | rest =>
      match exponent? rest with
      | some exponent => ofParts? negative whole [] exponent
      | none => none

/-- This reads an optional sign, digits with an optional point, and an optional exponent. -/
def ofText? : List Char → Option Binary32
  | '-' :: rest => ofUnsigned? true rest
  | '+' :: rest => ofUnsigned? false rest
  | rest => ofUnsigned? false rest

/-- A decimal magnitude is `digits * 10 ^ exponent`. -/
structure DecimalMagnitude where
  digits : Nat
  exponent : Int
  deriving DecidableEq

/-- The scales turn units and powers of ten into whole numbers of a common unit. -/
def unitScale (exponent : Int) : Nat := Nat.pow 10 (-exponent).toNat

def gridScale (exponent : Int) : Nat := Nat.pow 10 exponent.toNat * Nat.pow 2 149

/-- The numbers that are nearest to the one with this code lie between its halfway points.
The halfway points themselves belong to it when its code is even. -/
def isNearest (code : Nat) (candidate : DecimalMagnitude) : Bool :=
  let place := 2 * (candidate.digits * gridScale candidate.exponent)
  let low := (magnitude (code - 1) + magnitude code) * unitScale candidate.exponent
  let high := (magnitude code + magnitude (code + 1)) * unitScale candidate.exponent
  if code % 2 = 0 then decide (low ≤ place) && decide (place ≤ high)
  else decide (low < place) && decide (place < high)

/-- Of the two neighbours on a decimal grid the nearer one is taken, and in a tie the upper one. -/
def onGrid? (code : Nat) (exponent : Int) : Option DecimalMagnitude :=
  let numerator := magnitude code * unitScale exponent
  let lower : DecimalMagnitude := ⟨numerator / gridScale exponent, exponent⟩
  let upper : DecimalMagnitude := ⟨numerator / gridScale exponent + 1, exponent⟩
  let upperIsNear := decide (gridScale exponent ≤ 2 * (numerator % gridScale exponent))
  if upperIsNear && isNearest code upper then some upper
  else if isNearest code lower then some lower
  else if isNearest code upper then some upper
  else none

/-- The decimal grids are tried from the coarsest to the finest. -/
def shortest (code : Nat) : DecimalMagnitude :=
  ((List.range 100).findSome? fun step => onGrid? code (40 - Int.ofNat step)).getD ⟨0, 0⟩

def DecimalMagnitude.text (decimal : DecimalMagnitude) : String :=
  let digits := Nat.toDigits 10 decimal.digits
  if 0 ≤ decimal.exponent then
    String.ofList (digits ++ List.replicate decimal.exponent.toNat '0')
  else
    let places := (-decimal.exponent).toNat
    let padded := List.replicate (places + 1 - digits.length) '0' ++ digits
    String.ofList (padded.take (padded.length - places) ++
      '.' :: padded.drop (padded.length - places))

def text (number : Binary32) : String :=
  let sign := if number.isNegative then "-" else ""
  if number.isNaN then "NaN"
  else if number.isZero then s!"{sign}0"
  else if number.isFinite then s!"{sign}{(shortest number.code).text}"
  else s!"{sign}inf"

end Gamebook.Binary32
