/-
This file reads whole numbers from text.
A numeral is a run of one or more ASCII digits, with at most one sign where a sign is allowed.
Each reader refuses a number outside the range of its type.
-/

namespace Gamebook.Numeral

/-- The value of a digit is at most fifteen, and letters count in either case. -/
def digitValue? (character : Char) : Option Nat :=
  if character.isDigit then some (character.toNat - 48)
  else if decide (97 ≤ character.toNat) && decide (character.toNat ≤ 102) then
    some (character.toNat - 87)
  else if decide (65 ≤ character.toNat) && decide (character.toNat ≤ 70) then
    some (character.toNat - 55)
  else none

/-- The digits are read after a first part of the number that is already known. -/
def digitsFrom? (base value : Nat) : List Char → Option Nat
  | [] => some value
  | character :: rest =>
      match digitValue? character with
      | none => none
      | some digit =>
          if digit < base then digitsFrom? base (value * base + digit) rest else none

/-- This reads a nonempty run of digits of the given base and nothing else. -/
def natural? (base : Nat) (characters : List Char) : Option Nat :=
  if characters.isEmpty then none else digitsFrom? base 0 characters

/-- This reads an optional plus sign and then decimal digits. -/
def plusNatural? : List Char → Option Nat
  | '+' :: digits => natural? 10 digits
  | digits => natural? 10 digits

/-- This reads an optional sign and then digits of the given base. -/
def integer? (base : Nat) : List Char → Option Int
  | '+' :: digits => (natural? base digits).map Int.ofNat
  | '-' :: digits => (natural? base digits).map fun magnitude => -(magnitude : Int)
  | digits => (natural? base digits).map Int.ofNat

def inRange32 (value : Int) : Bool :=
  decide (-2147483648 ≤ value) && decide (value ≤ 2147483647)

/-- This reads a count below `2 ^ 32` that is written without a sign. -/
def unsigned? (text : String) : Option UInt32 :=
  match natural? 10 text.toList with
  | none => none
  | some value => if value < UInt32.size then some (UInt32.ofNat value) else none

/-- This reads a number from `-2 ^ 31` to `2 ^ 31 - 1` with an optional sign. -/
def signed? (text : String) : Option Int32 :=
  match integer? 10 text.toList with
  | none => none
  | some value => if inRange32 value then some (Int32.ofInt value) else none

/-- This reads a number below `2 ^ 64` with an optional plus sign. -/
def word64? (text : String) : Option UInt64 :=
  match plusNatural? text.toList with
  | none => none
  | some value => if value < UInt64.size then some (UInt64.ofNat value) else none

end Gamebook.Numeral
