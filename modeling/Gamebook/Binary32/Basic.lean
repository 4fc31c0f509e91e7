/-
This file holds the binary floating-point numbers of 32 bits.
A finite number is a whole multiple of the unit `2 ^ -149`, so all arithmetic here is exact on
natural numbers of units and rounds once, to the nearest number and in a tie to the even one.
-/

namespace Gamebook

/-- The bits are a sign, eight bits of exponent and twenty-three bits of fraction. -/
structure Binary32 where
  bits : UInt32
  deriving DecidableEq

namespace Binary32

def isNegative (number : Binary32) : Bool :=
  decide (2147483648 ≤ number.bits.toNat)

/-- The code of a number is its bits without the sign. Greater magnitudes have greater codes. -/
def code (number : Binary32) : Nat :=
  number.bits.toNat % 2147483648

/-- This is the code of infinity, and all greater codes mean that there is no number. -/
def infinityCode : Nat := 2139095040

def isNaN (number : Binary32) : Bool :=
  decide (infinityCode < number.code)

def isFinite (number : Binary32) : Bool :=
  decide (number.code < infinityCode)

/-- A negative zero is a zero. -/
def isZero (number : Binary32) : Bool :=
  number.code == 0

/-- This says whether the number is at least zero, which a negative zero is. -/
def isNonnegative (number : Binary32) : Bool :=
  !number.isNaN && (!number.isNegative || number.isZero)

def ofCode (negative : Bool) (code : Nat) : Binary32 :=
  ⟨UInt32.ofNat (if negative then code + 2147483648 else code)⟩

/-- This is the magnitude in units, continued past the greatest finite number. -/
def magnitude (code : Nat) : Nat :=
  if code / 8388608 = 0 then code % 8388608
  else (8388608 + code % 8388608) * Nat.pow 2 (code / 8388608 - 1)

/-- This rounds a quotient to the nearest whole number and in a tie to the even one. -/
def roundedQuotient (numerator denominator : Nat) : Nat :=
  let whole := numerator / denominator
  let rest := numerator % denominator
  if 2 * rest < denominator then whole
  else if denominator < 2 * rest then whole + 1
  else if whole % 2 = 0 then whole
  else whole + 1

/-- This many trailing bits of the units do not fit into a significand of twenty-four bits. -/
def excessBits (units : Nat) : Nat :=
  units.log2 - 23

/-- This is the code of the number that is nearest to a quotient of units. -/
def nearestCode (numerator denominator : Nat) : Nat :=
  let excess := excessBits (numerator / denominator)
  min (excess * 8388608 + roundedQuotient numerator (denominator * Nat.pow 2 excess)) infinityCode

/-- This adds two magnitudes that are given by their codes. -/
def addCodes (left right : Nat) : Nat :=
  nearestCode (magnitude left + magnitude right) 1

/-- This multiplies a magnitude by a number of steps of `2 ^ -23`. -/
def scaleCode (code steps : Nat) : Nat :=
  nearestCode (magnitude code * steps) 8388608

end Binary32

end Gamebook
