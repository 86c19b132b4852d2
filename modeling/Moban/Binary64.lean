import Mathlib

/-!
# Binary floating-point numbers of double precision

A finite number is an integer times a power of two. The significand has 53 bits, and the exponent
is at least -1074, so that small numbers have fewer bits. A magnitude is rounded to the nearest
number, and to the one with an even significand if there are two. What is rounded to 2 to the
power 1024 or more is infinite.
-/

namespace Moban

inductive Binary64 where
  | finite (negative : Bool) (significand : Nat) (exponent : Int)
  | infinite (negative : Bool)
  | nan
deriving DecidableEq

namespace Binary64

/-- The nearest integer, and the even one of two. -/
def nearestEven (number : ℚ) : Int :=
  if number - ⌊number⌋ < 1 / 2 then ⌊number⌋
  else if 1 / 2 < number - ⌊number⌋ then ⌊number⌋ + 1
  else if ⌊number⌋ % 2 = 0 then ⌊number⌋
  else ⌊number⌋ + 1

/-- The exponent that leaves 53 bits for the significand, or the least one. -/
def exponentOf (magnitude : ℚ) : Int := max (Int.log 2 magnitude - 52) (-1074)

def round (negative : Bool) (magnitude : ℚ) : Binary64 :=
  let exponent := exponentOf magnitude
  let significand := nearestEven (magnitude / 2 ^ exponent)
  if 2 ^ 1024 ≤ (significand : ℚ) * 2 ^ exponent then .infinite negative
  else .finite negative significand.toNat exponent

def isInfinite : Binary64 → Bool
  | infinite _ => true
  | _ => false

def isZero : Binary64 → Bool
  | finite _ significand _ => significand == 0
  | _ => false

/-- Zero is exact. -/
theorem round_zero (negative : Bool) : round negative 0 = .finite negative 0 (exponentOf 0) := by
  have small : ¬(2 : ℚ) ^ 1024 ≤ 0 := not_le.mpr (by positivity)
  simp [round, nearestEven, small]

end Binary64

end Moban
