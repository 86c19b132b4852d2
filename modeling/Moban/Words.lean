import Mathlib

/-!
# Unsigned machine words

Sizes are 64-bit unsigned words represented by natural numbers, with wrapping
addition and subtraction. Two laws say when the wrapped operation is the exact one;
a proof about sizes discharges their bounds and continues in plain arithmetic.
-/

namespace Moban.Words

/-- The number of distinct 64-bit sizes. -/
def modulus : Nat := 2 ^ 64

/-- Wrapping addition of sizes. -/
def add (left right : Nat) : Nat := (left + right) % modulus

/-- Wrapping subtraction of sizes. -/
def sub (left right : Nat) : Nat := (left + (modulus - right)) % modulus

/-- A sum below the modulus does not wrap. -/
theorem add_exact (left right : Nat) (fits : left + right < modulus) :
    add left right = left + right :=
  Nat.mod_eq_of_lt fits

/-- A difference of ordered sizes does not wrap. -/
theorem sub_exact (left right : Nat) (ordered : right ≤ left) (fits : left < modulus) :
    sub left right = left - right := by
  have shifted : left + (modulus - right) = (left - right) + modulus := by omega
  rw [sub, shifted, Nat.add_mod_right]
  exact Nat.mod_eq_of_lt (by omega)

end Moban.Words
