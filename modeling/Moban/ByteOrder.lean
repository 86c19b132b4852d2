import Mathlib

/-!
# Bytes of integers

The bytes of an integer are its digits to the base 256. Quotients are rounded down, so that the
digits of a negative integer are those of its two's complement. Reading digits back gives the
integer modulo the corresponding power of the base.

A host keeps the bytes of a word in its own order. The network order has the most significant byte
first. A word that is converted to network order and stored has its bytes in that order on every
host.
-/

namespace Moban.ByteOrder

/-- The given number of digits, least significant first. -/
def littleEndian : Nat → Int → List UInt8
  | 0, _ => []
  | count + 1, value => UInt8.ofNat (value % 256).toNat :: littleEndian count (value / 256)

/-- The given number of digits, most significant first. -/
def bigEndian (count : Nat) (value : Int) : List UInt8 := (littleEndian count value).reverse

/-- The number with these digits, least significant first. -/
def number : List UInt8 → Nat
  | [] => 0
  | byte :: rest => byte.toNat + 256 * number rest

@[simp] theorem littleEndian_length (count : Nat) (value : Int) :
    (littleEndian count value).length = count := by
  induction count generalizing value with
  | zero => rfl
  | succ count ih => simp [littleEndian, ih]

@[simp] theorem bigEndian_length (count : Nat) (value : Int) :
    (bigEndian count value).length = count := by
  simp [bigEndian]

/-- Reading back loses what the digits do not hold. -/
theorem number_littleEndian (count : Nat) (value : Int) :
    (number (littleEndian count value) : Int) = value % 256 ^ count := by
  induction count generalizing value with
  | zero => simp [littleEndian, number]
  | succ count ih =>
    have digit : ((UInt8.ofNat (value % 256).toNat).toNat : Int) = value % 256 := by
      rw [UInt8.toNat_ofNat']
      omega
    rw [littleEndian, number, Nat.cast_add, Nat.cast_mul, ih, digit, pow_succ',
      Int.emod_def, Int.emod_def, Int.emod_def, Int.ediv_ediv_of_nonneg (by decide)]
    push_cast
    ring

theorem number_lt (bytes : List UInt8) : number bytes < 256 ^ bytes.length := by
  induction bytes with
  | nil => exact Nat.one_pos
  | cons byte rest ih =>
    have bounded := byte.toNat_lt
    rw [number, List.length_cons, pow_succ']
    omega

/-- Digits are determined by their number. -/
theorem littleEndian_number (bytes : List UInt8) :
    littleEndian bytes.length (number bytes) = bytes := by
  induction bytes with
  | nil => rfl
  | cons byte rest ih =>
    have bounded := byte.toNat_lt
    have digit : ((byte.toNat + 256 * number rest : Nat) : Int) % 256 = byte.toNat := by omega
    have others : ((byte.toNat + 256 * number rest : Nat) : Int) / 256 = number rest := by omega
    rw [List.length_cons, littleEndian, number, digit, others, ih]
    simp

/-- Integers that agree modulo the power of the base have the same digits. -/
theorem littleEndian_emod (count : Nat) (value : Int) :
    littleEndian count (value % 256 ^ count) = littleEndian count value := by
  have again := littleEndian_number (littleEndian count value)
  rw [littleEndian_length, number_littleEndian] at again
  exact again

theorem number_bigEndian_reverse (count word : Nat) :
    number (bigEndian count word).reverse = word % 256 ^ count := by
  have digits := number_littleEndian count word
  rw [bigEndian, List.reverse_reverse]
  exact_mod_cast digits

/-! ## Hosts -/

/-- The order in which a host keeps the bytes of a word. -/
inductive Endian where
  | little
  | big
deriving DecidableEq

namespace Endian

/-- Digits, least significant first, in the order of the host, or the other way round. -/
def arrange : Endian → List UInt8 → List UInt8
  | little, bytes => bytes
  | big, bytes => bytes.reverse

/-- The bytes of a word as they are in memory. -/
def store (host : Endian) (count word : Nat) : List UInt8 := host.arrange (littleEndian count word)

/-- The word that is in memory. -/
def load (host : Endian) (bytes : List UInt8) : Nat := number (host.arrange bytes)

/-- The conversion of a word to network order, and from network order. -/
def toNetwork (host : Endian) (count word : Nat) : Nat :=
  match host with
  | little => number (littleEndian count word).reverse
  | big => word

theorem load_lt (host : Endian) (bytes : List UInt8) : host.load bytes < 256 ^ bytes.length := by
  have bounded := number_lt (host.arrange bytes)
  cases host with
  | little => exact bounded
  | big => rwa [arrange, List.length_reverse] at bounded

/-- Only as much of a word is stored as there are bytes. -/
theorem store_mod (host : Endian) (count word : Nat) :
    host.store count (word % 256 ^ count) = host.store count word := by
  have same := littleEndian_emod count word
  rw [store, store, ← same]
  norm_cast

/-- A word in network order is stored with its most significant byte first. -/
theorem store_toNetwork (host : Endian) (count word : Nat) :
    host.store count (host.toNetwork count word) = bigEndian count word := by
  cases host with
  | little =>
    have again := littleEndian_number (littleEndian count word).reverse
    rw [List.length_reverse, littleEndian_length] at again
    exact again
  | big => rfl

/-- A word that was loaded in network order is the number of its bytes. -/
theorem toNetwork_load (host : Endian) (bytes : List UInt8) :
    host.toNetwork bytes.length (host.load bytes) = number bytes.reverse := by
  cases host with
  | little =>
    have again := littleEndian_number bytes
    rw [toNetwork, load, arrange, again]
  | big => rfl

end Endian

end Moban.ByteOrder
