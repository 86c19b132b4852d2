import Moban.BufferQueue
import Moban.ByteOrder

/-!
# Integers in a buffer

A buffer takes integers of one, two and four bytes in network order. A signed integer is converted
to an unsigned word of the same size, the word to network order, and its bytes are copied from
memory as they are. Reading goes the opposite way. A single byte is copied without conversion.

The bytes of an integer are the digits of its two's complement, the most significant first, and
do not depend on the host. A buffer that holds other bytes before them may be enlarged, compacted
or shrunk in between, and the integers are read back as they were written.
-/

namespace Moban

open Slices ByteOrder

namespace Buffer

/-! ## Words -/

/-- A word of some bytes, converted to or from network order. -/
def swapped (host : Endian) (count : Nat) (word : BitVec (8 * count)) : BitVec (8 * count) :=
  BitVec.ofNat (8 * count) (host.toNetwork count word.toNat)

/-- The bytes of the result are in network order; `ntohl` reverses this. -/
def htonl (host : Endian) (hostlong : BitVec 32) : BitVec 32 := swapped host 4 hostlong

/-- As `htonl`, for two bytes. -/
def htons (host : Endian) (hostshort : BitVec 16) : BitVec 16 := swapped host 2 hostshort

/-- The number whose bytes are in network order. -/
def ntohl (host : Endian) (netlong : BitVec 32) : BitVec 32 := swapped host 4 netlong

/-- As `ntohl`, for two bytes. -/
def ntohs (host : Endian) (netshort : BitVec 16) : BitVec 16 := swapped host 2 netshort

/-- The bytes of a word in memory. -/
def object (host : Endian) (count : Nat) (word : BitVec (8 * count)) : List UInt8 :=
  host.store count word.toNat

/-- The word whose bytes were copied into memory. -/
def copied (host : Endian) (count : Nat) (bytes : List UInt8) : BitVec (8 * count) :=
  BitVec.ofNat (8 * count) (host.load bytes)

/-- The bytes at the read position. -/
def peek (b : Buffer) (count : Nat) : List UInt8 :=
  slice b.buffer b.readerIndex (b.readerIndex + count)

/-! ## The members -/

section Members

variable (host : Endian) (b : Buffer)

/-- Append four bytes in network order. -/
def appendInt32 (x : BitVec 32) : Option Buffer := b.append (object host 4 (htonl host x))

/-- Append two bytes in network order. -/
def appendInt16 (x : BitVec 16) : Option Buffer := b.append (object host 2 (htons host x))

/-- Append one byte. -/
def appendInt8 (x : BitVec 8) : Option Buffer := b.append [UInt8.ofBitVec x]

/-- A word is copied from the read position and converted. -/
def peekWord (count : Nat) (toHost : BitVec (8 * count) → BitVec (8 * count)) :
    Option (BitVec (8 * count)) := do
  guard (b.readableBytes ≥ count)
  return toHost (copied host count (b.peek count))

/-- The next four bytes, which stay in the buffer. -/
def peekInt32 : Option (BitVec 32) := b.peekWord host 4 (ntohl host)

/-- The next two bytes, which stay in the buffer. -/
def peekInt16 : Option (BitVec 16) := b.peekWord host 2 (ntohs host)

/-- The next byte, which stays in the buffer. -/
def peekInt8 : Option (BitVec 8) := do
  guard (b.readableBytes ≥ 1)
  let x ← b.buffer[b.readerIndex]?
  return x.toBitVec

/-- What was found at the read position is retrieved. -/
def consume {α : Type} (found : Option α) (size : Nat) : Option (α × Buffer) := do
  let result ← found
  let rest ← b.retrieve size
  return (result, rest)

/-- The next four bytes are taken. -/
def readInt32 : Option (BitVec 32 × Buffer) := b.consume (b.peekInt32 host) 4

/-- The next two bytes are taken. -/
def readInt16 : Option (BitVec 16 × Buffer) := b.consume (b.peekInt16 host) 2

/-- The next byte is taken. -/
def readInt_8 : Option (BitVec 8 × Buffer) := b.consume b.peekInt8 1

/-- Put four bytes in front of what is readable. -/
def prependInt32 (x : BitVec 32) : Option Buffer := b.prepend (object host 4 (htonl host x))

/-- Put two bytes in front. -/
def prependInt16 (x : BitVec 16) : Option Buffer := b.prepend (object host 2 (htons host x))

/-- Put one byte in front. -/
def prependInt8 (x : BitVec 8) : Option Buffer := b.prepend [UInt8.ofBitVec x]

end Members

/-! ## Typed integers -/

/-- The widths that the codec offers. -/
inductive IntType where
  | int8
  | int16
  | int32
deriving DecidableEq

/-- The width in bytes. -/
def IntType.size : IntType → Nat
  | int8 => 1
  | int16 => 2
  | int32 => 4

/-- An integer of one of the types, in two's complement. -/
structure TypedInt where
  type : IntType
  value : BitVec (8 * type.size)
deriving DecidableEq

/-- The big-endian digits of an integer, which may be negative. -/
def TypedInt.encoding (x : TypedInt) : List UInt8 := bigEndian x.type.size x.value.toInt

section Types

variable (host : Endian) (b : Buffer)

/-- Append with the function for this width. -/
def appendInt : TypedInt → Option Buffer
  | ⟨.int8, x⟩ => b.appendInt8 x
  | ⟨.int16, x⟩ => b.appendInt16 host x
  | ⟨.int32, x⟩ => b.appendInt32 host x

/-- Peek with the function for this width. -/
def peekInt : (type : IntType) → Option (BitVec (8 * type.size))
  | .int8 => b.peekInt8
  | .int16 => b.peekInt16 host
  | .int32 => b.peekInt32 host

/-- Read with the function for this width. -/
def readInt : (type : IntType) → Option (BitVec (8 * type.size) × Buffer)
  | .int8 => b.readInt_8
  | .int16 => b.readInt16 host
  | .int32 => b.readInt32 host

/-- Prepend with the function for this width. -/
def prependInt : TypedInt → Option Buffer
  | ⟨.int8, x⟩ => b.prependInt8 x
  | ⟨.int16, x⟩ => b.prependInt16 host x
  | ⟨.int32, x⟩ => b.prependInt32 host x

end Types

/-! ## Bytes and values -/

variable {host : Endian} {b : Buffer} {queue : List UInt8} {spare count : Nat}

theorem two_pow_eight_mul (count : Nat) : 2 ^ (8 * count) = 256 ^ count := by
  rw [pow_mul]
  norm_num

/-- The digits of a signed word are those of the unsigned one. -/
theorem bigEndian_toInt (word : BitVec (8 * count)) :
    bigEndian count word.toInt = bigEndian count word.toNat := by
  have power : (256 : Int) ^ count = ((2 ^ (8 * count) : Nat) : Int) := by
    rw [two_pow_eight_mul]
    norm_cast
  have same : word.toInt % 256 ^ count = (word.toNat : Int) % 256 ^ count := by
    rw [BitVec.toInt_eq_toNat_bmod, power, Int.bmod_emod]
  rw [bigEndian, bigEndian, ← littleEndian_emod, same, littleEndian_emod]

/-- The swapped word lies in memory in network order, on any host. -/
theorem object_swapped (host : Endian) (word : BitVec (8 * count)) :
    object host count (swapped host count word) = bigEndian count word.toInt := by
  rw [object, swapped, BitVec.toNat_ofNat, two_pow_eight_mul, Endian.store_mod,
    Endian.store_toNetwork, bigEndian_toInt]

/-- Copying bytes in network order and swapping them gives the number back. -/
theorem swapped_copied (host : Endian) (word : BitVec (8 * count)) :
    swapped host count (copied host count (bigEndian count word.toInt)) = word := by
  have loaded : (copied host count (bigEndian count word.toInt)).toNat =
      host.load (bigEndian count word.toInt) := by
    have bounded := host.load_lt (bigEndian count word.toInt)
    rw [bigEndian_length] at bounded
    rw [copied, BitVec.toNat_ofNat, two_pow_eight_mul, Nat.mod_eq_of_lt bounded]
  have swap := host.toNetwork_load (bigEndian count word.toInt)
  have small : word.toNat < 256 ^ count := two_pow_eight_mul count ▸ word.isLt
  rw [bigEndian_length, bigEndian_toInt, number_bigEndian_reverse, Nat.mod_eq_of_lt small] at swap
  rw [swapped, loaded, bigEndian_toInt, swap, BitVec.ofNat_toNat, BitVec.setWidth_eq]

/-- A single byte is stored as it is. -/
theorem bigEndian_byte (x : BitVec 8) : bigEndian 1 x.toInt = [UInt8.ofBitVec x] := by
  have unsigned : bigEndian 1 x.toInt = bigEndian 1 x.toNat := @bigEndian_toInt 1 x
  have digit : ((x.toNat : Int) % 256).toNat = x.toNat := by
    have bounded := x.isLt
    omega
  rw [unsigned, bigEndian, littleEndian, littleEndian, digit, List.reverse_singleton]
  congr 1
  exact UInt8.toNat_inj.mp (by simp)

/-- The three appends differ only in the encoding. -/
theorem appendInt_eq (host : Endian) (b : Buffer) (x : TypedInt) :
    b.appendInt host x = b.append x.encoding := by
  obtain ⟨type, value⟩ := x
  cases type with
  | int8 => exact congrArg b.append (bigEndian_byte value).symm
  | int16 => exact congrArg b.append (object_swapped host value)
  | int32 => exact congrArg b.append (object_swapped host value)

/-- The three prepends differ only in the encoding. -/
theorem prependInt_eq (host : Endian) (b : Buffer) (x : TypedInt) :
    b.prependInt host x = b.prepend x.encoding := by
  obtain ⟨type, value⟩ := x
  cases type with
  | int8 => exact congrArg b.prepend (bigEndian_byte value).symm
  | int16 => exact congrArg b.prepend (object_swapped host value)
  | int32 => exact congrArg b.prepend (object_swapped host value)

@[simp] theorem encoding_length (x : TypedInt) : x.encoding.length = x.type.size :=
  bigEndian_length _ _

/-- The bytes at the read position are the first of the queue. -/
theorem Represents.peek (represented : b.Represents queue spare)
    (allowed : count ≤ queue.length) : b.peek count = queue.take count := by
  have width : queue.length = b.writeIndex - b.readerIndex := by
    rw [← represented.contents, readable_length represented.wellFormed]
  have ordered := represented.wellFormed.ordered
  rw [Buffer.peek, ← represented.contents, readable, slice_take _ _ _ _ (by omega)]

theorem peekWord_eq {value : BitVec (8 * count)} (enough : b.readableBytes ≥ count)
    (bytes : b.peek count = bigEndian count value.toInt) :
    b.peekWord host count (swapped host count) = some value := by
  simp [peekWord, enough, bytes, swapped_copied]

theorem peekInt8_eq {value : BitVec 8} (enough : b.readableBytes ≥ 1)
    (bytes : b.peek 1 = bigEndian 1 value.toInt) : b.peekInt8 = some value := by
  have first : b.buffer[b.readerIndex]? = (b.peek 1)[0]? := by simp [peek, slice]
  rw [bytes, bigEndian_byte, List.getElem?_cons_zero] at first
  simp [peekInt8, enough, first]

/-- An integer at the head of the queue is the next to be read. -/
theorem peekInt_represents {x : TypedInt} (represented : b.Represents (x.encoding ++ queue) spare) :
    b.peekInt host x.type = some x.value := by
  have enough : b.readableBytes ≥ x.type.size := by
    rw [represented.readableBytes, List.length_append, encoding_length]
    omega
  have bytes : b.peek x.type.size = x.encoding := by
    rw [represented.peek (by simp), List.take_append_of_le_length (by simp),
      List.take_of_length_le (by simp)]
  obtain ⟨type, value⟩ := x
  cases type with
  | int8 => exact peekInt8_eq enough bytes
  | int16 => exact peekWord_eq enough bytes
  | int32 => exact peekWord_eq enough bytes

/-- The three reads are one peek and one retrieve. -/
theorem readInt_eq (host : Endian) (b : Buffer) (type : IntType) :
    b.readInt host type = b.consume (b.peekInt host type) type.size := by
  cases type <;> rfl

/-- Reading the type in front succeeds and takes just its bytes. -/
theorem readInt_represents (host : Endian) {x : TypedInt}
    (represented : b.Represents (x.encoding ++ queue) spare) :
    ∃ rest, b.readInt host x.type = some (x.value, rest) ∧ rest.Represents queue spare := by
  obtain ⟨rest, retrieved, remaining⟩ :=
    retrieve_represents represented x.type.size (by simp)
  rw [List.drop_left' (encoding_length x)] at remaining
  refine ⟨rest, ?_, remaining⟩
  rw [readInt_eq, peekInt_represents represented]
  simp [consume, retrieved]

theorem guard_inv {condition : Prop} [Decidable condition] {result : Unit}
    (passed : (guard condition : Option Unit) = some result) : condition := by
  by_contra failed
  simp [failed] at passed

/-- What `peekInt` finds enough bytes for can be retrieved. -/
theorem peekInt_enough {type : IntType} {value : BitVec (8 * type.size)}
    (found : b.peekInt host type = some value) : type.size ≤ b.readableBytes := by
  cases type with
  | int8 | int16 | int32 =>
    obtain ⟨_, passed, _⟩ := Option.bind_eq_some_iff.mp found
    exact guard_inv passed

/-- Peeking returns what reading returns. -/
theorem readInt_fst (host : Endian) (b : Buffer) (type : IntType) :
    (b.readInt host type).map Prod.fst = b.peekInt host type := by
  rw [readInt_eq]
  cases found : b.peekInt host type with
  | none => rfl
  | some value =>
    have enough := peekInt_enough found
    obtain ⟨rest, retrieved⟩ : ∃ rest, b.retrieve type.size = some rest := by
      simp only [retrieve, enough, guard_true, Option.pure_def, Option.bind_eq_bind,
        Option.bind_some]
      split <;> exact ⟨_, rfl⟩
    simp [consume, retrieved]

/-! ## Sequences -/

/-- What may be done to a buffer without changing its contents. -/
inductive Upkeep where
  | ensureWriteableBytes (len : Nat)
  | shrink (reserve : Nat)

/-- Integers are appended while bytes in front of them are retrieved. -/
inductive Writing where
  | appendInt (x : TypedInt)
  | retrieve (len : Nat)
  | upkeep (operation : Upkeep)

/-- The operations of a reader. -/
inductive Reading where
  | readInt (type : IntType)
  | upkeep (operation : Upkeep)

def Upkeep.apply (b : Buffer) : Upkeep → Option Buffer
  | ensureWriteableBytes len => b.ensureWriteableBytes len
  | shrink reserve => b.shrink reserve

/-- The number of bytes that an operation may add to the vector. -/
def Upkeep.length : Upkeep → Nat
  | ensureWriteableBytes len => len
  | shrink reserve => reserve

namespace Writing

def apply (host : Endian) (b : Buffer) : Writing → Option Buffer
  | appendInt x => b.appendInt host x
  | retrieve len => b.retrieve len
  | upkeep operation => operation.apply b

def length : Writing → Nat
  | appendInt x => x.type.size
  | retrieve _ => 0
  | upkeep operation => operation.length

def appended : Writing → List TypedInt
  | appendInt x => [x]
  | _ => []

def retrieved : Writing → Nat
  | retrieve len => len
  | _ => 0

end Writing

namespace Reading

def apply (host : Endian) (b : Buffer) : Reading → Option (List TypedInt × Buffer)
  | readInt type => (b.readInt host type).map fun (value, rest) => ([⟨type, value⟩], rest)
  | upkeep operation => (operation.apply b).map fun rest => ([], rest)

def length : Reading → Nat
  | readInt _ => 0
  | upkeep operation => operation.length

def asked : Reading → List IntType
  | readInt type => [type]
  | _ => []

end Reading

/-- The operations of a writer, in order. -/
def writeAll (host : Endian) (b : Buffer) : List Writing → Option Buffer
  | [] => some b
  | operation :: rest => do
      let next ← operation.apply host b
      next.writeAll host rest

/-- The operations of a reader, with what they return. -/
def readAll (host : Endian) (b : Buffer) : List Reading → Option (List TypedInt × Buffer)
  | [] => some ([], b)
  | operation :: rest => do
      let (first, next) ← operation.apply host b
      let (others, final) ← next.readAll host rest
      return (first ++ others, final)

/-- Growing and shrinking keep what is readable. -/
theorem upkeep_represents (operation : Upkeep)
    (represented : b.Represents queue (operation.length + spare)) :
    ∃ next, operation.apply b = some next ∧ next.Represents queue spare := by
  cases operation with
  | ensureWriteableBytes len => exact ensureWriteableBytes_represents represented
  | shrink reserve => exact shrink_represents represented

/-- What was appended follows what is left of the bytes in front.

Proof: induction over the operations. As long as the bytes in front suffice for what is
retrieved, no operation touches an integer. -/
theorem writeAll_represents (host : Endian) (operations : List Writing) {front tail : List UInt8}
    (represented : b.Represents (front ++ tail) ((operations.map Writing.length).sum + spare))
    (enough : (operations.map Writing.retrieved).sum ≤ front.length) :
    ∃ written, b.writeAll host operations = some written ∧
      written.Represents (front.drop (operations.map Writing.retrieved).sum ++ tail ++
        (operations.flatMap Writing.appended).flatMap TypedInt.encoding) spare := by
  induction operations generalizing b front tail with
  | nil =>
    refine ⟨b, rfl, ?_⟩
    simpa using represented
  | cons operation rest ih =>
    rw [List.map_cons, List.sum_cons] at enough
    rw [List.map_cons, List.sum_cons, add_assoc] at represented
    cases operation with
    | appendInt x =>
      have room : b.Represents (front ++ tail)
          (x.encoding.length + ((rest.map Writing.length).sum + spare)) := by
        rw [encoding_length]
        exact represented
      obtain ⟨next, done, extended⟩ := append_represents room
      rw [List.append_assoc] at extended
      obtain ⟨written, finished, final⟩ :=
        ih extended (by simpa [Writing.retrieved] using enough)
      refine ⟨written, ?_, ?_⟩
      · simp [writeAll, Writing.apply, appendInt_eq, done, finished]
      · simpa [Writing.retrieved, Writing.appended] using final
    | retrieve len =>
      have within : len ≤ front.length := le_trans (Nat.le_add_right _ _) enough
      have unused := represented.weaken _ (Nat.le_add_left _ (Writing.length (.retrieve len)))
      obtain ⟨next, done, dropped⟩ := retrieve_represents unused len (by
        rw [List.length_append]
        omega)
      rw [List.drop_append_of_le_length within] at dropped
      obtain ⟨written, finished, final⟩ := ih dropped (by
        rw [List.length_drop]
        simp only [Writing.retrieved] at enough
        omega)
      refine ⟨written, ?_, ?_⟩
      · simp [writeAll, Writing.apply, done, finished]
      · simpa [Writing.retrieved, Writing.appended, List.drop_drop] using final
    | upkeep operation =>
      obtain ⟨next, done, same⟩ := upkeep_represents operation represented
      obtain ⟨written, finished, final⟩ :=
        ih same (by simpa [Writing.retrieved] using enough)
      refine ⟨written, ?_, ?_⟩
      · simp [writeAll, Writing.apply, done, finished]
      · simpa [Writing.retrieved, Writing.appended] using final

/-- Integers are read in the order in which they are in the queue.

Proof: induction over the operations. The next integer that is asked for has the type of the
first one in the queue. -/
theorem readAll_represents (host : Endian) (operations : List Reading) {ints : List TypedInt}
    (represented : b.Represents (ints.flatMap TypedInt.encoding)
      ((operations.map Reading.length).sum + spare))
    (asked : operations.flatMap Reading.asked = ints.map TypedInt.type) :
    ∃ final, b.readAll host operations = some (ints, final) ∧ final.Represents [] spare := by
  induction operations generalizing b ints with
  | nil =>
    have noInts : ints = [] := by simpa using asked.symm
    subst noInts
    exact ⟨b, rfl, by simpa using represented⟩
  | cons operation rest ih =>
    rw [List.map_cons, List.sum_cons, add_assoc] at represented
    rw [List.flatMap_cons] at asked
    cases operation with
    | readInt type =>
      cases ints with
      | nil => simp [Reading.asked] at asked
      | cons x others =>
        obtain ⟨rfl, later⟩ : type = x.type ∧
            rest.flatMap Reading.asked = others.map TypedInt.type := by
          simpa [Reading.asked] using asked
        have unused := represented.weaken _ (Nat.le_add_left _ (Reading.length (.readInt x.type)))
        obtain ⟨next, done, remaining⟩ := readInt_represents host unused
        obtain ⟨final, finished, empty⟩ := ih remaining later
        refine ⟨final, ?_, empty⟩
        simp [readAll, Reading.apply, done, finished]
    | upkeep operation =>
      obtain ⟨next, done, same⟩ := upkeep_represents operation represented
      obtain ⟨final, finished, empty⟩ := ih same asked
      refine ⟨final, ?_, empty⟩
      simp [readAll, Reading.apply, done, finished]

/-- The integer codec of a buffer, on any host.

Integers that are appended to a buffer, while the bytes in front of them are retrieved and
whatever is done about its space, are read back with their values, and nothing remains. Peeking
returns what reading returns. An integer that is prepended is the next one, and the rest stays.
The bytes of an integer are the digits of its two's complement, the most significant first.

Proof: the queue that a buffer represents consists of the bytes that are left in front and the
encodings of the integers. An encoding at the head of the queue is decoded to its integer. -/
theorem integers_round_trip (host : Endian) :
    (∀ (b : Buffer) (queue : List UInt8) (writing : List Writing) (reading : List Reading),
      b.Represents queue ((writing.map Writing.length).sum + (reading.map Reading.length).sum) →
      (writing.map Writing.retrieved).sum = queue.length →
      reading.flatMap Reading.asked = (writing.flatMap Writing.appended).map TypedInt.type →
        ∃ written final, b.writeAll host writing = some written ∧
          written.readAll host reading = some (writing.flatMap Writing.appended, final) ∧
          final.readable = [] ∧ final.readableBytes = 0) ∧
      (∀ (b : Buffer) (type : IntType),
        (b.readInt host type).map Prod.fst = b.peekInt host type) ∧
      (∀ (b : Buffer) (queue : List UInt8) (x : TypedInt),
        b.Represents queue x.type.size → x.type.size ≤ b.prependableBytes →
          ∃ prepended, b.prependInt host x = some prepended ∧
            prepended.peekInt host x.type = some x.value ∧
            prepended.readable = x.encoding ++ queue) ∧
      ∀ (b : Buffer) (queue : List UInt8) (x : TypedInt), b.Represents queue x.type.size →
        ∃ appended, b.appendInt host x = some appended ∧
          appended.readable = queue ++ x.encoding := by
  refine ⟨?_, readInt_fst host, ?_, ?_⟩
  · intro b queue writing reading represented everything asked
    have alone : b.Represents (queue ++ [])
        ((writing.map Writing.length).sum + (reading.map Reading.length).sum) := by
      rw [List.append_nil]
      exact represented
    obtain ⟨written, wrote, holds⟩ := writeAll_represents host writing alone everything.le
    rw [everything, List.drop_length, List.nil_append, List.nil_append] at holds
    have exactly : written.Represents
        ((writing.flatMap Writing.appended).flatMap TypedInt.encoding)
        ((reading.map Reading.length).sum + 0) := holds
    obtain ⟨final, read, empty⟩ := readAll_represents host reading exactly asked
    exact ⟨written, final, wrote, read, empty.contents, empty.readableBytes⟩
  · intro b queue x represented allowed
    have room : b.Represents queue (x.encoding.length + 0) := by
      rw [encoding_length]
      exact represented
    obtain ⟨prepended, done, holds⟩ := prepend_represents room (by rwa [encoding_length])
    rw [← prependInt_eq host] at done
    exact ⟨prepended, done, peekInt_represents holds, holds.contents⟩
  · intro b queue x represented
    have room : b.Represents queue (x.encoding.length + 0) := by
      rw [encoding_length]
      exact represented
    obtain ⟨appended, done, holds⟩ := append_represents room
    rw [← appendInt_eq host] at done
    exact ⟨appended, done, holds.contents⟩

/-- Negative integers of different types are written while the bytes in front of them are retrieved,
with changes of the vector in between. -/
def mixedWriting : List Writing :=
  [.appendInt ⟨.int32, -2⟩, .upkeep (.shrink 5), .retrieve 2, .appendInt ⟨.int8, -128⟩,
    .retrieve 1, .upkeep (.ensureWriteableBytes 2000), .appendInt ⟨.int16, 258⟩]

/-- The integers are read back in the order in which they were written. -/
def mixedReading : List Reading :=
  [.readInt .int32, .upkeep (.shrink 0), .readInt .int8, .readInt .int16]

/-- The integers come back behind the bytes that were there. -/
theorem integers_round_trip_mixed : ∃ b written final, new.append [7, 8, 9] = some b ∧
      b.writeAll .little mixedWriting = some written ∧
      written.readAll .little mixedReading =
        some ([⟨.int32, -2⟩, ⟨.int8, -128⟩, ⟨.int16, 258⟩], final) ∧
      final.readable = [] ∧ final.readableBytes = 0 := by
  have empty := (new_represents (([7, 8, 9] : List UInt8).length +
    ((mixedWriting.map Writing.length).sum + (mixedReading.map Reading.length).sum)) (by decide)).1
  obtain ⟨b, appended, holds⟩ := append_represents empty
  obtain ⟨written, final, round⟩ := (integers_round_trip .little).1 b [7, 8, 9] mixedWriting
    mixedReading holds rfl rfl
  exact ⟨b, written, final, appended, round⟩

example : TypedInt.encoding ⟨.int16, -2⟩ = [255, 254] := by decide

end Buffer

end Moban
