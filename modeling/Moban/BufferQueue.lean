import Moban.Runs
import Moban.Buffer

/-!
# The buffer refines a byte queue

The readable bytes are an abstract queue. Every operation succeeds on a well-formed
buffer whose lengths fit the machine word, keeps the buffer well formed, and changes
the queue as its name says: appending and receiving extend the tail, prepending the
head, retrieving drops from the head, and making space changes nothing.

The footprint of a buffer is its vector length together with the part of the cheap
prepend area already consumed. It bounds every sum that the source computes, and an
operation raises it by at most the length it was given. A finite sequence of
operations over a family of buffers therefore needs one bound on the total length.
-/

namespace Moban

open Slices Words Runs

namespace Buffer

/-- The bytes between the read and the write position. -/
def readable (b : Buffer) : List UInt8 := slice b.buffer b.readerIndex b.writeIndex

/-- The positions are ordered inside the vector, the write position never enters the
cheap prepend area, and the vector keeps its initial size. -/
structure WellFormed (b : Buffer) : Prop where
  ordered : b.readerIndex ≤ b.writeIndex
  header : kCheapprepend ≤ b.writeIndex
  inside : b.writeIndex ≤ b.buffer.length
  capacity : kCheapprepend + kInitialSize ≤ b.buffer.length

/-- Vector length plus the consumed part of the cheap prepend area. -/
def footprint (b : Buffer) : Nat := b.buffer.length + (kCheapprepend - b.readerIndex)

/-- A well-formed buffer holds the queue, and a further length still fits. -/
structure Represents (b : Buffer) (queue : List UInt8) (spare : Nat) : Prop where
  wellFormed : b.WellFormed
  contents : b.readable = queue
  fits : b.footprint + spare < modulus

section Sizes

variable {b : Buffer} (wellFormed : b.WellFormed) (small : b.buffer.length < modulus)

include wellFormed small

/-- The readable count of a well-formed buffer does not wrap. -/
theorem readableBytes_exact : b.readableBytes = b.writeIndex - b.readerIndex :=
  sub_exact _ _ wellFormed.ordered (Nat.lt_of_le_of_lt wellFormed.inside small)

/-- The free count of a well-formed buffer does not wrap. -/
theorem writeableBytes_exact : b.writeableBytes = b.buffer.length - b.writeIndex :=
  sub_exact _ _ wellFormed.inside small

end Sizes

variable {b : Buffer} {queue : List UInt8} {spare : Nat}

theorem readable_length (wellFormed : b.WellFormed) :
    b.readable.length = b.writeIndex - b.readerIndex :=
  slice_length _ _ _ wellFormed.inside

theorem Represents.small (represented : b.Represents queue spare) : b.buffer.length < modulus := by
  have fits := represented.fits
  simp only [footprint] at fits
  omega

theorem Represents.readableBytes
    (represented : b.Represents queue spare) : b.readableBytes = queue.length := by
  rw [readableBytes_exact represented.wellFormed represented.small, ← represented.contents,
    readable_length represented.wellFormed]

/-- A smaller requirement on the remaining lengths. -/
theorem Represents.weaken
    (represented : b.Represents queue spare) (less : Nat) (smaller : less ≤ spare) :
    b.Represents queue less := by
  have fits := represented.fits
  exact ⟨represented.wellFormed, represented.contents, by omega⟩

/-- The fresh buffer is an empty queue, and the constructor's three assertions hold. -/
theorem new_represents (spare : Nat) (fits : kCheapprepend + kInitialSize + spare < modulus) :
    new.Represents [] spare ∧ new.readableBytes = 0 ∧ new.writeableBytes = kInitialSize ∧
      new.prependableBytes = kCheapprepend := by
  have wellFormed : new.WellFormed := by
    refine ⟨Nat.le_refl _, Nat.le_refl _, ?_, ?_⟩ <;> simp only [new, List.length_replicate]
    · exact Nat.le_add_right _ _
    · exact Nat.le_refl _
  have small : new.buffer.length < modulus := by
    simp only [new, List.length_replicate]
    omega
  refine ⟨⟨wellFormed, by simp [readable, new], ?_⟩, ?_, ?_, rfl⟩
  · simpa [footprint, new] using fits
  · rw [readableBytes_exact wellFormed small]
    rfl
  · rw [writeableBytes_exact wellFormed small]
    simp [new]

/-- Enlarging keeps every stored byte and provides the free bytes. -/
theorem grow_exact {len : Nat} (wellFormed : b.WellFormed)
    (short : b.buffer.length - b.writeIndex < len) :
    let grown : Buffer := { b with buffer := resize b.buffer (b.writeIndex + len) }
    grown.WellFormed ∧ grown.readable = b.readable ∧
      grown.buffer.length = b.writeIndex + len := by
  have inside := wellFormed.inside
  have kept : b.buffer.take (b.writeIndex + len) = b.buffer := List.take_of_length_le (by omega)
  have length : (resize b.buffer (b.writeIndex + len)).length = b.writeIndex + len := by
    simp only [resize, kept, List.length_append, List.length_replicate]
    omega
  refine ⟨⟨wellFormed.ordered, wellFormed.header, ?_, ?_⟩, ?_, length⟩
  · simp only [length]
    omega
  · have capacity := wellFormed.capacity
    simp only [length]
    omega
  · simp only [readable, resize, kept]
    exact slice_append _ _ _ _ inside

/-- Sliding the readable bytes back to the cheap prepend offset keeps them all. -/
theorem slide_exact (wellFormed : b.WellFormed) (behind : kCheapprepend < b.readerIndex) :
    let moved : Buffer :=
      { buffer := move b.buffer b.readerIndex kCheapprepend (b.writeIndex - b.readerIndex)
        readerIndex := kCheapprepend
        writeIndex := kCheapprepend + (b.writeIndex - b.readerIndex) }
    moved.WellFormed ∧ moved.readable = b.readable ∧ moved.buffer.length = b.buffer.length := by
  have ordered := wellFormed.ordered
  have inside := wellFormed.inside
  refine ⟨⟨?_, ?_, ?_, ?_⟩, ?_, move_length _ _ _ _⟩
  · exact Nat.le_add_right _ _
  · exact Nat.le_add_right _ _
  · simp only [move_length]
    omega
  · simpa only [move_length] using wellFormed.capacity
  · simp only [readable]
    rw [slice_move _ _ _ _ (Nat.le_of_lt behind) (by omega)]
    congr 1
    omega

/-- Making space when the free bytes are too few. The source's test decides between
growing and sliding, and the assertion before sliding is implied by that test: too few
free bytes with enough free and consumed bytes together leave the read position
beyond the cheap prepend offset. -/
theorem makeSpace_exact {len : Nat} (wellFormed : b.WellFormed)
    (small : b.buffer.length < modulus) (sum : b.writeIndex + len < modulus)
    (short : b.buffer.length - b.writeIndex < len) :
    ∃ ready, b.makeSpace len = some ready ∧ ready.WellFormed ∧
      ready.readable = b.readable ∧ ready.writeIndex + len ≤ ready.buffer.length ∧
      ready.buffer.length ≤ max b.buffer.length (b.writeIndex + len) ∧
      min kCheapprepend b.readerIndex ≤ ready.readerIndex := by
  have ordered := wellFormed.ordered
  have header := wellFormed.header
  have inside := wellFormed.inside
  have free := writeableBytes_exact wellFormed small
  have total : add b.writeableBytes b.prependableBytes =
      b.buffer.length - b.writeIndex + b.readerIndex := by
    rw [free, prependableBytes]
    exact add_exact _ _ (by omega)
  have wanted : add len kCheapprepend = len + kCheapprepend := add_exact _ _ (by omega)
  have target : add b.writeIndex len = b.writeIndex + len := add_exact _ _ sum
  by_cases growing : b.buffer.length - b.writeIndex + b.readerIndex < len + kCheapprepend
  · obtain ⟨grown, same, length⟩ := grow_exact wellFormed short
    refine ⟨_, by simp only [makeSpace, total, wanted, target, growing, if_true], grown, same,
      ?_, ?_, ?_⟩
    · simp only [length]
      exact Nat.le_refl _
    · simp only [length]
      exact Nat.le_max_right _ _
    · exact Nat.min_le_right _ _
  · have behind : kCheapprepend < b.readerIndex := by omega
    have count := readableBytes_exact wellFormed small
    have position : add kCheapprepend (b.writeIndex - b.readerIndex) =
        kCheapprepend + (b.writeIndex - b.readerIndex) := add_exact _ _ (by omega)
    obtain ⟨moved, same, length⟩ := slide_exact wellFormed behind
    have recount := readableBytes_exact moved (by rw [length]; exact small)
    refine ⟨_, ?_, moved, same, ?_, ?_, ?_⟩
    · simp only [makeSpace, total, wanted, growing, if_false, behind, count, position, guard_true,
        Option.pure_def, Option.bind_eq_bind, Option.bind_some, recount, Nat.add_sub_cancel_left]
    · simp only [length]
      omega
    · simp only [length]
      exact Nat.le_max_left _ _
    · exact Nat.min_le_left _ _

/-- Enough free bytes make the request a plain check. -/
theorem ensureWriteableBytes_enough {len : Nat} (wellFormed : b.WellFormed)
    (small : b.buffer.length < modulus) (room : b.writeIndex + len ≤ b.buffer.length) :
    b.ensureWriteableBytes len = some b := by
  have enough : len ≤ b.writeableBytes := by
    rw [writeableBytes_exact wellFormed small]
    omega
  simp only [ensureWriteableBytes, if_neg (Nat.not_lt.mpr enough), enough, guard_true,
    Option.pure_def, Option.bind_eq_bind, Option.bind_some]

/-- Asking for free bytes always succeeds, keeps the queue and provides them. -/
theorem ensureWriteableBytes_exact (wellFormed : b.WellFormed)
    (small : b.buffer.length < modulus) (len : Nat) (sum : b.writeIndex + len < modulus) :
    ∃ ready, b.ensureWriteableBytes len = some ready ∧ ready.WellFormed ∧
      ready.readable = b.readable ∧ ready.writeIndex + len ≤ ready.buffer.length ∧
      ready.buffer.length ≤ max b.buffer.length (b.writeIndex + len) ∧
      min kCheapprepend b.readerIndex ≤ ready.readerIndex := by
  have free := writeableBytes_exact wellFormed small
  by_cases short : b.buffer.length - b.writeIndex < len
  · obtain ⟨ready, made, kept, same, room, bound, position⟩ :=
      makeSpace_exact wellFormed small sum short
    have enough : len ≤ ready.writeableBytes := by
      rw [writeableBytes_exact kept (by omega)]
      omega
    refine ⟨ready, ?_, kept, same, room, bound, position⟩
    simp [ensureWriteableBytes, free, short, made, enough]
  · have inside := wellFormed.inside
    have room : b.writeIndex + len ≤ b.buffer.length := by omega
    exact ⟨b, ensureWriteableBytes_enough wellFormed small room, wellFormed, rfl, room,
      Nat.le_max_left _ _, Nat.min_le_right _ _⟩

/-- Filling bytes at the write position extends the queue at its tail. -/
theorem write_represents (represented : b.Represents queue spare) (data : List UInt8)
    (room : b.writeIndex + data.length ≤ b.buffer.length) :
    ∃ written, b.write data = some written ∧ written.Represents (queue ++ data) spare ∧
      written.buffer.length = b.buffer.length ∧ written.readerIndex = b.readerIndex := by
  have small := represented.small
  have ordered := represented.wellFormed.ordered
  have header := represented.wellFormed.header
  have position : add b.writeIndex data.length = b.writeIndex + data.length :=
    add_exact _ _ (by omega)
  refine ⟨{ buffer := store b.buffer b.writeIndex data
            readerIndex := b.readerIndex
            writeIndex := b.writeIndex + data.length }, ?_, ⟨⟨?_, ?_, ?_, ?_⟩, ?_, ?_⟩, ?_, rfl⟩
  · simp [write, copyToWrite, hasWritten, room, position]
  · exact Nat.le_trans ordered (Nat.le_add_right _ _)
  · exact Nat.le_trans header (Nat.le_add_right _ _)
  · simpa using room
  · simpa using represented.wellFormed.capacity
  · rw [← represented.contents]
    exact slice_store_back _ _ _ _ ordered room
  · simpa [footprint] using represented.fits
  · simp

/-- Filling is a copy inside the vector followed by the report of its length. -/
theorem write_inv {b written : Buffer} {data : List UInt8} (wrote : b.write data = some written) :
    ∃ filled, b.copyToWrite data = some filled ∧ filled.writeIndex = b.writeIndex ∧
      filled.buffer.length = b.buffer.length ∧ filled.hasWritten data.length = written := by
  simp only [write, Option.bind_eq_bind, Option.pure_def, Option.bind_eq_some_iff,
    Option.some.injEq] at wrote
  obtain ⟨filled, copied, advanced⟩ := wrote
  have copying := copied
  simp only [copyToWrite, Option.bind_eq_bind, Option.bind_eq_some_iff, Option.pure_def,
    Option.some.injEq] at copying
  obtain ⟨_, _, rfl⟩ := copying
  exact ⟨_, copied, rfl, store_length _ _ _, advanced⟩

/-- Appending extends the queue at its tail and spends the appended length. -/
theorem append_represents {queue data : List UInt8}
    (represented : b.Represents queue (data.length + spare)) :
    ∃ appended, b.append data = some appended ∧ appended.Represents (queue ++ data) spare := by
  have fits := represented.fits
  have inside := represented.wellFormed.inside
  simp only [footprint] at fits
  obtain ⟨ready, ensured, kept, same, room, bound, position⟩ :=
    ensureWriteableBytes_exact represented.wellFormed represented.small
      data.length (by omega)
  have prepared : ready.Represents queue spare := by
    refine ⟨kept, same.trans represented.contents, ?_⟩
    simp only [footprint]
    omega
  obtain ⟨written, wrote, result, _⟩ := write_represents prepared _ room
  refine ⟨written, ?_, result⟩
  simpa [append, ensured, write] using wrote

/-- Reserving free bytes leaves the queue unchanged. -/
theorem ensureWriteableBytes_represents {len spare : Nat}
    (represented : b.Represents queue (len + spare)) :
    ∃ ready, b.ensureWriteableBytes len = some ready ∧ ready.Represents queue spare := by
  have fits := represented.fits
  have inside := represented.wellFormed.inside
  simp only [footprint] at fits
  obtain ⟨ready, ensured, kept, same, room, bound, position⟩ :=
    ensureWriteableBytes_exact represented.wellFormed represented.small len (by omega)
  refine ⟨ready, ensured, kept, same.trans represented.contents, ?_⟩
  simp only [footprint]
  omega

/-- Prepending within the prependable bytes extends the queue at its head. The
consumed prepend area is charged to the footprint. -/
theorem prepend_represents {queue data : List UInt8}
    (represented : b.Represents queue (data.length + spare))
    (allowed : data.length ≤ b.prependableBytes) :
    ∃ prepended, b.prepend data = some prepended ∧
      prepended.Represents (data ++ queue) spare := by
  have small := represented.small
  have fits := represented.fits
  have ordered := represented.wellFormed.ordered
  have inside := represented.wellFormed.inside
  simp only [prependableBytes] at allowed
  simp only [footprint] at fits
  have position : sub b.readerIndex data.length = b.readerIndex - data.length :=
    sub_exact _ _ allowed (by omega)
  have restored : b.readerIndex - data.length + data.length = b.readerIndex := by omega
  refine ⟨{ buffer := store b.buffer (b.readerIndex - data.length) data
            readerIndex := b.readerIndex - data.length
            writeIndex := b.writeIndex }, ?_, ⟨⟨?_, ?_, ?_, ?_⟩, ?_, ?_⟩⟩
  · have reach : b.readerIndex ≤ b.buffer.length := by omega
    simp [prepend, prependableBytes, allowed, position, restored, reach]
  · exact Nat.le_trans (Nat.sub_le _ _) ordered
  · exact represented.wellFormed.header
  · simpa using inside
  · simpa using represented.wellFormed.capacity
  · rw [← represented.contents]
    have front := slice_store_front b.buffer data (b.readerIndex - data.length) b.writeIndex
      (by omega) inside
    rw [restored] at front
    exact front
  · simp only [footprint, store_length]
    omega

/-- Both positions return to the cheap prepend offset and the queue is empty. -/
theorem retrieveAll_represents
    (represented : b.Represents queue spare) : b.retrieveAll.Represents [] spare := by
  have fits := represented.fits
  have capacity := represented.wellFormed.capacity
  simp only [footprint] at fits
  refine ⟨⟨Nat.le_refl _, Nat.le_refl _, ?_, capacity⟩, slice_empty _ _, ?_⟩
  · exact Nat.le_trans (Nat.le_add_right _ _) capacity
  · simp only [footprint, retrieveAll, Nat.sub_self]
    omega

/-- Retrieving drops exactly the given number of bytes from the head. Retrieving
everything resets the positions instead of advancing them. -/
theorem retrieve_represents
    (represented : b.Represents queue spare) (len : Nat) (allowed : len ≤ queue.length) :
    ∃ rest, b.retrieve len = some rest ∧ rest.Represents (queue.drop len) spare := by
  have count := represented.readableBytes
  by_cases partly : len < queue.length
  · have small := represented.small
    have fits := represented.fits
    have inside := represented.wellFormed.inside
    simp only [footprint] at fits
    have width : queue.length = b.writeIndex - b.readerIndex := by
      rw [← represented.contents, readable_length represented.wellFormed]
    have position : add b.readerIndex len = b.readerIndex + len := add_exact _ _ (by omega)
    refine ⟨{ b with readerIndex := b.readerIndex + len }, ?_, ⟨⟨?_, ?_, inside, ?_⟩, ?_, ?_⟩⟩
    · simp [retrieve, count, allowed, partly, position]
    · simp only
      omega
    · exact represented.wellFormed.header
    · exact represented.wellFormed.capacity
    · rw [← represented.contents]
      exact (slice_drop _ _ _ _).symm
    · simp only [footprint]
      omega
  · have everything : queue.drop len = [] := List.drop_eq_nil_of_le (by omega)
    refine ⟨b.retrieveAll, ?_, ?_⟩
    · simp [retrieve, count, allowed, partly]
    · rw [everything]
      exact retrieveAll_represents represented

/-- A retrieved string is the head of the queue that the retrieval drops. -/
theorem retrieveAsString_represents
    (represented : b.Represents queue spare) (len : Nat) (allowed : len ≤ queue.length) :
    ∃ rest, b.retrieveAsString len = some (queue.take len, rest) ∧
      rest.Represents (queue.drop len) spare := by
  obtain ⟨rest, retrieved, result⟩ := retrieve_represents represented len allowed
  have count := represented.readableBytes
  have width : queue.length = b.writeIndex - b.readerIndex := by
    rw [← represented.contents, readable_length represented.wellFormed]
  have ordered := represented.wellFormed.ordered
  have taken : slice b.buffer b.readerIndex (b.readerIndex + len) = queue.take len := by
    rw [← represented.contents, readable, slice_take _ _ _ _ (by omega)]
  refine ⟨rest, ?_, result⟩
  simp [retrieveAsString, count, allowed, taken, retrieved]

/-- Retrieving up to a position drops the bytes before it. -/
theorem retrieveUntil_represents {stop spare : Nat}
    (represented : b.Represents queue spare) (from_ : b.readerIndex ≤ stop)
    (upto : stop ≤ b.writeIndex) :
    ∃ rest, b.retrieveUntil stop = some rest ∧
      rest.Represents (queue.drop (stop - b.readerIndex)) spare := by
  have inside := represented.wellFormed.inside
  have width : queue.length = b.writeIndex - b.readerIndex := by
    rw [← represented.contents, readable_length represented.wellFormed]
  have offset : sub stop b.readerIndex = stop - b.readerIndex :=
    sub_exact _ _ from_ (Nat.lt_of_le_of_lt (Nat.le_trans upto inside) represented.small)
  obtain ⟨rest, retrieved, result⟩ :=
    retrieve_represents represented (stop - b.readerIndex) (by omega)
  refine ⟨rest, ?_, result⟩
  simp [retrieveUntil, from_, upto, offset, retrieved]

/-- Shrinking moves the queue to a fresh buffer with the requested reserve.

Proof: the fresh buffer is asked for the readable bytes and the reserve, so the
following append finds its room without growing. Its vector is at most the larger of
the initial size and the requested one, which the old footprint already covers. -/
theorem shrink_represents {reserve spare : Nat}
    (represented : b.Represents queue (reserve + spare)) :
    ∃ shrunk, b.shrink reserve = some shrunk ∧ shrunk.Represents queue spare := by
  have fits := represented.fits
  have ordered := represented.wellFormed.ordered
  have inside := represented.wellFormed.inside
  have capacity := represented.wellFormed.capacity
  have count := represented.readableBytes
  have width : queue.length = b.writeIndex - b.readerIndex := by
    rw [← represented.contents, readable_length represented.wellFormed]
  simp only [footprint] at fits
  have requested : add queue.length reserve = queue.length + reserve := add_exact _ _ (by omega)
  obtain ⟨fresh, _⟩ := new_represents 0 (by omega)
  have position : new.writeIndex = kCheapprepend := rfl
  have start : new.readerIndex = kCheapprepend := rfl
  have initial : new.buffer.length = kCheapprepend + kInitialSize := by simp [new]
  obtain ⟨ready, ensured, kept, same, room, bound, reader⟩ :=
    ensureWriteableBytes_exact fresh.wellFormed fresh.small (queue.length + reserve)
      (by omega)
  have vacant : ready.Represents [] spare := by
    refine ⟨kept, same.trans fresh.contents, ?_⟩
    simp only [footprint]
    omega
  have space : ready.writeIndex + queue.length ≤ ready.buffer.length := by omega
  obtain ⟨filled, wrote, result, _⟩ := write_represents vacant _ space
  have appended : ready.append queue = some filled := by
    simpa [append, ensureWriteableBytes_enough kept vacant.small space, write] using wrote
  obtain ⟨emptied, taken, _⟩ :=
    retrieveAsString_represents represented queue.length (Nat.le_refl _)
  rw [List.take_length] at taken
  refine ⟨filled, ?_, result⟩
  simp [shrink, count, requested, ensured, retrieveAllAsString, taken, appended, swap]

/-- Receiving adds exactly the delivered bytes at the tail, whether or not they fit
the free bytes of the vector; an error or the end of the stream adds nothing.

Proof: the first bytes fill the free part of the vector. When bytes remain, the write
position is the end of the vector and the rest is appended from the stack buffer. -/
theorem readFd_represents {queue bytes : List UInt8}
    (represented : b.Represents queue (bytes.length + spare)) :
    ∃ received, b.readFd (.delivered bytes) = some (none, received) ∧
      received.Represents (queue ++ bytes) spare := by
  have small := represented.small
  have inside := represented.wellFormed.inside
  have free := writeableBytes_exact represented.wellFormed small
  by_cases fitting : bytes.length ≤ b.writeableBytes
  · have whole : bytes.take b.writeableBytes = bytes := List.take_of_length_le fitting
    obtain ⟨written, wrote, result, _⟩ :=
      write_represents (represented.weaken spare (by omega)) bytes (by omega)
    obtain ⟨filled, filling, _, _, advanced⟩ := write_inv wrote
    refine ⟨written, ?_, result⟩
    simp [readFd, whole, filling, fitting, advanced]
  · have head : (bytes.take b.writeableBytes).length = b.writeableBytes := by
      simp only [List.length_take]
      omega
    obtain ⟨written, wrote, partly, _⟩ :=
      write_represents represented (bytes.take b.writeableBytes) (by omega)
    obtain ⟨filled, filling, position, length, advanced⟩ := write_inv wrote
    -- Advancing over all free bytes is the source's jump to the end of the vector.
    have jump : filled.hasWritten (bytes.take b.writeableBytes).length =
        { filled with writeIndex := filled.buffer.length } := by
      rw [hasWritten, head, position, length, free, add_exact _ _ (by omega)]
      congr 1
      omega
    rw [← advanced, jump] at partly
    have rest : (bytes.drop b.writeableBytes).length + spare ≤ bytes.length + spare := by
      simp only [List.length_drop]
      omega
    obtain ⟨received, appended, result⟩ := append_represents (partly.weaken _ rest)
    rw [List.append_assoc, List.take_append_drop] at result
    refine ⟨received, ?_, result⟩
    simp [readFd, filling, fitting, appended]

/-- The public operations on one buffer. The end pointer of `retrieveUntil` is given
by its distance from the first readable byte. -/
inductive Op where
  | append (data : List UInt8)
  | prepend (data : List UInt8)
  | retrieve (len : Nat)
  | retrieveUntil (len : Nat)
  | retrieveAsString (len : Nat)
  | retrieveAll
  | ensureWriteableBytes (len : Nat)
  | write (data : List UInt8)
  | shrink (reserve : Nat)
  | readFd (outcome : Readv)

namespace Op

def apply (b : Buffer) : Op → Option Buffer
  | .append data => b.append data
  | .prepend data => b.prepend data
  | .retrieve len => b.retrieve len
  | .retrieveUntil len => b.retrieveUntil (b.readerIndex + len)
  | .retrieveAsString len => (b.retrieveAsString len).map Prod.snd
  | .retrieveAll => some b.retrieveAll
  | .ensureWriteableBytes len => b.ensureWriteableBytes len
  | .write data => b.write data
  | .shrink reserve => b.shrink reserve
  | .readFd outcome => (b.readFd outcome).map Prod.snd

/-- What a caller must respect. A scatter read delivers no more than the free bytes
and the stack buffer hold. -/
def Allowed (b : Buffer) : Op → Prop
  | .prepend data => data.length ≤ b.prependableBytes
  | .retrieve len | .retrieveUntil len | .retrieveAsString len => len ≤ b.readableBytes
  | .write data => data.length ≤ b.writeableBytes
  | .readFd (.delivered bytes) => bytes.length ≤ b.writeableBytes + extrabuffSize
  | _ => True

instance (b : Buffer) : (op : Op) → Decidable (op.Allowed b)
  | .prepend data => inferInstanceAs (Decidable (data.length ≤ b.prependableBytes))
  | .retrieve len | .retrieveUntil len | .retrieveAsString len =>
      inferInstanceAs (Decidable (len ≤ b.readableBytes))
  | .write data => inferInstanceAs (Decidable (data.length ≤ b.writeableBytes))
  | .readFd (.delivered bytes) =>
      inferInstanceAs (Decidable (bytes.length ≤ b.writeableBytes + extrabuffSize))
  | .append _ | .retrieveAll | .ensureWriteableBytes _ | .shrink _ | .readFd (.failed _) =>
      instDecidableTrue

/-- The length that an operation may add to the sizes the source computes. -/
def length : Op → Nat
  | .append data | .prepend data => data.length
  | .ensureWriteableBytes len | .shrink len => len
  | .readFd (.delivered bytes) => bytes.length
  | _ => 0

/-- The meaning of an operation on the abstract byte queue. -/
def onQueue (queue : List UInt8) : Op → List UInt8
  | .append data | .write data => queue ++ data
  | .prepend data => data ++ queue
  | .retrieve len | .retrieveUntil len | .retrieveAsString len => queue.drop len
  | .retrieveAll => []
  | .ensureWriteableBytes _ | .shrink _ => queue
  | .readFd (.delivered bytes) => queue ++ bytes
  | .readFd (.failed _) => queue

/-- Every allowed operation succeeds and acts on the abstract queue as named. -/
theorem apply_represents (op : Op)
    (represented : b.Represents queue (op.length + spare)) (allowed : op.Allowed b) :
    ∃ next, op.apply b = some next ∧ next.Represents (op.onQueue queue) spare := by
  have count := represented.readableBytes
  have relaxed : b.Represents queue spare := represented.weaken _ (Nat.le_add_left _ _)
  cases op with
  | append data => exact append_represents represented
  | prepend data => exact prepend_represents represented allowed
  | retrieve len => exact retrieve_represents relaxed len (count ▸ allowed)
  | retrieveUntil len =>
    have bounded : len ≤ queue.length := count ▸ allowed
    have width : queue.length = b.writeIndex - b.readerIndex := by
      rw [← represented.contents, readable_length represented.wellFormed]
    have ordered := represented.wellFormed.ordered
    obtain ⟨rest, retrieved, result⟩ :=
      retrieveUntil_represents relaxed (Nat.le_add_right _ len) (by omega)
    rw [Nat.add_sub_cancel_left] at result
    exact ⟨rest, retrieved, result⟩
  | retrieveAsString len =>
    have bounded : len ≤ queue.length := count ▸ allowed
    obtain ⟨rest, retrieved, result⟩ := retrieveAsString_represents relaxed _ bounded
    exact ⟨rest, by simp [apply, retrieved], result⟩
  | retrieveAll => exact ⟨_, rfl, retrieveAll_represents relaxed⟩
  | ensureWriteableBytes len => exact ensureWriteableBytes_represents represented
  | write data =>
    have free := writeableBytes_exact represented.wellFormed represented.small
    have inside := represented.wellFormed.inside
    have bounded : data.length ≤ b.writeableBytes := allowed
    obtain ⟨written, wrote, result, _⟩ := write_represents relaxed data (by omega)
    exact ⟨written, wrote, result⟩
  | shrink reserve => exact shrink_represents represented
  | readFd outcome =>
    cases outcome with
    | failed errno => exact ⟨b, rfl, relaxed⟩
    | delivered bytes =>
      obtain ⟨received, reading, result⟩ := readFd_represents represented
      exact ⟨received, by simp [apply, reading], result⟩

end Op

/-- One step over a family of buffers: an operation on a member, or a swap. -/
inductive Action (ι : Type) where
  | on (index : ι) (op : Op)
  | swap (left right : ι)

section Family

variable {ι : Type} [DecidableEq ι]

def Action.length : Action ι → Nat
  | .on _ op => op.length
  | .swap _ _ => 0

/-- A family of buffers whose members are operated on one at a time. -/
def family : System (ι → Buffer) (Action ι) where
  step buffers
    | .on index op => (op.apply (buffers index)).map (Function.update buffers index)
    | .swap left right =>
        let (first, second) := (buffers left).swap (buffers right)
        some (Function.update (Function.update buffers left first) right second)
  enabled buffers
    | .on index op => op.Allowed (buffers index)
    | .swap _ _ => True

instance (buffers : ι → Buffer) : (action : Action ι) → Decidable (family.enabled buffers action)
  | .on index op => inferInstanceAs (Decidable (op.Allowed (buffers index)))
  | .swap .. => instDecidableTrue

/-- The same step over a family of abstract queues. -/
def onQueues (queues : ι → List UInt8) : Action ι → ι → List UInt8
  | .on index op => Function.update queues index (op.onQueue (queues index))
  | .swap left right =>
      Function.update (Function.update queues left (queues right)) right (queues left)

/-- One step of the family is simulated by the queues and spends its length. -/
theorem family_simulated (buffers : ι → Buffer) (queues : ι → List UInt8) (action : Action ι)
    (spare : Nat)
    (represented : ∀ index, (buffers index).Represents (queues index) (action.length + spare))
    (allowed : family.enabled buffers action) :
    ∃ next, family.step buffers action = some next ∧
      ∀ index, (next index).Represents (onQueues queues action index) spare := by
  cases action with
  | on target op =>
    obtain ⟨result, applied, refined⟩ := op.apply_represents (represented target) allowed
    refine ⟨Function.update buffers target result, by simp [family, applied], ?_⟩
    intro index
    by_cases same : index = target
    · subst same
      simpa [onQueues] using refined
    · simpa [onQueues, same] using (represented index).weaken _ (Nat.le_add_left _ _)
  | swap left right =>
    refine ⟨_, rfl, ?_⟩
    have relaxed : ∀ index, (buffers index).Represents (queues index) spare :=
      fun index => (represented index).weaken _ (Nat.le_add_left _ _)
    intro index
    by_cases atRight : index = right
    · subst atRight
      simpa [onQueues, swap] using relaxed left
    · by_cases atLeft : index = left
      · subst atLeft
        simpa [onQueues, swap, atRight] using relaxed right
      · simpa [onQueues, swap, atRight, atLeft] using relaxed index

/-- A family of fresh buffers refines a family of empty byte queues. Every allowed
finite sequence of operations and swaps whose lengths fit the machine word succeeds,
so none of the class's assertions fails; every buffer keeps its positions ordered
inside a vector of at least the initial size, and its readable bytes are the queue. -/
theorem family_refines_queues (actions : List (Action ι))
    (fits : kCheapprepend + kInitialSize + (actions.map Action.length).sum < modulus)
    (valid : family.Valid (fun _ => new) actions) :
    ∃ buffers, family.run (fun _ => new) actions = some buffers ∧
      ∀ index, (buffers index).readerIndex ≤ (buffers index).writeIndex ∧
        (buffers index).writeIndex ≤ (buffers index).buffer.length ∧
        kCheapprepend + kInitialSize ≤ (buffers index).buffer.length ∧
        (buffers index).readable = actions.foldl onQueues (fun _ => []) index := by
  have initial : ∀ index : ι,
      (new).Represents ((fun _ : ι => ([] : List UInt8)) index) (actions.map Action.length).sum :=
    fun _ => (new_represents _ fits).1
  obtain ⟨buffers, finished, represented⟩ :=
    family.run_simulates
      (fun buffers queues spare => ∀ index : ι, (buffers index).Represents (queues index) spare)
      onQueues Action.length family_simulated (fun _ => new) (fun _ => []) actions initial valid
  refine ⟨buffers, finished, ?_⟩
  intro index
  obtain ⟨wellFormed, contents, _⟩ := represented index
  exact ⟨wellFormed.ordered, wellFormed.inside, wellFormed.capacity, contents⟩

end Family

/-- Appending, prepending, receiving into another buffer, swapping the two and then
retrieving, with the queue that remains. -/
theorem family_refines_queues_mixed : let actions : List (Action Bool) :=
      [.on false (.append [1, 2, 3]), .on false (.prepend [9]),
        .on true (.readFd (.delivered [7])), .swap false true, .on true (.retrieve 2),
        .on true (.shrink 4)]
    ∃ buffers, family.run (fun _ => new) actions = some buffers ∧
      (buffers true).readable = [2, 3] ∧ (buffers false).readable = [7] := by
  intro actions
  obtain ⟨buffers, finished, refined⟩ :=
    family_refines_queues actions (by decide) (by decide +kernel)
  exact ⟨buffers, finished, (refined true).2.2.2, (refined false).2.2.2⟩

end Buffer

end Moban
