import Moban.Slices
import Moban.Words

/-!
# The growable byte buffer

A vector of bytes with a read and a write position. The readable bytes lie between
the positions, the free bytes after the write position, and everything before the
read position may be used for prepending. Growing either enlarges the vector or
slides the readable bytes back to the cheap-prepend offset.

Positions are 64-bit sizes and every sum and difference wraps as in the source.
An operation without a result has failed: one of the source's assertions does not
hold, or a copy would leave the vector. Allocation is assumed to succeed, and
vector lengths are the only machine limit that remains.
-/

namespace Moban

open Slices Words

/-- Bytes reserved in front of the readable range of a fresh buffer. -/
def kCheapprepend : Nat := 8

/-- Free bytes of a fresh buffer. -/
def kInitialSize : Nat := 1024

/-- Size of the stack buffer that catches what the vector cannot hold. -/
def extrabuffSize : Nat := 65536

/-- A vector and the range of it that is readable. -/
structure Buffer where
  buffer : List UInt8
  readerIndex : Nat
  writeIndex : Nat
deriving DecidableEq

/-- What one scatter read returns: an error with its code, or the bytes delivered.
No byte delivered is the end of the stream. -/
inductive Readv where
  | failed (errno : Nat)
  | delivered (bytes : List UInt8)
deriving DecidableEq

/-- The return value of the scatter read. -/
def Readv.count : Readv → Int
  | .failed _ => -1
  | .delivered bytes => bytes.length

namespace Buffer

/-- Nothing is readable. -/
def new : Buffer where
  buffer := List.replicate (kCheapprepend + kInitialSize) 0
  readerIndex := kCheapprepend
  writeIndex := kCheapprepend

/-- `swap` exchanges the contents. -/
def swap (left right : Buffer) : Buffer × Buffer := (right, left)

/-- The number of bytes to read. -/
def readableBytes (b : Buffer) : Nat := sub b.writeIndex b.readerIndex

/-- The room behind them. -/
def writeableBytes (b : Buffer) : Nat := sub b.buffer.length b.writeIndex

/-- The room in front of them. -/
def prependableBytes (b : Buffer) : Nat := b.readerIndex

/-- Everything is taken, and the room in front is restored. -/
def retrieveAll (b : Buffer) : Buffer :=
  { b with readerIndex := kCheapprepend, writeIndex := kCheapprepend }

/-- Bytes are taken from the front. -/
def retrieve (b : Buffer) (len : Nat) : Option Buffer := do
  guard (len ≤ b.readableBytes)
  if len < b.readableBytes then
    return { b with readerIndex := add b.readerIndex len }
  else
    return b.retrieveAll

/-- The end pointer is its offset from the first byte of the vector. -/
def retrieveUntil (b : Buffer) (stop : Nat) : Option Buffer := do
  guard (b.readerIndex ≤ stop)
  guard (stop ≤ b.writeIndex)
  b.retrieve (sub stop b.readerIndex)

/-- The bytes that are taken are returned. -/
def retrieveAsString (b : Buffer) (len : Nat) : Option (List UInt8 × Buffer) := do
  guard (len ≤ b.readableBytes)
  let result := slice b.buffer b.readerIndex (b.readerIndex + len)
  let rest ← b.retrieve len
  return (result, rest)

/-- Everything is taken and returned. -/
def retrieveAllAsString (b : Buffer) : Option (List UInt8 × Buffer) :=
  b.retrieveAsString b.readableBytes

/-- Resizing a vector keeps its leading bytes and fills with zeros. -/
def resize (bytes : List UInt8) (size : Nat) : List UInt8 :=
  bytes.take size ++ List.replicate (size - bytes.length) 0

/-- The vector grows, or the readable bytes move to the front. -/
def makeSpace (b : Buffer) (len : Nat) : Option Buffer :=
  if add b.writeableBytes b.prependableBytes < add len kCheapprepend then
    some { b with buffer := resize b.buffer (add b.writeIndex len) }
  else do
    guard (kCheapprepend < b.readerIndex)
    let readable := b.readableBytes
    let moved : Buffer :=
      { buffer := move b.buffer b.readerIndex kCheapprepend (b.writeIndex - b.readerIndex)
        readerIndex := kCheapprepend
        writeIndex := add kCheapprepend readable }
    guard (moved.readableBytes = readable)
    return moved

/-- Make room behind the readable bytes if there is too little. -/
def ensureWriteableBytes (b : Buffer) (len : Nat) : Option Buffer := do
  let ready ← if b.writeableBytes < len then b.makeSpace len else some b
  guard (len ≤ ready.writeableBytes)
  return ready

/-- Bytes behind the readable ones become readable. -/
def hasWritten (b : Buffer) (len : Nat) : Buffer :=
  { b with writeIndex := add b.writeIndex len }

/-- Copy bytes to the write position; the vector must reach far enough. -/
def copyToWrite (b : Buffer) (data : List UInt8) : Option Buffer := do
  guard (b.writeIndex + data.length ≤ b.buffer.length)
  return { b with buffer := store b.buffer b.writeIndex data }

/-- Bytes are put behind the readable ones. -/
def append (b : Buffer) (data : List UInt8) : Option Buffer := do
  let ready ← b.ensureWriteableBytes data.length
  let copied ← ready.copyToWrite data
  return copied.hasWritten data.length

/-- A caller fills bytes at the write position and then reports their number. -/
def write (b : Buffer) (data : List UInt8) : Option Buffer := do
  let copied ← b.copyToWrite data
  return copied.hasWritten data.length

/-- Bytes are put in front of the readable ones. -/
def prepend (b : Buffer) (data : List UInt8) : Option Buffer := do
  guard (data.length ≤ b.prependableBytes)
  let readerIndex := sub b.readerIndex data.length
  guard (readerIndex + data.length ≤ b.buffer.length)
  return { b with buffer := store b.buffer readerIndex data, readerIndex := readerIndex }

/-- The contents move to a fresh buffer with the room that is asked for. -/
def shrink (b : Buffer) (reserve : Nat) : Option Buffer := do
  let other ← new.ensureWriteableBytes (add b.readableBytes reserve)
  let (contents, emptied) ← b.retrieveAllAsString
  let other ← other.append contents
  return (swap emptied other).1

/-- The kernel fills the free bytes of the vector first and the stack buffer next.
The result carries the saved error code, if any. -/
def readFd (b : Buffer) (outcome : Readv) : Option (Option Nat × Buffer) :=
  match outcome with
  | .failed errno => some (some errno, b)
  | .delivered bytes => do
      let writable := b.writeableBytes
      let filled ← b.copyToWrite (bytes.take writable)
      let received ←
        if bytes.length ≤ writable then some (filled.hasWritten bytes.length)
        else
          let full : Buffer := { filled with writeIndex := filled.buffer.length }
          full.append (bytes.drop writable)
      return (none, received)

end Buffer

end Moban
