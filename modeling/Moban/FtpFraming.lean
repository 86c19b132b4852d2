import Moban.BufferQueue
import Moban.Delimiters

/-!
# The lines of the control connection

`onMessage` takes every complete line out of the input buffer and hands it to `handleCommand`.
What is left has no line end. If it is longer than a limit, the connection is closed by force and
nothing more is delivered. The limit is tested only when no line end is buffered, so that a long
line passes if it arrives together with its end, and closes the connection if a delivery ends
before its end has arrived.

The input buffer is the byte queue that it has been shown to be; the same function over the
buffer itself is related to it at the end. The lines, and whether the connection is closed, do
not depend on how the stream is cut into deliveries exactly if every line that is followed by a
line end is shorter than the limit.
-/

namespace Moban

open Delimiters

namespace FtpSession

/-- What `onMessage` does to a buffer: the lines it handles, what it leaves, and whether it
closes the connection. -/
structure Framing where
  lines : List (List UInt8)
  rest : List UInt8
  closed : Bool
deriving DecidableEq

/-- The loop of `onMessage`. It takes at least two bytes at a time, and without a line end it keeps
at most 4096 bytes. -/
def takeLines : Nat → List UInt8 → Framing
  | 0, buffer => { lines := [], rest := buffer, closed := false }
  | fuel + 1, buffer =>
      if buffer.length = 0 then { lines := [], rest := buffer, closed := false }
      else
        match find 13 10 buffer with
        | none => { lines := [], rest := buffer, closed := decide (4096 < buffer.length) }
        | some crlf =>
            let later := takeLines fuel (buffer.drop (crlf + 2))
            { later with lines := buffer.take crlf :: later.lines }

def onMessage (buffer : List UInt8) : Framing := takeLines (buffer.length + 1) buffer

/-- The control connection of a session: its input buffer, the lines that were handled, and
whether it was closed by force. -/
structure Control where
  buffer : List UInt8
  lines : List (List UInt8)
  closed : Bool
deriving DecidableEq

namespace Control

def initial : Control := { buffer := [], lines := [], closed := false }

/-- A piece of the stream arrives. Nothing is delivered after a forced close. -/
def receive (c : Control) (piece : List UInt8) : Control :=
  if c.closed then c
  else
    let framing := onMessage (c.buffer ++ piece)
    { buffer := framing.rest, lines := c.lines ++ framing.lines, closed := framing.closed }

def receiveAll (pieces : List (List UInt8)) : Control := pieces.foldl receive initial

end Control

/-! ## One delivery -/

/-- The loop takes all lines, and looks at the length of what is left.

Proof: induction over the number of turns, which suffices since every line takes two bytes. -/
theorem takeLines_frames {fuel : Nat} {buffer : List UInt8} (enough : buffer.length < fuel) :
    Frames 13 10 buffer (takeLines fuel buffer).lines (takeLines fuel buffer).rest ∧
      (takeLines fuel buffer).closed = decide (4096 < (takeLines fuel buffer).rest.length) := by
  induction fuel generalizing buffer with
  | zero => omega
  | succ fuel ih =>
    rw [takeLines]
    split
    case isTrue empty =>
      rw [List.length_eq_zero_iff.mp empty]
      exact ⟨.rest free_nil, rfl⟩
    · cases found : find 13 10 buffer with
      | none => exact ⟨.rest (find_eq_none_iff.mp found), rfl⟩
      | some crlf =>
        obtain ⟨line, more, rfl, length, free⟩ := find_inv found
        have taken : (line ++ 13 :: 10 :: more).take crlf = line := by simp [← length]
        have dropped : (line ++ 13 :: 10 :: more).drop (crlf + 2) = more := by
          simp [← length, List.drop_append]
        have shorter : more.length < fuel := by
          simp at enough
          omega
        obtain ⟨frames, closed⟩ := ih shorter
        simp only [taken, dropped]
        exact ⟨.text free frames, closed⟩

theorem onMessage_frames (buffer : List UInt8) :
    Frames 13 10 buffer (onMessage buffer).lines (onMessage buffer).rest ∧
      (onMessage buffer).closed = decide (4096 < (onMessage buffer).rest.length) :=
  takeLines_frames (Nat.lt_succ_self _)

/-! ## All deliveries -/

namespace Control

/-- What the connection has made of a stream: all of it was framed, or the connection was closed
at some point of it. -/
inductive Received (stream : List UInt8) : Control → Prop where
  | opened {buffer : List UInt8} {lines : List (List UInt8)}
      (frames : Frames 13 10 stream lines buffer) (short : buffer.length ≤ 4096) :
      Received stream { buffer := buffer, lines := lines, closed := false }
  | closed {begun more buffer : List UInt8} {lines : List (List UInt8)}
      (split : stream = begun ++ more) (frames : Frames 13 10 begun lines buffer)
      (long : 4096 < buffer.length) :
      Received stream { buffer := buffer, lines := lines, closed := true }

theorem Received.receive {stream : List UInt8} {c : Control} (received : Received stream c)
    (piece : List UInt8) : Received (stream ++ piece) (c.receive piece) := by
  cases received with
  | closed split frames long => exact .closed (by rw [split, List.append_assoc]) frames long
  | @opened buffer lines frames short =>
    obtain ⟨more, closed⟩ := onMessage_frames (buffer ++ piece)
    have grown := frames.append more
    simp only [Control.receive, Bool.false_eq_true, if_false, closed]
    by_cases long : 4096 < (onMessage (buffer ++ piece)).rest.length
    · rw [decide_eq_true long]
      exact .closed (List.append_nil _).symm grown long
    · rw [decide_eq_false long]
      exact .opened grown (Nat.le_of_not_lt long)

/-- Proof: induction over the pieces, from the last one back. -/
theorem receiveAll_received (pieces : List (List UInt8)) :
    Received pieces.flatten (receiveAll pieces) := by
  induction pieces using List.reverseRecOn with
  | nil => exact .opened (.rest free_nil) (Nat.zero_le _)
  | append_singleton earlier last ih =>
    have next := ih.receive last
    simpa [receiveAll] using next

/-- If all lines are short, a delivery never ends beyond the limit inside a line. -/
theorem Received.framed {stream rest : List UInt8} {lines : List (List UInt8)} {c : Control}
    (received : Received stream c) (frames : Frames 13 10 stream lines rest)
    (short : ∀ line ∈ lines, line.length < 4096) :
    c.lines = lines ∧ c.closed = decide (4096 < rest.length) := by
  cases received with
  | opened whole within =>
    obtain ⟨rfl, rfl⟩ := whole.unique frames
    exact ⟨rfl, (decide_eq_false (Nat.not_lt.mpr within)).symm⟩
  | @closed begun more buffer _ split early long =>
    subst split
    rcases frames.cut early with ⟨rfl, inside⟩ | ⟨line, later, rfl, inside⟩
    · have length := inside.length_le
      exact ⟨rfl, (decide_eq_true (by omega)).symm⟩
    · have length := inside.length_le
      have bound := short line (by simp)
      rw [List.length_append, List.length_singleton] at length
      omega

/-- A delivery that leaves too much without a line end is the last one. -/
theorem receiveAll_closes {begun buffer : List UInt8} {lines : List (List UInt8)}
    (frames : Frames 13 10 begun lines buffer) (long : 4096 < buffer.length) (more : List UInt8) :
    receiveAll [begun, more] = { buffer := buffer, lines := lines, closed := true } := by
  obtain ⟨framed, closed⟩ := onMessage_frames begun
  obtain ⟨sameLines, sameRest⟩ := framed.unique frames
  rw [sameRest, decide_eq_true long] at closed
  simp [receiveAll, receive, initial, sameLines, sameRest, closed]

end Control

open Control

/-- The lines that are handled are the texts between the line ends, and they and the forced close
do not depend on how the stream is cut into deliveries, exactly if every line that is followed by
a line end is shorter than the limit.

Proof: if all lines are short, every cutting frames the whole stream or is closed in its last
part. A line that is not short is framed if the stream is delivered at once, and closes the
connection if a delivery ends between the two bytes of its line end. -/
theorem framing_independent (stream : List UInt8) :
    (∀ first second : List (List UInt8), first.flatten = stream → second.flatten = stream →
      (receiveAll first).lines = (receiveAll second).lines ∧
        (receiveAll first).closed = (receiveAll second).closed ∧
        ∃ rest, Frames 13 10 stream (receiveAll first).lines rest) ↔
      ∀ lines rest, Frames 13 10 stream lines rest → ∀ line ∈ lines, line.length < 4096 := by
  constructor
  · intro independent lines rest frames line member
    by_contra long
    obtain ⟨before, after, rfl⟩ := List.append_of_mem member
    obtain ⟨begun, more, rfl, interrupted⟩ := frames.interrupted
    obtain ⟨same, _, framed, framing⟩ :=
      independent [begun ++ more] [begun, more] (by simp) (by simp)
    rw [receiveAll_closes interrupted (by simp; omega) more] at same
    obtain ⟨whole, _⟩ := framing.unique frames
    have lengths := congrArg List.length (whole.symm.trans same)
    simp at lengths
  · intro short first second cutFirst cutSecond
    obtain ⟨lines, rest, frames⟩ := frames_exists 13 10 stream
    have framed (pieces : List (List UInt8)) (cut : pieces.flatten = stream) :=
      (cut ▸ receiveAll_received pieces).framed frames (short lines rest frames)
    obtain ⟨linesFirst, closedFirst⟩ := framed first cutFirst
    obtain ⟨linesSecond, closedSecond⟩ := framed second cutSecond
    refine ⟨linesFirst.trans linesSecond.symm, closedFirst.trans closedSecond.symm, rest, ?_⟩
    rw [linesFirst]
    exact frames

/-- A line beyond the limit is handled if it is delivered together with its line end, and closes
the connection if its line end is delivered after it. -/
theorem receiveAll_long {line : List UInt8} (plain : 10 ∉ line) (long : 4096 < line.length) :
    receiveAll [line ++ [13, 10]] = { buffer := [], lines := [line], closed := false } ∧
      receiveAll [line, [13, 10]] = { buffer := line, lines := [], closed := true } := by
  have free : Free 13 10 (line ++ [13]) := by
    intro inside
    have member : (10 : UInt8) ∈ line ++ [13] := inside.subset (by simp)
    exact plain (by simpa using member)
  have begun : Frames 13 10 line [] line :=
    .rest fun inside => free (inside.trans (List.prefix_append _ _).isInfix)
  obtain ⟨framed, closed⟩ := onMessage_frames (line ++ [13, 10])
  obtain ⟨lines, rest⟩ := framed.unique (.text free (.rest free_nil))
  refine ⟨?_, receiveAll_closes begun long _⟩
  rw [rest] at closed
  simp [receiveAll, receive, initial, lines, rest, closed]

/-- A line of 4097 bytes. -/
def longLine : List UInt8 := List.replicate 4097 97

/-- The line is handled in one of the two cuttings. In the other one it is not, and the
connection is closed. -/
theorem long_line_cut : (receiveAll [longLine ++ [13, 10]]).lines = [longLine] ∧
      (receiveAll [longLine ++ [13, 10]]).closed = false ∧
      (receiveAll [longLine, [13, 10]]).lines = [] ∧
      (receiveAll [longLine, [13, 10]]).closed = true := by
  have plain : 10 ∉ longLine := fun member => absurd (List.eq_of_mem_replicate member) (by decide)
  have long : 4096 < longLine.length := by
    rw [longLine, List.length_replicate]
    omega
  obtain ⟨whole, cut⟩ := receiveAll_long plain long
  rw [whole, cut]
  exact ⟨rfl, rfl, rfl, rfl⟩

/-! ## The input buffer itself -/

end FtpSession

namespace Buffer

open FtpSession Slices

/-- The first line end among the readable bytes, by its offset in the vector. -/
def findCRLF (b : Buffer) : Option Nat := (find 13 10 b.readable).map (b.readerIndex + ·)

/-- The loop of `onMessage` over the buffer: what is left, the lines, and whether the connection
is closed. -/
def takeLines : Nat → Buffer → Option (Buffer × List (List UInt8) × Bool)
  | 0, b => some (b, [], false)
  | fuel + 1, b =>
      if b.readableBytes = 0 then some (b, [], false)
      else
        match b.findCRLF with
        | none => some (b, [], decide (4096 < b.readableBytes))
        | some crlf => do
            let line := slice b.buffer b.readerIndex crlf
            let retrieved ← b.retrieveUntil (crlf + 2)
            let (rest, lines, closed) ← takeLines fuel retrieved
            return (rest, line :: lines, closed)

/-- A piece of the stream is received, and `onMessage` is called. -/
def deliver (b : Buffer) (piece : List UInt8) : Option (Buffer × List (List UInt8) × Bool) := do
  let (_, received) ← b.readFd (.delivered piece)
  takeLines (received.readableBytes + 1) received

/-- The loop over the buffer is the loop over its byte queue.

Proof: induction over the number of turns. -/
theorem takeLines_represents (fuel : Nat) {b : Buffer} {queue : List UInt8} {spare : Nat}
    (represented : b.Represents queue spare) :
    ∃ rest, takeLines fuel b =
        some (rest, (FtpSession.takeLines fuel queue).lines,
          (FtpSession.takeLines fuel queue).closed) ∧
      rest.Represents (FtpSession.takeLines fuel queue).rest spare := by
  induction fuel generalizing b queue with
  | zero => exact ⟨b, rfl, represented⟩
  | succ fuel ih =>
    rw [takeLines, FtpSession.takeLines, represented.readableBytes]
    split
    · exact ⟨b, rfl, represented⟩
    · cases found : find 13 10 queue with
      | none =>
        have nothing : b.findCRLF = none := by
          rw [findCRLF, represented.contents, found, Option.map_none]
        simp only [nothing]
        exact ⟨b, rfl, represented⟩
      | some crlf =>
        have place : b.findCRLF = some (b.readerIndex + crlf) := by
          rw [findCRLF, represented.contents, found, Option.map_some]
        obtain ⟨line, more, split, length, _⟩ := find_inv found
        have bound : crlf + 2 ≤ queue.length := by
          rw [split]
          simp
          omega
        have width : queue.length = b.writeIndex - b.readerIndex := by
          rw [← represented.contents, readable_length represented.wellFormed]
        have behind : b.readerIndex ≤ b.readerIndex + crlf + 2 := by omega
        have distance : b.readerIndex + crlf + 2 - b.readerIndex = crlf + 2 := by omega
        obtain ⟨retrieved, taken, remains⟩ :=
          retrieveUntil_represents represented behind (by omega)
        rw [distance] at remains
        obtain ⟨rest, later, left⟩ := ih remains
        have text : slice b.buffer b.readerIndex (b.readerIndex + crlf) = queue.take crlf := by
          rw [← represented.contents, readable, slice_take _ _ _ _ (by omega)]
        refine ⟨rest, ?_, left⟩
        simp only [place, taken, later, text, Option.bind_eq_bind, Option.bind_some,
          Option.pure_def]

/-- A delivery to the buffer is a delivery to its byte queue. -/
theorem deliver_represents {b : Buffer} {queue piece : List UInt8} {spare : Nat}
    (represented : b.Represents queue (piece.length + spare)) :
    ∃ rest, b.deliver piece =
        some (rest, (onMessage (queue ++ piece)).lines, (onMessage (queue ++ piece)).closed) ∧
      rest.Represents (onMessage (queue ++ piece)).rest spare := by
  obtain ⟨received, read, represents⟩ := readFd_represents represented
  obtain ⟨rest, taken, left⟩ := takeLines_represents ((queue ++ piece).length + 1) represents
  refine ⟨rest, ?_, left⟩
  simp only [deliver, read, Option.bind_eq_bind, Option.bind_some, represents.readableBytes]
  exact taken

end Buffer

end Moban
