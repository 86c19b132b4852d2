import Moban.Loops
import Moban.Occurrences
import Moban.StringNumbers

/-!
# Splitting, joining and replacing

`split` cuts a text at the occurrences of a delimiter, `join` puts a delimiter between parts, and
`replace_all` puts another text in the place of every occurrence. All of them search from the left
and go on behind what they have found. `replace_all` searches twice: first to count the
occurrences, for which it reserves memory, and then to replace them.

Every loop runs for a limited number of turns here, and more turns than the text is long are
always enough. Reserving memory has no other effect, and running out of memory is not considered.
-/

namespace Moban

open Loops Occurrences

namespace StringUtils

inductive StringError where
  | invalidArgument (message : List UInt8)
  | outOfRange
deriving DecidableEq

/-- What is left from the position on, or so many bytes of it. -/
def substr (text : List UInt8) (pos : Nat) (count : Option Nat) : Except StringError (List UInt8) :=
  if text.length < pos then .error .outOfRange
  else
    match count with
    | none => .ok (text.drop pos)
    | some count => .ok ((text.drop pos).take count)

/-! ## Splitting and joining -/

structure Splitting where
  start : Nat
  parts : List (List UInt8)

def splitTurn (input delimiter : List UInt8) (s : Splitting) :
    Flow Splitting (Except StringError (List (List UInt8))) :=
  match find input delimiter s.start with
  | none => .stop ((substr input s.start none).map fun part => s.parts ++ [part])
  | some position =>
      match substr input s.start (some (position - s.start)) with
      | .error thrown => .stop (.error thrown)
      | .ok part => .again { start := position + delimiter.length, parts := s.parts ++ [part] }

/-- The parts, if the loop has ended within so many turns. -/
def split (fuel : Nat) (input delimiter : List UInt8) :
    Option (Except StringError (List (List UInt8))) :=
  if delimiter = [] then
    some (.error (.invalidArgument (ascii "split: delimiter must not be empty")))
  else run (splitTurn input delimiter) fuel { start := 0, parts := [] }

structure Joining where
  result : List UInt8
  first : Bool

/-- One turn of the loop over the parts. -/
def joinPart (delimiter : List UInt8) (s : Joining) (part : List UInt8) : Joining :=
  { result := (if s.first then s.result else s.result ++ delimiter) ++ part, first := false }

def join (parts : List (List UInt8)) (delimiter : List UInt8) : List UInt8 :=
  (parts.foldl (joinPart delimiter) { result := [], first := true }).result

/-! ## Replacing -/

structure Counting where
  position : Option Nat
  occurrences : Nat

def countTurn (input fromText : List UInt8) (s : Counting) : Flow Counting Nat :=
  match s.position with
  | none => .stop s.occurrences
  | some position =>
      .again
        { position := find input fromText (position + fromText.length)
          occurrences := s.occurrences + 1 }

/-- The number of occurrences, if the first loop has ended within so many turns. -/
def countOccurrences (fuel : Nat) (input fromText : List UInt8) : Option Nat :=
  run (countTurn input fromText) fuel { position := find input fromText 0, occurrences := 0 }

structure Replacing where
  start : Nat
  result : List UInt8

def replaceTurn (input fromText toText : List UInt8) (s : Replacing) :
    Flow Replacing (Except StringError (List UInt8)) :=
  match find input fromText s.start with
  | none => .stop ((substr input s.start none).map (s.result ++ ·))
  | some position =>
      match substr input s.start (some (position - s.start)) with
      | .error thrown => .stop (.error thrown)
      | .ok part =>
          .again { start := position + fromText.length, result := s.result ++ part ++ toText }

/-- The count is only used to reserve memory. -/
def replaceAll (fuel : Nat) (input fromText toText : List UInt8) :
    Option (Except StringError (List UInt8)) :=
  if fromText = [] then
    some (.error (.invalidArgument (ascii "replace_all: 'from' must not be empty")))
  else do
    let _ ← countOccurrences fuel input fromText
    run (replaceTurn input fromText toText) fuel { start := 0, result := [] }

def replaceFirst (input fromText toText : List UInt8) : Except StringError (List UInt8) :=
  if fromText = [] then
    .error (.invalidArgument (ascii "replace_first: 'from' must not be empty"))
  else
    match find input fromText 0 with
    | none => .ok input
    | some position => do
        let before ← substr input 0 (some position)
        let after ← substr input (position + fromText.length) none
        return before ++ toText ++ after

/-! ## What the loops do -/

variable {input delimiter fromText toText : List UInt8} {start : Nat} {positions : List Nat}

theorem substr_rest {text : List UInt8} {pos : Nat} (within : pos ≤ text.length) :
    substr text pos none = .ok (text.drop pos) :=
  if_neg (Nat.not_lt.mpr within)

theorem substr_count {text : List UInt8} {pos count : Nat} (within : pos ≤ text.length) :
    substr text pos (some count) = .ok ((text.drop pos).take count) :=
  if_neg (Nat.not_lt.mpr within)

/-- The loop of `split` collects the pieces.

Proof: induction over the occurrences, one for each turn. -/
theorem split_takes (nonempty : delimiter ≠ []) (scan : Scan delimiter input start positions)
    (within : start ≤ input.length) (parts : List (List UInt8)) :
    Takes (splitTurn input delimiter) { start := start, parts := parts } positions.length
      (.ok (parts ++ pieces delimiter.length input start positions)) := by
  have found := scan.find nonempty
  induction scan generalizing parts with
  | none =>
    refine .stop ?_
    simp only [splitTurn, found, List.head?_nil, substr_rest within]
    rfl
  | @next start position later behind here first rest ih =>
    have bound := here.within nonempty
    have again := ih bound
      (parts ++ [(input.drop start).take (position - start)]) (rest.find nonempty)
    rw [List.append_assoc] at again
    refine .again ?_ again
    simp only [splitTurn, found, List.head?_cons, substr_count within]

/-- The first loop of `replace_all` counts the occurrences. -/
theorem count_takes (nonempty : fromText ≠ []) (scan : Scan fromText input start positions)
    (occurrences : Nat) :
    Takes (countTurn input fromText)
      { position := find input fromText start, occurrences := occurrences } positions.length
      (occurrences + positions.length) := by
  have found := scan.find nonempty
  induction scan generalizing occurrences with
  | none =>
    refine .stop ?_
    simp only [countTurn, found, List.head?_nil, List.length_nil, Nat.add_zero]
  | @next start position later _ _ _ rest ih =>
    have again := ih (occurrences + 1) (rest.find nonempty)
    rw [Nat.add_assoc, Nat.add_comm 1] at again
    refine .again ?_ again
    simp only [countTurn, found, List.head?_cons]

/-- The second loop of `replace_all` puts the other text between the pieces. -/
theorem replace_takes (nonempty : fromText ≠ []) (scan : Scan fromText input start positions)
    (within : start ≤ input.length) (result : List UInt8) :
    Takes (replaceTurn input fromText toText) { start := start, result := result }
      positions.length
      (.ok (result ++ toText.intercalate (pieces fromText.length input start positions))) := by
  have found := scan.find nonempty
  induction scan generalizing result with
  | none =>
    refine .stop ?_
    simp only [replaceTurn, found, List.head?_nil, substr_rest within, pieces,
      List.intercalate_singleton]
    rfl
  | @next start position later behind here first rest ih =>
    have bound := here.within nonempty
    have again := ih bound
      (result ++ (input.drop start).take (position - start) ++ toText) (rest.find nonempty)
    have joined : result ++ (input.drop start).take (position - start) ++ toText ++
        toText.intercalate (pieces fromText.length input (position + fromText.length) later) =
        result ++ toText.intercalate (pieces fromText.length input start (position :: later)) := by
      rw [pieces, List.intercalate_cons_of_ne_nil (pieces_ne_nil _ _ _)]
      simp
    rw [joined] at again
    refine .again ?_ again
    simp only [replaceTurn, found, List.head?_cons, substr_count within]

/-- `join` puts the delimiter between the parts.

Proof: induction over the parts. After the first one the delimiter comes before each. -/
theorem join_eq (parts : List (List UInt8)) (delimiter : List UInt8) :
    join parts delimiter = delimiter.intercalate parts := by
  have later (parts : List (List UInt8)) (result : List UInt8) :
      (parts.foldl (joinPart delimiter) { result := result, first := false }).result =
        delimiter.intercalate (result :: parts) := by
    induction parts generalizing result with
    | nil => exact List.intercalate_singleton.symm
    | cons part rest ih =>
      rw [List.foldl_cons, joinPart, ih, List.intercalate_cons_cons]
      cases rest with
      | nil => simp
      | cons other others => simp [List.intercalate_cons_cons]
  cases parts with
  | nil => rfl
  | cons part rest => exact later rest part

/-- What `split` returns. -/
theorem split_eq (nonempty : delimiter ≠ []) (scan : Scan delimiter input 0 positions) {fuel : Nat}
    (enough : input.length < fuel) :
    split fuel input delimiter = some (.ok (pieces delimiter.length input 0 positions)) := by
  have turns := scan.length_le nonempty
  rw [split, if_neg nonempty]
  exact (split_takes nonempty scan (Nat.zero_le _) []).run (by omega)

/-- Splitting and joining are inverse to each other.

Proof: the loop of `split` collects the pieces between the occurrences of the delimiter. -/
theorem split_join_inverse : (∀ input delimiter : List UInt8, delimiter ≠ [] →
      ∃ parts, (∀ fuel > input.length, split fuel input delimiter = some (.ok parts)) ∧
        join parts delimiter = input ∧ (∀ part ∈ parts, ¬delimiter <:+: part) ∧
        ∃ positions, Scan delimiter input 0 positions ∧ parts.length = positions.length + 1) ∧
      ∀ (delimiter : UInt8) (parts : List (List UInt8)), parts ≠ [] →
        (∀ part ∈ parts, delimiter ∉ part) → ∀ fuel > (join parts [delimiter]).length,
        split fuel (join parts [delimiter]) [delimiter] = some (.ok parts) := by
  constructor
  · intro input delimiter nonempty
    obtain ⟨positions, scan⟩ := scan_exists nonempty input 0
    refine ⟨pieces delimiter.length input 0 positions, ?_, ?_, ?_, positions, scan, ?_⟩
    · exact fun fuel enough => split_eq nonempty scan enough
    · rw [join_eq, scan.intercalate_pieces, List.drop_zero]
    · exact fun part member => scan.pieces_free nonempty member
    · exact pieces_length positions _ _
  · intro delimiter parts nonempty free fuel enough
    obtain ⟨positions, scan⟩ :=
      scan_exists (List.cons_ne_nil delimiter []) (join parts [delimiter]) 0
    have again : pieces 1 (join parts [delimiter]) 0 positions = parts :=
      scan.pieces_intercalate nonempty free (by rw [List.drop_zero, join_eq])
    rw [split_eq (List.cons_ne_nil _ _) scan enough, List.length_singleton, again]

/-- A delimiter that overlaps itself, and parts of which some are empty. -/
theorem split_join_inverse_overlapping :
    (∃ parts, split 6 [97, 97, 97, 98] [97, 97] = some (.ok parts) ∧
      join parts [97, 97] = [97, 97, 97, 98]) ∧
      split 5 (join [[], [97], []] [44]) [44] = some (.ok [[], [97], []]) := by
  constructor
  · obtain ⟨parts, returned, joined, _⟩ :=
      split_join_inverse.1 [97, 97, 97, 98] [97, 97] (by decide)
    exact ⟨parts, returned 6 (by decide), joined⟩
  · exact split_join_inverse.2 44 [[], [97], []] (by decide) (by simp) 5 (by decide)

/-! ## Replacing what was split -/

/-- The first separator is replaced, and the others stay. -/
def joinFirst (parts : List (List UInt8)) (fromText toText : List UInt8) : List UInt8 :=
  match parts with
  | [] => []
  | [part] => part
  | part :: rest => part ++ toText ++ join rest fromText

theorem replaceFirst_eq (nonempty : fromText ≠ []) (scan : Scan fromText input 0 positions) :
    replaceFirst input fromText toText =
      .ok (joinFirst (pieces fromText.length input 0 positions) fromText toText) := by
  rw [replaceFirst, if_neg nonempty, scan.find nonempty]
  cases scan with
  | none => rfl
  | @next _ position later _ here _ rest =>
    have bound := here.within nonempty
    have tail := rest.intercalate_pieces
    obtain ⟨second, others, shape⟩ := List.exists_cons_of_ne_nil
      (@pieces_ne_nil _ input later fromText.length (position + fromText.length))
    rw [shape, ← join_eq] at tail
    simp only [List.head?_cons, substr_count (Nat.zero_le _), substr_rest bound, pieces, shape,
      joinFirst, tail]
    rfl

example : replaceFirst [97, 97, 97, 97] [97, 97] [98] = .ok [98, 97, 97] := by decide

/-- Replacing all occurrences is splitting and joining, and both loops find the same number of
occurrences. -/
theorem replaceAll_split_join (input fromText toText : List UInt8) (nonempty : fromText ≠ []) :
    ∃ parts occurrences,
      (∀ fuel > input.length, split fuel input fromText = some (.ok parts)) ∧
      (∀ fuel > input.length,
        replaceAll fuel input fromText toText = some (.ok (join parts toText))) ∧
      (∀ fuel > input.length, countOccurrences fuel input fromText = some occurrences) ∧
      Takes (replaceTurn input fromText toText) { start := 0, result := [] } occurrences
        (.ok (join parts toText)) ∧
      replaceFirst input fromText toText = .ok (joinFirst parts fromText toText) := by
  obtain ⟨positions, scan⟩ := scan_exists nonempty input 0
  have turns := scan.length_le nonempty
  have counted (fuel : Nat) (enough : fuel > input.length) :
      countOccurrences fuel input fromText = some positions.length := by
    have takes := count_takes nonempty scan 0
    rw [Nat.zero_add] at takes
    exact takes.run (by omega)
  have replaced : Takes (replaceTurn input fromText toText) { start := 0, result := [] }
      positions.length (.ok (join (pieces fromText.length input 0 positions) toText)) := by
    rw [join_eq]
    exact replace_takes nonempty scan (Nat.zero_le _) []
  refine ⟨pieces fromText.length input 0 positions, positions.length, ?_, ?_, counted, replaced,
    replaceFirst_eq nonempty scan⟩
  · exact fun fuel enough => split_eq nonempty scan enough
  · intro fuel enough
    rw [replaceAll, if_neg nonempty, counted fuel enough]
    exact replaced.run (by omega)

/-- The replacement makes new occurrences, which are left alone. -/
theorem replaceAll_split_join_rescanned :
    ∃ parts occurrences, split 5 [97, 97, 98, 98] [97, 98] = some (.ok parts) ∧
      replaceAll 5 [97, 97, 98, 98] [97, 98] [97, 98, 97] = some (.ok (join parts [97, 98, 97])) ∧
      countOccurrences 5 [97, 97, 98, 98] [97, 98] = some occurrences ∧
      replaceFirst [97, 97, 98, 98] [97, 98] [97, 98, 97] =
        .ok (joinFirst parts [97, 98] [97, 98, 97]) := by
  obtain ⟨parts, occurrences, returned, replaced, counted, _, first⟩ :=
    replaceAll_split_join [97, 97, 98, 98] [97, 98] [97, 98, 97] (by decide)
  exact ⟨parts, occurrences, returned 5 (by decide), replaced 5 (by decide),
    counted 5 (by decide), first⟩

end StringUtils

end Moban
