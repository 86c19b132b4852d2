import Mathlib

/-!
# Occurrences of a pattern

A pattern is searched in a text from the left. The first occurrence is taken, the search goes on
behind it, and so on until there is none. The positions that are found this way are the
occurrences from left to right that do not overlap. A pattern may overlap itself, so that there
may be others.

The text is cut into the pieces between these positions. No piece contains the pattern, and the
text is found again when the pattern is put between the pieces.
-/

namespace Moban.Occurrences

universe u
variable {α : Type u}

/-- The pattern occurs in the text at the position. -/
def At (pattern text : List α) (position : Nat) : Prop := pattern <+: text.drop position

/-- The occurrences from left to right, from a starting position on. -/
inductive Scan (pattern text : List α) : Nat → List Nat → Prop where
  | none {start : Nat} (free : ∀ position, start ≤ position → ¬At pattern text position) :
      Scan pattern text start []
  | next {start position : Nat} {later : List Nat} (behind : start ≤ position)
      (here : At pattern text position)
      (first : ∀ earlier, start ≤ earlier → earlier < position → ¬At pattern text earlier)
      (rest : Scan pattern text (position + pattern.length) later) :
      Scan pattern text start (position :: later)

/-- The pieces of the text between occurrences of a certain width. -/
def pieces (width : Nat) (text : List α) : Nat → List Nat → List (List α)
  | start, [] => [text.drop start]
  | start, position :: later =>
      (text.drop start).take (position - start) :: pieces width text (position + width) later

variable {pattern text : List α} {start position : Nat} {positions : List Nat}

/-! ## Single occurrences -/

theorem At.drop (here : At pattern text position) :
    text.drop position = pattern ++ text.drop (position + pattern.length) := by
  obtain ⟨rest, whole⟩ := here
  rw [← List.drop_drop, ← whole, List.drop_left]

theorem At.within (nonempty : pattern ≠ []) (here : At pattern text position) :
    position + pattern.length ≤ text.length := by
  have length := here.length_le
  have positive := List.length_pos_iff.mpr nonempty
  rw [List.length_drop] at length
  omega

/-- A pattern is inside of a part of the text if it occurs in the text and ends within the part. -/
theorem infix_take_iff {count : Nat} : pattern <:+: (text.drop start).take count ↔
      ∃ position, start ≤ position ∧ At pattern text position ∧
        position + pattern.length ≤ start + count := by
  constructor
  · rintro ⟨before, after, whole⟩
    have kept : before ++ (pattern ++ after) <+: text.drop start := by
      rw [← List.append_assoc, whole]
      exact List.take_prefix _ _
    have length := congrArg List.length whole
    simp only [List.length_append, List.length_take] at length
    refine ⟨start + before.length, Nat.le_add_right _ _, ?_, by omega⟩
    obtain ⟨rest, split⟩ := kept
    rw [At, ← List.drop_drop, ← split, List.append_assoc, List.drop_left, List.append_assoc]
    exact List.prefix_append _ _
  · rintro ⟨position, behind, here, ends⟩
    have short : pattern <+: (text.drop position).take (count - (position - start)) :=
      List.prefix_take_iff.mpr ⟨here, by omega⟩
    have moved : (text.drop position).take (count - (position - start)) =
        ((text.drop start).take count).drop (position - start) := by
      rw [List.drop_take, List.drop_drop, Nat.add_sub_cancel' behind]
    rw [moved] at short
    exact short.isInfix.trans (List.drop_suffix _ _).isInfix

/-! ## The first occurrence -/

section Find

variable [DecidableEq α]

/-- The first position from the starting position on at which the pattern occurs. -/
def find (text pattern : List α) (start : Nat) : Option Nat :=
  (List.range (text.length + 1)).find? fun position =>
    decide (start ≤ position ∧ pattern <+: text.drop position)

theorem find_eq_some_iff (nonempty : pattern ≠ []) : find text pattern start = some position ↔
      start ≤ position ∧ At pattern text position ∧
        ∀ earlier, start ≤ earlier → earlier < position → ¬At pattern text earlier := by
  rw [find, List.find?_range_eq_some]
  constructor
  · rintro ⟨found, _, first⟩
    obtain ⟨behind, here⟩ := of_decide_eq_true found
    refine ⟨behind, here, fun earlier after before occurs => ?_⟩
    have missed := first earlier before
    rw [decide_eq_true (⟨after, occurs⟩ : start ≤ earlier ∧ pattern <+: text.drop earlier)]
      at missed
    cases missed
  · rintro ⟨behind, here, first⟩
    have within := here.within nonempty
    refine ⟨decide_eq_true ⟨behind, here⟩, List.mem_range.mpr (by omega), fun earlier before => ?_⟩
    rw [Bool.not_eq_true', decide_eq_false_iff_not]
    rintro ⟨after, occurs⟩
    exact first earlier after before occurs

theorem find_eq_none_iff (nonempty : pattern ≠ []) : find text pattern start = none ↔
      ∀ position, start ≤ position → ¬At pattern text position := by
  rw [find, List.find?_eq_none]
  constructor
  · intro missed position behind here
    have within := here.within nonempty
    exact missed position (List.mem_range.mpr (by omega)) (decide_eq_true ⟨behind, here⟩)
  · intro free position _ found
    obtain ⟨behind, here⟩ := of_decide_eq_true found
    exact free position behind here

/-- The first occurrence that is found is the first of all. -/
theorem Scan.find (scan : Scan pattern text start positions) (nonempty : pattern ≠ []) :
    find text pattern start = positions.head? := by
  cases scan with
  | none free => exact (find_eq_none_iff nonempty).mpr free
  | next behind here first _ => exact (find_eq_some_iff nonempty).mpr ⟨behind, here, first⟩

/-- Every text is scanned to its end.

Proof: induction over what is left of the text. -/
theorem scan_exists (nonempty : pattern ≠ []) (text : List α) (start : Nat) :
    ∃ positions, Scan pattern text start positions := by
  induction left : text.length - start using Nat.strong_induction_on generalizing start with
  | _ _ ih =>
    cases found : find text pattern start with
    | none => exact ⟨[], .none ((find_eq_none_iff nonempty).mp found)⟩
    | some position =>
      obtain ⟨behind, here, first⟩ := (find_eq_some_iff nonempty).mp found
      have within := here.within nonempty
      have positive := List.length_pos_iff.mpr nonempty
      obtain ⟨later, rest⟩ :=
        ih (text.length - (position + pattern.length)) (by omega) _ rfl
      exact ⟨position :: later, .next behind here first rest⟩

end Find

/-! ## Pieces -/

theorem pieces_length (positions : List Nat) (width start : Nat) :
    (pieces width text start positions).length = positions.length + 1 := by
  induction positions generalizing start with
  | nil => rfl
  | cons position later ih =>
    rw [pieces, List.length_cons, ih, List.length_cons]

theorem pieces_ne_nil (positions : List Nat) (width start : Nat) :
    pieces width text start positions ≠ [] := by
  rw [← List.length_pos_iff, pieces_length]
  exact Nat.succ_pos _

namespace Scan

/-- Every occurrence takes at least one symbol of the text. -/
theorem length_le (scan : Scan pattern text start positions) (nonempty : pattern ≠ []) :
    positions.length ≤ text.length - start := by
  induction scan with
  | none => exact Nat.zero_le _
  | next behind here _ _ ih =>
    have within := here.within nonempty
    have positive := List.length_pos_iff.mpr nonempty
    rw [List.length_cons]
    omega

/-- The text is found again when the pattern is put between its pieces.

Proof: induction over the occurrences. -/
theorem intercalate_pieces (scan : Scan pattern text start positions) :
    pattern.intercalate (pieces pattern.length text start positions) = text.drop start := by
  induction scan with
  | none => exact List.intercalate_singleton
  | @next start position later behind here _ _ ih =>
    have cut : text.drop start =
        (text.drop start).take (position - start) ++ text.drop position := by
      have distance : text.drop position = (text.drop start).drop (position - start) := by
        rw [List.drop_drop, Nat.add_sub_cancel' behind]
      rw [distance, List.take_append_drop]
    rw [pieces, List.intercalate_cons_of_ne_nil (pieces_ne_nil _ _ _), ih,
      List.append_assoc, ← here.drop, ← cut]

/-- No piece contains the pattern.

Proof: induction over the occurrences. An occurrence inside a piece would come before the one at
its end. -/
theorem pieces_free (scan : Scan pattern text start positions) (nonempty : pattern ≠ [])
    {piece : List α} (member : piece ∈ pieces pattern.length text start positions) :
    ¬pattern <:+: piece := by
  induction scan with
  | @none start free =>
    intro inside
    rw [List.mem_singleton.mp member, ← List.take_length (l := text.drop start)] at inside
    obtain ⟨position, behind, here, _⟩ := infix_take_iff.mp inside
    exact free position behind here
  | @next start position later behind here first _ ih =>
    rcases List.mem_cons.mp member with rfl | further
    · intro inside
      have positive := List.length_pos_iff.mpr nonempty
      obtain ⟨earlier, after, occurs, ends⟩ := infix_take_iff.mp inside
      exact first earlier after (by omega) occurs
    · exact ih further

/-- Parts without a symbol are found again when the symbol was put between them.

Proof: induction over the parts. The first occurrence of the symbol follows the first part. -/
theorem pieces_intercalate {symbol : α} {parts : List (List α)}
    (scan : Scan [symbol] text start positions) (nonempty : parts ≠ [])
    (free : ∀ part ∈ parts, symbol ∉ part) (joined : text.drop start = [symbol].intercalate parts) :
    pieces 1 text start positions = parts := by
  induction parts generalizing start positions with
  | nil => exact absurd rfl nonempty
  | cons part parts ih =>
    have here : symbol ∉ part := free part List.mem_cons_self
    cases parts with
    | nil =>
      rw [List.intercalate_singleton] at joined
      cases scan with
      | none => rw [pieces, joined]
      | @next _ position _ behind occurs _ _ =>
        have inside : [symbol] <:+: (text.drop start).take text.length :=
          infix_take_iff.mpr ⟨position, behind, occurs,
            (occurs.within (List.cons_ne_nil _ _)).trans (Nat.le_add_left _ _)⟩
        have kept := inside.trans (List.take_prefix _ _).isInfix
        rw [joined] at kept
        exact absurd (kept.subset (List.mem_singleton_self symbol)) here
    | cons second others =>
      rw [List.intercalate_cons_cons, List.append_assoc] at joined
      have behindPart : text.drop (start + part.length) =
          [symbol] ++ [symbol].intercalate (second :: others) := by
        rw [← List.drop_drop, joined, List.drop_left]
      have place : At [symbol] text (start + part.length) := by
        rw [At, behindPart]
        exact List.prefix_append _ _
      cases scan with
      | none missing => exact absurd place (missing _ (Nat.le_add_right _ _))
      | @next _ position later behind occurs first rest =>
        have reached : position = start + part.length := by
          rcases lt_trichotomy position (start + part.length) with less | same | greater
          · have inside : [symbol] <:+: (text.drop start).take part.length :=
              infix_take_iff.mpr ⟨position, behind, occurs, less⟩
            rw [joined, List.take_left] at inside
            exact absurd (inside.subset (List.mem_singleton_self symbol)) here
          · exact same
          · exact absurd place (first _ (Nat.le_add_right _ _) greater)
        subst reached
        have remaining : text.drop (start + part.length + 1) =
            [symbol].intercalate (second :: others) := by
          rw [← List.drop_drop, behindPart]
          rfl
        rw [pieces, Nat.add_sub_cancel_left, joined, List.take_left]
        refine congrArg (part :: ·) (ih rest (List.cons_ne_nil _ _) ?_ remaining)
        exact fun other member => free other (List.mem_cons_of_mem _ member)

end Scan

end Moban.Occurrences
