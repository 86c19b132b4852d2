import Mathlib

/-!
# Texts between delimiters

A delimiter is two values in a row. A list is cut at the first delimiter, what follows is cut
again, and the rest contains no delimiter. The relation `Frames` says which texts and which rest
a list is cut into. It determines them, every list is cut, and a list that grows at its end keeps
its texts: only its rest is cut again. Where a list ends early, its rest is the beginning of the
next text, or of that text and the first half of its delimiter.
-/

namespace Moban.Delimiters

universe u
variable {α : Type u}

/-- The list contains no delimiter. -/
def Free (first second : α) (list : List α) : Prop := ¬ [first, second] <:+: list

/-- The list consists of these texts, each followed by a delimiter, and of a rest without one. -/
inductive Frames (first second : α) : List α → List (List α) → List α → Prop where
  | rest {list : List α} (free : Free first second list) : Frames first second list [] list
  | text {text more rest : List α} {texts : List (List α)}
      (free : Free first second (text ++ [first])) (frames : Frames first second more texts rest) :
      Frames first second (text ++ first :: second :: more) (text :: texts) rest

variable {first second value : α} {list more rest rest' text : List α}
  {texts texts' : List (List α)}

theorem free_nil : Free first second [] := by simp [Free]

theorem free_cons_iff : Free first second (value :: rest) ↔
      ¬ (value = first ∧ rest.head? = some second) ∧ Free first second rest := by
  unfold Free
  rw [List.infix_cons_iff, not_or]
  refine and_congr_left fun _ => not_congr ?_
  cases rest with
  | nil => simp
  | cons next others => simp [eq_comm]

theorem Frames.free (frames : Frames first second list texts rest) : Free first second rest := by
  induction frames with
  | rest free => exact free
  | text _ _ ih => exact ih

/-- A list that grows keeps its texts, and its rest is cut again.

Proof: induction over the cuts. -/
theorem Frames.append (frames : Frames first second list texts rest)
    (frames' : Frames first second (rest ++ more) texts' rest') :
    Frames first second (list ++ more) (texts ++ texts') rest' := by
  induction frames with
  | rest => exact frames'
  | text free _ ih =>
    rw [List.append_assoc]
    exact .text free (ih frames')

/-- A list can end in the middle of any of its delimiters.

Proof: induction over the texts before it. -/
theorem Frames.interrupted (frames : Frames first second list (texts ++ text :: texts') rest) :
    ∃ begun more, list = begun ++ more ∧ Frames first second begun texts (text ++ [first]) := by
  induction texts generalizing list with
  | nil =>
    cases frames with
    | @text _ more _ _ free => exact ⟨text ++ [first], second :: more, by simp, .rest free⟩
  | cons earlier others ih =>
    cases frames with
    | text free frames =>
      obtain ⟨begun, more, rfl, framed⟩ := ih frames
      exact ⟨_, more, by simp, .text free framed⟩

/-! ## The first delimiter -/

variable [DecidableEq α]

/-- The position of the first delimiter. -/
def find (first second : α) : List α → Option Nat
  | [] => none
  | value :: rest =>
      if value = first ∧ rest.head? = some second then some 0
      else (find first second rest).map (· + 1)

/-- There is no first delimiter exactly if there is none.

Proof: induction over the list. -/
theorem find_eq_none_iff : find first second list = none ↔ Free first second list := by
  induction list with
  | nil => simp [find, free_nil]
  | cons value rest ih =>
    rw [free_cons_iff, find]
    split
    case isTrue here => simp [here]
    case isFalse elsewhere => simp [elsewhere, ih]

theorem find_text (free : Free first second (text ++ [first])) :
    find first second (text ++ first :: second :: more) = some text.length := by
  induction text with
  | nil => simp [find]
  | cons value rest ih =>
    obtain ⟨elsewhere, later⟩ := free_cons_iff.mp free
    rw [List.cons_append, find, if_neg, ih later]
    · rfl
    · cases rest <;> simpa using elsewhere

/-- The first delimiter is preceded by a text without one.

Proof: induction over the list. -/
theorem find_inv {index : Nat} (found : find first second list = some index) :
    ∃ text more, list = text ++ first :: second :: more ∧ text.length = index ∧
      Free first second (text ++ [first]) := by
  induction list generalizing index with
  | nil => simp [find] at found
  | cons value rest ih =>
    rw [find] at found
    split at found
    case isTrue here =>
      obtain ⟨rfl, next⟩ := here
      cases found
      cases rest with
      | nil => simp at next
      | cons other others =>
        obtain rfl : other = second := by simpa using next
        exact ⟨[], others, rfl, rfl, by simp [Free, List.infix_cons_iff]⟩
    case isFalse elsewhere =>
      obtain ⟨before, found', rfl⟩ := Option.map_eq_some_iff.mp found
      obtain ⟨text, more, rfl, length, free⟩ := ih found'
      refine ⟨value :: text, more, rfl, by simp [length], free_cons_iff.mpr ⟨?_, free⟩⟩
      cases text <;> simpa using elsewhere

/-! ## Cutting at every delimiter -/

/-- Every list is cut.

Proof: induction over the length. After the first delimiter the list is shorter. -/
theorem frames_exists (first second : α) (list : List α) :
    ∃ texts rest, Frames first second list texts rest := by
  induction length : list.length using Nat.strong_induction_on generalizing list with
  | _ _ ih =>
    cases found : find first second list with
    | none => exact ⟨[], list, .rest (find_eq_none_iff.mp found)⟩
    | some index =>
      obtain ⟨text, more, rfl, _, free⟩ := find_inv found
      obtain ⟨texts, rest, frames⟩ :=
        ih more.length (by rw [← length]; simp; omega) more rfl
      exact ⟨text :: texts, rest, .text free frames⟩

/-- A list is cut in one way.

Proof: induction over the cuts. Both have the first delimiter at the same place. -/
theorem Frames.unique (frames : Frames first second list texts rest)
    (frames' : Frames first second list texts' rest') : texts = texts' ∧ rest = rest' := by
  induction frames generalizing texts' with
  | rest free =>
    cases frames' with
    | rest => exact ⟨rfl, rfl⟩
    | @text text more => exact absurd ⟨text, more, by simp⟩ free
  | @text text more _ _ free _ ih =>
    generalize equal : text ++ first :: second :: more = list at frames'
    cases frames' with
    | rest free' => exact absurd ⟨text, more, by simp [← equal]⟩ free'
    | text free' frames' =>
      have place : find first second (text ++ first :: second :: more) = some text.length :=
        find_text free
      rw [equal, find_text free'] at place
      obtain ⟨rfl, tail⟩ := List.append_inj equal (Option.some.inj place).symm
      cases tail
      obtain ⟨rfl, rfl⟩ := ih frames'
      exact ⟨rfl, rfl⟩

/-- Where a list ends early, its rest is the beginning of the rest of the whole, or the beginning
of the next text with the first half of its delimiter. -/
theorem Frames.cut (frames : Frames first second (list ++ more) texts rest)
    (frames' : Frames first second list texts' rest') :
    texts' = texts ∧ rest' <+: rest ∨
      ∃ text later, texts = texts' ++ text :: later ∧ rest' <+: text ++ [first] := by
  obtain ⟨others, last, after⟩ := frames_exists first second (rest' ++ more)
  obtain ⟨rfl, rfl⟩ := frames.unique (frames'.append after)
  generalize grown : rest' ++ more = whole at after
  cases after with
  | rest => exact .inl ⟨by simp, grown ▸ List.prefix_append _ _⟩
  | @text text after _ later =>
    refine .inr ⟨text, later, rfl, ?_⟩
    have begins : rest' <+: (text ++ [first]) ++ second :: after := by
      rw [List.append_assoc]
      exact grown ▸ List.prefix_append _ _
    rcases Nat.lt_or_ge (text ++ [first]).length rest'.length with longer | shorter
    · refine absurd ?_ frames'.free
      have covered : text ++ [first, second] <+: rest' := by
        refine List.prefix_of_prefix_length_le ⟨after, by simp⟩ begins ?_
        simp only [List.length_append, List.length_cons, List.length_nil] at longer ⊢
        omega
      exact ⟨text, _, by simpa using covered.choose_spec⟩
    · exact List.prefix_of_prefix_length_le begins (List.prefix_append _ _) shorter

end Moban.Delimiters
