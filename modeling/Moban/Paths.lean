import Mathlib

/-!
# Lexical paths

A path is a word over an alphabet with a separator, and its components are what stands between
the separators. They are read one after the other from a starting directory. An empty component
or a single dot stays where it is, two dots leave the directory that was entered last, and any
other component is entered. Two dots with no directory left to leave lead out of the starting
directory. Links are not followed: only the text of the path counts.

A path that is handed on as a terminated string ends before the first terminator.
-/

namespace Moban.Paths

universe u
variable {α : Type u}

/-- A place relative to the starting directory: some levels up, and from there down a list of
names, the last of which is the first to be left. -/
structure Place (α : Type u) where
  ups : Nat
  names : List (List α)
deriving DecidableEq

namespace Place

def here : Place α := ⟨0, []⟩

def leave : Place α → Place α
  | ⟨ups, []⟩ => ⟨ups + 1, []⟩
  | ⟨ups, _ :: names⟩ => ⟨ups, names⟩

variable [DecidableEq α]

/-- The effect of one component. -/
def enter (dot : α) (place : Place α) (component : List α) : Place α :=
  if component = [] ∨ component = [dot] then place
  else if component = [dot, dot] then place.leave
  else { place with names := component :: place.names }

theorem enter_ups {dot : α} {component : List α} (place : Place α)
    (plain : component ≠ [dot, dot]) : (place.enter dot component).ups = place.ups := by
  unfold enter
  rw [if_neg plain]
  split <;> rfl

/-- Without two dots as a component, no component leads up. -/
theorem foldl_enter_ups {dot : α} {components : List (List α)} (place : Place α)
    (plain : ∀ component ∈ components, component ≠ [dot, dot]) :
    (components.foldl (enter dot) place).ups = place.ups := by
  induction components generalizing place with
  | nil => rfl
  | cons component rest ih =>
    have later : ∀ other ∈ rest, other ≠ [dot, dot] :=
      fun other member => plain other (List.mem_cons_of_mem _ member)
    rw [List.foldl_cons, ih (place.enter dot component) later]
    exact enter_ups place (plain component List.mem_cons_self)

end Place

/-- Every part occurs in the whole. -/
theorem infix_intercalate {separator part : List α} {parts : List (List α)}
    (member : part ∈ parts) : part <:+: separator.intercalate parts := by
  induction parts with
  | nil => cases member
  | cons first rest ih =>
    cases rest with
    | nil => rw [List.mem_singleton.mp member, List.intercalate_singleton]
    | cons second others =>
      rw [List.intercalate_cons_cons]
      rcases List.mem_cons.mp member with rfl | later
      · exact ⟨[], separator ++ separator.intercalate (second :: others), by simp⟩
      · exact (ih later).trans (List.suffix_append _ _).isInfix

variable [DecidableEq α]

/-- The place that a path denotes when it is read component by component. -/
def normalise (slash dot : α) (path : List α) : Place α :=
  (path.splitOn slash).foldl (Place.enter dot) .here

/-- The path is relative and denotes the starting directory or something below it. -/
def Confined (slash dot : α) (path : List α) : Prop :=
  path.head? ≠ some slash ∧ (normalise slash dot path).ups = 0

/-- A string up to its first terminator. -/
def cString (nul : α) (string : List α) : List α := string.takeWhile (· ≠ nul)

theorem component_infix {slash : α} {path component : List α}
    (member : component ∈ path.splitOn slash) : component <:+: path := by
  rw [← path.intercalate_splitOn slash]
  exact infix_intercalate member

/-- A relative path without two dots in a row does not lead up. -/
theorem confined_of_relative {slash dot : α} {path : List α} (relative : path.head? ≠ some slash)
    (plain : ¬[dot, dot] <:+: path) : Confined slash dot path := by
  refine ⟨relative, Place.foldl_enter_ups .here fun component member dots => plain ?_⟩
  exact dots ▸ component_infix member

/-- Whatever is appended to the starting directory stays below it, if it has no two dots in a
row. Where the string is cut does not matter. -/
theorem confined_below {slash dot nul : α} {rest : List α} (apart : slash ≠ dot)
    (ended : dot ≠ nul) (plain : ¬[dot, dot] <:+: rest) :
    Confined slash dot (cString nul ([dot, slash] ++ rest)) := by
  have cut : cString nul ([dot, slash] ++ rest) <+: [dot, slash] ++ rest :=
    List.takeWhile_prefix _
  refine confined_of_relative ?_ fun dots => plain ?_
  · simp [cString, List.takeWhile_cons, ended, apart.symm]
  · have whole : [dot, dot] <:+: dot :: slash :: rest := dots.trans cut.isInfix
    simpa [List.infix_cons_iff, apart.symm] using whole

end Moban.Paths
