import Mathlib

/-!
# Ordered sets with iteration from the least element

A finite set over a linear order, kept as its strictly increasing list of elements.
The list is the iteration order, so the first element is the least one and the
elements below a bound form a prefix. Strict order is carried by the structure: a
duplicate or a misplaced element cannot be represented.

Membership determines everything the proofs use. Sizes are counted only for inserting
an absent element, erasing a present one and cutting off a prefix.
-/

namespace Moban.OrderedSets

universe u
variable {α : Type u} [LinearOrder α]

/-- A finite set with its elements in increasing order. -/
structure OrderedSet (α : Type u) [LinearOrder α] where
  elements : List α
  increasing : elements.Pairwise (· < ·)
deriving DecidableEq

/-- Insert in order; an element already present is not repeated. -/
def insertInto (value : α) : List α → List α
  | [] => [value]
  | first :: rest =>
      if value < first then value :: first :: rest
      else if value = first then first :: rest
      else first :: insertInto value rest

theorem mem_insertInto (value tested : α) (elements : List α) :
    tested ∈ insertInto value elements ↔ tested = value ∨ tested ∈ elements := by
  induction elements with
  | nil => simp [insertInto]
  | cons first rest ih =>
    by_cases before : value < first
    · simp [insertInto, before]
    · by_cases same : value = first
      · subst same
        simp [insertInto]
      · simp only [insertInto, before, same, if_false, List.mem_cons, ih]
        exact or_left_comm

theorem insertInto_increasing (value : α) (elements : List α)
    (increasing : elements.Pairwise (· < ·)) :
    (insertInto value elements).Pairwise (· < ·) := by
  induction elements with
  | nil => simp [insertInto]
  | cons first rest ih =>
    obtain ⟨smallest, ordered⟩ := List.pairwise_cons.mp increasing
    by_cases before : value < first
    · simp only [insertInto, before, if_true]
      refine List.pairwise_cons.mpr ⟨?_, increasing⟩
      intro other member
      rcases List.mem_cons.mp member with rfl | later
      · exact before
      · exact before.trans (smallest other later)
    · by_cases same : value = first
      · subst same
        simpa only [insertInto, lt_irrefl, if_false, if_true] using increasing
      · simp only [insertInto, before, same, if_false]
        refine List.pairwise_cons.mpr ⟨?_, ih ordered⟩
        intro other member
        rcases (mem_insertInto value other rest).mp member with rfl | later
        · exact lt_of_le_of_ne (not_lt.mp before) (Ne.symm same)
        · exact smallest other later

theorem insertInto_length (value : α) (elements : List α) (absent : value ∉ elements) :
    (insertInto value elements).length = elements.length + 1 := by
  induction elements with
  | nil => rfl
  | cons first rest ih =>
    obtain ⟨different, later⟩ := not_or.mp (mt List.mem_cons.mpr absent)
    by_cases before : value < first
    · simp [insertInto, before]
    · simp [insertInto, before, different, ih later]

namespace OrderedSet

def empty : OrderedSet α := ⟨[], List.Pairwise.nil⟩

instance : Membership α (OrderedSet α) := ⟨fun set value => value ∈ set.elements⟩

instance (value : α) (set : OrderedSet α) : Decidable (value ∈ set) :=
  inferInstanceAs (Decidable (value ∈ set.elements))

def size (set : OrderedSet α) : Nat := set.elements.length

/-- The least element, where iteration begins. -/
def first (set : OrderedSet α) : Option α := set.elements.head?

def insert (set : OrderedSet α) (value : α) : OrderedSet α :=
  ⟨insertInto value set.elements, insertInto_increasing value _ set.increasing⟩

def erase (set : OrderedSet α) (value : α) : OrderedSet α :=
  ⟨set.elements.erase value, set.increasing.sublist List.erase_sublist⟩

/-- The elements strictly below a bound, in order. -/
def below (set : OrderedSet α) (bound : α) : List α :=
  set.elements.takeWhile fun value => decide (value < bound)

/-- The set without its elements strictly below a bound. -/
def cut (set : OrderedSet α) (bound : α) : OrderedSet α :=
  ⟨set.elements.dropWhile fun value => decide (value < bound),
    set.increasing.sublist (List.dropWhile_sublist _)⟩

theorem nodup (set : OrderedSet α) : set.elements.Nodup :=
  set.increasing.imp fun smaller => ne_of_lt smaller

@[simp] theorem mem_elements (set : OrderedSet α) (value : α) :
    value ∈ set.elements ↔ value ∈ set := Iff.rfl

@[simp] theorem not_mem_empty (value : α) : value ∉ (empty : OrderedSet α) :=
  List.not_mem_nil

@[simp] theorem mem_insert (set : OrderedSet α) (value tested : α) :
    tested ∈ set.insert value ↔ tested = value ∨ tested ∈ set :=
  mem_insertInto value tested set.elements

@[simp] theorem mem_erase (set : OrderedSet α) (value tested : α) :
    tested ∈ set.erase value ↔ tested ≠ value ∧ tested ∈ set :=
  set.nodup.mem_erase_iff

theorem size_insert (set : OrderedSet α) (value : α) (absent : value ∉ set) :
    (set.insert value).size = set.size + 1 :=
  insertInto_length value set.elements absent

theorem size_erase (set : OrderedSet α) (value : α) (present : value ∈ set) :
    (set.erase value).size + 1 = set.size := by
  have positive : 0 < set.elements.length := List.length_pos_of_mem present
  have shorter : (set.elements.erase value).length = set.elements.length - 1 :=
    List.length_erase_of_mem present
  simp only [size, erase, shorter]
  omega

theorem first_mem (set : OrderedSet α) (least : α) (found : set.first = some least) : least ∈ set :=
  List.mem_of_mem_head? found

/-- No element lies before the first. -/
theorem first_le (set : OrderedSet α) (least value : α) (found : set.first = some least)
    (member : value ∈ set) : least ≤ value := by
  obtain ⟨elements, increasing⟩ := set
  cases elements with
  | nil => simp [first] at found
  | cons head rest =>
    have same : head = least := Option.some.inj found
    subst same
    rcases List.mem_cons.mp member with rfl | later
    · exact le_refl _
    · exact le_of_lt ((List.pairwise_cons.mp increasing).1 value later)

theorem first_none (set : OrderedSet α) (vacant : set.first = none) (value : α) : value ∉ set := by
  have nothing : set.elements = [] := List.head?_eq_none_iff.mp vacant
  intro member
  rw [← mem_elements, nothing] at member
  exact List.not_mem_nil member

/-- Elements of an increasing list split at a bound by their own value. -/
theorem split_at (bound value : α) (elements : List α) (increasing : elements.Pairwise (· < ·)) :
    (value ∈ elements.takeWhile (fun other => decide (other < bound)) ↔
        value ∈ elements ∧ value < bound) ∧
      (value ∈ elements.dropWhile (fun other => decide (other < bound)) ↔
        value ∈ elements ∧ ¬ value < bound) := by
  induction elements with
  | nil => simp
  | cons first rest ih =>
    obtain ⟨smallest, ordered⟩ := List.pairwise_cons.mp increasing
    by_cases under : first < bound
    · obtain ⟨taken, dropped⟩ := ih ordered
      simp only [List.takeWhile_cons, List.dropWhile_cons, under, decide_true, if_true,
        List.mem_cons, taken, dropped]
      constructor
      · constructor
        · rintro (rfl | ⟨member, smaller⟩)
          · exact ⟨Or.inl rfl, under⟩
          · exact ⟨Or.inr member, smaller⟩
        · rintro ⟨rfl | member, smaller⟩
          · exact Or.inl rfl
          · exact Or.inr ⟨member, smaller⟩
      · constructor
        · rintro ⟨member, larger⟩
          exact ⟨Or.inr member, larger⟩
        · rintro ⟨rfl | member, larger⟩
          · exact absurd under larger
          · exact ⟨member, larger⟩
    · have above : ∀ other ∈ first :: rest, ¬ other < bound := by
        intro other member smaller
        rcases List.mem_cons.mp member with rfl | later
        · exact under smaller
        · exact under ((smallest other later).trans smaller)
      simp only [List.takeWhile_cons, List.dropWhile_cons, under, decide_false]
      constructor
      · constructor
        · intro impossible
          exact absurd impossible List.not_mem_nil
        · rintro ⟨member, smaller⟩
          exact absurd smaller (above value member)
      · constructor
        · intro member
          exact ⟨member, above value member⟩
        · rintro ⟨member, _⟩
          exact member

@[simp] theorem mem_below (set : OrderedSet α) (bound value : α) :
    value ∈ set.below bound ↔ value ∈ set ∧ value < bound :=
  (split_at bound value set.elements set.increasing).1

@[simp] theorem mem_cut (set : OrderedSet α) (bound value : α) :
    value ∈ set.cut bound ↔ value ∈ set ∧ ¬ value < bound :=
  (split_at bound value set.elements set.increasing).2

theorem below_nodup (set : OrderedSet α) (bound : α) : (set.below bound).Nodup :=
  set.nodup.sublist (List.takeWhile_sublist _)

/-- The cut-off prefix and the remaining set account for every element. -/
theorem size_cut (set : OrderedSet α) (bound : α) :
    (set.below bound).length + (set.cut bound).size = set.size := by
  rw [size, size, below, cut, ← List.length_append, List.takeWhile_append_dropWhile]

end OrderedSet

end Moban.OrderedSets
