import Moban.Binary64
import Moban.Numerals

/-!
# Floating literals

A decimal literal has digits with at most one point among them, and an optional exponent. It
denotes a rational number exactly, and a text is a decimal literal in one way only.

The function `strtod` of the C language accepts more: hexadecimal literals, and words for
infinities and for what is not a number. It reads the longest prefix of its text that has one of
these forms.
-/

namespace Moban.FloatLiterals

open Numerals

/-! ## Longest prefixes -/

section Longest

universe u
variable {α : Type u} {Form : List α → Prop} {text : List α} {count : Nat}

/-- The longest prefix of the form has so many symbols. -/
structure Longest (Form : List α → Prop) (text : List α) (count : Nat) : Prop where
  within : count ≤ text.length
  form : Form (text.take count)
  greatest : ∀ other ≤ text.length, Form (text.take other) → other ≤ count

theorem longest_exists (form : Form (text.take count)) : ∃ count, Longest Form text count := by
  classical
  have within : min count text.length ≤ text.length := Nat.min_le_right _ _
  rw [List.take_eq_take_min] at form
  refine ⟨Nat.findGreatest (fun count => Form (text.take count)) text.length, ?_, ?_, ?_⟩
  · exact Nat.findGreatest_le _
  · exact Nat.findGreatest_spec (P := fun count => Form (text.take count)) within form
  · intro other inside matched
    exact Nat.le_findGreatest inside matched

theorem Longest.unique {other : Nat} (first : Longest Form text count)
    (second : Longest Form text other) : count = other :=
  Nat.le_antisymm (second.greatest _ first.within first.form)
    (first.greatest _ second.within second.form)

/-- Two texts that begin with the same kind of symbols are cut at the same place. -/
theorem append_cut (inside : α → Bool) {first second rest others : List α}
    (here : ∀ symbol ∈ first, inside symbol = true)
    (there : ∀ symbol ∈ second, inside symbol = true)
    (stops : ∀ symbol ∈ rest.head?, inside symbol = false)
    (ends : ∀ symbol ∈ others.head?, inside symbol = false)
    (same : first ++ rest = second ++ others) : first = second ∧ rest = others := by
  have nothingTaken {tail : List α} (last : ∀ symbol ∈ tail.head?, inside symbol = false) :
      tail.takeWhile inside = [] := by
    cases tail with
    | nil => rfl
    | cons symbol _ => exact List.takeWhile_cons_of_neg (by simp [last symbol rfl])
  have cut := congrArg (List.takeWhile inside) same
  rw [List.takeWhile_append_of_pos here, List.takeWhile_append_of_pos there, nothingTaken stops,
    nothingTaken ends, List.append_nil, List.append_nil] at cut
  rw [cut] at same
  exact ⟨cut, List.append_cancel_left same⟩

end Longest

/-! ## Decimal literals -/

/-- Digits, of which there is at least one, and a point among them or none. -/
structure Mantissa (isDigit : UInt8 → Bool) where
  whole : List UInt8
  fraction : Option (List UInt8)
  nonempty : whole ++ fraction.getD [] ≠ []
  digital : ∀ byte ∈ whole ++ fraction.getD [], isDigit byte = true

variable {byte : UInt8}

namespace Mantissa

variable {isDigit : UInt8 → Bool} {mantissa : Mantissa isDigit}

def digits (mantissa : Mantissa isDigit) : List UInt8 :=
  mantissa.whole ++ mantissa.fraction.getD []

/-- The point and what follows it. -/
def tail (mantissa : Mantissa isDigit) : List UInt8 :=
  match mantissa.fraction with
  | none => []
  | some fraction => 46 :: fraction

def text (mantissa : Mantissa isDigit) : List UInt8 := mantissa.whole ++ mantissa.tail

theorem mem_text (member : byte ∈ mantissa.text) : byte ∈ mantissa.digits ∨ byte = 46 := by
  obtain ⟨whole, fraction, _, _⟩ := mantissa
  rcases List.mem_append.mp member with before | after
  · exact .inl (List.mem_append_left _ before)
  · cases fraction with
    | none => cases after
    | some fraction =>
      rcases List.mem_cons.mp after with rfl | later
      · exact .inr rfl
      · exact .inl (List.mem_append_right _ later)

theorem digits_subset (mantissa : Mantissa isDigit) : mantissa.digits ⊆ mantissa.text := by
  intro byte member
  obtain ⟨whole, fraction, _, _⟩ := mantissa
  rcases List.mem_append.mp member with before | after
  · exact List.mem_append_left _ before
  · cases fraction with
    | none => cases after
    | some fraction => exact List.mem_append_right _ (List.mem_cons_of_mem _ after)

theorem text_plain (member : byte ∈ mantissa.text) : isDigit byte = true ∨ byte = 46 :=
  (mem_text member).imp_left (mantissa.digital byte)

theorem tail_head (first : byte ∈ mantissa.tail.head?) : byte = 46 := by
  unfold tail at first
  split at first
  · cases first
  · exact (Option.some.inj first).symm

theorem tail_injective {mantissa other : Mantissa isDigit} (same : mantissa.tail = other.tail) :
    mantissa.fraction = other.fraction := by
  unfold tail at same
  split at same <;> split at same <;> simp_all

/-- A point is no digit, so that the parts of a mantissa are found again. -/
theorem text_injective (point : isDigit 46 = false) :
    Function.Injective (@Mantissa.text isDigit) := by
  intro mantissa other same
  have stops (literal : Mantissa isDigit) :
      ∀ byte ∈ literal.tail.head?, isDigit byte = false := by
    intro byte first
    rw [tail_head first]
    exact point
  have front (literal : Mantissa isDigit) : ∀ byte ∈ literal.whole, isDigit byte = true :=
    fun byte member => literal.digital byte (List.mem_append_left _ member)
  obtain ⟨whole, tail⟩ :=
    append_cut isDigit (front mantissa) (front other) (stops mantissa) (stops other) same
  have fraction := tail_injective tail
  cases mantissa
  cases other
  cases whole
  cases fraction
  rfl

theorem text_nonempty (mantissa : Mantissa isDigit) : mantissa.text ≠ [] := by
  obtain ⟨byte, member⟩ := List.exists_mem_of_ne_nil _ mantissa.nonempty
  exact List.ne_nil_of_mem (mantissa.digits_subset member)

end Mantissa

/-- One of the letters and an integer. -/
structure Exponent (letters : List UInt8) where
  letter : UInt8
  known : letter ∈ letters
  numeral : Numeral

/-- An exponent, or nothing. -/
def exponentText {letters : List UInt8} : Option (Exponent letters) → List UInt8
  | none => []
  | some exponent => exponent.letter :: exponent.numeral.text

structure Decimal where
  sign : Sign
  mantissa : Mantissa isDigit
  exponent : Option (Exponent [101, 69])

namespace Decimal

def text (literal : Decimal) : List UInt8 :=
  literal.sign.text ++ (literal.mantissa.text ++ exponentText literal.exponent)

/-- The power of ten that the digits are multiplied by. -/
def scale (literal : Decimal) : Int :=
  literal.exponent.elim 0 (fun exponent => exponent.numeral.value) -
    (literal.mantissa.fraction.getD []).length

/-- The exact number without its sign. -/
def magnitude (literal : Decimal) : ℚ := natural literal.mantissa.digits * 10 ^ literal.scale

def value (literal : Decimal) : ℚ :=
  if literal.sign = .minus then -literal.magnitude else literal.magnitude

theorem magnitude_nonneg (literal : Decimal) : 0 ≤ literal.magnitude :=
  mul_nonneg (Nat.cast_nonneg _) (zpow_nonneg (by norm_num) _)

theorem abs_value (literal : Decimal) : |literal.value| = literal.magnitude := by
  unfold value
  split
  · rw [abs_neg, abs_of_nonneg literal.magnitude_nonneg]
  · rw [abs_of_nonneg literal.magnitude_nonneg]

theorem value_eq_zero_iff (literal : Decimal) :
    literal.value = 0 ↔ ∀ byte ∈ literal.mantissa.digits, byte = 48 := by
  have power : (10 : ℚ) ^ literal.scale ≠ 0 := zpow_ne_zero _ (by norm_num)
  have magnitude : literal.magnitude = 0 ↔ natural literal.mantissa.digits = 0 := by
    simp [Decimal.magnitude, power]
  rw [← abs_eq_zero, abs_value, magnitude]
  exact natural_eq_zero_iff literal.mantissa.digital

/-- The double-precision number that a literal is read as. -/
def rounded (literal : Decimal) : Binary64 :=
  Binary64.round (decide (literal.sign = .minus)) literal.magnitude

theorem rounded_of_zero {literal : Decimal} (zero : literal.value = 0) :
    literal.rounded = .finite (decide (literal.sign = .minus)) 0 (Binary64.exponentOf 0) := by
  rw [rounded, ← abs_value, zero, abs_zero, Binary64.round_zero]

/-- What follows the mantissa of a literal begins with a letter. -/
theorem exponentText_head {letters : List UInt8} {exponent : Option (Exponent letters)}
    (first : byte ∈ (exponentText exponent).head?) : byte ∈ letters := by
  cases exponent with
  | none => cases first
  | some exponent =>
    cases first
    exact exponent.known

theorem exponentText_injective {letters : List UInt8} :
    Function.Injective (@exponentText letters) := by
  intro exponent other same
  cases exponent with
  | none =>
    cases other with
    | none => rfl
    | some other => cases same
  | some exponent =>
    cases other with
    | none => cases same
    | some other =>
      obtain ⟨letter, text⟩ := List.cons.inj same
      have numeral := Numeral.text_injective text
      cases exponent
      cases other
      cases letter
      cases numeral
      rfl

theorem mantissa_head (mantissa : Mantissa isDigit) (rest : List UInt8) :
    (mantissa.text ++ rest).head? ≠ some 43 ∧ (mantissa.text ++ rest).head? ≠ some 45 := by
  have plain (byte : UInt8) (first : (mantissa.text ++ rest).head? = some byte) :
      isDigit byte = true ∨ byte = 46 := by
    rw [List.head?_append_of_ne_nil _ mantissa.text_nonempty] at first
    exact Mantissa.text_plain (List.mem_of_head? first)
  constructor
  · intro first
    exact absurd (plain 43 first) (by decide)
  · intro first
    exact absurd (plain 45 first) (by decide)

theorem text_nonempty (literal : Decimal) : literal.text ≠ [] :=
  List.append_ne_nil_of_right_ne_nil _
    (List.append_ne_nil_of_left_ne_nil literal.mantissa.text_nonempty _)

/-- The bytes of a literal are digits, points, signs and the letter of the exponent. -/
theorem text_mem {literal : Decimal} (member : byte ∈ literal.text) :
    isDigit byte = true ∨ byte ∈ [43, 45, 46, 69, 101] := by
  rcases List.mem_append.mp member with sign | body
  · cases found : literal.sign <;> simp [found, Sign.text] at sign <;> simp [sign]
  rcases List.mem_append.mp body with mantissa | exponent
  · rcases Mantissa.text_plain mantissa with digit | rfl
    · exact .inl digit
    · exact .inr (by decide)
  · cases found : literal.exponent with
    | none =>
      rw [found] at exponent
      cases exponent
    | some part =>
      rw [found] at exponent
      rcases List.mem_cons.mp exponent with rfl | numeral
      · have known := part.known
        simp only [List.mem_cons, List.not_mem_nil, or_false] at known ⊢
        tauto
      · rcases Numeral.text_mem numeral with digit | rfl | rfl
        · exact .inl digit
        · exact .inr (by decide)
        · exact .inr (by decide)

/-- A text is a decimal literal in one way only. -/
theorem text_injective : Function.Injective Decimal.text := by
  intro literal other same
  obtain ⟨sign, bodies⟩ := Sign.append_cut (mantissa_head _ _) (mantissa_head _ _) same
  have front (mantissa : Mantissa isDigit) :
      ∀ byte ∈ mantissa.text, decide (byte ∉ [101, 69]) = true := by
    intro byte member
    refine decide_eq_true fun letter => ?_
    have plain := Mantissa.text_plain member
    rcases List.mem_cons.mp letter with rfl | later
    · exact absurd plain (by decide)
    · rw [List.mem_singleton.mp later] at plain
      exact absurd plain (by decide)
  have stops (exponent : Option (Exponent [101, 69])) :
      ∀ byte ∈ (exponentText exponent).head?, decide (byte ∉ [101, 69]) = false := by
    intro byte first
    exact decide_eq_false (not_not_intro (exponentText_head first))
  obtain ⟨mantissas, exponents⟩ := append_cut (fun byte => decide (byte ∉ [101, 69]))
    (front _) (front _) (stops _) (stops _) bodies
  have mantissa := Mantissa.text_injective (by decide) mantissas
  have exponent := exponentText_injective exponents
  cases literal
  cases other
  cases sign
  cases mantissa
  cases exponent
  rfl

end Decimal

/-! ## What `strtod` accepts -/

def isHexDigit (byte : UInt8) : Bool :=
  isDigit byte || decide (97 ≤ byte ∧ byte ≤ 102) || decide (65 ≤ byte ∧ byte ≤ 70)

def lower (byte : UInt8) : UInt8 := if 65 ≤ byte ∧ byte ≤ 90 then byte + 32 else byte

/-- A digit, a letter or an underscore. -/
def isNChar (byte : UInt8) : Bool :=
  isDigit byte || decide (97 ≤ lower byte ∧ lower byte ≤ 122) || decide (byte = 95)

/-- The characters in parentheses, or nothing. -/
def payloadText : Option (List UInt8) → List UInt8
  | none => []
  | some characters => 40 :: (characters ++ [41])

/-- The forms of a number. Letters may be small or capital. -/
inductive Subject : List UInt8 → Prop where
  | decimal (literal : Decimal) : Subject literal.text
  | hexadecimal (sign : Sign) {x : UInt8} (marked : x = 120 ∨ x = 88)
      (mantissa : Mantissa isHexDigit) (exponent : Option (Exponent [112, 80])) :
      Subject (sign.text ++ (48 :: x :: (mantissa.text ++ exponentText exponent)))
  | infinity (sign : Sign) {word : List UInt8}
      (spelled : word.map lower = [105, 110, 102] ∨
        word.map lower = [105, 110, 102, 105, 110, 105, 116, 121]) : Subject (sign.text ++ word)
  | nan (sign : Sign) {word : List UInt8} (spelled : word.map lower = [110, 97, 110])
      (payload : Option (List UInt8))
      (admitted : ∀ characters ∈ payload, ∀ byte ∈ characters, isNChar byte = true) :
      Subject (sign.text ++ (word ++ payloadText payload))

end Moban.FloatLiterals
