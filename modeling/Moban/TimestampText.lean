import Moban.FloatLiterals
import Moban.Paths

/-!
# Timestamps as text

A timestamp is a signed number of microseconds in 64 bits. `to_string` divides it by a million. The
quotient is rounded toward zero, so that the remainder has the sign of the timestamp. The quotient
and the remainder are printed one after the other with a point between them, and each of them with
a sign of its own.

The text is the number of seconds for every timestamp that is not negative, and for the negative
ones that are whole seconds. For the others a sign stands behind the point, and the text is no
number. It is never cut off, and it still tells timestamps apart.
-/

namespace Moban.Timestamp

open Numerals FloatLiterals

def kMicroSecondsPerSecond : Int64 := 1000 * 1000

/-- What a buffer of the size holds of the text, with a terminator behind it. -/
def snprintf (size : Nat) (text : List UInt8) : List UInt8 := text.take (size - 1)

/-- The text that the format describes: an integer, a point, and an integer with zeros in front up
to a width of six. -/
def format (seconds microseconds : Int64) : List UInt8 :=
  (Numeral.print 0 seconds.toInt).text ++ 46 :: (Numeral.print 6 microseconds.toInt).text

def toString (microSecondsSinceEpoch : Int64) : List UInt8 :=
  let seconds := microSecondsSinceEpoch / kMicroSecondsPerSecond
  let microseconds := microSecondsSinceEpoch % kMicroSecondsPerSecond
  Paths.cString 0 (snprintf (32 - 1) (format seconds microseconds))

/-! ## What the text should be -/

/-- The literal has an optional minus, digits, a point and six digits. It is spelled like this and
denotes the microseconds as seconds. -/
structure Spells (literal : Decimal) (text : List UInt8) (microseconds : Int) : Prop where
  spelled : literal.text = text
  sign : literal.sign ≠ .plus
  whole : literal.mantissa.whole ≠ []
  fraction : ∃ fraction, literal.mantissa.fraction = some fraction ∧ fraction.length = 6
  exponent : literal.exponent = none
  value : literal.value = microseconds / 1000000

/-- The text denotes the timestamp, all of it fits into the buffer, and no other timestamp has the
same. -/
structure Faithful (timestamp : Int64) : Prop where
  denotes : ∃ literal, Spells literal (toString timestamp) timestamp.toInt
  complete : toString timestamp =
    format (timestamp / kMicroSecondsPerSecond) (timestamp % kMicroSecondsPerSecond)
  distinct : ∀ other, toString other = toString timestamp → other = timestamp

/-! ## Seconds and microseconds -/

variable (timestamp : Int64)

theorem microseconds_toInt :
    (timestamp % kMicroSecondsPerSecond).toInt = timestamp.toInt.tmod 1000000 :=
  Int64.toInt_mod _ _

theorem microseconds_small : (timestamp % kMicroSecondsPerSecond).toInt.natAbs < 10 ^ 6 := by
  rw [microseconds_toInt, Int.natAbs_tmod]
  exact Nat.mod_lt _ (by decide)

/-- The division does not overflow. -/
theorem seconds_toInt :
    (timestamp / kMicroSecondsPerSecond).toInt = timestamp.toInt.tdiv 1000000 := by
  have divisor : kMicroSecondsPerSecond.toInt = 1000000 := by decide
  have low := timestamp.le_toInt
  have high := timestamp.toInt_lt
  have whole := Int.mul_tdiv_add_tmod timestamp.toInt 1000000
  have rest := microseconds_small timestamp
  rw [microseconds_toInt] at rest
  rw [Int64.toInt_div, divisor]
  refine Int.bmod_eq_of_le ?_ ?_ <;> omega

theorem parts_toInt : 1000000 * (timestamp / kMicroSecondsPerSecond).toInt +
      (timestamp % kMicroSecondsPerSecond).toInt = timestamp.toInt := by
  rw [seconds_toInt, microseconds_toInt]
  exact Int.mul_tdiv_add_tmod _ _

theorem seconds_small : (timestamp / kMicroSecondsPerSecond).toInt.natAbs < 10 ^ 13 := by
  have low := timestamp.le_toInt
  have high := timestamp.toInt_lt
  have whole := parts_toInt timestamp
  have rest := microseconds_small timestamp
  omega

/-- The remainder is not negative exactly for the timestamps that are not, and for whole
seconds. -/
theorem microseconds_nonneg_iff : 0 ≤ (timestamp % kMicroSecondsPerSecond).toInt ↔
      0 ≤ timestamp.toInt ∨ 1000000 ∣ timestamp.toInt := by
  rw [microseconds_toInt, Int.tmod_eq_emod]
  split <;> omega

/-! ## The text -/

variable {timestamp} {seconds microseconds : Int64}

theorem print_plain {width : Nat} {value : Int} {byte : UInt8}
    (member : byte ∈ (Numeral.print width value).text) : byte ≠ 46 ∧ byte ≠ 0 := by
  constructor
  · rintro rfl
    exact absurd (Numeral.text_mem member) (by decide)
  · rintro rfl
    exact absurd (Numeral.text_mem member) (by decide)

theorem format_terminator : ∀ byte ∈ format seconds microseconds, byte ≠ 0 := by
  intro byte member
  rcases List.mem_append.mp member with before | after
  · exact (print_plain before).2
  rcases List.mem_cons.mp after with rfl | after
  · decide
  · exact (print_plain after).2

/-- The first point is found again. -/
theorem point_cut {first second rest others : List UInt8} (here : ∀ byte ∈ first, byte ≠ 46)
    (there : ∀ byte ∈ second, byte ≠ 46) (same : first ++ 46 :: rest = second ++ 46 :: others) :
    first = second ∧ rest = others := by
  have stops (text : List UInt8) : ∀ byte ∈ (46 :: text).head?, decide (byte ≠ 46) = false := by
    intro byte head
    cases head
    rfl
  obtain ⟨before, after⟩ := append_cut (fun byte => decide (byte ≠ 46))
    (fun byte member => decide_eq_true (here byte member))
    (fun byte member => decide_eq_true (there byte member)) (stops rest) (stops others) same
  exact ⟨before, (List.cons.inj after).2⟩

/-- Both parts of the text are found again, because a point stands only between them. -/
theorem format_injective {others rest : Int64} (same : format seconds microseconds =
    format others rest) : seconds = others ∧ microseconds = rest := by
  obtain ⟨before, after⟩ := point_cut (fun byte member => (print_plain member).1)
    (fun byte member => (print_plain member).1) same
  have recover {width : Nat} {first second : Int64}
      (texts : (Numeral.print width first.toInt).text = (Numeral.print width second.toInt).text) :
      first = second := by
    have numerals := Numeral.text_injective texts
    rw [← Int64.toInt_inj, ← Numeral.value_print width first.toInt, numerals, Numeral.value_print]
  exact ⟨recover before, recover after⟩

theorem length_format_le (timestamp : Int64) : (format (timestamp / kMicroSecondsPerSecond)
      (timestamp % kMicroSecondsPerSecond)).length ≤ 22 := by
  have seconds := Numeral.length_print_le 0 (by decide) (seconds_small timestamp)
  have microseconds := Numeral.length_print_le 6 (by decide) (microseconds_small timestamp)
  rw [format, List.length_append, List.length_cons]
  omega

/-- The text fits into the buffer. -/
theorem toString_eq (timestamp : Int64) : toString timestamp =
    format (timestamp / kMicroSecondsPerSecond) (timestamp % kMicroSecondsPerSecond) := by
  have fits : (format (timestamp / kMicroSecondsPerSecond)
      (timestamp % kMicroSecondsPerSecond)).length ≤ 32 - 1 - 1 :=
    (length_format_le timestamp).trans (by decide)
  rw [toString, snprintf, List.take_of_length_le fits, Paths.cString]
  exact List.takeWhile_eq_self_iff.mpr fun byte member =>
    decide_eq_true (format_terminator byte member)

theorem toString_injective : Function.Injective toString := by
  intro timestamp other same
  rw [toString_eq, toString_eq] at same
  obtain ⟨seconds, microseconds⟩ := format_injective same
  rw [← Int64.toInt_inj, ← parts_toInt timestamp, seconds, microseconds, parts_toInt]

/-! ## The number -/

/-- The sign and the digits of the seconds, and the digits of the microseconds. -/
def literalOf (seconds microseconds : Int64) : Decimal where
  sign := (Numeral.print 0 seconds.toInt).sign
  mantissa :=
    { whole := (Numeral.print 0 seconds.toInt).digits.bytes
      fraction := some (Numeral.print 6 microseconds.toInt).digits.bytes
      nonempty := List.append_ne_nil_of_left_ne_nil (Digits.nonempty _) _
      digital := by
        intro byte member
        rcases List.mem_append.mp member with before | after
        · exact (Numeral.print 0 seconds.toInt).digits.decimal byte before
        · exact (Numeral.print 6 microseconds.toInt).digits.decimal byte after }
  exponent := none

/-- Microseconds that are not negative have no sign, and they are six digits. -/
theorem print_microseconds (nonneg : 0 ≤ microseconds.toInt)
    (small : microseconds.toInt.natAbs < 10 ^ 6) :
    (Numeral.print 6 microseconds.toInt).text =
        (Numeral.print 6 microseconds.toInt).digits.bytes ∧
      (Numeral.print 6 microseconds.toInt).digits.bytes.length = 6 := by
  have plain : (Numeral.print 6 microseconds.toInt).text =
      (Numeral.print 6 microseconds.toInt).digits.bytes := by
    rw [Numeral.text, Numeral.print_sign nonneg]
    rfl
  have digits := Digits.length_ofNat_le (by decide) small
  have length := Numeral.length_print 6 microseconds.toInt
  rw [Numeral.print_sign nonneg] at length
  refine ⟨plain, ?_⟩
  rw [← plain, length]
  simp only [Sign.text, List.length_nil]
  omega

theorem literalOf_text (nonneg : 0 ≤ microseconds.toInt)
    (small : microseconds.toInt.natAbs < 10 ^ 6) :
    (literalOf seconds microseconds).text = format seconds microseconds := by
  rw [format, (print_microseconds nonneg small).1, Numeral.text, List.append_assoc]
  simp only [literalOf, Decimal.text, Mantissa.text, Mantissa.tail, exponentText, List.append_nil]

theorem literalOf_magnitude (nonneg : 0 ≤ microseconds.toInt)
    (small : microseconds.toInt.natAbs < 10 ^ 6) :
    (literalOf seconds microseconds).magnitude =
      ((seconds.toInt.natAbs * 1000000 + microseconds.toInt.natAbs : Nat) : ℚ) / 1000000 := by
  have six := (print_microseconds nonneg small).2
  simp only [Decimal.magnitude, Decimal.scale, literalOf, Mantissa.digits, Option.getD_some,
    Option.elim_none, natural_append, Numeral.natural_print, six, div_eq_mul_inv]
  norm_num

/-- The seconds give the sign, so that their sign has to be that of the whole number. -/
theorem literalOf_value (nonneg : 0 ≤ microseconds.toInt)
    (small : microseconds.toInt.natAbs < 10 ^ 6)
    (agree : 0 ≤ seconds.toInt ∨ microseconds.toInt = 0) :
    (literalOf seconds microseconds).value =
      ((1000000 * seconds.toInt + microseconds.toInt : Int) : ℚ) / 1000000 := by
  have magnitude := @literalOf_magnitude seconds microseconds nonneg small
  rcases Int.lt_or_le seconds.toInt 0 with negative | positive
  · have sign : (literalOf seconds microseconds).sign = .minus := Numeral.print_negative negative 0
    have zero : microseconds.toInt = 0 := agree.resolve_left (Int.not_le.mpr negative)
    have number : 1000000 * seconds.toInt + microseconds.toInt =
        -((seconds.toInt.natAbs * 1000000 + microseconds.toInt.natAbs : Nat) : Int) := by omega
    rw [Decimal.value, if_pos sign, magnitude, number, Int.cast_neg, Int.cast_natCast, neg_div]
  · have sign : (literalOf seconds microseconds).sign = .absent := Numeral.print_sign positive 0
    have number : 1000000 * seconds.toInt + microseconds.toInt =
        ((seconds.toInt.natAbs * 1000000 + microseconds.toInt.natAbs : Nat) : Int) := by omega
    rw [Decimal.value, if_neg (by rw [sign]; decide), magnitude, number, Int.cast_natCast]

/-- Where the remainder is not negative the text is the number. -/
theorem spells_literalOf (nonneg : 0 ≤ (timestamp % kMicroSecondsPerSecond).toInt) :
    Spells (literalOf (timestamp / kMicroSecondsPerSecond) (timestamp % kMicroSecondsPerSecond))
      (toString timestamp) timestamp.toInt where
  spelled := by rw [literalOf_text nonneg (microseconds_small timestamp), toString_eq]
  sign := by
    rcases Int.lt_or_le (timestamp / kMicroSecondsPerSecond).toInt 0 with negative | positive
    · exact (Numeral.print_negative negative 0).trans_ne (by decide)
    · exact (Numeral.print_sign positive 0).trans_ne (by decide)
  whole := Digits.nonempty _
  fraction := ⟨_, rfl, (print_microseconds nonneg (microseconds_small timestamp)).2⟩
  exponent := rfl
  value := by
    have parts := parts_toInt timestamp
    have rest := microseconds_small timestamp
    have agree : 0 ≤ (timestamp / kMicroSecondsPerSecond).toInt ∨
        (timestamp % kMicroSecondsPerSecond).toInt = 0 := by
      rcases (microseconds_nonneg_iff timestamp).mp nonneg with positive | whole <;> omega
    rw [literalOf_value nonneg rest agree, parts]

/-- In a literal without an exponent only digits stand behind the point. A remainder that is
negative has a sign there. -/
theorem nonneg_of_spells {literal : Decimal} (plain : literal.exponent = none)
    {fraction : List UInt8} (point : literal.mantissa.fraction = some fraction)
    (spelled : literal.text = format seconds microseconds) : 0 ≤ microseconds.toInt := by
  have front : ∀ byte ∈ literal.sign.text ++ literal.mantissa.whole, byte ≠ 46 := by
    rintro byte member rfl
    rcases List.mem_append.mp member with sign | digit
    · cases found : literal.sign <;> simp [found, Sign.text] at sign
    · exact absurd (literal.mantissa.digital _ (List.mem_append_left _ digit)) (by decide)
  have parts : (literal.sign.text ++ literal.mantissa.whole) ++ 46 :: fraction =
      format seconds microseconds := by
    rw [← spelled, Decimal.text, plain, Mantissa.text, Mantissa.tail, point]
    simp [exponentText]
  obtain ⟨-, behind⟩ := point_cut front (fun byte member => (print_plain member).1) parts
  refine Int.not_lt.mp fun negative => ?_
  have sign : (45 : UInt8) ∈ fraction := by
    rw [behind, Numeral.text, Numeral.print_negative negative]
    exact List.mem_cons_self
  have digit := literal.mantissa.digital 45 (List.mem_append_right _ (by rw [point]; exact sign))
  exact absurd digit (by decide)

theorem Faithful.microseconds_nonneg (faithful : Faithful timestamp) :
    0 ≤ (timestamp % kMicroSecondsPerSecond).toInt := by
  obtain ⟨literal, spells⟩ := faithful.denotes
  obtain ⟨fraction, point, -⟩ := spells.fraction
  exact nonneg_of_spells spells.exponent point (spells.spelled.trans faithful.complete)

/-- The text is faithful exactly for the timestamps that are not negative, and for whole seconds.

Proof: the text is never cut off and never the same for two timestamps, so that only its form is in
question. The literal is built from the two parts, and it denotes the timestamp if the second part
has no sign. If it has one, the text has no such form. -/
theorem toString_faithful_iff (timestamp : Int64) :
    Faithful timestamp ↔ 0 ≤ timestamp.toInt ∨ 1000000 ∣ timestamp.toInt := by
  rw [← microseconds_nonneg_iff]
  constructor
  · intro faithful
    exact faithful.microseconds_nonneg
  · intro nonneg
    exact
      { denotes := ⟨_, spells_literalOf nonneg⟩
        complete := toString_eq timestamp
        distinct := fun other same => toString_injective same }

/-- One microsecond before the epoch is printed as `0.-00001`. -/
theorem toString_faithful_fails :
    toString (-1) = [48, 46, 45, 48, 48, 48, 48, 49] ∧ ¬ Faithful (-1) ∧
      toString (-1500000) = [45, 49, 46, 45, 53, 48, 48, 48, 48, 48] ∧ ¬ Faithful (-1500000) := by
  refine ⟨by decide, ?_, by decide, ?_⟩
  · intro faithful
    exact absurd faithful.microseconds_nonneg (by decide)
  · intro faithful
    exact absurd faithful.microseconds_nonneg (by decide)

end Moban.Timestamp
