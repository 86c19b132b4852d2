import Mathlib

/-!
# Numerals in text

Text is a list of bytes. A numeral is a sequence of decimal digits with an optional sign in front,
and it may stand between blanks. Stripping takes the blanks away at both ends. Text without blanks
is found again when blanks were put around it.
-/

namespace Moban.Numerals

/-! ## Blanks -/

section Blanks

universe u
variable {α : Type u} (blank : α → Bool)

/-- The text consists of the core and blanks around it. -/
def Padded (text core : List α) : Prop :=
  ∃ before after, (∀ symbol ∈ before, blank symbol = true) ∧
    (∀ symbol ∈ after, blank symbol = true) ∧ text = before ++ core ++ after

def strip (text : List α) : List α := (text.dropWhile blank).rdropWhile blank

variable {blank}

/-- What was stripped are blanks. -/
theorem strip_padded (text : List α) : Padded blank text (strip blank text) := by
  refine ⟨text.takeWhile blank, (text.dropWhile blank).rtakeWhile blank, ?_, ?_, ?_⟩
  · intro symbol member
    exact List.mem_takeWhile_imp member
  · intro symbol member
    exact List.mem_rtakeWhile_imp member
  · rw [List.append_assoc, strip, List.rdropWhile_append_rtakeWhile,
      List.takeWhile_append_dropWhile]

theorem rdropWhile_append {text after : List α} (trailing : ∀ symbol ∈ after, blank symbol = true) :
    (text ++ after).rdropWhile blank = text.rdropWhile blank := by
  rw [List.rdropWhile, List.reverse_append, List.dropWhile_append_of_pos, List.rdropWhile]
  intro symbol member
  exact trailing symbol (List.mem_reverse.mp member)

/-- Stripped text does not begin with a blank. -/
theorem strip_head {text : List α} {symbol : α} (first : symbol ∈ (strip blank text).head?) :
    blank symbol = false := by
  have kept : strip blank text <+: text.dropWhile blank := List.rdropWhile_prefix blank _
  have head : (text.dropWhile blank).head? = some symbol := by
    obtain ⟨rest, whole⟩ := kept
    rw [← whole, List.head?_append, Option.mem_def.mp first]
    rfl
  have solid := List.head?_dropWhile_not blank text
  rw [head] at solid
  exact Bool.eq_false_iff.mpr (by simpa using solid)

/-- Blanks around other text are stripped. -/
theorem strip_eq_of_padded {text core : List α} (padded : Padded blank text core)
    (solid : ∀ symbol ∈ core, blank symbol = false) : strip blank text = core := by
  obtain ⟨before, after, leading, trailing, rfl⟩ := padded
  rw [strip, List.append_assoc, List.dropWhile_append_of_pos leading]
  cases core with
  | nil => rw [List.nil_append, List.dropWhile_eq_nil_iff.mpr trailing, List.rdropWhile_nil]
  | cons first rest =>
    have here : blank first = false := solid first List.mem_cons_self
    rw [List.cons_append, List.dropWhile_cons_of_neg (by simp [here]), ← List.cons_append,
      rdropWhile_append trailing]
    refine List.rdropWhile_eq_self_iff.mpr fun nonempty => ?_
    simp [solid _ (List.getLast_mem nonempty)]

/-- Between blanks and other text there is only one place to cut. -/
theorem padded_iff {text core : List α} (solid : ∀ symbol ∈ core, blank symbol = false) :
    Padded blank text core ↔ strip blank text = core := by
  constructor
  · intro padded
    exact strip_eq_of_padded padded solid
  · intro same
    rw [← same]
    exact strip_padded text

end Blanks

/-! ## Digits -/

def isDigit (byte : UInt8) : Bool := decide (48 ≤ byte ∧ byte ≤ 57)

def digit (byte : UInt8) : Nat := byte.toNat - 48

/-- The number that the digits denote. -/
def natural (digits : List UInt8) : Nat :=
  digits.foldl (fun number byte => 10 * number + digit byte) 0

theorem digit_eq_zero_iff {byte : UInt8} (decimal : isDigit byte = true) :
    digit byte = 0 ↔ byte = 48 := by
  have bounds := of_decide_eq_true decimal
  rw [UInt8.le_iff_toNat_le, UInt8.le_iff_toNat_le] at bounds
  rw [digit, ← UInt8.toNat_inj]
  simp only [UInt8.reduceToNat] at bounds ⊢
  omega

/-- Only zeros denote zero. -/
theorem natural_eq_zero_iff {digits : List UInt8} (decimal : ∀ byte ∈ digits, isDigit byte = true) :
    natural digits = 0 ↔ ∀ byte ∈ digits, byte = 48 := by
  have folded (number : Nat) :
      digits.foldl (fun number byte => 10 * number + digit byte) number = 0 ↔
        number = 0 ∧ ∀ byte ∈ digits, byte = 48 := by
    induction digits generalizing number with
    | nil => simp
    | cons byte rest ih =>
      have here := digit_eq_zero_iff (decimal byte List.mem_cons_self)
      have later : ∀ other ∈ rest, isDigit other = true :=
        fun other member => decimal other (List.mem_cons_of_mem _ member)
      have sum : 10 * number + digit byte = 0 ↔ number = 0 ∧ digit byte = 0 := by omega
      rw [List.foldl_cons, ih later, List.forall_mem_cons, ← here, sum, and_assoc]
  simpa [natural] using folded 0

inductive Sign where
  | absent
  | plus
  | minus
deriving DecidableEq

def Sign.text : Sign → List UInt8
  | absent => []
  | plus => [43]
  | minus => [45]

/-- The number with the sign. -/
def Sign.apply (sign : Sign) (number : Nat) : Int :=
  match sign with
  | absent | plus => number
  | minus => -number

/-- A nonempty sequence of digits. -/
structure Digits where
  bytes : List UInt8
  nonempty : bytes ≠ []
  decimal : ∀ byte ∈ bytes, isDigit byte = true

/-- A sequence of digits with an optional sign. -/
structure Numeral where
  sign : Sign
  digits : Digits

namespace Numeral

def text (numeral : Numeral) : List UInt8 := numeral.sign.text ++ numeral.digits.bytes

def value (numeral : Numeral) : Int := numeral.sign.apply (natural numeral.digits.bytes)

/-- A numeral consists of digits and signs. -/
theorem text_mem {numeral : Numeral} {byte : UInt8} (member : byte ∈ numeral.text) :
    isDigit byte = true ∨ byte = 43 ∨ byte = 45 := by
  rcases List.mem_append.mp member with sign | digit
  · cases found : numeral.sign <;> simp [found, Sign.text] at sign <;> simp [sign]
  · exact .inl (numeral.digits.decimal byte digit)

end Numeral

/-- Digits up to the end of the text. -/
theorem Digits.takeWhile (digits : Digits) : digits.bytes.takeWhile isDigit = digits.bytes :=
  List.takeWhile_eq_self_iff.mpr digits.decimal

theorem Digits.dropWhile (digits : Digits) : digits.bytes.dropWhile isDigit = [] :=
  List.dropWhile_eq_nil_iff.mpr digits.decimal

/-- Digits do not begin with a sign. -/
theorem Digits.head (digits : Digits) :
    digits.bytes.head? ≠ some 43 ∧ digits.bytes.head? ≠ some 45 := by
  constructor
  · intro first
    have decimal := digits.decimal 43 (List.mem_of_head? first)
    exact absurd decimal (by decide)
  · intro first
    have decimal := digits.decimal 45 (List.mem_of_head? first)
    exact absurd decimal (by decide)

/-- A sign is found again in front of a text that does not begin with one. -/
theorem Sign.append_cut {first second : Sign} {body other : List UInt8}
    (here : body.head? ≠ some 43 ∧ body.head? ≠ some 45)
    (there : other.head? ≠ some 43 ∧ other.head? ≠ some 45)
    (same : first.text ++ body = second.text ++ other) : first = second ∧ body = other := by
  have heads := congrArg List.head? same
  cases first with
  | absent =>
    cases second with
    | absent => exact ⟨rfl, same⟩
    | plus => exact absurd heads here.1
    | minus => exact absurd heads here.2
  | plus =>
    cases second with
    | absent => exact absurd heads.symm there.1
    | plus => exact ⟨rfl, (List.cons.inj same).2⟩
    | minus => exact absurd (List.cons.inj same).1 (by decide)
  | minus =>
    cases second with
    | absent => exact absurd heads.symm there.2
    | plus => exact absurd (List.cons.inj same).1 (by decide)
    | minus => exact ⟨rfl, (List.cons.inj same).2⟩

/-- A text is a numeral in one way only. -/
theorem Numeral.text_injective : Function.Injective Numeral.text := by
  rintro ⟨first, digits⟩ ⟨second, others⟩ same
  obtain ⟨rfl, bytes⟩ := Sign.append_cut digits.head others.head same
  cases digits
  cases others
  cases bytes
  rfl

/-! ## Printing -/

theorem natural_append (first second : List UInt8) :
    natural (first ++ second) = natural first * 10 ^ second.length + natural second := by
  have folded (number : Nat) :
      second.foldl (fun number byte => 10 * number + digit byte) number =
        number * 10 ^ second.length + natural second := by
    induction second using List.reverseRecOn with
    | nil => simp [natural]
    | append_singleton rest byte ih =>
      simp only [natural, List.foldl_append, List.foldl_cons, List.foldl_nil, List.length_append,
        List.length_singleton, pow_succ] at ih ⊢
      rw [ih]
      ring
  rw [natural, List.foldl_append, folded, ← natural]

/-- Zeros in front do not change the number. -/
theorem natural_zeros (count : Nat) (digits : List UInt8) :
    natural (List.replicate count 48 ++ digits) = natural digits := by
  have zero : natural (List.replicate count 48) = 0 :=
    (natural_eq_zero_iff fun byte member => by rw [List.eq_of_mem_replicate member]; rfl).mpr
      fun byte member => List.eq_of_mem_replicate member
  rw [natural_append, zero, Nat.zero_mul, Nat.zero_add]

/-- The byte of a character. -/
def byteOf (char : Char) : UInt8 := UInt8.ofNat char.toNat

theorem toNat_byteOf {char : Char} (numeric : char.isDigit = true) :
    (byteOf char).toNat = char.toNat ∧ 48 ≤ char.toNat ∧ char.toNat ≤ 57 := by
  have bounds : 48 ≤ char.toNat ∧ char.toNat ≤ 57 := by
    simpa [Char.isDigit, UInt32.le_iff_toNat_le] using numeric
  refine ⟨?_, bounds⟩
  rw [byteOf, UInt8.toNat_ofNat']
  omega

/-- The digits of a number, without zeros in front. -/
def Digits.ofNat (number : Nat) : Digits where
  bytes := (Nat.toDigits 10 number).map byteOf
  nonempty := by simp
  decimal := by
    intro byte member
    obtain ⟨char, present, rfl⟩ := List.mem_map.mp member
    have numeric := toNat_byteOf (Nat.isDigit_of_mem_toDigits (by decide) (by decide) present)
    refine decide_eq_true ?_
    rw [UInt8.le_iff_toNat_le, UInt8.le_iff_toNat_le]
    simp only [UInt8.reduceToNat]
    omega

theorem natural_ofNat (number : Nat) : natural (Digits.ofNat number).bytes = number := by
  have folded (chars : List Char) (numeric : ∀ char ∈ chars, char.isDigit = true) (first : Nat) :
      (chars.map byteOf).foldl (fun number byte => 10 * number + digit byte) first =
        Nat.ofDigitChars 10 chars first := by
    induction chars generalizing first with
    | nil => rfl
    | cons char rest ih =>
      have here := toNat_byteOf (numeric char List.mem_cons_self)
      rw [List.map_cons, List.foldl_cons, Nat.ofDigitChars_cons, digit, here.1,
        ih (fun other member => numeric other (List.mem_cons_of_mem _ member))]
      rfl
  rw [natural, Digits.ofNat, folded _ fun char member =>
    Nat.isDigit_of_mem_toDigits (by decide) (by decide) member]
  exact Nat.ofDigitChars_ten_toDigits

theorem Digits.length_ofNat_le {number count : Nat} (positive : 0 < count)
    (small : number < 10 ^ count) : (Digits.ofNat number).bytes.length ≤ count := by
  rw [Digits.ofNat, List.length_map]
  exact (Nat.length_toDigits_le_iff (by decide) positive).mpr small

/-- Zeros in front of digits. -/
def Digits.zeros (count : Nat) (digits : Digits) : Digits where
  bytes := List.replicate count 48 ++ digits.bytes
  nonempty := List.append_ne_nil_of_right_ne_nil _ digits.nonempty
  decimal := by
    intro byte member
    rcases List.mem_append.mp member with zero | later
    · rw [List.eq_of_mem_replicate zero]
      rfl
    · exact digits.decimal byte later

/-- The numeral that an integer is printed as, with zeros between the sign and the digits where it
would be shorter than the width. -/
def Numeral.print (width : Nat) (value : Int) : Numeral :=
  let sign : Sign := if value < 0 then .minus else .absent
  let digits := Digits.ofNat value.natAbs
  ⟨sign, digits.zeros (width - (sign.text.length + digits.bytes.length))⟩

theorem Numeral.natural_print (width : Nat) (value : Int) :
    natural (print width value).digits.bytes = value.natAbs := by
  rw [print, Digits.zeros, natural_zeros, natural_ofNat]

theorem Numeral.value_print (width : Nat) (value : Int) : (print width value).value = value := by
  rw [Numeral.value, natural_print]
  simp only [print]
  split <;> simp only [Sign.apply] <;> omega

theorem Numeral.print_sign {value : Int} (nonneg : 0 ≤ value) (width : Nat) :
    (print width value).sign = .absent :=
  if_neg (Int.not_lt.mpr nonneg)

theorem Numeral.print_negative {value : Int} (negative : value < 0) (width : Nat) :
    (print width value).sign = .minus :=
  if_pos negative

/-- A printed numeral is at least as long as the width, and longer only if there are more digits
than fit. -/
theorem Numeral.length_print (width : Nat) (value : Int) : (print width value).text.length =
      max width ((print width value).sign.text.length +
        (Digits.ofNat value.natAbs).bytes.length) := by
  simp only [Numeral.text, print, Digits.zeros, List.length_append, List.length_replicate]
  omega

theorem Numeral.length_print_le {value : Int} {count : Nat} (width : Nat) (positive : 0 < count)
    (small : value.natAbs < 10 ^ count) :
    (print width value).text.length ≤ max width (count + 1) := by
  have sign : (print width value).sign.text.length ≤ 1 := by
    cases (print width value).sign <;> decide
  have digits := Digits.length_ofNat_le positive small
  rw [length_print]
  omega

end Moban.Numerals
