import Moban.Numerals

/-!
# Integers from text

A text is trimmed, a plus sign is taken away by hand, and the rest is given to `std::from_chars`,
which must consume all of it. The format is checked before the range: a text that is not a numeral
is invalid, however large the number in it is.

`std::from_chars` is the function of the C++ standard for base 10. It accepts no plus sign, a minus
sign only for signed types, and then as many digits as there are. A number outside the range
of the type is still consumed.
-/

namespace Moban

open Numerals

namespace StringUtils

/-- The bytes of a constant of the source. -/
def ascii (text : String) : List UInt8 := text.toList.map fun char => UInt8.ofNat char.toNat

/-! ## Trimming -/

def isAsciiWhitespace (c : UInt8) : Bool :=
  decide (c = 32 ∨ c = 9 ∨ c = 10 ∨ c = 11 ∨ c = 12 ∨ c = 13)

def trim (input : List UInt8) : List UInt8 := strip isAsciiWhitespace input

/-! ## Conversion -/

inductive Errc where
  | none
  | invalidArgument
  | resultOutOfRange
deriving DecidableEq

/-- What `std::from_chars` returns. The pointer is the text that follows it. -/
structure FromCharsResult where
  ptr : List UInt8
  ec : Errc
deriving DecidableEq

/-- An integer type: its range, and whether it is signed. -/
structure IntegerType where
  signed : Bool
  min : Int
  max : Int

def int64 : IntegerType := ⟨true, -2 ^ 63, 2 ^ 63 - 1⟩

def uint64 : IntegerType := ⟨false, 0, 2 ^ 64 - 1⟩

def IntegerType.Fits (type : IntegerType) (value : Int) : Prop :=
  type.min ≤ value ∧ value ≤ type.max

instance (type : IntegerType) (value : Int) : Decidable (type.Fits value) := instDecidableAnd

/-- The rest of `std::from_chars` after a sign. The value is left as it was if there is none. -/
def fromDigits (type : IntegerType) (text body : List UInt8) (sign : Sign) (value : Int) :
    FromCharsResult × Int :=
  if body.takeWhile isDigit = [] then (⟨text, .invalidArgument⟩, value)
  else if type.Fits (sign.apply (natural (body.takeWhile isDigit))) then
    (⟨body.dropWhile isDigit, .none⟩, sign.apply (natural (body.takeWhile isDigit)))
  else (⟨body.dropWhile isDigit, .resultOutOfRange⟩, value)

def fromChars (type : IntegerType) (text : List UInt8) (value : Int) : FromCharsResult × Int :=
  if type.signed = true ∧ text.head? = some 45 then fromDigits type text text.tail .minus value
  else fromDigits type text text .absent value

inductive NumberStatus where
  | kOk
  | kInvalid
  | kOutOfRange
deriving DecidableEq

/-- The tests of what `std::from_chars` has returned. -/
def checked (converted : FromCharsResult × Int) (out : Int) : NumberStatus × Int :=
  if converted.1.ptr ≠ [] then (.kInvalid, out)
  else if converted.1.ec = .resultOutOfRange then (.kOutOfRange, out)
  else if converted.1.ec ≠ .none then (.kInvalid, out)
  else (.kOk, converted.2)

/-- The text without a plus sign at its beginning. -/
def unsignedText (text : List UInt8) : List UInt8 :=
  if text.head? = some 43 then text.tail else text

def parseInt64 (input : List UInt8) (out : Int) : NumberStatus × Int :=
  if trim input = [] then (.kInvalid, out)
  else if unsignedText (trim input) = [] then (.kInvalid, out)
  else checked (fromChars int64 (unsignedText (trim input)) 0) out

/-- A minus sign is refused before the conversion. -/
def parseUint64 (input : List UInt8) (out : Int) : NumberStatus × Int :=
  if trim input = [] then (.kInvalid, out)
  else if unsignedText (trim input) = [] then (.kInvalid, out)
  else if (unsignedText (trim input)).head? = some 45 then (.kInvalid, out)
  else checked (fromChars uint64 (unsignedText (trim input)) 0) out

/-! ## Errors -/

inductive NumberError where
  | outOfRange (message : List UInt8)
  | invalidArgument (message : List UInt8)
deriving DecidableEq

def throwNumberError (status : NumberStatus) (context typeName input : List UInt8) : NumberError :=
  let place := if context = [] then [] else context ++ ascii ": "
  if status = .kOutOfRange then
    .outOfRange (place ++ ascii "value out of range for " ++ typeName ++ ascii ": '" ++ input ++
      ascii "'")
  else
    .invalidArgument (place ++ ascii "invalid " ++ typeName ++ ascii " value: '" ++ input ++
      ascii "'")

universe u
variable {α : Type u}

/-- The value, or the exception that is thrown. -/
def delivered (parsed : NumberStatus × α) (context typeName input : List UInt8) :
    Except NumberError α :=
  if parsed.1 ≠ .kOk then .error (throwNumberError parsed.1 context typeName input)
  else .ok parsed.2

/-- The value, if there is one. -/
def attempted (parsed : NumberStatus × α) : Option α :=
  if parsed.1 ≠ .kOk then none else some parsed.2

section Delivered

variable {parsed : NumberStatus × α} {context typeName input : List UInt8}

theorem delivered_eq_ok_iff {value : α} :
    delivered parsed context typeName input = .ok value ↔ parsed = (.kOk, value) := by
  obtain ⟨status, result⟩ := parsed
  cases status <;> simp [delivered]

theorem delivered_invalidArgument_iff :
    (∃ message, delivered parsed context typeName input = .error (.invalidArgument message)) ↔
      parsed.1 = .kInvalid := by
  obtain ⟨status, result⟩ := parsed
  cases status <;> simp [delivered, throwNumberError]

theorem delivered_outOfRange_iff :
    (∃ message, delivered parsed context typeName input = .error (.outOfRange message)) ↔
      parsed.1 = .kOutOfRange := by
  obtain ⟨status, result⟩ := parsed
  cases status <;> simp [delivered, throwNumberError]

theorem attempted_eq_some_iff {value : α} :
    attempted parsed = some value ↔ parsed = (.kOk, value) := by
  obtain ⟨status, result⟩ := parsed
  cases status <;> simp [attempted]

end Delivered

def toInt64 (input context : List UInt8) : Except NumberError Int :=
  delivered (parseInt64 input 0) context (ascii "int64") input

def toUint64 (input context : List UInt8) : Except NumberError Int :=
  delivered (parseUint64 input 0) context (ascii "uint64") input

def tryToInt64 (input : List UInt8) : Option Int := attempted (parseInt64 input 0)

def tryToUint64 (input : List UInt8) : Option Int := attempted (parseUint64 input 0)

/-! ## What a conversion does -/

variable {type : IntegerType} {text input context typeName : List UInt8} {out : Int}
  {allowed : Sign → Prop} {numeral : Numeral}

/-- The outcome for a numeral. -/
def ranged (type : IntegerType) (value out : Int) : NumberStatus × Int :=
  if type.Fits value then (.kOk, value) else (.kOutOfRange, out)

theorem ranged_eq_ok_iff {number value : Int} :
    ranged type number out = (.kOk, value) ↔ number = value ∧ type.Fits value := by
  unfold ranged
  split
  case isTrue fits =>
    constructor
    · rintro ⟨⟩
      exact ⟨rfl, fits⟩
    · rintro ⟨rfl, _⟩
      rfl
  case isFalse outside =>
    constructor
    · intro accepted
      cases accepted
    · rintro ⟨rfl, fits⟩
      exact absurd fits outside

theorem ranged_outOfRange_iff {number : Int} :
    (ranged type number out).1 = .kOutOfRange ↔ ¬type.Fits number := by
  unfold ranged
  split <;> simp_all

/-- What is in the range or out of it is not invalid. -/
theorem ranged_valid {number : Int} : ¬(ranged type number out).1 = .kInvalid := by
  unfold ranged
  split <;> simp

/-- The signs that `std::from_chars` accepts. -/
def IntegerType.Accepts (type : IntegerType) (sign : Sign) : Prop :=
  sign = .absent ∨ sign = .minus ∧ type.signed = true

theorem checked_digits (digits : Digits) (sign : Sign) (value : Int) :
    checked (fromDigits type text digits.bytes sign value) out =
      ranged type (sign.apply (natural digits.bytes)) out := by
  rw [fromDigits, digits.takeWhile, digits.dropWhile, if_neg digits.nonempty, ranged]
  split <;> rfl

theorem checked_nondigits {body : List UInt8} (nonempty : text ≠ [])
    (other : ∀ digits : Digits, digits.bytes ≠ body) (sign : Sign) (value : Int) :
    checked (fromDigits type text body sign value) out = (.kInvalid, out) := by
  refine if_pos ?_
  unfold fromDigits
  by_cases noDigits : body.takeWhile isDigit = []
  · rw [if_pos noDigits]
    exact nonempty
  · rw [if_neg noDigits]
    have remains : body.dropWhile isDigit ≠ [] := by
      intro consumed
      refine other ⟨body, ?_, List.dropWhile_eq_nil_iff.mp consumed⟩ rfl
      rintro rfl
      exact noDigits rfl
    split <;> exact remains

theorem checked_numeral (accepts : type.Accepts numeral.sign) (value : Int) :
    checked (fromChars type numeral.text value) out = ranged type numeral.value out := by
  obtain ⟨sign, digits⟩ := numeral
  unfold fromChars
  rcases accepts with rfl | ⟨rfl, signed⟩
  · rw [if_neg fun minus => digits.head.2 minus.2]
    exact checked_digits digits .absent value
  · rw [if_pos ⟨signed, rfl⟩]
    exact checked_digits digits .minus value

/-- What is no numeral is not consumed to its end. -/
theorem checked_other (nonempty : text ≠ [])
    (other : ∀ numeral : Numeral, type.Accepts numeral.sign → numeral.text ≠ text) (value : Int) :
    checked (fromChars type text value) out = (.kInvalid, out) := by
  unfold fromChars
  split
  case isTrue minus =>
    obtain ⟨signed, first⟩ := minus
    refine checked_nondigits nonempty (fun digits same => ?_) _ _
    refine other ⟨.minus, digits⟩ (.inr ⟨rfl, signed⟩) ?_
    rw [Numeral.text, same]
    exact List.cons_head?_tail first
  · refine checked_nondigits nonempty (fun digits same => ?_) _ _
    exact other ⟨.absent, digits⟩ (.inl rfl) same

/-! ## Classification -/

/-- The input is a numeral between blanks, with a sign that is allowed. -/
def Denotes (allowed : Sign → Prop) (input : List UInt8) (numeral : Numeral) : Prop :=
  allowed numeral.sign ∧ Padded isAsciiWhitespace input numeral.text

/-- The value of a numeral that fits is returned, one that does not fit is out of range, and
everything else is an invalid argument. -/
structure Classified (type : IntegerType) (allowed : Sign → Prop) (input : List UInt8)
    (result : Except NumberError Int) (attempt : Option Int) : Prop where
  ok : ∀ value, result = .ok value ↔
    ∃ numeral, Denotes allowed input numeral ∧ numeral.value = value ∧ type.Fits value
  outOfRange : (∃ message, result = .error (.outOfRange message)) ↔
    ∃ numeral, Denotes allowed input numeral ∧ ¬type.Fits numeral.value
  invalidArgument : (∃ message, result = .error (.invalidArgument message)) ↔
    ¬∃ numeral, Denotes allowed input numeral
  attempt : ∀ value, attempt = some value ↔
    ∃ numeral, Denotes allowed input numeral ∧ numeral.value = value ∧ type.Fits value

/-- A numeral has no blanks in it. -/
theorem numeral_solid : ∀ byte ∈ numeral.text, isAsciiWhitespace byte = false := by
  intro byte member
  have plain := Numeral.text_mem member
  by_contra blank
  have found := of_decide_eq_true (Bool.eq_true_of_not_eq_false blank)
  rcases found with rfl | rfl | rfl | rfl | rfl | rfl
  all_goals exact absurd plain (by decide)

theorem denotes_iff :
    Denotes allowed input numeral ↔ allowed numeral.sign ∧ trim input = numeral.text := by
  rw [Denotes, padded_iff numeral_solid]
  rfl

theorem classified_numeral (denotes : Denotes allowed input numeral) : Classified type allowed input
      (delivered (ranged type numeral.value out) context typeName input)
      (attempted (ranged type numeral.value out)) := by
  have only (P : Numeral → Prop) :
      (∃ other, Denotes allowed input other ∧ P other) ↔ P numeral := by
    constructor
    · rintro ⟨other, same, holds⟩
      rwa [← Numeral.text_injective
        ((denotes_iff.mp same).2.symm.trans (denotes_iff.mp denotes).2)]
    · intro holds
      exact ⟨numeral, denotes, holds⟩
  refine ⟨fun value => ?_, ?_, ?_, fun value => ?_⟩
  · rw [delivered_eq_ok_iff, ranged_eq_ok_iff,
      only fun other => other.value = value ∧ type.Fits value]
  · rw [delivered_outOfRange_iff, ranged_outOfRange_iff, only fun other => ¬type.Fits other.value]
  · rw [delivered_invalidArgument_iff]
    exact iff_of_false ranged_valid (not_not_intro ⟨numeral, denotes⟩)
  · rw [attempted_eq_some_iff, ranged_eq_ok_iff,
      only fun other => other.value = value ∧ type.Fits value]

theorem classified_other (other : ∀ numeral, ¬Denotes allowed input numeral) :
    Classified type allowed input (delivered (.kInvalid, out) context typeName input)
      (attempted (.kInvalid, out)) := by
  refine ⟨fun value => ?_, ?_, ?_, fun value => ?_⟩
  · simp [delivered_eq_ok_iff, other]
  · simp [delivered_outOfRange_iff, other]
  · simp [delivered_invalidArgument_iff, other]
  · simp [attempted_eq_some_iff, other]

/-! ## The plus sign -/

/-- The sign that remains when a plus sign is taken away. -/
def remainingSign : Sign → Sign
  | .plus => .absent
  | sign => sign

theorem unsignedText_numeral (numeral : Numeral) :
    unsignedText numeral.text = (⟨remainingSign numeral.sign, numeral.digits⟩ : Numeral).text := by
  obtain ⟨sign, digits⟩ := numeral
  cases sign with
  | absent => exact if_neg digits.head.1
  | plus => exact if_pos rfl
  | minus => exact if_neg (by simp [Numeral.text, Sign.text])

theorem remainingSign_value (numeral : Numeral) :
    (⟨remainingSign numeral.sign, numeral.digits⟩ : Numeral).value = numeral.value := by
  obtain ⟨sign, digits⟩ := numeral
  cases sign <;> rfl

theorem numeral_nonempty (numeral : Numeral) : numeral.text ≠ [] := by
  rw [Numeral.text]
  exact List.append_ne_nil_of_right_ne_nil _ numeral.digits.nonempty

/-- A text from which the plus sign was taken away. -/
theorem unsignedText_inv {rest : List UInt8} (same : unsignedText text = rest) :
    text = rest ∨ text = 43 :: rest := by
  unfold unsignedText at same
  split at same
  case isTrue first => exact .inr (by rw [← same]; exact (List.cons_head?_tail first).symm)
  · exact .inl same

/-- A plus sign in front of a minus sign and digits. -/
def DoublySigned (input : List UInt8) : Prop :=
  ∃ digits : Digits, Padded isAsciiWhitespace input ([43, 45] ++ digits.bytes)

/-- The text is a numeral with a minus sign, behind a plus sign. -/
theorem doublySigned_iff : DoublySigned input ↔
      ∃ digits : Digits, trim input = 43 :: (⟨.minus, digits⟩ : Numeral).text := by
  refine exists_congr fun digits => ?_
  have solid : ∀ byte ∈ [43, 45] ++ digits.bytes, isAsciiWhitespace byte = false := by
    intro byte member
    rcases List.mem_cons.mp member with rfl | later
    · rfl
    · exact @numeral_solid ⟨.minus, digits⟩ byte later
  exact padded_iff solid

/-- A numeral has one sign at most. -/
theorem numeral_ne_doubled {digits : Digits} :
    numeral.text ≠ 43 :: (⟨.minus, digits⟩ : Numeral).text := by
  intro same
  obtain ⟨sign, others⟩ := numeral
  cases sign with
  | absent => exact others.head.1 (congrArg List.head? same)
  | plus => exact others.head.2 (congrArg List.head? (List.cons.inj same).2)
  | minus => exact absurd (List.cons.inj same).1 (by decide)

/-! ## Signed integers -/

theorem parseInt64_numeral (trimmed : trim input = numeral.text) :
    parseInt64 input out = ranged int64 numeral.value out := by
  have accepts : int64.Accepts (remainingSign numeral.sign) := by
    cases numeral.sign
    · exact .inl rfl
    · exact .inl rfl
    · exact .inr ⟨rfl, rfl⟩
  rw [parseInt64, trimmed, if_neg (numeral_nonempty numeral), unsignedText_numeral,
    if_neg (numeral_nonempty _), checked_numeral accepts, remainingSign_value]

/-- Behind a plus sign the conversion accepts a minus sign. -/
theorem parseInt64_doublySigned {digits : Digits}
    (trimmed : trim input = 43 :: (⟨.minus, digits⟩ : Numeral).text) :
    parseInt64 input out = ranged int64 (⟨.minus, digits⟩ : Numeral).value out := by
  have unplussed : unsignedText (43 :: (⟨.minus, digits⟩ : Numeral).text) =
      (⟨.minus, digits⟩ : Numeral).text := if_pos rfl
  rw [parseInt64, trimmed, if_neg (List.cons_ne_nil _ _), unplussed, if_neg (numeral_nonempty _),
    checked_numeral (.inr ⟨rfl, rfl⟩)]

theorem parseInt64_other (single : ¬DoublySigned input)
    (other : ∀ numeral : Numeral, trim input ≠ numeral.text) :
    parseInt64 input out = (.kInvalid, out) := by
  unfold parseInt64
  split
  · rfl
  · split
    · rfl
    case isFalse nonempty =>
      refine checked_other nonempty (fun numeral accepts same => ?_) 0
      obtain ⟨sign, digits⟩ := numeral
      rcases unsignedText_inv same.symm with equal | plus
      · exact other _ equal
      · rcases accepts with rfl | ⟨rfl, _⟩
        · exact other ⟨.plus, digits⟩ plus
        · exact single (doublySigned_iff.mpr ⟨digits, plus⟩)

/-- `to_int64` classifies exactly the inputs correctly in which no plus sign stands in front of a
minus sign and digits.

Proof: a plus sign is taken away, and a numeral with a minus sign is accepted after that. So the
only other inputs that are consumed to their end are numerals. -/
theorem toInt64_classified_iff (input context : List UInt8) :
    Classified int64 (fun _ => True) input (toInt64 input context) (tryToInt64 input) ↔
      ¬DoublySigned input := by
  constructor
  · intro classified doubled
    obtain ⟨digits, trimmed⟩ := doublySigned_iff.mp doubled
    have unknown : ¬∃ numeral, Denotes (fun _ => True) input numeral := by
      rintro ⟨numeral, denotes⟩
      exact numeral_ne_doubled (trimmed.symm.trans (denotes_iff.mp denotes).2).symm
    have thrown := classified.invalidArgument.mpr unknown
    rw [toInt64, parseInt64_doublySigned trimmed] at thrown
    exact ranged_valid (delivered_invalidArgument_iff.mp thrown)
  · intro single
    by_cases denoted : ∃ numeral, Denotes (fun _ => True) input numeral
    · obtain ⟨numeral, denotes⟩ := denoted
      rw [toInt64, tryToInt64, parseInt64_numeral (denotes_iff.mp denotes).2]
      exact classified_numeral denotes
    · have other (numeral : Numeral) : ¬Denotes (fun _ => True) input numeral :=
        fun denotes => denoted ⟨numeral, denotes⟩
      rw [toInt64, tryToInt64, parseInt64_other single fun numeral trimmed =>
        other numeral (denotes_iff.mpr ⟨trivial, trimmed⟩)]
      exact classified_other other

/-- A plus sign and a minus sign in front of a digit make no numeral, but a number is returned. -/
theorem toInt64_doublySigned :
    toInt64 [43, 45, 53] [] = .ok (-5) ∧ tryToInt64 [43, 45, 53] = some (-5) ∧
      ¬∃ numeral, Denotes (fun _ => True) [43, 45, 53] numeral := by
  refine ⟨by decide, by decide, ?_⟩
  rintro ⟨numeral, denotes⟩
  have trimmed := (denotes_iff.mp denotes).2
  have unchanged : trim [43, 45, 53] = [43, 45, 53] := by decide
  have decimal : ∀ byte ∈ [53], isDigit byte = true := List.forall_mem_singleton.mpr (by decide)
  exact @numeral_ne_doubled numeral ⟨[53], by decide, decimal⟩ (trimmed.symm.trans unchanged)

example : toInt64 [32, 45, 53, 9] [] = .ok (-5) := by decide

/-! ## Unsigned integers -/

theorem parseUint64_numeral (positive : numeral.sign ≠ .minus)
    (trimmed : trim input = numeral.text) :
    parseUint64 input out = ranged uint64 numeral.value out := by
  have bare : remainingSign numeral.sign = .absent := by
    cases found : numeral.sign
    · rfl
    · rfl
    · exact absurd found positive
  have front : (⟨remainingSign numeral.sign, numeral.digits⟩ : Numeral).text.head? ≠ some 45 := by
    rw [bare]
    exact numeral.digits.head.2
  rw [parseUint64, trimmed, if_neg (numeral_nonempty numeral), unsignedText_numeral,
    if_neg (numeral_nonempty _), if_neg front, checked_numeral (.inl bare), remainingSign_value]

theorem parseUint64_other
    (other : ∀ numeral : Numeral, numeral.sign ≠ .minus → trim input ≠ numeral.text) :
    parseUint64 input out = (.kInvalid, out) := by
  unfold parseUint64
  split
  · rfl
  · split
    · rfl
    · split
      · rfl
      case isFalse nonempty _ =>
        refine checked_other nonempty (fun numeral accepts same => ?_) 0
        obtain ⟨sign, digits⟩ := numeral
        rcases accepts with rfl | ⟨_, signed⟩
        · rcases unsignedText_inv same.symm with equal | plus
          · exact other ⟨.absent, digits⟩ (by simp) equal
          · exact other ⟨.plus, digits⟩ (by simp) plus
        · cases signed

/-- `to_uint64` classifies every input correctly.

Proof: what remains after a plus sign is refused if it begins with a minus sign, and otherwise it
is consumed to its end only if it consists of digits. -/
theorem toUint64_classified (input context : List UInt8) :
    Classified uint64 (fun sign => sign ≠ .minus) input (toUint64 input context)
      (tryToUint64 input) := by
  by_cases denoted : ∃ numeral, Denotes (fun sign => sign ≠ .minus) input numeral
  · obtain ⟨numeral, denotes⟩ := denoted
    obtain ⟨positive, trimmed⟩ := denotes_iff.mp denotes
    rw [toUint64, tryToUint64, parseUint64_numeral positive trimmed]
    exact classified_numeral denotes
  · have other (numeral : Numeral) : ¬Denotes (fun sign => sign ≠ .minus) input numeral :=
      fun denotes => denoted ⟨numeral, denotes⟩
    rw [toUint64, tryToUint64, parseUint64_other fun numeral positive trimmed =>
      other numeral (denotes_iff.mpr ⟨positive, trimmed⟩)]
    exact classified_other other

end StringUtils

end Moban
