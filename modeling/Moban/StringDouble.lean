import Moban.FloatLiterals
import Moban.Paths
import Moban.StringNumbers

/-!
# Floating-point numbers from text

The text is given to `strtod_l` with the C locale. That function accepts forms that are not
wanted here, so two filters refuse hexadecimal literals, infinities and NaNs before, and the
whole text must be consumed. A result that is zero is refused if the digits are not all zero.

`strtod` is any function that keeps what the C standard says about the text it consumes, and that
rounds decimal literals correctly. Nothing is assumed about its value for other forms.
-/

namespace Moban

open Numerals FloatLiterals

namespace StringUtils

/-! ## The conversion of the C library -/

/-- Blanks are skipped, and then the longest number is read. If there is none, nothing is
consumed. -/
structure Strtod where
  consumed : List UInt8 → Nat
  value : List UInt8 → Binary64
  consumed_number : ∀ text count, Longest Subject (text.dropWhile isAsciiWhitespace) count →
    consumed text = (text.takeWhile isAsciiWhitespace).length + count
  consumed_nothing : ∀ text,
    (∀ count, ¬Subject ((text.dropWhile isAsciiWhitespace).take count)) → consumed text = 0
  value_decimal : ∀ text count (literal : Decimal),
    Longest Subject (text.dropWhile isAsciiWhitespace) count →
    literal.text = (text.dropWhile isAsciiWhitespace).take count → value text = literal.rounded

open Classical in
/-- There is such a function. Its value is NaN where nothing is required. -/
noncomputable def Strtod.reference : Strtod where
  consumed text :=
    if found : ∃ count, Longest Subject (text.dropWhile isAsciiWhitespace) count then
      (text.takeWhile isAsciiWhitespace).length + found.choose
    else 0
  value text :=
    if found : ∃ literal : Decimal, ∃ count,
        Longest Subject (text.dropWhile isAsciiWhitespace) count ∧
          literal.text = (text.dropWhile isAsciiWhitespace).take count then
      found.choose.rounded
    else .nan
  consumed_number text count longest := by
    have found : ∃ count, Longest Subject (text.dropWhile isAsciiWhitespace) count :=
      ⟨count, longest⟩
    rw [dif_pos found, found.choose_spec.unique longest]
  consumed_nothing text unread := dif_neg fun found => unread _ found.choose_spec.form
  value_decimal text count literal longest read := by
    have found : ∃ literal : Decimal, ∃ count,
        Longest Subject (text.dropWhile isAsciiWhitespace) count ∧
          literal.text = (text.dropWhile isAsciiWhitespace).take count :=
      ⟨literal, count, longest, read⟩
    rw [dif_pos found]
    obtain ⟨other, otherLongest, otherRead⟩ := found.choose_spec
    rw [otherLongest.unique longest, ← read] at otherRead
    rw [Decimal.text_injective otherRead]

/-! ## The filters -/

def toLowerAscii (c : UInt8) : UInt8 := if 65 ≤ c ∧ c ≤ 90 then c - 65 + 97 else c

def toLower (input : List UInt8) : List UInt8 := input.map toLowerAscii

/-- The text without a sign at its beginning. -/
def bare (text : List UInt8) : List UInt8 :=
  if text.head? = some 43 ∨ text.head? = some 45 then text.tail else text

/-- The loop over the bytes that follow the sign. -/
def scanZero : List UInt8 → Bool → Bool
  | [], hasDigit => hasDigit
  | c :: rest, hasDigit =>
    if c = 101 ∨ c = 69 then hasDigit
    else if c = 46 then scanZero rest hasDigit
    else if c < 48 ∨ 57 < c then false
    else if c ≠ 48 then false
    else scanZero rest true

def isZeroLiteral (text : List UInt8) : Bool := scanZero (bare text) false

def looksLikeHexLiteral (text : List UInt8) : Bool :=
  match bare text with
  | 48 :: x :: _ => decide (x = 120 ∨ x = 88)
  | _ => false

def looksLikeNonFiniteLiteral (text : List UInt8) : Bool :=
  decide (ascii "inf" <+: bare (toLower text) ∨ ascii "nan" <+: bare (toLower text))

/-! ## Parsing -/

def parseDouble (strtod : Strtod) (input : List UInt8) (out : Binary64) : NumberStatus × Binary64 :=
  let text := trim input
  let value := strtod.value (Paths.cString 0 text)
  if text = [] then (.kInvalid, out)
  else if looksLikeHexLiteral text = true then (.kInvalid, out)
  else if looksLikeNonFiniteLiteral text = true then (.kInvalid, out)
  else if strtod.consumed (Paths.cString 0 text) ≠ text.length then (.kInvalid, out)
  else if value.isInfinite = true then (.kOutOfRange, out)
  else if value.isZero = true ∧ isZeroLiteral text = false then (.kOutOfRange, out)
  else (.kOk, value)

def toDouble (strtod : Strtod) (input context : List UInt8) : Except NumberError Binary64 :=
  delivered (parseDouble strtod input (.finite false 0 0)) context (ascii "double") input

def tryToDouble (strtod : Strtod) (input : List UInt8) : Option Binary64 :=
  attempted (parseDouble strtod input (.finite false 0 0))

variable {strtod : Strtod} {text input context : List UInt8} {out : Binary64} {literal : Decimal}

/-! ## What the filters let through -/

theorem bare_sign {sign : Sign} {body : List UInt8}
    (plain : body.head? ≠ some 43 ∧ body.head? ≠ some 45) : bare (sign.text ++ body) = body := by
  cases sign with
  | absent => exact if_neg (not_or.mpr plain)
  | plus => exact if_pos (.inl rfl)
  | minus => exact if_pos (.inr rfl)

theorem bare_subset : bare text ⊆ text := by
  unfold bare
  split
  · exact List.tail_subset _
  · exact List.Subset.refl _

theorem toLower_sign (sign : Sign) (body : List UInt8) :
    toLower (sign.text ++ body) = sign.text ++ toLower body := by
  cases sign <;> simp [toLower, Sign.text, toLowerAscii]

/-- A decimal literal has no `x` in it. -/
theorem looksLikeHexLiteral_decimal : looksLikeHexLiteral literal.text = false := by
  unfold looksLikeHexLiteral
  split
  case h_1 x _ found =>
    refine decide_eq_false fun marked => ?_
    have member : x ∈ literal.text := bare_subset (by rw [found]; simp)
    have plain := Decimal.text_mem member
    rcases marked with rfl | rfl
    · exact absurd plain (by decide)
    · exact absurd plain (by decide)
  · rfl

/-- The letters of a decimal literal stay what they are, or become an `e`. -/
theorem toLower_decimal {byte : UInt8} (member : byte ∈ toLower literal.text) :
    byte ≠ 105 ∧ byte ≠ 110 := by
  obtain ⟨source, inside, rfl⟩ := List.mem_map.mp member
  rcases Decimal.text_mem inside with digit | known
  · have bounds := of_decide_eq_true digit
    have small : ¬(65 ≤ source ∧ source ≤ 90) := by
      rintro ⟨above, _⟩
      exact absurd (UInt8.le_trans above bounds.2) (by decide)
    rw [toLowerAscii, if_neg small]
    constructor
    · rintro rfl
      exact absurd digit (by decide)
    · rintro rfl
      exact absurd digit (by decide)
  · simp only [List.mem_cons, List.not_mem_nil, or_false] at known
    rcases known with rfl | rfl | rfl | rfl | rfl
    all_goals decide

theorem looksLikeNonFiniteLiteral_decimal : looksLikeNonFiniteLiteral literal.text = false := by
  refine decide_eq_false ?_
  rintro (infinite | nan)
  · have member := infinite.subset (List.mem_cons_self : (105 : UInt8) ∈ ascii "inf")
    exact (toLower_decimal (bare_subset member)).1 rfl
  · have member := nan.subset (List.mem_cons_self : (110 : UInt8) ∈ ascii "nan")
    exact (toLower_decimal (bare_subset member)).2 rfl

theorem toLower_eq (input : List UInt8) : toLower input = input.map lower := by
  refine List.map_congr_left fun c _ => ?_
  unfold toLowerAscii lower
  split
  · rw [UInt8.sub_eq_add_neg, UInt8.add_assoc]
    rfl
  · rfl

/-- A word is refused whatever its sign is. -/
theorem looksLikeNonFiniteLiteral_word {sign : Sign} {word : List UInt8}
    (spelled : ascii "inf" <+: toLower word ∨ ascii "nan" <+: toLower word) :
    looksLikeNonFiniteLiteral (sign.text ++ word) = true := by
  refine decide_eq_true ?_
  have plain : (toLower word).head? ≠ some 43 ∧ (toLower word).head? ≠ some 45 := by
    rcases spelled with ⟨rest, whole⟩ | ⟨rest, whole⟩
    all_goals
      rw [← whole]
      simp [ascii]
  rw [toLower_sign, bare_sign plain]
  exact spelled

/-- What the filters refuse is all that a number may be, other than a decimal literal. -/
theorem subject_filtered (subject : Subject text) (finite : looksLikeHexLiteral text = false)
    (ordinary : looksLikeNonFiniteLiteral text = false) :
    ∃ literal : Decimal, literal.text = text := by
  cases subject with
  | decimal literal => exact ⟨literal, rfl⟩
  | hexadecimal sign marked mantissa exponent =>
    rw [looksLikeHexLiteral, bare_sign (by simp)] at finite
    exact absurd marked (of_decide_eq_false finite)
  | infinity sign spelled =>
    rw [← toLower_eq] at spelled
    refine absurd (looksLikeNonFiniteLiteral_word (.inl ?_)) (Bool.not_eq_true _ ▸ ordinary)
    rcases spelled with short | long
    · exact ⟨[], short.symm⟩
    · exact ⟨[105, 110, 105, 116, 121], long.symm⟩
  | nan sign spelled payload admitted =>
    rw [← toLower_eq] at spelled
    refine absurd (looksLikeNonFiniteLiteral_word (.inr ?_)) (Bool.not_eq_true _ ▸ ordinary)
    rw [toLower, List.map_append, ← toLower, spelled]
    exact List.prefix_append _ _

/-! ## Zero literals -/

/-- The digits and the points of a mantissa decide, and the exponent is not looked at. -/
theorem scanZero_append {letters : Option (Exponent [101, 69])} {bytes : List UInt8}
    (plain : ∀ byte ∈ bytes, isDigit byte = true ∨ byte = 46) (hasDigit : Bool) :
    scanZero (bytes ++ exponentText letters) hasDigit = true ↔
      (∀ byte ∈ bytes, byte = 48 ∨ byte = 46) ∧ (hasDigit = true ∨ 48 ∈ bytes) := by
  induction bytes generalizing hasDigit with
  | nil =>
    have stopped : scanZero (exponentText letters) hasDigit = hasDigit := by
      cases letters with
      | none => rfl
      | some exponent =>
        have known := exponent.known
        simp only [List.mem_cons, List.not_mem_nil, or_false] at known
        exact if_pos known
    simp [stopped]
  | cons byte rest ih =>
    have later := ih fun other member =>
      plain other (List.mem_cons_of_mem _ member)
    rw [List.cons_append, scanZero, List.forall_mem_cons]
    rcases plain byte List.mem_cons_self with digit | rfl
    · have bounds := of_decide_eq_true digit
      have letter : ¬(byte = 101 ∨ byte = 69) := by
        rintro (rfl | rfl) <;> exact absurd digit (by decide)
      have point : byte ≠ 46 := by
        rintro rfl
        exact absurd digit (by decide)
      have inside : ¬(byte < 48 ∨ 57 < byte) := by
        rintro (below | above)
        · exact absurd bounds.1 (UInt8.not_le.mpr below)
        · exact absurd bounds.2 (UInt8.not_le.mpr above)
      rw [if_neg letter, if_neg point, if_neg inside]
      by_cases zero : byte = 48
      · rw [if_neg (not_not_intro zero), later]
        simp [zero]
      · rw [if_pos zero]
        simp [zero, point]
    · rw [if_neg (by decide), if_pos rfl, later]
      simp

/-- The scan finds out whether the exact value is zero. -/
theorem isZeroLiteral_decimal : isZeroLiteral literal.text = true ↔ literal.value = 0 := by
  rw [isZeroLiteral, Decimal.text, bare_sign (Decimal.mantissa_head _ _),
    scanZero_append (fun _ => Mantissa.text_plain), Decimal.value_eq_zero_iff]
  constructor
  · rintro ⟨zeros, _⟩ byte member
    rcases zeros byte (literal.mantissa.digits_subset member) with zero | rfl
    · exact zero
    · exact absurd (literal.mantissa.digital 46 member) (by decide)
  · intro zeros
    refine ⟨fun byte member => (Mantissa.mem_text member).imp_left (zeros byte), .inr ?_⟩
    obtain ⟨byte, member⟩ := List.exists_mem_of_ne_nil _ literal.mantissa.nonempty
    rw [← zeros byte member]
    exact literal.mantissa.digits_subset member

/-! ## What is consumed -/

theorem cString_decimal : Paths.cString 0 literal.text = literal.text := by
  refine List.takeWhile_eq_self_iff.mpr fun byte member => decide_eq_true ?_
  rintro rfl
  exact absurd (Decimal.text_mem member) (by decide)

/-- Trimmed text does not begin with a blank, up to its first terminator either. -/
theorem dropWhile_trim :
    (Paths.cString 0 (trim input)).dropWhile isAsciiWhitespace = Paths.cString 0 (trim input) ∧
      (Paths.cString 0 (trim input)).takeWhile isAsciiWhitespace = [] := by
  cases found : Paths.cString 0 (trim input) with
  | nil => exact ⟨rfl, rfl⟩
  | cons first rest =>
    have cut : Paths.cString 0 (trim input) <+: trim input := List.takeWhile_prefix _
    have head : first ∈ (trim input).head? := by
      obtain ⟨others, whole⟩ := cut
      rw [← whole, found]
      rfl
    have solid : ¬isAsciiWhitespace first = true := by
      rw [Bool.not_eq_true]
      exact strip_head head
    exact ⟨List.dropWhile_cons_of_neg solid, List.takeWhile_cons_of_neg solid⟩

/-- A decimal literal is read to its end. -/
theorem longest_decimal (same : literal.text = trim input) :
    Longest Subject ((Paths.cString 0 (trim input)).dropWhile isAsciiWhitespace)
      (trim input).length := by
  rw [dropWhile_trim.1, ← same, cString_decimal]
  have form : Subject (literal.text.take literal.text.length) := by
    rw [List.take_length]
    exact .decimal literal
  exact ⟨le_rfl, form, fun _ within _ => within⟩

/-- If all of the text is consumed, it has the form of a number. -/
theorem subject_of_consumed (nonempty : trim input ≠ [])
    (consumed : strtod.consumed (Paths.cString 0 (trim input)) = (trim input).length) :
    Subject (trim input) := by
  by_cases found : ∃ count,
      Subject (((Paths.cString 0 (trim input)).dropWhile isAsciiWhitespace).take count)
  · obtain ⟨_, form⟩ := found
    obtain ⟨count, longest⟩ := longest_exists form
    rw [strtod.consumed_number _ _ longest, dropWhile_trim.2, List.length_nil, Nat.zero_add]
      at consumed
    rw [dropWhile_trim.1, consumed] at longest
    have cut : Paths.cString 0 (trim input) <+: trim input := List.takeWhile_prefix _
    have whole : Paths.cString 0 (trim input) = trim input := cut.eq_of_length_le longest.within
    have all := longest.form
    rwa [whole, List.take_length] at all
  · rw [strtod.consumed_nothing _ (not_exists.mp found)] at consumed
    exact absurd (List.eq_nil_of_length_eq_zero consumed.symm) nonempty

/-! ## Classification -/

/-- The rounded value is infinite, or it is zero although the literal is not. -/
def OutOfRange (literal : Decimal) : Prop :=
  literal.rounded.isInfinite = true ∨ literal.rounded.isZero = true ∧ literal.value ≠ 0

theorem inside_of_zero (zero : literal.value = 0) : ¬OutOfRange literal := by
  rintro (infinite | ⟨_, nonzero⟩)
  · rw [Decimal.rounded_of_zero zero] at infinite
    cases infinite
  · exact nonzero zero

/-- What is done with the value of a decimal literal. -/
theorem parseDouble_decimal (same : literal.text = trim input) :
    (OutOfRange literal → parseDouble strtod input out = (.kOutOfRange, out)) ∧
      (¬OutOfRange literal → parseDouble strtod input out = (.kOk, literal.rounded)) := by
  have longest := longest_decimal same
  have nonempty : trim input ≠ [] := by
    rw [← same]
    exact Decimal.text_nonempty literal
  have hexadecimal : ¬looksLikeHexLiteral (trim input) = true := by
    rw [← same, looksLikeHexLiteral_decimal]
    decide
  have nonFinite : ¬looksLikeNonFiniteLiteral (trim input) = true := by
    rw [← same, looksLikeNonFiniteLiteral_decimal]
    decide
  have consumed : strtod.consumed (Paths.cString 0 (trim input)) = (trim input).length := by
    rw [strtod.consumed_number _ _ longest, dropWhile_trim.2, List.length_nil, Nat.zero_add]
  have value : strtod.value (Paths.cString 0 (trim input)) = literal.rounded := by
    refine strtod.value_decimal _ _ literal longest ?_
    rw [dropWhile_trim.1, ← same, cString_decimal, List.take_length]
  have zero : isZeroLiteral (trim input) = false ↔ literal.value ≠ 0 := by
    rw [← Bool.not_eq_true, ← same, isZeroLiteral_decimal]
  simp only [parseDouble, if_neg nonempty, if_neg hexadecimal, if_neg nonFinite,
    if_neg (not_not_intro consumed), value, zero]
  constructor
  · rintro (infinite | underflow)
    · rw [if_pos infinite]
    · rw [if_pos underflow, ite_self]
  · intro inside
    obtain ⟨finite, faithful⟩ := not_or.mp inside
    rw [if_neg finite, if_neg faithful]

/-- What is no decimal literal is refused by a filter, or it is not consumed to its end. -/
theorem parseDouble_other (other : ∀ literal : Decimal, literal.text ≠ trim input) :
    parseDouble strtod input out = (.kInvalid, out) := by
  by_contra accepted
  have passed : trim input ≠ [] ∧ looksLikeHexLiteral (trim input) = false ∧
      looksLikeNonFiniteLiteral (trim input) = false ∧
      strtod.consumed (Paths.cString 0 (trim input)) = (trim input).length := by
    simp only [parseDouble] at accepted
    split_ifs at accepted with empty hexadecimal nonFinite unread
    iterate 4 exact absurd rfl accepted
    all_goals exact ⟨empty, Bool.eq_false_iff.mpr hexadecimal, Bool.eq_false_iff.mpr nonFinite,
      not_not.mp unread⟩
  obtain ⟨nonempty, hexadecimal, nonFinite, consumed⟩ := passed
  obtain ⟨literal, same⟩ :=
    subject_filtered (subject_of_consumed nonempty consumed) hexadecimal nonFinite
  exact other literal same

/-- The input is a decimal literal between blanks. -/
def Literal (input : List UInt8) (literal : Decimal) : Prop := literal.text = trim input

/-- What is no decimal literal is invalid. A literal is out of range, or its rounded value is
returned. -/
structure DoubleClassified (input : List UInt8) (status : NumberStatus)
    (result : Except NumberError Binary64) (attempt : Option Binary64) : Prop where
  invalid : status = .kInvalid ↔ ¬∃ literal, Literal input literal
  outOfRange : status = .kOutOfRange ↔ ∃ literal, Literal input literal ∧ OutOfRange literal
  ok : status = .kOk ↔ ∃ literal, Literal input literal ∧ ¬OutOfRange literal
  thrownInvalid : (∃ message, result = .error (.invalidArgument message)) ↔ status = .kInvalid
  thrownRange : (∃ message, result = .error (.outOfRange message)) ↔ status = .kOutOfRange
  returned : ∀ value, result = .ok value ↔
    ∃ literal, Literal input literal ∧ ¬OutOfRange literal ∧ literal.rounded = value
  attempt : ∀ value, attempt = some value ↔
    ∃ literal, Literal input literal ∧ ¬OutOfRange literal ∧ literal.rounded = value

theorem parseDouble_invalid_iff :
    (parseDouble strtod input out).1 = .kInvalid ↔ ¬∃ literal, Literal input literal := by
  constructor
  · rintro invalid ⟨literal, same⟩
    by_cases outside : OutOfRange literal
    · rw [(parseDouble_decimal same).1 outside] at invalid
      cases invalid
    · rw [(parseDouble_decimal same).2 outside] at invalid
      cases invalid
  · intro other
    rw [parseDouble_other (not_exists.mp other)]

theorem parseDouble_outOfRange_iff : (parseDouble strtod input out).1 = .kOutOfRange ↔
      ∃ literal, Literal input literal ∧ OutOfRange literal := by
  constructor
  · intro refused
    obtain ⟨literal, same⟩ : ∃ literal, Literal input literal := by
      by_contra other
      rw [parseDouble_other (not_exists.mp other)] at refused
      cases refused
    refine ⟨literal, same, ?_⟩
    by_contra inside
    rw [(parseDouble_decimal same).2 inside] at refused
    cases refused
  · rintro ⟨literal, same, outside⟩
    rw [(parseDouble_decimal same).1 outside]

theorem parseDouble_eq_ok_iff {value : Binary64} : parseDouble strtod input out = (.kOk, value) ↔
      ∃ literal, Literal input literal ∧ ¬OutOfRange literal ∧ literal.rounded = value := by
  constructor
  · intro accepted
    obtain ⟨literal, same⟩ : ∃ literal, Literal input literal := by
      by_contra other
      rw [parseDouble_other (not_exists.mp other)] at accepted
      cases accepted
    by_cases outside : OutOfRange literal
    · rw [(parseDouble_decimal same).1 outside] at accepted
      cases accepted
    · rw [(parseDouble_decimal same).2 outside] at accepted
      exact ⟨literal, same, outside, congrArg Prod.snd accepted⟩
  · rintro ⟨literal, same, inside, rfl⟩
    exact (parseDouble_decimal same).2 inside

/-- The status of the text says everything about the input.

Proof: a decimal literal passes the filters and is consumed to its end, so that only its value
matters, and the scan of its digits finds out whether it is zero. Another text that passes the
filters has no form that is consumed to its end. -/
theorem toDouble_classified (strtod : Strtod) (input context : List UInt8) (out : Binary64) :
    DoubleClassified input (parseDouble strtod input out).1 (toDouble strtod input context)
      (tryToDouble strtod input) := by
  refine ⟨parseDouble_invalid_iff, parseDouble_outOfRange_iff, ?_, ?_, ?_, ?_, ?_⟩
  · constructor
    · intro accepted
      obtain ⟨literal, same, inside, _⟩ := parseDouble_eq_ok_iff.mp (Prod.ext accepted rfl)
      exact ⟨literal, same, inside⟩
    · rintro ⟨literal, same, inside⟩
      rw [(parseDouble_decimal same).2 inside]
  · rw [toDouble, delivered_invalidArgument_iff, parseDouble_invalid_iff, parseDouble_invalid_iff]
  · rw [toDouble, delivered_outOfRange_iff, parseDouble_outOfRange_iff, parseDouble_outOfRange_iff]
  · intro value
    rw [toDouble, delivered_eq_ok_iff, parseDouble_eq_ok_iff]
  · intro value
    rw [tryToDouble, attempted_eq_some_iff, parseDouble_eq_ok_iff]

/-- Zero with a sign and an exponent is accepted, with its sign. -/
theorem toDouble_classified_zero : (parseDouble Strtod.reference [45, 48, 101, 57] .nan).1 = .kOk ∧
      toDouble Strtod.reference [45, 48, 101, 57] [] =
        .ok (.finite true 0 (Binary64.exponentOf 0)) := by
  have classified := toDouble_classified Strtod.reference [45, 48, 101, 57] [] .nan
  let zero : Decimal := {
    sign := .minus
    mantissa := ⟨[48], none, by decide, List.forall_mem_singleton.mpr (by decide)⟩
    exponent := some ⟨101, List.mem_cons_self, .absent,
      ⟨[57], by decide, List.forall_mem_singleton.mpr (by decide)⟩⟩ }
  have same : Literal [45, 48, 101, 57] zero := rfl
  have value : zero.value = 0 :=
    (Decimal.value_eq_zero_iff zero).mpr (List.forall_mem_singleton.mpr rfl)
  exact ⟨classified.ok.mpr ⟨zero, same, inside_of_zero value⟩,
    (classified.returned _).mpr ⟨zero, same, inside_of_zero value, Decimal.rounded_of_zero value⟩⟩

end StringUtils

end Moban
