import Formulary.Evaluation
import Formulary.Proofs.Lexemes

/-!
# Numbers are numerals

Every number of the lexical grammar is a numeral, and so has a value.
-/

namespace Formulary.Lexeme
open Formulary.Text Formulary.Number

/-- The characters that a number is made of. -/
def IsNumeric (c : Char) : Prop := c.isDigit ∨ c ∈ ['.', 'e', 'E', '+', '-']

theorem IsMantissa.isNumeric {cs : List Char} (isMantissa : IsMantissa cs) : ∀ c ∈ cs, IsNumeric c := by
  intro c member
  cases isMantissa with
  | whole whole => exact .inl (whole.2 c member)
  | pointed whole rest =>
    rw [List.mem_append, List.mem_cons] at member
    rcases member with member | rfl | member
    · exact .inl (whole.2 c member)
    · exact .inr (by simp)
    · exact .inl (rest c member)
  | fraction fraction =>
    rw [List.mem_cons] at member
    rcases member with rfl | member
    · exact .inr (by simp)
    · exact .inl (fraction.2 c member)

theorem IsExponent.isNumeric {cs : List Char} (isExponent : IsExponent cs) : ∀ c ∈ cs, IsNumeric c := by
  intro c member
  cases isExponent with
  | power marked signed power =>
    rw [List.mem_cons, List.mem_append] at member
    rcases member with rfl | member | member
    · rcases marked with rfl | rfl
      · exact .inr (by simp)
      · exact .inr (by simp)
    · rcases signed with rfl | rfl | rfl
      · cases member
      · exact .inr (by simp_all)
      · exact .inr (by simp_all)
    · exact .inl (power.2 c member)

theorem IsNumber.isNumeric {cs : List Char} (isNumber : IsNumber cs) : ∀ c ∈ cs, IsNumeric c := by
  obtain ⟨whole, power, isMantissa, isExponent, rfl⟩ := isNumber
  intro c member
  rw [List.mem_append] at member
  rcases member with member | member
  · exact isMantissa.isNumeric c member
  · rcases isExponent with rfl | isExponent
    · cases member
    · exact isExponent.isNumeric c member

theorem commonDigit_of_isDigit {c : Char} (digit : c.isDigit) : commonDigit c = c := by
  obtain ⟨least, greatest⟩ := isDigit_iff_toNat.1 digit
  have value : decimalValue? c = some (c.toNat - 48) := by
    rw [decimalValue?, decimalZeros, List.find?_cons_of_pos]
    · rfl
    · simp only [Bool.and_eq_true, decide_eq_true_eq]
      omega
  rw [commonDigit, value]
  simp only
  rw [Nat.add_sub_cancel' least, Char.ofNat_toNat]

/-- A character of a number is its own common form, and no margin or underscore. -/
theorem IsNumeric.common {c : Char} (numeric : IsNumeric c) :
    commonDigit c = c ∧ isMargin c = false ∧ c ≠ '_' := by
  rcases numeric with digit | other
  · refine ⟨commonDigit_of_isDigit digit, ?_, ?_⟩
    · rw [isMargin, Bool.eq_false_iff.2 (not_isBlank_of_isNamePart (isNamePart_of_isDigit digit)), Bool.false_and]
    · rintro rfl
      exact absurd digit (by decide)
  · simp only [List.mem_cons, List.not_mem_nil, or_false] at other
    rcases other with rfl | rfl | rfl | rfl | rfl <;> decide

theorem dropWhile_of_none {p : Char → Bool} {cs : List Char} (outside : ∀ c ∈ cs, p c = false) :
    cs.dropWhile p = cs := by
  cases cs with
  | nil => rfl
  | cons c rest => rw [List.dropWhile_cons_of_neg (by simp [outside c List.mem_cons_self])]

theorem trimMargins_of_none {cs : List Char} (outside : ∀ c ∈ cs, isMargin c = false) :
    trimMargins cs = cs := by
  have reversed : ∀ c ∈ cs.reverse, isMargin c = false := fun c member => outside c (List.mem_reverse.1 member)
  rw [trimMargins, dropWhile_of_none outside, dropWhile_of_none reversed, List.reverse_reverse]

theorem dropUnderscores_of_none {cs : List Char} (outside : ∀ c ∈ cs, c ≠ '_') (afterDigit : Bool) :
    dropUnderscores afterDigit cs = some cs := by
  induction cs generalizing afterDigit with
  | nil => rfl
  | cons c rest ih =>
    rw [List.forall_mem_cons] at outside
    rw [dropUnderscores, if_neg outside.1, ih outside.2, Option.map_some]

theorem splitSign_of_unsigned {cs : List Char} (unsigned : ∀ c, cs.head? = some c → c ≠ '+' ∧ c ≠ '-') :
    splitSign cs = (false, cs) := by
  cases cs with
  | nil => rfl
  | cons c rest =>
    obtain ⟨notPlus, notMinus⟩ := unsigned c rfl
    unfold splitSign
    split
    next same => exact absurd (List.cons.inj same).1 notMinus
    next same => exact absurd (List.cons.inj same).1 notPlus
    next => rfl

theorem exists_intOfChars? {signs digits : List Char} (signed : signs = [] ∨ signs = ['+'] ∨ signs = ['-'])
    (isInteger : IsInteger digits) : ∃ value, intOfChars? (signs ++ digits) = some value := by
  have split : ∃ negative, splitSign (signs ++ digits) = (negative, digits) := by
    rcases signed with rfl | rfl | rfl
    · refine ⟨false, splitSign_of_unsigned ?_⟩
      intro c first
      have digit := isInteger.2 c (List.mem_of_head? first)
      constructor
      · rintro rfl
        exact absurd digit (by decide)
      · rintro rfl
        exact absurd digit (by decide)
    · exact ⟨false, rfl⟩
    · exact ⟨true, rfl⟩
  obtain ⟨negative, split⟩ := split
  rw [intOfChars?, split]
  simp only
  rw [if_pos ⟨isInteger.1, List.all_eq_true.2 isInteger.2⟩]
  exact ⟨_, rfl⟩

theorem exists_scale? {exponent : List Char} (isExponent : exponent = [] ∨ IsExponent exponent) :
    ∃ scale, scale? exponent = some scale := by
  rcases isExponent with rfl | isExponent
  · exact ⟨0, rfl⟩
  · cases isExponent with
    | power marked signed power =>
      rw [scale?, if_pos marked]
      exact exists_intOfChars? signed power

/-- A number is its digits before the point, its digits after it, and its exponent. -/
theorem IsNumber.exists_parts {cs : List Char} (isNumber : IsNumber cs) :
    ∃ whole fraction exponent, cs.takeWhile Char.isDigit = whole ∧
      splitFraction (cs.dropWhile Char.isDigit) = (fraction, exponent) ∧ whole ++ fraction ≠ [] ∧
      (exponent = [] ∨ IsExponent exponent) := by
  obtain ⟨mantissa, exponent, isMantissa, isExponent, rfl⟩ := isNumber
  have outside := IsMantissa.noDigit_exponent isExponent apart_nil
  rw [List.append_nil] at outside
  have noDigit : NoDigit exponent := fun c first => (outside c first).1
  cases isMantissa with
  | whole whole =>
    obtain ⟨run, after⟩ := takeWhile_append_of_head whole.2 noDigit
    refine ⟨mantissa, [], exponent, run, ?_, by simp [whole.1], isExponent⟩
    rw [after]
    unfold splitFraction
    split
    next same => exact absurd rfl (outside '.' (by simp)).2
    next => rfl
  | @pointed digits fraction whole rest =>
    obtain ⟨run, after⟩ := takeWhile_append_of_head whole.2 (noDigit_point (fraction ++ exponent))
    obtain ⟨run', after'⟩ := takeWhile_append_of_head rest noDigit
    rw [List.append_assoc, List.cons_append]
    refine ⟨digits, fraction, exponent, run, ?_, by simp [whole.1], isExponent⟩
    rw [after, splitFraction, run', after']
  | @fraction digits fraction =>
    obtain ⟨run, after⟩ := takeWhile_append_of_head fraction.2 noDigit
    refine ⟨[], digits, exponent, rfl, ?_, by simp [fraction.1], isExponent⟩
    change splitFraction ('.' :: (digits ++ exponent)) = _
    rw [splitFraction, run, after]

theorem IsNumber.exists_unsigned? {cs : List Char} (isNumber : IsNumber cs) :
    ∃ number, unsigned? cs = some number := by
  obtain ⟨whole, fraction, exponent, run, split, filled, isExponent⟩ := isNumber.exists_parts
  obtain ⟨scale, found⟩ := exists_scale? isExponent
  rw [unsigned?, run, split]
  simp only
  rw [if_neg filled, found]
  exact ⟨_, rfl⟩

/-- A number starts with a digit or a point, so it has no sign. -/
theorem IsNumber.splitSign_eq {cs : List Char} (isNumber : IsNumber cs) : splitSign cs = (false, cs) := by
  apply splitSign_of_unsigned
  intro c first
  have starts := startsNumber_append isNumber []
  rw [List.append_nil] at starts
  cases cs with
  | nil => cases first
  | cons d rest =>
    cases first
    rw [startsNumber, Bool.or_eq_true, Bool.and_eq_true, beq_iff_eq] at starts
    constructor
    · rintro rfl
      exact absurd starts (by simp [Char.isDigit])
    · rintro rfl
      exact absurd starts (by simp [Char.isDigit])

/-- No character of a number is a letter of the words for an infinity and for no number. -/
theorem IsNumeric.toLower_ne {c : Char} (numeric : IsNumeric c) : c.toLower ≠ 'n' := by
  rcases numeric with digit | other
  · obtain ⟨_, greatest⟩ := isDigit_iff_toNat.1 digit
    have lower : c.toLower = c := by
      refine dif_neg ?_
      rintro ⟨least, _⟩
      have code : 65 ≤ c.toNat := UInt32.le_iff_toNat_le.1 least
      omega
    rw [lower]
    rintro rfl
    exact absurd digit (by decide)
  · simp only [List.mem_cons, List.not_mem_nil, or_false] at other
    rcases other with rfl | rfl | rfl | rfl | rfl <;> decide

theorem wordValue?_of_isNumeric {cs : List Char} (numeric : ∀ c ∈ cs, IsNumeric c) : wordValue? cs = none := by
  have other : ∀ word : String, 'n' ∈ word.toList → String.ofList (cs.map Char.toLower) ≠ word := by
    rintro word member rfl
    rw [String.toList_ofList, List.mem_map] at member
    obtain ⟨c, member, lower⟩ := member
    exact (numeric c member).toLower_ne lower
  rw [wordValue?, if_neg (not_or.2 ⟨other "inf" (by decide), other "infinity" (by decide)⟩), if_neg (other "nan" (by decide))]

/-- The value of a number is that of its decimal. -/
theorem IsNumber.floatOfText?_eq {text : String} (isNumber : IsNumber text.toList) :
    floatOfText? text = (unsigned? text.toList).map Unsigned.value := by
  have numeric := isNumber.isNumeric
  have common : text.toList.map commonDigit = text.toList := by
    rw [List.map_congr_left fun c member => (numeric c member).common.1, List.map_id']
  rw [floatOfText?, floatOfChars?, trimMargins_of_none fun c member => (numeric c member).common.2.1, common,
    dropUnderscores_of_none fun c member => (numeric c member).common.2.2, Option.bind_some, plainValue?,
    isNumber.splitSign_eq]
  simp [wordValue?_of_isNumeric numeric, Function.comp_def]

/-- Every number is a numeral. -/
theorem exists_floatOfText? {text : String} (isNumber : IsNumber text.toList) :
    ∃ value, floatOfText? text = some value := by
  obtain ⟨number, found⟩ := isNumber.exists_unsigned?
  exact ⟨number.value, by rw [isNumber.floatOfText?_eq, found, Option.map_some]⟩

theorem exists_numeralValue {text : String} (isNumber : IsNumber text.toList) :
    ∃ value, numeralValue text = .ok value ∧ floatOfText? text = some value := by
  obtain ⟨value, found⟩ := exists_floatOfText? isNumber
  rw [numeralValue, found]
  exact ⟨value, rfl, rfl⟩

end Formulary.Lexeme
