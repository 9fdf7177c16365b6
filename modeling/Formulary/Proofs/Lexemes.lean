import Mathlib.Data.List.TakeWhile
import Formulary.Text.Blank
import Formulary.Token.Lexeme

/-!
# The lexical grammar

The complete lexemes of each kind, and what the lexer takes at the head of a text that starts with
one: all of it, and no more, if what follows does not go on with it.
-/

namespace Formulary.Lexeme
open Formulary.Text

/-- One digit or more. -/
def IsInteger (cs : List Char) : Prop := cs ≠ [] ∧ ∀ c ∈ cs, c.isDigit

/-- Digits, digits with a point among or after them, or a point with digits after it. -/
inductive IsMantissa : List Char → Prop where
  | whole {digits : List Char} (whole : IsInteger digits) : IsMantissa digits
  | pointed {digits fraction : List Char} (whole : IsInteger digits) (rest : ∀ c ∈ fraction, c.isDigit) :
      IsMantissa (digits ++ '.' :: fraction)
  | fraction {digits : List Char} (fraction : IsInteger digits) : IsMantissa ('.' :: digits)

/-- A mark, perhaps a sign, and digits. -/
inductive IsExponent : List Char → Prop where
  | power {mark : Char} {sign digits : List Char} (marked : mark = 'e' ∨ mark = 'E')
      (signed : sign = [] ∨ sign = ['+'] ∨ sign = ['-']) (power : IsInteger digits) :
      IsExponent (mark :: (sign ++ digits))

/-- A mantissa, perhaps with an exponent. -/
def IsNumber (cs : List Char) : Prop :=
  ∃ mantissa exponent, IsMantissa mantissa ∧ (exponent = [] ∨ IsExponent exponent) ∧
    cs = mantissa ++ exponent

/-- A number with a point or an exponent. -/
def IsFloat (cs : List Char) : Prop :=
  ∃ mantissa exponent, IsMantissa mantissa ∧ (exponent = [] ∨ IsExponent exponent) ∧
    cs = mantissa ++ exponent ∧ ('.' ∈ mantissa ∨ exponent ≠ [])

/-- A letter or underscore, then letters, digits and underscores. -/
def IsIdentifier (cs : List Char) : Prop :=
  ∃ c rest, cs = c :: rest ∧ isNameStart c ∧ ∀ d ∈ rest, isNamePart d

/-- The complete lexemes of a kind. The markers have none. -/
def IsLexeme : TokenKind → List Char → Prop
  | .identifier, cs => IsIdentifier cs
  | .integer, cs => IsInteger cs
  | .float, cs => IsFloat cs
  | .operator, cs => ∃ c ∈ operators, cs = [c]
  | _, _ => False

theorem IsMantissa.ne_nil {cs : List Char} (isMantissa : IsMantissa cs) : cs ≠ [] := by
  cases isMantissa with
  | whole whole => exact whole.1
  | pointed | fraction => simp

theorem IsLexeme.ne_nil {kind : TokenKind} {cs : List Char} (isLexeme : IsLexeme kind cs) : cs ≠ [] := by
  cases kind with
  | identifier =>
    obtain ⟨c, rest, rfl, _⟩ := isLexeme
    simp
  | integer => exact isLexeme.1
  | float =>
    obtain ⟨mantissa, exponent, isMantissa, _, rfl, _⟩ := isLexeme
    simp [isMantissa.ne_nil]
  | operator =>
    obtain ⟨c, _, rfl⟩ := isLexeme
    simp
  | endMarker | startMarker | other => exact isLexeme.elim

theorem IsInteger.isNumber {cs : List Char} (integer : IsInteger cs) : IsNumber cs :=
  ⟨cs, [], .whole integer, .inl rfl, by simp⟩

theorem IsFloat.isNumber {cs : List Char} (float : IsFloat cs) : IsNumber cs := by
  obtain ⟨mantissa, exponent, isMantissa, isExponent, same, _⟩ := float
  exact ⟨mantissa, exponent, isMantissa, isExponent, same⟩

theorem isDigit_iff_toNat {c : Char} : c.isDigit ↔ 48 ≤ c.toNat ∧ c.toNat ≤ 57 := by
  simp only [Char.isDigit, Bool.and_eq_true, decide_eq_true_eq, ge_iff_le, UInt32.le_iff_toNat_le]
  rfl

theorem isAlpha_iff_toNat {c : Char} :
    c.isAlpha ↔ 65 ≤ c.toNat ∧ c.toNat ≤ 90 ∨ 97 ≤ c.toNat ∧ c.toNat ≤ 122 := by
  change (decide (c.val ≥ 65 ∧ c.val ≤ 90) || (decide (c.val ≥ 97) && decide (c.val ≤ 122))) ↔ _
  simp only [Bool.or_eq_true, Bool.and_eq_true, decide_eq_true_eq, ge_iff_le, UInt32.le_iff_toNat_le]
  rfl

/-- A text that does not start with a character that could go on with a name or a number. -/
def Apart (rest : List Char) : Prop :=
  ∀ c, rest.head? = some c → isNamePart c = false ∧ c ≠ '.'

/-- A text that does not start with a digit. -/
def NoDigit (rest : List Char) : Prop :=
  ∀ c, rest.head? = some c → c.isDigit = false

theorem apart_nil : Apart [] := by
  intro c first
  cases first

theorem apart_cons {c : Char} {rest : List Char} (outside : isNamePart c = false) (notPoint : c ≠ '.') :
    Apart (c :: rest) := by
  intro d first
  cases first
  exact ⟨outside, notPoint⟩

theorem noDigit_point (rest : List Char) : NoDigit ('.' :: rest) := by
  intro c first
  cases first
  decide

theorem isNamePart_of_isDigit {c : Char} (digit : c.isDigit) : isNamePart c := by
  simp [isNamePart, Char.isAlphanum, digit]

theorem Apart.noDigit {rest : List Char} (apart : Apart rest) : NoDigit rest := by
  intro c first
  by_contra digit
  rw [Bool.not_eq_false] at digit
  have named := isNamePart_of_isDigit digit
  rw [(apart c first).1] at named
  cases named

/-- A run of characters of a class ends where a text goes on with one of no such class. -/
theorem takeWhile_append_of_head {p : Char → Bool} {run rest : List Char} (inside : ∀ c ∈ run, p c)
    (outside : ∀ c, rest.head? = some c → p c = false) :
    (run ++ rest).takeWhile p = run ∧ (run ++ rest).dropWhile p = rest := by
  rw [List.takeWhile_append_of_pos inside, List.dropWhile_append_of_pos inside]
  cases rest with
  | nil => simp
  | cons c rest => simp [outside c rfl]

theorem IsMantissa.noDigit_exponent {exponent rest : List Char} (isExponent : exponent = [] ∨ IsExponent exponent)
    (apart : Apart rest) : ∀ c, (exponent ++ rest).head? = some c → c.isDigit = false ∧ c ≠ '.' := by
  intro c first
  rcases isExponent with rfl | ⟨marked, _, _⟩
  · exact ⟨apart.noDigit c first, (apart c first).2⟩
  · simp only [List.cons_append, List.head?_cons, Option.some.injEq] at first
    subst first
    rcases marked with rfl | rfl <;> decide

theorem mantissa_append {cs rest : List Char} (isMantissa : IsMantissa cs)
    (outside : ∀ c, rest.head? = some c → c.isDigit = false ∧ c ≠ '.') : mantissa (cs ++ rest) = cs := by
  have noDigit : ∀ c, rest.head? = some c → c.isDigit = false := fun c first => (outside c first).1
  cases isMantissa with
  | whole whole =>
    obtain ⟨run, after⟩ := takeWhile_append_of_head whole.2 noDigit
    rw [mantissa, after, run]
    cases rest with
    | nil => rfl
    | cons c rest =>
      have notPoint : c ≠ '.' := (outside c rfl).2
      split
      next same => exact absurd (List.cons.inj same).1 notPoint
      next => rfl
  | @pointed digits fraction whole inside =>
    have split : (digits ++ '.' :: fraction) ++ rest = digits ++ '.' :: (fraction ++ rest) := by simp
    obtain ⟨run, after⟩ := takeWhile_append_of_head whole.2 (noDigit_point (fraction ++ rest))
    rw [split, mantissa, after, run]
    simp only [(takeWhile_append_of_head inside noDigit).1]
  | fraction fraction =>
    rw [List.cons_append, mantissa]
    simp [Char.isDigit, (takeWhile_append_of_head fraction.2 noDigit).1]

theorem sign_append {signs digits : List Char} (signed : signs = [] ∨ signs = ['+'] ∨ signs = ['-'])
    (isInteger : IsInteger digits) (rest : List Char) : sign (signs ++ digits ++ rest) = signs := by
  obtain ⟨c, tail, rfl⟩ := List.exists_cons_of_ne_nil isInteger.1
  have digit := isInteger.2 c (by simp)
  rcases signed with rfl | rfl | rfl
  · have other : ¬ (c = '+' ∨ c = '-') := by
      rintro (rfl | rfl) <;> simp [Char.isDigit] at digit
    simp [sign, other]
  · simp [sign]
  · simp [sign]

theorem exponent_append {cs rest : List Char} (isExponent : IsExponent cs) (noDigit : NoDigit rest) :
    exponent (cs ++ rest) = cs := by
  cases isExponent with
  | @power mark signs digits marked signed power =>
    have run := (takeWhile_append_of_head power.2 noDigit).1
    have after : (signs ++ digits ++ rest).drop signs.length = digits ++ rest := by simp
    rw [List.cons_append, exponent, sign_append signed power, after, run]
    simp [marked, power.1]

theorem exponent_of_apart {rest : List Char} (apart : Apart rest) : exponent rest = [] := by
  cases rest with
  | nil => rfl
  | cons c rest =>
    have other : ¬ (c = 'e' ∨ c = 'E') := by
      have outside := (apart c rfl).1
      rintro (rfl | rfl) <;> exact absurd outside (by decide)
    simp [exponent, other]

/-- A complete number is taken whole, and nothing of what follows. -/
theorem number_append {cs rest : List Char} (isNumber : IsNumber cs) (apart : Apart rest) :
    number (cs ++ rest) = cs := by
  obtain ⟨whole, power, isMantissa, isExponent, rfl⟩ := isNumber
  have outside := IsMantissa.noDigit_exponent isExponent apart
  rw [number, List.append_assoc, mantissa_append isMantissa outside, List.drop_left]
  rcases isExponent with rfl | isExponent
  · rw [List.nil_append, exponent_of_apart apart]
  · rw [exponent_append isExponent apart.noDigit]

theorem startsNumber_append {cs : List Char} (isNumber : IsNumber cs) (rest : List Char) :
    startsNumber (cs ++ rest) := by
  obtain ⟨whole, power, isMantissa, _, rfl⟩ := isNumber
  cases isMantissa with
  | whole whole | pointed whole =>
    obtain ⟨c, tail, rfl⟩ := List.exists_cons_of_ne_nil whole.1
    simp [startsNumber, whole.2 c (by simp)]
  | fraction fraction =>
    obtain ⟨c, tail, rfl⟩ := List.exists_cons_of_ne_nil fraction.1
    simp [startsNumber, fraction.2 c (by simp)]

/-! ## The lexeme at the head of a text -/

theorem atHead?_number {cs rest : List Char} (isNumber : IsNumber cs) (apart : Apart rest) :
    atHead? (cs ++ rest) = some (numberKind cs, cs) := by
  have starts := startsNumber_append isNumber rest
  have taken := number_append isNumber apart
  cases text : cs ++ rest with
  | nil => simp [text, startsNumber] at starts
  | cons c tail =>
    rw [text] at starts taken
    rw [atHead?, if_pos starts, taken]

theorem atHead?_integer {cs rest : List Char} (isInteger : IsInteger cs) (apart : Apart rest) :
    atHead? (cs ++ rest) = some (.integer, cs) := by
  rw [atHead?_number isInteger.isNumber apart, numberKind, if_pos (List.all_eq_true.2 isInteger.2)]

theorem IsFloat.not_all_isDigit {cs : List Char} (isFloat : IsFloat cs) : ¬ cs.all Char.isDigit := by
  obtain ⟨whole, power, _, isExponent, rfl, shown⟩ := isFloat
  rw [List.all_eq_true]
  intro digits
  rcases shown with point | power
  · exact absurd (digits '.' (List.mem_append_left _ point)) (by decide)
  · obtain ⟨marked, _, _⟩ := isExponent.resolve_left power
    have digit := digits _ (List.mem_append_right _ List.mem_cons_self)
    rcases marked with rfl | rfl <;> exact absurd digit (by decide)

theorem atHead?_float {cs rest : List Char} (isFloat : IsFloat cs) (apart : Apart rest) :
    atHead? (cs ++ rest) = some (.float, cs) := by
  rw [atHead?_number isFloat.isNumber apart, numberKind, if_neg isFloat.not_all_isDigit]

theorem isDigit_of_isNameStart {c : Char} (named : isNameStart c) : c.isDigit = false := by
  by_contra digit
  rw [Bool.not_eq_false] at digit
  rw [isNameStart, Bool.or_eq_true, beq_iff_eq] at named
  rcases named with letter | rfl
  · rw [isAlpha_iff_toNat] at letter
    rw [isDigit_iff_toNat] at digit
    omega
  · exact absurd digit (by decide)

theorem not_startsNumber_of_isNameStart {c : Char} (named : isNameStart c) (rest : List Char) :
    ¬ startsNumber (c :: rest) := by
  have notPoint : c ≠ '.' := by
    rintro rfl
    exact absurd named (by decide)
  simp [startsNumber, notPoint, isDigit_of_isNameStart named]

theorem atHead?_identifier {cs rest : List Char} (isIdentifier : IsIdentifier cs) (apart : Apart rest) :
    atHead? (cs ++ rest) = some (.identifier, cs) := by
  obtain ⟨c, tail, rfl, start, parts⟩ := isIdentifier
  have run := (takeWhile_append_of_head parts (fun d first => (apart d first).1)).1
  rw [List.cons_append, atHead?, if_neg (not_startsNumber_of_isNameStart start _), if_pos start, run]

theorem atHead?_operator {c : Char} (isOperator : c ∈ operators) (rest : List Char) :
    atHead? (c :: rest) = some (.operator, [c]) := by
  have notNumber : ¬ startsNumber (c :: rest) := by
    simp only [operators, List.mem_cons, List.not_mem_nil, or_false] at isOperator
    rcases isOperator with rfl | rfl | rfl | rfl | rfl | rfl | rfl <;> simp [startsNumber, Char.isDigit]
  have notName : ¬ isNameStart c := by
    simp only [operators, List.mem_cons, List.not_mem_nil, or_false] at isOperator
    rcases isOperator with rfl | rfl | rfl | rfl | rfl | rfl | rfl <;> decide
  rw [atHead?, if_neg notNumber, if_neg notName, if_pos isOperator]

theorem takeWhile_isDigit (cs : List Char) : ∀ c ∈ cs.takeWhile Char.isDigit, c.isDigit :=
  fun _ member => (List.mem_takeWhile_imp member :)

theorem isInteger_takeWhile {cs : List Char} (filled : cs.takeWhile Char.isDigit ≠ []) :
    IsInteger (cs.takeWhile Char.isDigit) :=
  ⟨filled, takeWhile_isDigit cs⟩

theorem append_isPrefix {front taken cs : List Char} (isPrefix : front <+: cs)
    (within : taken <+: cs.drop front.length) : front ++ taken <+: cs := by
  obtain ⟨rest, rfl⟩ := isPrefix
  rw [List.drop_left] at within
  exact (List.prefix_append_right_inj _).2 within

theorem mantissa_isPrefix (cs : List Char) : mantissa cs <+: cs := by
  rw [mantissa]
  split
  next rest same =>
    have digits := List.takeWhile_prefix (l := cs) Char.isDigit
    have dropped : cs.drop (cs.takeWhile Char.isDigit).length = '.' :: rest := by
      rw [← same]
      exact List.append_cancel_left
        ((List.prefix_iff_eq_append.1 digits).trans List.takeWhile_append_dropWhile.symm)
    refine append_isPrefix digits ?_
    rw [dropped, List.cons_prefix_cons]
    exact ⟨rfl, List.takeWhile_prefix _⟩
  next => exact List.takeWhile_prefix _

theorem isMantissa_mantissa {cs : List Char} (starts : startsNumber cs) : IsMantissa (mantissa cs) := by
  cases cs with
  | nil => simp [startsNumber] at starts
  | cons c rest =>
    by_cases digit : c.isDigit
    · have filled : (c :: rest).takeWhile Char.isDigit ≠ [] := by simp [digit]
      rw [mantissa]
      split
      · exact .pointed (isInteger_takeWhile filled) (takeWhile_isDigit _)
      · exact .whole (isInteger_takeWhile filled)
    · simp only [startsNumber, digit, Bool.false_or, Bool.and_eq_true, beq_iff_eq] at starts
      obtain ⟨rfl, digits⟩ := starts
      have filled : rest.takeWhile Char.isDigit ≠ [] := by
        cases rest with
        | nil => simp at digits
        | cons d rest => simpa using digits
      have taken : mantissa ('.' :: rest) = '.' :: rest.takeWhile Char.isDigit := by simp [mantissa, Char.isDigit]
      rw [taken]
      exact .fraction (isInteger_takeWhile filled)

theorem sign_isPrefix (cs : List Char) : sign cs <+: cs := by
  cases cs with
  | nil => exact List.prefix_refl _
  | cons c rest =>
    rw [sign]
    split
    · simp
    · exact List.nil_prefix

theorem sign_cases (cs : List Char) : sign cs = [] ∨ sign cs = ['+'] ∨ sign cs = ['-'] := by
  cases cs with
  | nil => exact .inl rfl
  | cons c rest =>
    rw [sign]
    split
    next signed => rcases signed with rfl | rfl <;> simp
    next => exact .inl rfl

theorem exponent_isPrefix (cs : List Char) : exponent cs <+: cs := by
  cases cs with
  | nil => exact List.prefix_refl _
  | cons mark rest =>
    rw [exponent]
    split
    · rw [List.cons_append, List.cons_prefix_cons]
      exact ⟨rfl, append_isPrefix (sign_isPrefix rest) (List.takeWhile_prefix _)⟩
    · exact List.nil_prefix

theorem isExponent_exponent (cs : List Char) : exponent cs = [] ∨ IsExponent (exponent cs) := by
  cases cs with
  | nil => exact .inl rfl
  | cons mark rest =>
    rw [exponent]
    split
    next shown => exact .inr (.power shown.1 (sign_cases rest) (isInteger_takeWhile shown.2))
    next => exact .inl rfl

theorem number_isPrefix (cs : List Char) : number cs <+: cs :=
  append_isPrefix (mantissa_isPrefix cs) (exponent_isPrefix _)

theorem isNumber_number {cs : List Char} (starts : startsNumber cs) : IsNumber (number cs) :=
  ⟨_, _, isMantissa_mantissa starts, isExponent_exponent _, rfl⟩

theorem IsNumber.isLexeme {cs : List Char} (isNumber : IsNumber cs) : IsLexeme (numberKind cs) cs := by
  rw [numberKind]
  split
  next digits =>
    obtain ⟨whole, power, isMantissa, _, rfl⟩ := id isNumber
    exact ⟨by simp [isMantissa.ne_nil], List.all_eq_true.1 digits⟩
  next other =>
    obtain ⟨whole, power, isMantissa, isExponent, rfl⟩ := isNumber
    refine ⟨whole, power, isMantissa, isExponent, rfl, ?_⟩
    cases isMantissa with
    | whole whole =>
      refine .inr fun none => other ?_
      rw [none, List.append_nil, List.all_eq_true]
      exact whole.2
    | pointed | fraction => exact .inl (by simp)

/-- The lexeme at the head of a text is a complete one, and the text starts with it. -/
theorem isLexeme_of_atHead? {cs text : List Char} {kind : TokenKind} (found : atHead? cs = some (kind, text)) :
    IsLexeme kind text ∧ text <+: cs := by
  cases cs with
  | nil => simp [atHead?] at found
  | cons c rest =>
    rw [atHead?] at found
    split at found
    next starts =>
      cases found
      exact ⟨(isNumber_number starts).isLexeme, number_isPrefix _⟩
    next =>
      split at found
      next start =>
        cases found
        refine ⟨⟨c, _, rfl, start, fun d member => List.mem_takeWhile_imp member⟩, ?_⟩
        exact List.cons_prefix_cons.2 ⟨rfl, List.takeWhile_prefix _⟩
      next =>
        split at found
        next isOperator =>
          cases found
          exact ⟨⟨c, isOperator, rfl⟩, by simp⟩
        next => cases found

/-- A complete lexeme is taken whole where nothing follows that could go on with it. -/
theorem IsLexeme.atHead?_append {kind : TokenKind} {cs rest : List Char} (isLexeme : IsLexeme kind cs)
    (apart : Apart rest) : atHead? (cs ++ rest) = some (kind, cs) := by
  cases kind with
  | identifier => exact atHead?_identifier isLexeme apart
  | integer => exact atHead?_integer isLexeme apart
  | float => exact atHead?_float isLexeme apart
  | operator =>
    obtain ⟨c, isOperator, rfl⟩ := isLexeme
    exact atHead?_operator isOperator rest
  | endMarker | startMarker | other => exact isLexeme.elim

theorem not_isBlank_of_isNamePart {c : Char} (part : isNamePart c) : ¬ isBlank c := by
  intro blank
  rw [isNamePart, Bool.or_eq_true, beq_iff_eq] at part
  rcases part with alphanumeric | rfl
  · rw [Char.isAlphanum, Bool.or_eq_true, isAlpha_iff_toNat, isDigit_iff_toNat] at alphanumeric
    simp only [isBlank, Bool.or_eq_true, Bool.and_eq_true, decide_eq_true_eq, beq_iff_eq] at blank
    omega
  · exact absurd blank (by decide)

theorem isNamePart_of_isNameStart {c : Char} (start : isNameStart c) : isNamePart c := by
  rw [isNameStart, Bool.or_eq_true] at start
  rw [isNamePart, Bool.or_eq_true, Char.isAlphanum, Bool.or_eq_true]
  exact start.imp_left .inl

/-- No lexeme starts with a blank. -/
theorem IsLexeme.not_isBlank {kind : TokenKind} {c : Char} {rest : List Char}
    (isLexeme : IsLexeme kind (c :: rest)) : ¬ isBlank c := by
  cases kind with
  | identifier =>
    obtain ⟨_, _, same, start, _⟩ := isLexeme
    cases same
    exact not_isBlank_of_isNamePart (isNamePart_of_isNameStart start)
  | integer => exact not_isBlank_of_isNamePart (isNamePart_of_isDigit (isLexeme.2 c List.mem_cons_self))
  | float =>
    have starts := startsNumber_append isLexeme.isNumber []
    rw [List.append_nil, startsNumber, Bool.or_eq_true, Bool.and_eq_true, beq_iff_eq] at starts
    rcases starts with digit | ⟨rfl, _⟩
    · exact not_isBlank_of_isNamePart (isNamePart_of_isDigit digit)
    · decide
  | operator =>
    obtain ⟨_, isOperator, same⟩ := isLexeme
    cases same
    simp only [operators, List.mem_cons, List.not_mem_nil, or_false] at isOperator
    rcases isOperator with rfl | rfl | rfl | rfl | rfl | rfl | rfl <;> decide
  | endMarker | startMarker | other => exact isLexeme.elim

end Formulary.Lexeme
