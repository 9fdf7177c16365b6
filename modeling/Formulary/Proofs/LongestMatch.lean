import Formulary.Proofs.Scanning

/-!
# Longest matches

The lexeme that is taken at the head of a text is the longest one that the text starts with, and
none is taken only where the text starts with none. So the tokens of a source are what a walk takes
that skips blanks and takes the longest lexeme at each place, and the character at which a source is
refused is the first one that such a walk gets stuck at.
-/

namespace Formulary.Lexeme
open Formulary.Text

theorem length_le_takeWhile {p : Char → Bool} {run : List Char} (inside : ∀ c ∈ run, p c) (rest : List Char) :
    run.length ≤ ((run ++ rest).takeWhile p).length := by
  rw [List.takeWhile_append_of_pos inside, List.length_append]
  omega

theorem length_takeWhile_le_mantissa (cs : List Char) :
    (cs.takeWhile Char.isDigit).length ≤ (mantissa cs).length := by
  unfold mantissa
  split
  · simp
  · exact Nat.le_refl _

theorem IsMantissa.length_le {cs : List Char} (isMantissa : IsMantissa cs) (rest : List Char) :
    cs.length ≤ (mantissa (cs ++ rest)).length := by
  cases isMantissa with
  | whole whole => exact (length_le_takeWhile whole.2 rest).trans (length_takeWhile_le_mantissa _)
  | @pointed digits fraction whole inside =>
    have split : (digits ++ '.' :: fraction) ++ rest = digits ++ '.' :: (fraction ++ rest) := by simp
    obtain ⟨run, after⟩ := takeWhile_append_of_head whole.2 (noDigit_point (fraction ++ rest))
    have further := length_le_takeWhile inside rest
    rw [split, mantissa, after, run]
    simp only [List.length_append, List.length_cons]
    omega
  | @fraction digits fraction =>
    have further := length_le_takeWhile fraction.2 rest
    rw [List.cons_append, mantissa]
    simp only [List.takeWhile_cons, List.dropWhile_cons, Char.isDigit]
    simpa using further

theorem IsExponent.length_le {cs : List Char} (isExponent : IsExponent cs) (rest : List Char) :
    cs.length ≤ (exponent (cs ++ rest)).length := by
  cases isExponent with
  | @power mark signs digits marked signed power =>
    have after : (signs ++ digits ++ rest).drop signs.length = digits ++ rest := by simp
    have further := length_le_takeWhile power.2 rest
    have filled : (digits ++ rest).takeWhile Char.isDigit ≠ [] := by
      intro none
      rw [none] at further
      exact power.1 (List.length_eq_zero_iff.1 (Nat.le_zero.1 further))
    rw [List.cons_append, exponent, sign_append signed power, after, if_pos ⟨marked, filled⟩]
    simp only [List.length_append, List.length_cons]
    omega

theorem IsExponent.head_append {cs : List Char} (isExponent : IsExponent cs) (rest : List Char) :
    ∀ c, (cs ++ rest).head? = some c → c.isDigit = false ∧ c ≠ '.' := by
  intro c first
  cases isExponent with
  | power marked =>
    cases first
    rcases marked with rfl | rfl <;> decide

/-- No number at the head of a text is longer than the one that is taken there. -/
theorem IsNumber.length_le {cs : List Char} (isNumber : IsNumber cs) (rest : List Char) :
    cs.length ≤ (number (cs ++ rest)).length := by
  obtain ⟨whole, power, isMantissa, isExponent, rfl⟩ := isNumber
  rcases isExponent with rfl | isExponent
  · rw [List.append_nil, number, List.length_append]
    exact (isMantissa.length_le rest).trans (Nat.le_add_right _ _)
  · -- An exponent starts with a mark, so the digits before it end there and cannot be longer.
    have taken := mantissa_append isMantissa (isExponent.head_append rest)
    rw [List.append_assoc, number, taken, List.drop_left, List.length_append, List.length_append]
    exact Nat.add_le_add_left (isExponent.length_le rest) _

/-- If a text starts with a lexeme, one at least as long is taken. -/
theorem IsLexeme.exists_atHead? {kind : TokenKind} {cs : List Char} (isLexeme : IsLexeme kind cs)
    (rest : List Char) : ∃ kind' text, atHead? (cs ++ rest) = some (kind', text) ∧ cs.length ≤ text.length := by
  have ofNumber : IsNumber cs →
      ∃ kind' text, atHead? (cs ++ rest) = some (kind', text) ∧ cs.length ≤ text.length := by
    intro isNumber
    have starts := startsNumber_append isNumber rest
    have most := isNumber.length_le rest
    cases whole : cs ++ rest with
    | nil => simp [whole, startsNumber] at starts
    | cons c tail =>
      rw [whole] at starts most
      exact ⟨_, _, by rw [atHead?, if_pos starts], most⟩
  cases kind with
  | identifier =>
    obtain ⟨c, tail, rfl, start, parts⟩ := isLexeme
    have notNumber := not_startsNumber_of_isNameStart start (tail ++ rest)
    refine ⟨_, _, by rw [List.cons_append, atHead?, if_neg notNumber, if_pos start], ?_⟩
    exact Nat.succ_le_succ (length_le_takeWhile parts rest)
  | integer => exact ofNumber (IsInteger.isNumber isLexeme)
  | float => exact ofNumber (IsFloat.isNumber isLexeme)
  | operator =>
    obtain ⟨c, isOperator, rfl⟩ := isLexeme
    exact ⟨_, _, atHead?_operator isOperator rest, Nat.le_refl _⟩
  | endMarker | startMarker | other => exact isLexeme.elim

/-- The longest lexeme that a text starts with. -/
def IsLongest (kind : TokenKind) (text cs : List Char) : Prop :=
  IsLexeme kind text ∧ text <+: cs ∧
    ∀ kind' text', IsLexeme kind' text' → text' <+: cs → text'.length ≤ text.length

/-- A text that is not empty, and starts with no blank and with no lexeme. -/
def Stuck (cs : List Char) : Prop :=
  ∃ c rest, cs = c :: rest ∧ ¬ isBlank c ∧ ∀ kind text, IsLexeme kind text → ¬ text <+: cs

/-- A text is a complete lexeme of one kind at most. -/
theorem IsLexeme.kind_unique {kind kind' : TokenKind} {text : List Char} (isLexeme : IsLexeme kind text)
    (isLexeme' : IsLexeme kind' text) : kind = kind' := by
  have found := isLexeme.atHead?_append apart_nil
  have found' := isLexeme'.atHead?_append apart_nil
  rw [found] at found'
  cases found'
  rfl

theorem isLongest_iff {kind : TokenKind} {text cs : List Char} :
    IsLongest kind text cs ↔ atHead? cs = some (kind, text) := by
  constructor
  · rintro ⟨isLexeme, ⟨rest, rfl⟩, longest⟩
    obtain ⟨kind', text', found, most⟩ := isLexeme.exists_atHead? rest
    obtain ⟨isLexeme', isPrefix⟩ := isLexeme_of_atHead? found
    have least := longest kind' text' isLexeme' isPrefix
    have same : text' = text :=
      (List.prefix_of_prefix_length_le isPrefix (List.prefix_append text rest) least).eq_of_length
        (Nat.le_antisymm least most)
    subst same
    rw [found, isLexeme.kind_unique isLexeme']
  · intro found
    obtain ⟨isLexeme, isPrefix⟩ := isLexeme_of_atHead? found
    refine ⟨isLexeme, isPrefix, ?_⟩
    rintro kind' text' isLexeme' ⟨rest, rfl⟩
    obtain ⟨_, _, found', most⟩ := isLexeme'.exists_atHead? rest
    rw [found] at found'
    cases found'
    exact most

theorem atHead?_eq_none_iff {cs : List Char} :
    atHead? cs = none ↔ ∀ kind text, IsLexeme kind text → ¬ text <+: cs := by
  constructor
  · rintro none kind text isLexeme ⟨rest, rfl⟩
    obtain ⟨_, _, found, _⟩ := isLexeme.exists_atHead? rest
    rw [none] at found
    cases found
  · intro none
    cases found : atHead? cs with
    | none => rfl
    | some taken =>
      obtain ⟨isLexeme, isPrefix⟩ := isLexeme_of_atHead? found
      exact absurd isPrefix (none _ _ isLexeme)

/-- The lexical grammar: identifiers, numbers, which are integers if they are all digits and floats if
    not, and operators. -/
theorem isLexeme_iff {kind : TokenKind} {text : List Char} :
    IsLexeme kind text ↔
      (kind = .identifier ∧ IsIdentifier text) ∨
        (kind = (if text.all Char.isDigit then .integer else .float) ∧ IsNumber text) ∨
        (kind = .operator ∧ ∃ c ∈ operators, text = [c]) := by
  have numberKind_eq : numberKind text = if text.all Char.isDigit then .integer else .float := rfl
  have ofNumber : IsNumber text → (IsLexeme kind text ↔ kind = numberKind text) := by
    intro isNumber
    constructor
    · intro isLexeme
      exact isLexeme.kind_unique isNumber.isLexeme
    · rintro rfl
      exact isNumber.isLexeme
  rw [← numberKind_eq]
  constructor
  · intro isLexeme
    cases kind with
    | identifier => exact .inl ⟨rfl, isLexeme⟩
    | integer => exact .inr (.inl ⟨(ofNumber (IsInteger.isNumber isLexeme)).1 isLexeme, IsInteger.isNumber isLexeme⟩)
    | float => exact .inr (.inl ⟨(ofNumber (IsFloat.isNumber isLexeme)).1 isLexeme, IsFloat.isNumber isLexeme⟩)
    | operator => exact .inr (.inr ⟨rfl, isLexeme⟩)
    | endMarker | startMarker | other => exact isLexeme.elim
  · rintro (⟨rfl, isIdentifier⟩ | ⟨same, isNumber⟩ | ⟨rfl, isOperator⟩)
    · exact isIdentifier
    · exact (ofNumber isNumber).2 same
    · exact isOperator

/-- The longest lexeme is still the longest if what comes after it is cut short. -/
theorem IsLongest.of_append {kind : TokenKind} {text rest further : List Char}
    (longest : IsLongest kind text (text ++ (rest ++ further))) : IsLongest kind text (text ++ rest) := by
  obtain ⟨isLexeme, _, most⟩ := longest
  refine ⟨isLexeme, List.prefix_append text rest, ?_⟩
  intro kind' text' isLexeme' isPrefix
  apply most kind' text' isLexeme'
  rw [← List.append_assoc]
  exact isPrefix.trans (List.prefix_append _ further)

end Formulary.Lexeme

namespace Formulary
open Formulary.Text Formulary.Lexeme

/-! ## Walks -/

/-- A walk that skips blanks and takes the longest lexeme at each place. It leads from a text with so
    many characters before it, past the tokens found, to the text ahead with so many before that. -/
inductive Reaches : Nat → List Char → List Token → Nat → List Char → Prop where
  | here (passed : Nat) (cs : List Char) : Reaches passed cs [] passed cs
  | blank {passed stop : Nat} {c : Char} {rest ahead : List Char} {found : List Token} (blank : isBlank c)
      (more : Reaches (passed + 1) rest found stop ahead) : Reaches passed (c :: rest) found stop ahead
  | lexeme {passed stop : Nat} {kind : TokenKind} {text rest ahead : List Char} {found : List Token}
      (longest : IsLongest kind text (text ++ rest))
      (more : Reaches (passed + text.length) rest found stop ahead) :
      Reaches passed (text ++ rest) (⟨kind, String.ofList text, columnAfter passed⟩ :: found) stop ahead

theorem scan_lexeme {passed : Nat} {kind : TokenKind} {text rest : List Char}
    (longest : IsLongest kind text (text ++ rest)) :
    scan passed (text ++ rest) =
      { scan (passed + text.length) rest with
        tokens := ⟨kind, String.ofList text, columnAfter passed⟩ :: (scan (passed + text.length) rest).tokens } := by
  obtain ⟨c, tail, rfl⟩ := List.exists_cons_of_ne_nil longest.1.ne_nil
  have found := isLongest_iff.1 longest
  have after : (c :: (tail ++ rest)).drop (c :: tail).length = rest := List.drop_left
  rw [List.cons_append] at found ⊢
  rw [scan_cons, if_neg longest.1.not_isBlank, found]
  simp only [after]

/-- Where a walk ends, at the end of the text or stuck, the scan ends too, with the same tokens. -/
theorem Reaches.scan_eq {passed stop : Nat} {cs ahead : List Char} {found : List Token}
    (reaches : Reaches passed cs found stop ahead) (ended : ahead = [] ∨ Stuck ahead) :
    scan passed cs = ⟨found, stop, ahead⟩ := by
  induction reaches with
  | here passed cs =>
    rcases ended with rfl | ⟨c, rest, rfl, visible, none⟩
    · exact scan_nil passed
    · rw [scan_cons, if_neg visible, atHead?_eq_none_iff.2 none]
  | blank blank _ ih => rw [scan_cons, if_pos blank, ih ended]
  | lexeme longest _ ih => rw [scan_lexeme longest, ih ended]

/-- A scan is such a walk, and ends where it cannot go on. -/
theorem reaches_scan (passed : Nat) (cs : List Char) :
    Reaches passed cs (scan passed cs).tokens (scan passed cs).passed (scan passed cs).ahead ∧
      ((scan passed cs).ahead = [] ∨ Stuck (scan passed cs).ahead) := by
  induction passed, cs using scan.induct with
  | case1 passed =>
    rw [scan_nil]
    exact ⟨.here passed [], .inl rfl⟩
  | case2 passed c rest blank ih =>
    rw [scan_cons, if_pos blank]
    exact ⟨.blank blank ih.1, ih.2⟩
  | case3 passed c rest visible stops =>
    rw [scan_cons, if_neg visible, stops]
    exact ⟨.here passed (c :: rest), .inr ⟨c, rest, rfl, visible, atHead?_eq_none_iff.1 stops⟩⟩
  | case4 passed c rest visible kind text found ih =>
    have longest := isLongest_iff.2 found
    obtain ⟨after, split⟩ := longest.2.1
    rw [← split, List.drop_left] at ih
    rw [← split] at longest ⊢
    rw [scan_lexeme longest]
    exact ⟨.lexeme longest ih.1, ih.2⟩

/-- The text that a walk has passed is lexed to the tokens that it has found, and to its end. -/
theorem Reaches.exists_front {passed stop : Nat} {cs ahead : List Char} {found : List Token}
    (reaches : Reaches passed cs found stop ahead) :
    ∃ front, cs = front ++ ahead ∧ stop = passed + front.length ∧ Reaches passed front found stop [] := by
  induction reaches with
  | here passed cs => exact ⟨[], rfl, rfl, .here passed []⟩
  | @blank passed stop c rest ahead found blank _ ih =>
    obtain ⟨front, rfl, rfl, reaches⟩ := ih
    refine ⟨c :: front, rfl, ?_, .blank blank reaches⟩
    rw [List.length_cons]
    omega
  | @lexeme passed stop kind text rest ahead found longest _ ih =>
    obtain ⟨front, rfl, rfl, reaches⟩ := ih
    refine ⟨text ++ front, by rw [List.append_assoc], ?_, .lexeme longest.of_append reaches⟩
    rw [List.length_append]
    omega

/-- No token that a walk finds stands before its start. -/
theorem Reaches.le_column {passed stop : Nat} {cs ahead : List Char} {found : List Token}
    (reaches : Reaches passed cs found stop ahead) : ∀ token ∈ found, columnAfter passed ≤ token.column := by
  unfold columnAfter
  induction reaches with
  | here => simp
  | blank _ _ ih =>
    intro token member
    have bound := ih token member
    omega
  | lexeme _ _ ih =>
    rw [List.forall_mem_cons]
    refine ⟨Int.le_refl _, fun token member => ?_⟩
    have bound := ih token member
    omega

theorem tokenize_of_end {source : String} {found : List Token} {n : Nat}
    (reaches : Reaches 0 source.toList found n []) :
    tokenize source = .ok (found ++ [.endMarker (columnAfter n)]) := by
  have walked : scan 0 source.toList = ⟨found, n, []⟩ := reaches.scan_eq (.inl rfl)
  simp only [tokenize, Lexer.tokenize, Lexer.ofText, walked, List.nil_append]

theorem tokenize_of_stuck {source : String} {found : List Token} {n : Nat} {c : Char} {rest : List Char}
    (reaches : Reaches 0 source.toList found n (c :: rest)) (stuck : Stuck (c :: rest)) :
    tokenize source = .error (.unrecognizedCharacter c (columnAfter n)) ∧
      (Lexer.ofText source).tokenize.2.tokens = found := by
  have walked : scan 0 source.toList = ⟨found, n, c :: rest⟩ := reaches.scan_eq (.inr stuck)
  simp only [tokenize, Lexer.tokenize, Lexer.ofText, walked, List.nil_append, and_self]

/-- A source has tokens, and the walk reaches its end, or it is refused, and the walk gets stuck. -/
theorem tokenize_cases (source : String) :
    (∃ found n, Reaches 0 source.toList found n [] ∧
        tokenize source = .ok (found ++ [.endMarker (columnAfter n)])) ∨
      ∃ found n c rest, Reaches 0 source.toList found n (c :: rest) ∧ Stuck (c :: rest) ∧
        tokenize source = .error (.unrecognizedCharacter c (columnAfter n)) := by
  obtain ⟨reaches, ended⟩ := reaches_scan 0 source.toList
  rcases ended with ended | stuck
  · rw [ended] at reaches
    exact .inl ⟨_, _, reaches, tokenize_of_end reaches⟩
  · obtain ⟨c, rest, ahead, _⟩ := id stuck
    rw [ahead] at reaches stuck
    exact .inr ⟨_, _, c, rest, reaches, stuck, (tokenize_of_stuck reaches stuck).1⟩

/-- The tokens of a source are what a walk to its end finds, and an end marker after its last character. -/
theorem exists_walk_of_tokenize {source : String} {tokens : List Token} (lexed : tokenize source = .ok tokens) :
    ∃ found, tokens = found ++ [.endMarker (columnAfter source.toList.length)] ∧
      Reaches 0 source.toList found source.toList.length [] ∧
      ∀ token ∈ found, token.StandsIn source.toList := by
  obtain ⟨front, rfl, stand⟩ := exists_of_tokenize_eq_ok lexed
  rcases tokenize_cases source with ⟨found, n, reaches, lexed'⟩ | ⟨_, _, _, _, _, _, refused⟩
  · obtain ⟨rfl, _⟩ := List.append_inj' (Except.ok.inj (lexed.symm.trans lexed')) rfl
    obtain ⟨whole, split, length, _⟩ := reaches.exists_front
    have ended : n = source.toList.length := by rw [length, split, List.append_nil, Nat.zero_add]
    exact ⟨front, rfl, ended ▸ reaches, stand⟩
  · rw [refused] at lexed
    cases lexed

/-- The tokens of a source are those found by the walk that skips blanks and takes the longest lexeme
    at each place, if it reaches the end, and an end marker. A source is refused exactly if the walk
    gets stuck, at the character where it does; the tokens kept are those of the text before it. The
    lexemes are those of the lexical grammar. -/
theorem tokenize_eq_longest_matches (source : String) :
    (∀ tokens, tokenize source = .ok tokens ↔
      ∃ found n, Reaches 0 source.toList found n [] ∧ tokens = found ++ [.endMarker (columnAfter n)]) ∧
    (∀ error, tokenize source = .error error ↔
      ∃ found n c rest, Reaches 0 source.toList found n (c :: rest) ∧ Stuck (c :: rest) ∧
        error = .unrecognizedCharacter c (columnAfter n)) ∧
    (∀ found n c rest, Reaches 0 source.toList found n (c :: rest) → Stuck (c :: rest) →
      source.toList.drop n = c :: rest ∧ (Lexer.ofText source).tokenize.2.tokens = found ∧
        tokenize (String.ofList (source.toList.take n)) = .ok (found ++ [.endMarker (columnAfter n)])) ∧
    ∀ kind text, IsLexeme kind text ↔
      (kind = .identifier ∧ IsIdentifier text) ∨
        (kind = (if text.all Char.isDigit then .integer else .float) ∧ IsNumber text) ∨
        (kind = .operator ∧ ∃ c ∈ operators, text = [c]) := by
  refine ⟨?_, ?_, ?_, fun _ _ => isLexeme_iff⟩
  · intro tokens
    constructor
    · intro lexed
      rcases tokenize_cases source with ⟨found, n, reaches, lexed'⟩ | ⟨_, _, _, _, _, _, refused⟩
      · rw [lexed'] at lexed
        exact ⟨found, n, reaches, (Except.ok.inj lexed).symm⟩
      · rw [refused] at lexed
        cases lexed
    · rintro ⟨found, n, reaches, rfl⟩
      exact tokenize_of_end reaches
  · intro error
    constructor
    · intro refused
      rcases tokenize_cases source with ⟨_, _, _, lexed⟩ | ⟨found, n, c, rest, reaches, stuck, refused'⟩
      · rw [lexed] at refused
        cases refused
      · rw [refused'] at refused
        exact ⟨found, n, c, rest, reaches, stuck, (Except.error.inj refused).symm⟩
    · rintro ⟨found, n, c, rest, reaches, stuck, rfl⟩
      exact (tokenize_of_stuck reaches stuck).1
  · intro found n c rest reaches stuck
    obtain ⟨front, split, length, before⟩ := reaches.exists_front
    rw [Nat.zero_add] at length
    refine ⟨?_, (tokenize_of_stuck reaches stuck).2, ?_⟩
    · rw [split, length, List.drop_left]
    · apply tokenize_of_end
      rw [String.toList_ofList, split, length, List.take_left, ← length]
      exact before

/-- In `x1.e` no lexeme starts at the point, and the identifier before it is kept. -/
theorem tokenize_stuck_at_point :
    ∃ rest, Reaches 0 "x1.e".toList [⟨.identifier, "x1", 1⟩] 2 ('.' :: rest) ∧ Stuck ('.' :: rest) ∧
      tokenize "x1" = .ok [⟨.identifier, "x1", 1⟩, .endMarker 3] := by
  have refused : tokenize "x1.e" = .error (.unrecognizedCharacter '.' 3) := by decide +kernel
  have kept : (Lexer.ofText "x1.e").tokenize.2.tokens = [⟨.identifier, "x1", 1⟩] := by decide +kernel
  obtain ⟨_, errors, stops, _⟩ := tokenize_eq_longest_matches "x1.e"
  obtain ⟨found, n, c, rest, reaches, stuck, same⟩ := (errors _).1 refused
  obtain ⟨ahead, tokens, before⟩ := stops found n c rest reaches stuck
  obtain ⟨rfl, column⟩ := Error.unrecognizedCharacter.inj same
  obtain rfl : n = 2 := by
    unfold columnAfter at column
    omega
  obtain rfl := tokens.symm.trans kept
  exact ⟨rest, reaches, stuck, before⟩

end Formulary
