import Formulary.Proofs.LongestMatch
import Formulary.Proofs.Numerals

/-!
# Separators

A blank and a parenthesis stand in no name and in no number. A lexeme in which such a character stands
is that character alone, so no lexeme is longer for what comes after one.
-/

namespace Formulary.Lexeme
open Formulary.Text

/-- A character that stands in no name and in no number. -/
def Separates (c : Char) : Prop := isNamePart c = false ∧ ¬ IsNumeric c

theorem separates_parenthesis {c : Char} (isParenthesis : c = '(' ∨ c = ')') : Separates c := by
  rcases isParenthesis with rfl | rfl
  · exact ⟨by decide, by simp [IsNumeric, Char.isDigit]⟩
  · exact ⟨by decide, by simp [IsNumeric, Char.isDigit]⟩

theorem separates_of_isBlank {c : Char} (blank : isBlank c) : Separates c := by
  refine ⟨Bool.eq_false_iff.2 fun part => not_isBlank_of_isNamePart part blank, ?_⟩
  rintro (digit | other)
  · exact not_isBlank_of_isNamePart (isNamePart_of_isDigit digit) blank
  · simp only [List.mem_cons, List.not_mem_nil, or_false] at other
    rcases other with rfl | rfl | rfl | rfl | rfl <;> exact absurd blank (by decide)

theorem IsIdentifier.isNamePart {cs : List Char} (isIdentifier : IsIdentifier cs) : ∀ c ∈ cs, isNamePart c := by
  obtain ⟨start, rest, rfl, named, parts⟩ := isIdentifier
  exact List.forall_mem_cons.2 ⟨isNamePart_of_isNameStart named, parts⟩

/-- A lexeme with a separator in it is the separator alone. -/
theorem IsLexeme.eq_of_mem_of_separates {kind : TokenKind} {cs : List Char} {c : Char} (isLexeme : IsLexeme kind cs)
    (member : c ∈ cs) (separates : Separates c) : cs = [c] := by
  have ofNumber : IsNumber cs → cs = [c] := fun isNumber => absurd (isNumber.isNumeric c member) separates.2
  cases kind with
  | identifier =>
    have part := IsIdentifier.isNamePart isLexeme c member
    rw [separates.1] at part
    cases part
  | integer => exact ofNumber (IsInteger.isNumber isLexeme)
  | float => exact ofNumber (IsFloat.isNumber isLexeme)
  | operator =>
    obtain ⟨_, _, rfl⟩ := isLexeme
    rw [List.mem_singleton.1 member]
  | endMarker | startMarker | other => exact isLexeme.elim

/-- No character of a lexeme is blank. -/
theorem IsLexeme.not_isBlank_of_mem {kind : TokenKind} {cs : List Char} {c : Char} (isLexeme : IsLexeme kind cs)
    (member : c ∈ cs) : ¬ isBlank c := by
  intro blank
  obtain rfl := isLexeme.eq_of_mem_of_separates member (separates_of_isBlank blank)
  exact isLexeme.not_isBlank blank

/-- The longest lexeme is still the longest if what comes somewhere after it is exchanged for a text
    that starts with a separator. -/
theorem IsLongest.of_separates {kind : TokenKind} {text between rest other : List Char} {c : Char}
    (separates : Separates c) (longest : IsLongest kind text (text ++ (between ++ rest))) :
    IsLongest kind text (text ++ (between ++ c :: other)) := by
  obtain ⟨isLexeme, _, most⟩ := longest
  refine ⟨isLexeme, List.prefix_append text _, ?_⟩
  rintro kind' text' isLexeme' ⟨after, split⟩
  rw [← List.append_assoc, List.append_eq_append_iff] at split
  -- A lexeme that reaches the separator would have it as its only character.
  rcases split with ⟨short, within, _⟩ | ⟨past, rfl, reached⟩
  · apply most kind' text' isLexeme'
    rw [← List.append_assoc, within, List.append_assoc]
    exact List.prefix_append text' _
  · cases past with
    | nil =>
      apply most kind' _ isLexeme'
      rw [List.append_nil, ← List.append_assoc]
      exact List.prefix_append _ rest
    | cons d past =>
      cases reached
      have single := isLexeme'.eq_of_mem_of_separates (List.mem_append_right _ List.mem_cons_self) separates
      have lengths := congrArg List.length single
      have filled := List.length_pos_iff.2 isLexeme.ne_nil
      simp only [List.length_append, List.length_cons, List.length_nil] at lengths
      omega

/-- A text that a walk is stuck at is still one when a separator and more is put after it. -/
theorem Stuck.append {cs rest : List Char} {c : Char} (separates : Separates c) (stuck : Stuck cs) :
    Stuck (cs ++ c :: rest) := by
  obtain ⟨d, tail, rfl, visible, none⟩ := stuck
  refine ⟨d, tail ++ c :: rest, rfl, visible, fun kind text isLexeme isPrefix => ?_⟩
  by_cases short : text.length ≤ (d :: tail).length
  · exact none kind text isLexeme (List.prefix_of_prefix_length_le isPrefix (List.prefix_append _ _) short)
  · -- A longer lexeme would have the separator in it, and yet more than one character.
    obtain ⟨past, rfl⟩ := List.prefix_of_prefix_length_le (List.prefix_append _ _) isPrefix (by omega)
    rw [List.prefix_append_right_inj] at isPrefix
    cases past with
    | nil => simp at short
    | cons e past =>
      obtain ⟨rfl, _⟩ := List.cons_prefix_cons.1 isPrefix
      have single := isLexeme.eq_of_mem_of_separates (by simp) separates
      simp at single

end Formulary.Lexeme

namespace Formulary
open Formulary.Lexeme

/-- A walk takes the same tokens when a separator and more is put after the text ahead. -/
theorem Reaches.append_separates {passed stop : Nat} {cs ahead : List Char} {found : List Token} {c : Char}
    (reaches : Reaches passed cs found stop ahead) (separates : Separates c) (rest : List Char) :
    Reaches passed (cs ++ c :: rest) found stop (ahead ++ c :: rest) := by
  induction reaches with
  | here passed cs => exact .here passed (cs ++ c :: rest)
  | blank blank _ ih => exact .blank blank ih
  | @lexeme passed stop kind text between ahead found longest _ ih =>
    rw [← List.append_nil between] at longest
    rw [List.append_assoc]
    exact .lexeme (longest.of_separates separates) ih

end Formulary
