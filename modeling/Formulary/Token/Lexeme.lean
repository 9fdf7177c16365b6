import Formulary.Token

/-!
# Lexemes

The lexemes of a formula are identifiers, unsigned numbers and single-character operators, all in
ASCII. At each place of a source the lexeme is the longest one that starts there.
-/

namespace Formulary.Lexeme

/-! ## Characters -/

/-- A character that may start an identifier. -/
def isNameStart (c : Char) : Bool :=
  c.isAlpha || c == '_'

/-- A character that may stand in an identifier after its start. -/
def isNamePart (c : Char) : Bool :=
  c.isAlphanum || c == '_'

def operators : List Char :=
  ['=', '+', '-', '*', '/', '(', ')']

/-! ## Numbers -/

/-- Digits if there are any, then a point and digits if there is a point. -/
def mantissa (cs : List Char) : List Char :=
  match cs.dropWhile Char.isDigit with
  | '.' :: rest => cs.takeWhile Char.isDigit ++ '.' :: rest.takeWhile Char.isDigit
  | _ => cs.takeWhile Char.isDigit

/-- The sign at the head of an exponent, if there is one. -/
def sign : List Char → List Char
  | c :: _ => if c = '+' ∨ c = '-' then [c] else []
  | [] => []

/-- The power of ten after a mantissa: a mark, perhaps a sign, and at least one digit; nothing if
    one of them is missing. -/
def exponent : List Char → List Char
  | mark :: rest =>
    let digits := (rest.drop (sign rest).length).takeWhile Char.isDigit
    if (mark = 'e' ∨ mark = 'E') ∧ digits ≠ [] then mark :: sign rest ++ digits else []
  | [] => []

/-- The number at the head of a text. -/
def number (cs : List Char) : List Char :=
  mantissa cs ++ exponent (cs.drop (mantissa cs).length)

/-- A number is an integer if it is all digits, else a float. -/
def numberKind (text : List Char) : TokenKind :=
  if text.all Char.isDigit then .integer else .float

/-- A number starts with a digit, or with a point and a digit. -/
def startsNumber : List Char → Bool
  | c :: rest => c.isDigit || (c == '.' && rest.head?.any Char.isDigit)
  | [] => false

/-! ## The lexeme at the head of a text -/

/-- Kind and characters of the lexeme at the head of a text. -/
def atHead? : List Char → Option (TokenKind × List Char)
  | [] => none
  | c :: rest =>
    if startsNumber (c :: rest) then
      some (numberKind (number (c :: rest)), number (c :: rest))
    else if isNameStart c then some (.identifier, c :: rest.takeWhile isNamePart)
    else if c ∈ operators then some (.operator, [c])
    else none

theorem number_ne_nil {cs : List Char} (starts : startsNumber cs) : number cs ≠ [] := by
  have filled : mantissa cs ≠ [] := by
    match cs with
    | [] => simp [startsNumber] at starts
    | c :: rest =>
      by_cases digit : c.isDigit
      · simp only [mantissa, List.takeWhile_cons, digit, if_true]
        split <;> simp
      · have point : c = '.' := by simp_all [startsNumber]
        simp [mantissa, point, Char.isDigit]
  simp [number, filled]

theorem length_pos_of_atHead? {cs : List Char} {kind : TokenKind} {text : List Char}
    (found : atHead? cs = some (kind, text)) : 0 < text.length := by
  match cs with
  | [] => simp [atHead?] at found
  | c :: rest =>
    rw [atHead?] at found
    split at found
    next starts =>
      obtain ⟨_, rfl⟩ := Prod.mk.inj (Option.some.inj found)
      exact List.length_pos_iff.2 (number_ne_nil starts)
    next =>
      split at found
      next =>
        obtain ⟨_, rfl⟩ := Prod.mk.inj (Option.some.inj found)
        simp
      next =>
        split at found
        next =>
          obtain ⟨_, rfl⟩ := Prod.mk.inj (Option.some.inj found)
          simp
        next => simp at found

end Formulary.Lexeme
