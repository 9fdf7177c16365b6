import Formulary.Text.Blank
import Formulary.Token.Lexeme

/-!
# From a source to its tokens

A lexer walks over a source from left to right. It skips blanks, takes the lexeme at hand as a
token, and stops at the end of the source or at a character that starts no lexeme. Each call goes
on from where the one before stopped and adds to the tokens found so far; a call that reaches the
end of the source adds an end marker.
-/

namespace Formulary
open Formulary.Text

/-- The part of a source that has been walked over: the tokens found, the number of characters
    passed, and the characters ahead. -/
structure Scan where
  tokens : List Token
  passed : Nat
  ahead : List Char

/-- The column of the character after so many others. -/
def columnAfter (passed : Nat) : Int := passed + 1

/-- Walks over the characters ahead, `passed` of the source being behind, to the end or to the
    first character that starts no lexeme. -/
def scan (passed : Nat) : List Char → Scan
  | [] => ⟨[], passed, []⟩
  | c :: rest =>
    if isBlank c then scan (passed + 1) rest
    else
      match _found : Lexeme.atHead? (c :: rest) with
      | none => ⟨[], passed, c :: rest⟩
      | some (kind, text) =>
        let tail := scan (passed + text.length) ((c :: rest).drop text.length)
        { tail with tokens := ⟨kind, String.ofList text, columnAfter passed⟩ :: tail.tokens }
termination_by cs => cs.length
decreasing_by
  · simp
  · have := Lexeme.length_pos_of_atHead? _found
    simp only [List.length_drop, List.length_cons]
    omega

/-- A walk over a source that can be taken up again. -/
structure Lexer where
  ahead : List Char
  passed : Nat := 0
  tokens : List Token := []

namespace Lexer

/-- The walk over a source, before its first step. -/
def ofText (source : String) : Lexer :=
  { ahead := source.toList }

def column (lexer : Lexer) : Int := columnAfter lexer.passed

/-- Walks on. At the end of the source the answer is the list of all tokens so far, closed by an
    end marker; at a character that starts no lexeme it is an error, and the tokens before that
    character are kept. -/
def tokenize (lexer : Lexer) : Except Error (List Token) × Lexer :=
  let walk := scan lexer.passed lexer.ahead
  match walk.ahead with
  | [] =>
    let tokens := lexer.tokens ++ walk.tokens ++ [.endMarker (columnAfter walk.passed)]
    (.ok tokens, ⟨[], walk.passed, tokens⟩)
  | c :: _ =>
    (.error (.unrecognizedCharacter c (columnAfter walk.passed)),
      ⟨walk.ahead, walk.passed, lexer.tokens ++ walk.tokens⟩)

end Lexer

/-- The tokens of a source, closed by an end marker. -/
def tokenize (source : String) : Except Error (List Token) :=
  (Lexer.ofText source).tokenize.1

end Formulary
