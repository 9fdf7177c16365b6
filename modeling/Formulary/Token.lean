import Formulary.Error

/-!
# Tokens

A token is a lexeme with its kind and the column at which it starts. The columns of a source count
characters from one. Two kinds have no lexeme: the end marker that closes a token list, and the
start marker on which a cursor begins.
-/

namespace Formulary
open Formulary.Text Formulary.Number

inductive TokenKind where
  | identifier
  | integer
  | float
  | operator
  | endMarker
  | startMarker
  | other (name : String)
deriving DecidableEq

namespace TokenKind

def name : TokenKind → String
  | .identifier => "IDENT"
  | .integer => "INT"
  | .float => "FLOAT"
  | .operator => "OPERATOR"
  | .endMarker => "EOF"
  | .startMarker => "BOF"
  | .other name => name

def ofName (name : String) : TokenKind :=
  ([identifier, integer, float, operator, endMarker, startMarker].find? (·.name == name)).getD
    (.other name)

end TokenKind

/-- A lexeme, its kind and its column. -/
structure Token where
  kind : TokenKind
  text : String
  column : Int
deriving DecidableEq

namespace Token

/-- The marker that closes the tokens of a source. -/
def endMarker (column : Int) : Token := ⟨.endMarker, "", column⟩

/-- The marker before the first token. -/
def startMarker : Token := ⟨.startMarker, "", 0⟩

/-- A token is a given operator when its kind and its text say so. -/
def isOperator (token : Token) (text : String) : Bool :=
  token.kind == .operator && token.text == text

def display (token : Token) : String :=
  "Token(" ++ token.kind.name ++ ", " ++ quoted token.text ++ ", col=" ++ intText token.column ++ ")"

end Token
end Formulary
