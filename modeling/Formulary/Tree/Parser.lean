import Formulary.Token.Lexer
import Formulary.Token.Cursor
import Formulary.Tree

/-!
# From tokens to a tree

The grammar, with the tokens at which its rules are told apart:

    statement  := identifier "=" expression
    expression := term (("+" | "-") expression)?
    term       := factor (("*" | "/") term)?
    factor     := integer | float | identifier | "(" expression ")" | "-" factor

An operator takes everything of its strength to its right as its right operand. A syntax error
records the rules that were open at its place. Only so many rules may be open at once: a formula
that needs more is nested too deeply.
-/

namespace Formulary

/-- What the rules of the grammar ask of the state that they read from: the token at hand, the move to the
    next token and the move back. -/
class Movable (σ : Type) where
  current : σ → Token
  advance : EStateM Error σ Unit
  retreat : EStateM Error σ Unit

instance : Movable Cursor where
  current := Cursor.current
  advance := modify Cursor.advance
  retreat := do
    match (← get).retreat? with
    | some previous => set previous
    | none => throw (.defect .retreatAtStart)

/-- Reading from a state: an answer or an error, and in both cases the state after it. -/
abbrev Reader (σ : Type) := EStateM Error σ

namespace Reader

variable {σ α : Type} [Movable σ]

/-- The next token, to which the state moves. -/
def next : Reader σ Token := do
  Movable.advance
  return Movable.current (← get)

def fail (wanted : Wanted) : Reader σ α := do
  let token := Movable.current (← get)
  let problem := if token.kind = .endMarker then .endOfInput wanted else .invalidToken wanted token.text
  throw (.syntaxError { problem, column := token.column })

/-- Runs a rule of the grammar, recording it in a syntax error that comes out of it. -/
def within (rule : Rule) (body : Reader σ α) : Reader σ α := fun state =>
  match body state with
  | .error (.syntaxError error) state => .error (.syntaxError (error.addRule rule)) state
  | outcome => outcome

/-- Moves past a given operator, or fails. -/
def expectOperator (text : String) (wanted : Wanted) : Reader σ Unit := do
  if (← next).isOperator text then return () else fail wanted

/-- Moves past the next token if it is one of some operators; else the state moves back. -/
def takeOperator (choices : List BinaryOperator) : Reader σ (Option BinaryOperator) := do
  let token ← next
  match choices.find? fun op => token.isOperator op.text with
  | some op => return some op
  | none =>
    Movable.retreat
    return none

/-- An operand, and perhaps one of some operators and more of the same. -/
def chain (operand more : Reader σ Tree) (choices : List BinaryOperator) : Reader σ Tree := do
  let left ← operand
  match ← takeOperator choices with
  | some op => return .binary op left (← more)
  | none => return left

/-! ## Rules

The number that a rule takes is the number of rules that may still be opened. -/

mutual

/-- A sum: terms with plus and minus signs between them. -/
def expression : Nat → Reader σ Tree
  | 0 => throw .nestedTooDeeply
  | room + 1 => within .expression (chain (term room) (expression room) [.add, .subtract])

/-- A product: factors with multiplication and division signs between them. -/
def term : Nat → Reader σ Tree
  | 0 => throw .nestedTooDeeply
  | room + 1 => within .term (chain (factor room) (term room) [.multiply, .divide])

/-- A number, a name, a sum between parentheses, or a negated factor. -/
def factor : Nat → Reader σ Tree
  | 0 => throw .nestedTooDeeply
  | room + 1 => within .factor do
    let token ← next
    match token.kind with
    | .integer => return .literal token.text .integer
    | .float => return .literal token.text .float
    | .identifier => return .literal token.text .identifier
    | _ =>
      if token.isOperator "(" then
        let inner ← expression room
        expectOperator ")" .closingParenthesis
        return inner
      else if token.isOperator "-" then
        return .unary .negate (← factor room)
      else fail .factor

end

/-- A complete statement: nothing may follow it but the end marker. -/
def statement (room : Nat) : Reader σ Tree := within .statement do
  let target ← next
  if target.kind ≠ .identifier then fail .identifier
  expectOperator "=" .equalsSign
  let value ← expression room
  let following ← next
  if following.kind ≠ .endMarker then
    throw (.syntaxError
      { problem := .trailingToken following.text, column := following.column })
  return .binary .assign (.literal target.text .identifier) value

end Reader

/-- The number of expressions, terms and factors that may be open at once. -/
def ruleLimit : Nat := 490

/-- The statement ahead of a cursor, and where the cursor stands after it or on the error. -/
def Cursor.parse (cursor : Cursor) : EStateM.Result Error Cursor Tree :=
  Reader.statement ruleLimit cursor

def parseTokens (tokens : List Token) : Except Error Tree := do
  match (← Cursor.ofTokens tokens).parse with
  | .ok tree _ => return tree
  | .error error _ => throw error

def parse (source : String) : Except Error Tree := do
  parseTokens (← tokenize source)

end Formulary
