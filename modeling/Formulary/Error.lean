import Formulary.Notice

/-!
# Errors

An error is its cause. Complaints about a formula (a stray character, a syntax error, a failed
evaluation) are kept apart from defects, which only trees, tokens or values made by hand can show.
`Error.message` gives the wording of all of them.
-/

namespace Formulary
open Formulary.Text Formulary.Number

/-! ## Syntax errors -/

/-- What the grammar needed at the place of a syntax error. -/
inductive Wanted where
  | identifier
  | equalsSign
  | factor
  | closingParenthesis
  | endOfInput
deriving DecidableEq

def Wanted.text : Wanted → String
  | .identifier => "identifier"
  | .equalsSign => "'='"
  | .factor => "number, '(', '-' or identifier"
  | .closingParenthesis => "')'"
  | .endOfInput => "end of input"

/-- A rule of the grammar. -/
inductive Rule where
  | statement
  | expression
  | term
  | factor
deriving DecidableEq

def Rule.text : Rule → String
  | .statement => "statement"
  | .expression => "expression"
  | .term => "term"
  | .factor => "factor"

/-- What is wrong at the place of a syntax error. -/
inductive SyntaxProblem where
  /-- The input ends where something is still needed. -/
  | endOfInput (wanted : Wanted)
  /-- A token stands where something else is needed. -/
  | invalidToken (wanted : Wanted) (got : String)
  /-- A token follows a complete statement. -/
  | trailingToken (got : String)
deriving DecidableEq

namespace SyntaxProblem

def wanted : SyntaxProblem → Wanted
  | .endOfInput wanted => wanted
  | .invalidToken wanted _ => wanted
  | .trailingToken _ => .endOfInput

/-- The text of the token at fault, empty at the end of the input. -/
def got : SyntaxProblem → String
  | .endOfInput _ => ""
  | .invalidToken _ got => got
  | .trailingToken got => got

def shown : SyntaxProblem → GrammarProblem
  | .endOfInput wanted => .endOfInput (.text wanted.text)
  | .invalidToken wanted got => .token (.text wanted.text) (.text got) none
  | .trailingToken got =>
    .token (.text Wanted.endOfInput.text) (.text got)
      (some (.text ("unexpected trailing token " ++ quoted got)))

end SyntaxProblem

/-- A problem, its column, and the grammar rules that were open there, innermost first. -/
structure SyntaxError where
  problem : SyntaxProblem
  column : Int
  rules : List Rule := []
deriving DecidableEq

namespace SyntaxError

/-- The error seen from one rule further out. -/
def addRule (e : SyntaxError) (rule : Rule) : SyntaxError :=
  { e with rules := e.rules ++ [rule] }

def notice (e : SyntaxError) : Notice :=
  .grammar e.problem.shown (.int e.column) (e.rules.map Rule.text)

end SyntaxError

/-! ## Failed evaluations -/

/-- Where a divisor was zero. -/
inductive ZeroDivisor where
  | scalar
  | someRow
deriving DecidableEq

def ZeroDivisor.notice : ZeroDivisor → Notice
  | .scalar => .divisionByZero none
  | .someRow => .divisionByZero (some (.text "division by zero in at least one row"))

/-- Which result was not finite. -/
inductive Overflow where
  | value (x : Float)
  | someRow
deriving DecidableEq

def Overflow.notice : Overflow → Notice
  | .value x => .notFinite (some (.text ("result " ++ floatText x ++ " is not a finite number")))
  | .someRow => .notFinite (some (.text "result is not a finite number in at least one row"))

/-- Why a formula has no value. -/
inductive EvaluationError where
  | notAssignment
  | targetNotIdentifier
  | nestedAssignment
  | nestedTooDeeply
  | notNumeric (column type : String)
  | undefinedVariable (name : String)
  | divisionByZero (divisor : ZeroDivisor)
  | notFinite (result : Overflow)
deriving DecidableEq

def EvaluationError.notice : EvaluationError → Notice
  | .notAssignment => .evaluation [.text "statement must be an assignment"]
  | .targetNotIdentifier => .evaluation [.text "assignment target must be an identifier"]
  | .nestedAssignment => .evaluation [.text "assignment is only allowed at the top level"]
  | .nestedTooDeeply => .evaluation [.text "formula nested too deeply"]
  | .notNumeric column type =>
    .evaluation [.text ("column " ++ quoted column ++ " of type " ++ type ++ " is not numeric")]
  | .undefinedVariable name => .undefinedVariable (.text name)
  | .divisionByZero divisor => divisor.notice
  | .notFinite result => result.notice

/-! ## Defects -/

/-- What only trees, tokens or values made by hand can show. -/
inductive Defect where
  /-- A token list without an end marker at its end. -/
  | unfinishedTokens
  /-- A step back from the first position of a token list. -/
  | retreatAtStart
  /-- A binary node built with an operator that does not exist. -/
  | unknownBinaryOperator (text : String)
  /-- A unary node built with an operator that does not exist. -/
  | unknownUnaryOperator (text : String)
  /-- A literal built with a kind that does not exist. -/
  | unknownLiteralKind (text : String)
  /-- A literal of a kind without a value. -/
  | valuelessKind (text : String)
  /-- An operator without a value. -/
  | valuelessOperator (text : String)
  /-- A numeric literal whose text is no numeral. -/
  | malformedNumeral (text : String)
  /-- Something in a tree that is no node, met while reading the tree. -/
  | foreignNode (value : Scalar)
  /-- Something in a tree that is no node, met while evaluating the tree. -/
  | valuelessNode (value : Scalar)
  /-- An operator without a binding strength. -/
  | noPrecedence (text : String)
  /-- An assignment below the root of a tree to be written. -/
  | misplacedAssignment
  /-- An assignment to be written whose target is no identifier. -/
  | targetNotWritable
  /-- A scalar without a double. -/
  | conversion (error : ConversionError)
  /-- A column name that a table has more than once. -/
  | repeatedColumn (name : String) (count : Nat)
  /-- An integer cell that has no exact double, and the least integer allowed. -/
  | integerOutOfRange (value least : Int)
  /-- A division by a zero that no check has caught. -/
  | uncheckedDivision
deriving DecidableEq

def Defect.message : Defect → String
  | .unfinishedTokens => "token list must end with an EOF token"
  | .retreatAtStart => "cannot retreat past the start of the token stream"
  | .unknownBinaryOperator text => "unknown binary operator: " ++ quoted text
  | .unknownUnaryOperator text => "unknown unary operator: " ++ quoted text
  | .unknownLiteralKind text => "unknown literal kind: " ++ quoted text
  | .valuelessKind text => "Unknown literal kind: " ++ text
  | .valuelessOperator text => "Unknown operator: " ++ text
  | .malformedNumeral text => "malformed numeric literal " ++ quoted text
  | .foreignNode value => "unknown AST node: " ++ value.repr
  | .valuelessNode value => "Unknown AST node: " ++ value.repr
  | .noPrecedence text => quoted text
  | .misplacedAssignment => "assignment is only allowed at the root"
  | .targetNotWritable => "assignment target must be an identifier"
  | .conversion error => error.message
  | .repeatedColumn name count =>
    quoted ("Field \"" ++ name ++ "\" exists " ++ toString count ++ " times in schema")
  | .integerOutOfRange value least =>
    "Integer value " ++ intText value ++ " not in range: " ++ intText least ++ " to 9007199254740992"
  | .uncheckedDivision => "float division by zero"

/-! ## All errors -/

/-- Why a formula was not carried out. -/
inductive Error where
  | unrecognizedCharacter (found : Char) (column : Int)
  | syntaxError (error : SyntaxError)
  | nestedTooDeeply
  | evaluation (error : EvaluationError)
  | defect (cause : Defect)
deriving DecidableEq

namespace Error

def strayCharacter (found : Char) (column : Int) : Notice :=
  .unrecognizedCharacter (.text (String.singleton found)) (.int column)

/-- An error as it is shown. A formula nested too deeply to be read has no place to point at, and a
    defect is no complaint: both have a wording alone. -/
def notice? : Error → Option Notice
  | .unrecognizedCharacter found column => some (strayCharacter found column)
  | .syntaxError error => some error.notice
  | .evaluation error => some error.notice
  | .nestedTooDeeply | .defect _ => none

def message : Error → String
  | .unrecognizedCharacter found column => (strayCharacter found column).message
  | .syntaxError error => error.notice.message
  | .evaluation error => error.notice.message
  | .nestedTooDeeply => "formula nested too deeply"
  | .defect cause => cause.message

/-- A complaint is about the formula or the values given to it, not about a defect. -/
def isComplaint : Error → Bool
  | .defect _ => false
  | _ => true

end Error
end Formulary
