import Formulary.Scalar

/-!
# Notices

A notice is a complaint as it is shown: its kind, and the values that fill its wording. The errors
of this library are shown as notices, and a caller may make a notice of any values.
-/

namespace Formulary

/-- What a notice of a syntax error says about its place. -/
inductive GrammarProblem where
  /-- A wording and the text at fault. -/
  | described (message text : Scalar)
  /-- The input ends where something is still needed. -/
  | endOfInput (wanted : Scalar)
  /-- Something stands where something else is needed, perhaps with a wording of its own. -/
  | token (wanted got : Scalar) (message : Option Scalar)
deriving DecidableEq

namespace GrammarProblem

def message : GrammarProblem → String
  | .described message _ => message.display
  | .endOfInput wanted => "unexpected end of input, need " ++ wanted.display
  | .token wanted got none => "invalid token " ++ got.repr ++ ", need " ++ wanted.display
  | .token _ _ (some message) => message.display

/-- The text at fault, empty at the end of the input. -/
def text : GrammarProblem → Scalar
  | .described _ text => text
  | .endOfInput _ => .text ""
  | .token _ got _ => got

/-- What was needed, where a need is known. -/
def wanted? : GrammarProblem → Option Scalar
  | .described _ _ => none
  | .endOfInput wanted => some wanted
  | .token wanted _ _ => some wanted

end GrammarProblem

/-- A complaint as it is shown. -/
inductive Notice where
  | general (words : List Scalar)
  | lexical (words : List Scalar)
  | evaluation (words : List Scalar)
  | unrecognizedCharacter (found column : Scalar)
  /-- A syntax error with the grammar rules that were open at its place, innermost first. -/
  | grammar (problem : GrammarProblem) (column : Scalar) (rules : List String)
  | undefinedVariable (name : Scalar)
  | divisionByZero (message : Option Scalar)
  | notFinite (message : Option Scalar)
deriving DecidableEq

namespace Notice

/-- The wording of some values: none for no value, the value itself for one, a list between
    parentheses for more. -/
def wording : List Scalar → String
  | [] => ""
  | [word] => word.display
  | words => "(" ++ ", ".intercalate (words.map Scalar.repr) ++ ")"

/-- The open rules after a wording, if there are any. -/
def rulesText (rules : List String) : String :=
  if rules.isEmpty then "" else " (in " ++ " <- ".intercalate rules ++ ")"

def message : Notice → String
  | .general words => wording words
  | .lexical words => wording words
  | .evaluation words => wording words
  | .unrecognizedCharacter found column =>
    "unrecognized character " ++ found.repr ++ " at column " ++ column.display
  | .grammar problem column rules =>
    problem.message ++ " at column " ++ column.display ++ rulesText rules
  | .undefinedVariable name => "variable " ++ name.repr ++ " is not defined"
  | .divisionByZero message => (message.map Scalar.display).getD "division by zero"
  | .notFinite message => (message.map Scalar.display).getD "result is not a finite number"

/-- The column that a notice points at, absent if it points at none. -/
def column : Notice → Scalar
  | .unrecognizedCharacter _ column => column
  | .grammar _ column _ => column
  | _ => .absent

/-- A notice of a syntax error seen from one rule further out. -/
def addRule (rule : String) : Notice → Notice
  | .grammar problem column rules => .grammar problem column (rules ++ [rule])
  | notice => notice

end Notice
end Formulary
