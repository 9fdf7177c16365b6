import Formulary.Symbols
import Formulary.Tree

/-!
# Evaluating a formula with a symbol table

The value of an expression is a finite double. Operands are evaluated from left to right, and the
first failure is the outcome of the whole. An assignment binds its target only when its
right-hand side has a value.
-/

namespace Formulary
open Formulary.Number

def evaluationError {α : Type} (error : EvaluationError) : Except Error α :=
  .error (.evaluation error)

def requireFinite (value : Float) : Except Error Float :=
  if value.isFinite then .ok value else evaluationError (.notFinite (.value value))

def Scalar.evaluate (value : Scalar) : Except Error Float :=
  match value.toFloat with
  | .ok x => .ok x
  | .error error => .error (.defect (.conversion error))

/-- The value of a literal's text as a numeral. -/
def numeralValue (text : String) : Except Error Float :=
  match floatOfText? text with
  | some value => .ok value
  | none => .error (.defect (.malformedNumeral text))

/-- The value of a literal: what a name is bound to, or a numeral. -/
def literalValue (symbols : SymbolTable) (text : String) : LiteralKind → Except Error Float
  | .identifier =>
    match symbols[text]? with
    | some value => value.evaluate
    | none => evaluationError (.undefinedVariable text)
  | .integer | .float => numeralValue text
  | .unknown kind => .error (.defect (.valuelessKind kind))

/-- The quotient of two doubles. There is none by a zero, so divisors are checked beforehand. -/
def quotient (dividend divisor : Float) : Except Error Float :=
  if divisor == 0 then .error (.defect .uncheckedDivision) else .ok (dividend / divisor)

theorem quotient_of_ne_zero {dividend divisor : Float} (nonzero : ¬ divisor == 0) :
    quotient dividend divisor = .ok (dividend / divisor) :=
  if_neg nonzero

def BinaryOperator.evaluate (op : BinaryOperator) (left right : Float) : Except Error Float :=
  match op with
  | .assign => evaluationError .nestedAssignment
  | .add => requireFinite (left + right)
  | .subtract => requireFinite (left - right)
  | .multiply => requireFinite (left * right)
  | .divide =>
    if right == 0 then evaluationError (.divisionByZero .scalar)
    else do requireFinite (← quotient left right)
  | .unknown text => .error (.defect (.valuelessOperator text))

/-- The value of an expression whose nodes are at most `room` deep. -/
def Tree.evaluateWithin (symbols : SymbolTable) : Nat → Tree → Except Error Float
  | 0, _ => evaluationError .nestedTooDeeply
  | _ + 1, .literal text kind => do requireFinite (← literalValue symbols text kind)
  | room + 1, .unary _ operand => do
    let value ← operand.evaluateWithin symbols room
    return -value
  | _ + 1, .binary .assign _ _ => evaluationError .nestedAssignment
  | room + 1, .binary op left right => do
    let leftValue ← left.evaluateWithin symbols room
    let rightValue ← right.evaluateWithin symbols room
    op.evaluate leftValue rightValue
  | _ + 1, .foreign value => .error (.defect (.valuelessNode value))

/-- The greatest depth of an expression that is evaluated. -/
def depthLimit : Nat := 1000

def Tree.evaluate (symbols : SymbolTable) (tree : Tree) : Except Error Float :=
  tree.evaluateWithin symbols depthLimit

/-- The target and the right-hand side of an assignment. -/
def Tree.assignment : Tree → Except Error (String × Tree)
  | .binary .assign (.literal name .identifier) value => .ok (name, value)
  | .binary .assign _ _ => evaluationError .targetNotIdentifier
  | _ => evaluationError .notAssignment

/-- The name that a statement assigns and the value that it gives to it. -/
def interpret (symbols : SymbolTable) (statement : Tree) : Except Error (String × Float) := do
  let (name, expression) ← statement.assignment
  let value ← expression.evaluate symbols
  return (name, value)

end Formulary
