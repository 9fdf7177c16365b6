import Formulary.Tree

/-!
# Trees as formula text

A tree is written as the formula that stands for it. Operators of equal strength group to the
right, so a right operand of equal strength needs no parentheses and a left one does.
-/

namespace Formulary.Tree

/-- The side of an operator on which an operand stands. -/
inductive Side where
  | left
  | right
deriving DecidableEq

def parenthesized (text : String) : String := "(" ++ text ++ ")"

/-- Parentheses are needed around a weaker operation, and on the left around an equally strong one. -/
def needsParentheses (outer : Nat) (side : Side) (inner : Nat) : Bool :=
  inner < outer || (side == .left && inner == outer)

/-- The text of an operand of an operator of strength `outer`, given its text on its own. -/
def operandText (outer : Nat) (side : Side) (operand : Tree) (text : String) : Except Error String :=
  match operand with
  | .binary .assign _ _ => .error (.defect .misplacedAssignment)
  | .binary op _ _ =>
    match op.precedence? with
    | some inner => .ok (if needsParentheses outer side inner then parenthesized text else text)
    | none => .error (.defect (.noPrecedence op.text))
  | _ => .ok text

/-- The text of a negated operand, given its text on its own. -/
def negatedText (operand : Tree) (text : String) : String :=
  match operand with
  | .binary _ _ _ => parenthesized text
  | _ => text

def formula : Tree → Except Error String
  | .literal text _ => .ok text
  | .unary op operand => do
    let text ← operand.formula
    return op.text ++ negatedText operand text
  | .binary .assign target value =>
    match target with
    | .literal name .identifier => do
      let text ← value.formula
      return name ++ " = " ++ (← operandText 0 .right value text)
    | _ => .error (.defect .targetNotWritable)
  | .binary op left right =>
    match op.precedence? with
    | some strength => do
      let leftText ← operandText strength .left left (← left.formula)
      let rightText ← operandText strength .right right (← right.formula)
      return leftText ++ " " ++ op.text ++ " " ++ rightText
    | none => .error (.defect (.noPrecedence op.text))
  | .foreign value => .error (.defect (.foreignNode value))

end Formulary.Tree
