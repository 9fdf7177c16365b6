import Formulary.Error

/-!
# Formula trees

A formula is a tree of binary and unary operations over literals. Operators, literal kinds and
nodes that do not exist can be put into a tree by hand, and stay visible in it: the operations on
trees say what becomes of them.
-/

namespace Formulary
open Formulary.Text

/-! ## Parts of a tree -/

/-- A binary operator; the assignment belongs at the root of a tree alone. -/
inductive BinaryOperator where
  | assign
  | add
  | subtract
  | multiply
  | divide
  | unknown (text : String)
deriving DecidableEq

namespace BinaryOperator

def text : BinaryOperator → String
  | .assign => "="
  | .add => "+"
  | .subtract => "-"
  | .multiply => "*"
  | .divide => "/"
  | .unknown text => text

def ofText (text : String) : BinaryOperator :=
  ([assign, add, subtract, multiply, divide].find? (·.text == text)).getD (.unknown text)

/-- The strength with which an operator binds, the assignment least. -/
def precedence? : BinaryOperator → Option Nat
  | .assign => some 0
  | .add | .subtract => some 1
  | .multiply | .divide => some 2
  | .unknown _ => none

end BinaryOperator

inductive UnaryOperator where
  | negate
  | unknown (text : String)
deriving DecidableEq

namespace UnaryOperator

def text : UnaryOperator → String
  | .negate => "-"
  | .unknown text => text

def ofText (text : String) : UnaryOperator :=
  if text = "-" then .negate else .unknown text

end UnaryOperator

inductive LiteralKind where
  | integer
  | float
  | identifier
  | unknown (text : String)
deriving DecidableEq

namespace LiteralKind

def text : LiteralKind → String
  | .integer => "INTEGER"
  | .float => "FLOAT"
  | .identifier => "IDENTIFIER"
  | .unknown text => text

def ofText (text : String) : LiteralKind :=
  ([integer, float, identifier].find? (·.text == text)).getD (.unknown text)

end LiteralKind

/-! ## Trees -/

/-- A formula tree. A literal keeps its text until it is evaluated; a foreign value is something
    that stands where a node should. -/
inductive Tree where
  | binary (op : BinaryOperator) (left right : Tree)
  | unary (op : UnaryOperator) (operand : Tree)
  | literal (text : String) (kind : LiteralKind)
  | foreign (value : Scalar)
deriving DecidableEq

namespace Tree

def binary? (op : String) (left right : Tree) : Except Error Tree :=
  match BinaryOperator.ofText op with
  | .unknown text => .error (.defect (.unknownBinaryOperator text))
  | known => .ok (.binary known left right)

def unary? (op : String) (operand : Tree) : Except Error Tree :=
  match UnaryOperator.ofText op with
  | .unknown text => .error (.defect (.unknownUnaryOperator text))
  | known => .ok (.unary known operand)

def literal? (text kind : String) : Except Error Tree :=
  match LiteralKind.ofText kind with
  | .unknown kind => .error (.defect (.unknownLiteralKind kind))
  | known => .ok (.literal text known)

/-- Equality of trees: the same nodes in the same places, foreign values being compared as values. -/
def same : Tree → Tree → Bool
  | .binary op left right, .binary op' left' right' =>
    op == op' && left.same left' && right.same right'
  | .unary op operand, .unary op' operand' => op == op' && operand.same operand'
  | .literal text kind, .literal text' kind' => text == text' && kind == kind'
  | .foreign value, .foreign value' => value.same value'
  | _, _ => false

/-- A tree as nested calls of its node builders. -/
def repr : Tree → String
  | .binary op left right =>
    "BinaryExpr(" ++ quoted op.text ++ ", " ++ left.repr ++ ", " ++ right.repr ++ ")"
  | .unary op operand => "UnaryExpr(" ++ quoted op.text ++ ", " ++ operand.repr ++ ")"
  | .literal text kind => "Literal(" ++ quoted text ++ ", " ++ kind.text ++ ")"
  | .foreign value => value.repr

/-- A tree with the part that each node plays named beside it. -/
def display : Tree → String
  | .binary op left right =>
    "op(" ++ op.text ++ ") lhs(" ++ left.display ++ ") rhs(" ++ right.display ++ ")"
  | .unary op operand => "op(" ++ op.text ++ ") rhs(" ++ operand.display ++ ")"
  | .literal text kind => "val(" ++ text ++ ") type(" ++ kind.text ++ ")"
  | .foreign value => value.display

/-! ## Walking through a tree -/

/-- A node in one word: the text of a literal, the operator of an operation, a foreign value. -/
def label : Tree → String
  | .binary op _ _ => op.text
  | .unary op _ => op.text
  | .literal text _ => text
  | .foreign value => value.repr

/-- All nodes, each before its operands and these from left to right. -/
def preorder : Tree → List Tree
  | .binary op left right => .binary op left right :: (left.preorder ++ right.preorder)
  | .unary op operand => .unary op operand :: operand.preorder
  | .literal text kind => [.literal text kind]
  | .foreign value => [.foreign value]

/-- The nodes up to the first foreign value, that value included, and the error that it is. -/
def visit : List Tree → List Tree × Option Error
  | [] => ([], none)
  | .foreign value :: _ => ([.foreign value], some (.defect (.foreignNode value)))
  | node :: rest =>
    let (nodes, error?) := visit rest
    (node :: nodes, error?)

/-- A walk through a tree in preorder, which ends at a foreign value. -/
def walk (tree : Tree) : List Tree × Option Error :=
  visit tree.preorder

end Tree
end Formulary
