import Std.Data.TreeSet
import Formulary.Evaluation
import Formulary.Trace
import Formulary.Table
import Formulary.Table.Value

/-!
# Evaluating a formula over a table

The names of an expression are resolved before any arithmetic, in the order of their characters'
codes: each to the column of that name, or else to a constant. What has been resolved is kept from
one statement to the next. Operations are not checked one by one for finite results; the value of
a whole statement is.
-/

namespace Formulary
open Formulary.Number

/-- What names can refer to: the columns of a table, and constants. -/
structure Scope where
  table : Table
  constants : SymbolTable

/-- What names of a scope have been resolved to. -/
abbrev Resolved (scope : Scope) := Std.TreeMap String (Value scope.table.rows)

namespace Scope

/-! ## Names -/

/-- What a name refers to. A column comes before a constant of the same name. -/
def lookup (scope : Scope) (name : String) : Except Error (Value scope.table.rows) :=
  match scope.table.named name with
  | [column] => (column.cells.toDoubles name).map .column
  | [] =>
    match scope.constants[name]? with
    | some value => value.evaluate.map .scalar
    | none => evaluationError (.undefinedVariable name)
  | columns => .error (.defect (.repeatedColumn name columns.length))

/-- Resolves names one after the other, up to the first that cannot be; those before it stay. -/
def resolve (scope : Scope) (resolved : Resolved scope) :
    List String → Except Error Unit × Resolved scope
  | [] => (.ok (), resolved)
  | name :: names =>
    match scope.lookup name with
    | .ok value => scope.resolve (resolved.insert name value) names
    | .error error => (.error error, resolved)

end Scope

/-- The texts of the identifiers of an expression whose nodes are at most `room` deep, from left
    to right. -/
def Tree.identifiersWithin : Nat → Tree → Except Error (List String)
  | 0, _ => evaluationError .nestedTooDeeply
  | room + 1, .binary _ left right => do
    let names ← left.identifiersWithin room
    return names ++ (← right.identifiersWithin room)
  | room + 1, .unary _ operand => operand.identifiersWithin room
  | _ + 1, .literal text kind => .ok (if kind = .identifier then [text] else [])
  | _ + 1, .foreign value => .error (.defect (.foreignNode value))

/-- The names that an expression refers to, each once, in the order of their characters' codes. -/
def Tree.references (tree : Tree) : Except Error (List String) := do
  let names ← tree.identifiersWithin depthLimit
  return (Std.TreeSet.ofList names).toList

/-! ## Values -/

variable {scope : Scope}

/-- The value of an operation on two doubles, finite or not. -/
def BinaryOperator.compute (op : BinaryOperator) (left right : Float) : Except Error Float :=
  match op with
  | .add => .ok (left + right)
  | .subtract => .ok (left - right)
  | .multiply => .ok (left * right)
  | .divide => quotient left right
  | .assign | .unknown _ => .error (.defect (.valuelessOperator op.text))

/-- The value of an operation on two values. A divisor is checked before anything else. -/
def BinaryOperator.evaluateRows {rows : Nat} (op : BinaryOperator) (left right : Value rows) :
    Except Error (Value rows) :=
  if op = .divide ∧ right.hasZero then
    evaluationError (.divisionByZero (match right with | .scalar _ => .scalar | .column _ => .someRow))
  else
    match left, right with
    | .scalar x, .scalar y => (op.compute x y).map .scalar
    | _, _ =>
      match op.arithmetic? with
      | some f => .ok (left.combine f right)
      | none => .error (.defect (.valuelessOperator op.text))

/-- The value of an expression, its names having been resolved. -/
def Tree.evaluateRowsWithin (resolved : Resolved scope) :
    Nat → Tree → Except Error (Value scope.table.rows)
  | 0, _ => evaluationError .nestedTooDeeply
  | _ + 1, .literal text kind =>
    if kind = .identifier then
      match resolved[text]? with
      | some value => .ok value
      | none => evaluationError (.undefinedVariable text)
    else (numeralValue text).map .scalar
  | room + 1, .unary _ operand => do
    let value ← operand.evaluateRowsWithin resolved room
    return value.map (-·)
  | _ + 1, .binary .assign _ _ => evaluationError .nestedAssignment
  | room + 1, .binary op left right => do
    let leftValue ← left.evaluateRowsWithin resolved room
    let rightValue ← right.evaluateRowsWithin resolved room
    op.evaluateRows leftValue rightValue
  | _ + 1, .foreign value => .error (.defect (.valuelessNode value))

/-- The value of an expression, its names having been resolved. -/
def Tree.evaluateRows (resolved : Resolved scope) (tree : Tree) :
    Except Error (Value scope.table.rows) :=
  tree.evaluateRowsWithin resolved depthLimit

/-- The cells of a value whose every number must be finite. For a column this stands for the library's test
    whether all cells are finite, which passes over empty cells and holds if nothing is left. -/
def Value.finiteCells {rows : Nat} (value : Value rows) : Except Error (Doubles rows) :=
  match value with
  | .scalar x =>
    if x.isFinite then .ok value.cells else evaluationError (.notFinite (.value x))
  | .column xs =>
    if xs.all (·.all Float.isFinite) then .ok xs else evaluationError (.notFinite .someRow)

/-! ## Statements -/

/-- The outcome of a statement, what is resolved after it, and what was reported. -/
structure Answer (scope : Scope) where
  result : Except Error (String × Doubles scope.table.rows)
  resolved : Resolved scope
  trace : Trace := []

/-- Carries out a statement: resolves the names of its right-hand side and evaluates it. The
    result is the assigned name with a cell for each row. -/
def Scope.interpret (scope : Scope) (resolved : Resolved scope) (statement : Tree) : Answer scope :=
  match statement.assignment with
  | .error error => { result := .error error, resolved }
  | .ok (target, expression) =>
    match expression.references with
    | .error error => { result := .error error, resolved }
    | .ok names =>
      let trace : Trace := [.references names]
      match scope.resolve resolved names with
      | (.error error, resolved) => { result := .error error, resolved, trace }
      | (.ok (), resolved) =>
        let result := do
          let value ← expression.evaluateRows resolved
          let cells ← value.finiteCells
          return (target, cells)
        { result, resolved, trace }

end Formulary
