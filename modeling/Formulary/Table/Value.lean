import Formulary.Table.Cells
import Formulary.Tree

/-!
# Values of an expression over a table

An expression over a table has one value for all rows or one for each. The arithmetic works row by
row, a single value standing for every row and an empty cell making the result empty.

`Value.map` and `Value.combine` stand for the arithmetic of the library that keeps the columns, and
for that of single doubles. Of the library's arithmetic this is assumed: it computes in each row
what the same operation on single doubles gives, gives an empty cell for an empty one, and never
fails, not even for a zero divisor. `Value.hasZero` stands for its test whether any cell equals
zero; empty cells are passed over, and a column of which nothing is left has no zero.
-/

namespace Formulary

/-- The value of an expression over a table with so many rows. -/
inductive Value (rows : Nat) where
  | scalar (value : Float)
  | column (doubles : Doubles rows)

namespace Value
variable {rows : Nat}

def map (f : Float → Float) : Value rows → Value rows
  | .scalar x => .scalar (f x)
  | .column xs => .column (xs.map (·.map f))

/-- An operation on two cells, empty if one of them is. -/
def cellOperation (f : Float → Float → Float) : Option Float → Option Float → Option Float
  | some x, some y => some (f x y)
  | _, _ => none

def combine (f : Float → Float → Float) : Value rows → Value rows → Value rows
  | .scalar x, .scalar y => .scalar (f x y)
  | .scalar x, .column ys => .column (ys.map (cellOperation f (some x)))
  | .column xs, .scalar y => .column (xs.map (cellOperation f · (some y)))
  | .column xs, .column ys => .column (Vector.zipWith (cellOperation f) xs ys)

/-- A value has a zero when it is zero or some cell of it is; empty cells are no zeros. -/
def hasZero : Value rows → Bool
  | .scalar x => x == 0
  | .column xs => xs.any (·.any (· == 0))

/-- The cell of a value in each row. -/
def cells : Value rows → Doubles rows
  | .scalar x => Vector.replicate rows (some x)
  | .column xs => xs

end Value

/-- The arithmetic of an operator, if it has one. -/
def BinaryOperator.arithmetic? : BinaryOperator → Option (Float → Float → Float)
  | .add => some (· + ·)
  | .subtract => some (· - ·)
  | .multiply => some (· * ·)
  | .divide => some (· / ·)
  | .assign | .unknown _ => none

end Formulary
