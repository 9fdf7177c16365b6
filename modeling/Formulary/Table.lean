import Formulary.Table.Cells

/-!
# Tables

A table has so many rows and a list of columns with a cell for each row. Column names may repeat.

`Table.assign` stands for two operations of the library that keeps the columns, replacing the column
at a place and appending one. Of both it is assumed that the other columns stay as they are, in
their order, and that the number of rows does.
-/

namespace Formulary

/-- A named column. -/
structure Column (rows : Nat) where
  name : String
  cells : Cells rows

structure Table where
  rows : Nat
  columns : List (Column rows)

namespace Table

def names (table : Table) : List String :=
  table.columns.map (·.name)

/-- The columns with a name, in their order. -/
def named (table : Table) (name : String) : List (Column table.rows) :=
  table.columns.filter (·.name == name)

/-- The place of the first column with a name. -/
def index? (table : Table) (name : String) : Option Nat :=
  table.columns.findIdx? (·.name == name)

/-- The table with a column of doubles in the place of the first column with its name, or at the
    end if there is none. -/
def assign (table : Table) (name : String) (doubles : Doubles table.rows) : Table :=
  let column : Column table.rows := ⟨name, .floats .double doubles⟩
  match table.index? name with
  | some place => ⟨table.rows, table.columns.set place column⟩
  | none => ⟨table.rows, table.columns ++ [column]⟩

@[simp] theorem rows_assign (table : Table) (name : String) (doubles : Doubles table.rows) :
    (table.assign name doubles).rows = table.rows := by
  unfold assign
  dsimp only
  split <;> rfl

end Table
end Formulary
