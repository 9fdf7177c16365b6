import Formulary.Table.Evaluation
import Formulary.Tree.Parser

/-!
# Formulas on tables

A formula gives a table a column: the assigned name gets a cell of doubles in every row. All other
columns stay as they are, and a formula that fails gives no table.
-/

namespace Formulary

/-- The outcome of a formula on a table, with the assigned name, and what was reported. -/
structure TableOutcome where
  result : Except Error (String × Table)
  trace : Trace := []

/-- The table that a formula makes of a table. -/
def Table.evaluate (table : Table) (constants : SymbolTable) (source : String) : TableOutcome :=
  match parse source with
  | .error error => { result := .error error }
  | .ok statement =>
    let scope : Scope := ⟨table, constants⟩
    let answer := scope.interpret ∅ statement
    match answer.result with
    | .error error => { result := .error error, trace := answer.trace }
    | .ok (name, doubles) =>
      { result := .ok (name, table.assign name doubles)
        trace := answer.trace ++ [.assigning name table.rows] }

/-- The table after a formula: the one it made, or the one before it if it failed. -/
def TableOutcome.table (outcome : TableOutcome) (before : Table) : Table :=
  match outcome.result with
  | .ok (_, after) => after
  | .error _ => before

/-- Formulas one after the other, each on the table after the one before. -/
def Table.evaluateAll (table : Table) (constants : SymbolTable) : List String → List TableOutcome
  | [] => []
  | source :: sources =>
    let outcome := table.evaluate constants source
    outcome :: (outcome.table table).evaluateAll constants sources

end Formulary
