import Mathlib.Tactic.Choose
import Formulary.Proofs.Finiteness
import Formulary.Proofs.Rowwise

/-!
# Symbol tables and rows agree

Each row of a table can be read as a symbol table: the constants, overridden by the doubles of the
columns in that row. Where a formula has a value with the symbol table of every row, it has the same
values over the table.
-/

namespace Formulary
open Formulary.Number

/-- The double that a column has in a row, if its cells convert and the one there is not empty. -/
def Column.doubleAt? {rows : Nat} (column : Column rows) (i : Fin rows) : Option Float :=
  (column.cells.toDoubles column.name).toOption.bind (·.get i)

/-- Binds the name of a column to its double in a row. -/
def Column.bindAt {rows : Nat} (i : Fin rows) (symbols : SymbolTable) (column : Column rows) : SymbolTable :=
  match column.doubleAt? i with
  | some x => symbols.insert column.name (.float x)
  | none => symbols

/-- The symbol table of a row: the constants, overridden by the doubles of the columns there. -/
def Scope.symbolsAt (scope : Scope) (i : Fin scope.table.rows) : SymbolTable :=
  scope.table.columns.foldl (Column.bindAt i) scope.constants

section
variable {rows : Nat} {i : Fin rows} {name : String}

theorem getElem?_bindAt_of_ne {column : Column rows} (other : column.name ≠ name) (symbols : SymbolTable) :
    (column.bindAt i symbols)[name]? = symbols[name]? := by
  unfold Column.bindAt
  split
  · rw [getElem?_insert_name, if_neg other]
  · rfl

theorem getElem?_foldl_bindAt_of_ne {columns : List (Column rows)}
    (others : ∀ column ∈ columns, column.name ≠ name) (symbols : SymbolTable) :
    (columns.foldl (Column.bindAt i) symbols)[name]? = symbols[name]? := by
  induction columns generalizing symbols with
  | nil => rfl
  | cons column columns ih =>
    rw [List.forall_mem_cons] at others
    rw [List.foldl_cons, ih others.2, getElem?_bindAt_of_ne others.1]

end

namespace Scope

variable {scope : Scope} {name : String} {i : Fin scope.table.rows}

theorem getElem?_symbolsAt_of_noColumn (noColumn : name ∉ scope.table.names) :
    (scope.symbolsAt i)[name]? = scope.constants[name]? := by
  apply getElem?_foldl_bindAt_of_ne
  rintro column member rfl
  exact noColumn (List.mem_map_of_mem member)

/-- In the symbol table of a row the name of the one column of that name is bound to its double. -/
theorem getElem?_symbolsAt_of_named {column : Column scope.table.rows} {doubles : Doubles scope.table.rows}
    {x : Float} (unique : scope.table.named name = [column]) (converted : column.cells.toDoubles name = .ok doubles)
    (cell : doubles.get i = some x) : (scope.symbolsAt i)[name]? = some (.float x) := by
  obtain ⟨before, after, split, _, named, none⟩ := List.filter_eq_cons_iff.1 unique
  have named : column.name = name := beq_iff_eq.1 named
  have later : ∀ column ∈ after, column.name ≠ name := by
    intro column member same
    exact List.filter_eq_nil_iff.1 none column member (beq_iff_eq.2 same)
  have here : column.doubleAt? i = some x := by
    rw [Column.doubleAt?, named, converted]
    exact cell
  rw [symbolsAt, split, List.foldl_append, List.foldl_cons, getElem?_foldl_bindAt_of_ne later, Column.bindAt, here]
  simp only
  rw [getElem?_insert_name, if_pos named]

end Scope

/-- The double that a name stands for. -/
def SymbolTable.double? (symbols : SymbolTable) (name : String) : Option Float :=
  symbols[name]?.bind (·.toFloat.toOption)

theorem literalValue_identifier_eq_ok {symbols : SymbolTable} {name : String} {x : Float}
    (read : literalValue symbols name .identifier = .ok x) : symbols.double? name = some x := by
  rw [literalValue] at read
  cases bound : symbols[name]? with
  | none =>
    rw [bound] at read
    cases read
  | some value =>
    rw [bound] at read
    simp only [Scalar.evaluate] at read
    split at read
    next converted =>
      cases read
      rw [SymbolTable.double?, bound, Option.bind_some, converted]
      rfl
    next => cases read

theorem numeralValue_eq_ok {text : String} {x : Float} (read : numeralValue text = .ok x) :
    floatOfText? text = some x := by
  rw [numeralValue] at read
  split at read
  next found =>
    cases read
    exact found
  next => cases read

/-- A literal that has a value with a symbol table has it in a row that reads alike. -/
theorem Tree.rowValue_of_literalValue {symbols : SymbolTable} {row : String → Option Float} {text : String}
    {kind : LiteralKind} {x : Float} (isLexeme : Lexeme.IsLexeme kind.tokenKind text.toList)
    (alike : ∀ name ∈ (Tree.literal text kind).identifiers, row name = symbols.double? name)
    (read : literalValue symbols text kind = .ok x) : (Tree.literal text kind).rowValue row = some x := by
  cases kind with
  | identifier =>
    rw [rowValue, alike text (by simp [identifiers])]
    exact literalValue_identifier_eq_ok read
  | integer | float => exact numeralValue_eq_ok read
  | unknown => exact isLexeme.elim

/-- If an expression has a value with a symbol table, it has that value in a row that reads alike, and
    there none of its divisors is zero. -/
theorem Tree.IsExpression.rowValue_of_evaluateWithin {symbols : SymbolTable} {row : String → Option Float}
    {expression : Tree} (isExpression : expression.IsExpression) {room : Nat} {value : Float}
    (alike : ∀ name ∈ expression.identifiers, row name = symbols.double? name)
    (evaluated : expression.evaluateWithin symbols room = .ok value) :
    expression.rowValue row = some value ∧
      ∀ divisor ∈ expression.divisors, ∃ x, divisor.rowValue row = some x ∧ ¬ x == 0 := by
  induction isExpression generalizing room value with
  | @binary op left right known _ _ ihl ihr =>
    cases room with
    | zero => cases evaluated
    | succ room =>
      simp only [identifiers, List.forall_mem_append] at alike
      rw [evaluateWithin_binary (ne_assign_of_known known)] at evaluated
      obtain ⟨x, readLeft, evaluated⟩ := bind_eq_ok_iff.1 evaluated
      obtain ⟨y, readRight, evaluated⟩ := bind_eq_ok_iff.1 evaluated
      obtain ⟨operation, known, safe, same, _⟩ := BinaryOperator.exists_of_evaluate_eq_ok evaluated
      obtain ⟨valueLeft, safeLeft⟩ := ihl alike.1 readLeft
      obtain ⟨valueRight, safeRight⟩ := ihr alike.2 readRight
      constructor
      · rw [rowValue_binary known, valueLeft, valueRight, Value.cellOperation, same]
      · intro divisor member
        rcases mem_divisors_binary.1 member with ⟨division, rfl⟩ | member | member
        · exact ⟨y, valueRight, fun zero => safe ⟨division, zero⟩⟩
        · exact safeLeft divisor member
        · exact safeRight divisor member
  | negation _ ih =>
    cases room with
    | zero => cases evaluated
    | succ room =>
      rw [evaluateWithin_unary] at evaluated
      obtain ⟨x, read, negated⟩ := bind_eq_ok_iff.1 evaluated
      cases negated
      obtain ⟨found, safe⟩ := ih alike read
      exact ⟨by rw [rowValue, found, Option.map_some], safe⟩
  | @literal text kind isLexeme =>
    cases room with
    | zero => cases evaluated
    | succ room =>
      rw [evaluateWithin_literal] at evaluated
      obtain ⟨x, read, checked⟩ := bind_eq_ok_iff.1 evaluated
      obtain ⟨rfl, _⟩ := requireFinite_eq_ok_iff.1 checked
      exact ⟨rowValue_of_literalValue isLexeme alike read, by simp [divisors]⟩

/-- If an expression has a value with a symbol table, each of its names stands for a double there. -/
theorem Tree.IsExpression.exists_double {symbols : SymbolTable} {expression : Tree}
    (isExpression : expression.IsExpression) {room : Nat} {value : Float}
    (evaluated : expression.evaluateWithin symbols room = .ok value) :
    ∀ name ∈ expression.identifiers, ∃ x, symbols.double? name = some x := by
  intro name member
  obtain ⟨found, _⟩ := isExpression.rowValue_of_evaluateWithin (fun _ _ => rfl) evaluated
  cases bound : symbols.double? name with
  | some x => exact ⟨x, rfl⟩
  | none =>
    have nothing := (isExpression.rowValue_eq_none_iff symbols.double?).2 ⟨name, member, bound⟩
    rw [found] at nothing
    cases nothing

/-- Each column that an expression refers to is the only one of its name, converts to doubles and has
    no empty cell. -/
def Table.IsWholeFor (table : Table) (expression : Tree) : Prop :=
  ∀ name ∈ expression.identifiers, name ∈ table.names →
    ∃ column doubles, table.named name = [column] ∧ column.cells.toDoubles name = .ok doubles ∧
      ∀ i, ∃ x, doubles.get i = some x

/-- If all columns of an expression are whole and it has a value with the symbol table of every row,
    each of its names refers to what that symbol table binds it to. -/
theorem Scope.exists_refers {scope : Scope} {expression : Tree} {values : Fin scope.table.rows → Float}
    (isExpression : expression.IsExpression) (filled : 0 < scope.table.rows)
    (whole : scope.table.IsWholeFor expression)
    (evaluated : ∀ i, expression.evaluate (scope.symbolsAt i) = .ok (values i)) :
    ∀ name ∈ expression.identifiers, ∃ value, scope.Refers name value ∧
      ∀ i, value.cellAt i = (scope.symbolsAt i).double? name := by
  intro name member
  by_cases named : name ∈ scope.table.names
  · obtain ⟨column, doubles, unique, converted, full⟩ := whole name member named
    refine ⟨.column doubles, .column unique converted, ?_⟩
    intro i
    obtain ⟨x, cell⟩ := full i
    have bound := getElem?_symbolsAt_of_named unique converted cell
    rw [SymbolTable.double?, bound]
    exact cell
  · have constant : ∀ i, (scope.symbolsAt i).double? name = scope.constants.double? name := by
      intro i
      rw [SymbolTable.double?, getElem?_symbolsAt_of_noColumn named, SymbolTable.double?]
    obtain ⟨x, found⟩ := isExpression.exists_double (evaluated ⟨0, filled⟩) name member
    rw [constant] at found
    obtain ⟨value, bound, double⟩ := Option.bind_eq_some_iff.1 found
    have converted : value.toFloat = .ok x := by
      cases conversion : value.toFloat with
      | ok y =>
        rw [conversion] at double
        cases double
        rfl
      | error error =>
        rw [conversion] at double
        cases double
    refine ⟨.scalar x, .constant named bound converted, ?_⟩
    intro i
    rw [constant, found]
    rfl

/-- If a statement has a value with the symbol table of every row, and all columns that it refers to
    are whole, the same statement over the table fills the column of its target with these values. -/
theorem Table.evaluate_eq_interpret {table : Table} {constants : SymbolTable} {source target : String}
    {expression : Tree} {values : Fin table.rows → Float}
    (parsed : parse source = .ok (.binary .assign (.literal target .identifier) expression))
    (filled : 0 < table.rows) (whole : table.IsWholeFor expression)
    (performed : ∀ i, interpret (Scope.symbolsAt ⟨table, constants⟩ i)
      (.binary .assign (.literal target .identifier) expression) = .ok (target, values i)) :
    ∃ columns doubles, (table.evaluate constants source).result = .ok (target, ⟨table.rows, columns⟩) ∧
      columns.find? (·.name == target) = some ⟨target, .floats .double doubles⟩ ∧
      ∀ i : Fin table.rows, doubles.get i = some (values i) := by
  obtain ⟨isExpression, shallow⟩ := isExpression_of_parse parsed
  have evaluated : ∀ i, expression.evaluate (Scope.symbolsAt ⟨table, constants⟩ i) = .ok (values i) := by
    intro i
    obtain ⟨_, assignment, evaluated, _⟩ := exists_of_interpret_eq_ok (performed i)
    cases assignment
    exact evaluated
  have meant : ∀ name ∈ expression.identifiers, ∃ value : Value table.rows,
      Scope.Refers ⟨table, constants⟩ name value ∧
      ∀ i, value.cellAt i = (Scope.symbolsAt ⟨table, constants⟩ i).double? name :=
    Scope.exists_refers isExpression filled whole evaluated
  have inhabited : Nonempty (Value table.rows) := ⟨.scalar 0⟩
  choose! meaning refers alike using meant
  have rows : ∀ i, expression.rowValue (rowOf meaning i) = some (values i) ∧
      ∀ divisor ∈ expression.divisors, ∃ x, divisor.rowValue (rowOf meaning i) = some x ∧ ¬ x == 0 := by
    intro i
    exact isExpression.rowValue_of_evaluateWithin (fun name member => alike name member i) (evaluated i)
  rcases Table.result_cases parsed filled refers with
    ⟨⟨i, divisor, member, x, found, zero⟩, _⟩ | ⟨_, value, cells, result⟩
  · obtain ⟨y, found', nonzero⟩ := (rows i).2 divisor member
    rw [found] at found'
    cases found'
    exact absurd zero nonzero
  · have cell : ∀ i, value.cellAt i = some (values i) := fun i => (cells i).trans (rows i).1
    rcases value.finiteCells_cases filled with ⟨⟨i, x, found, infinite⟩, _⟩ | ⟨_, accepted⟩
    · rw [cell i] at found
      cases found
      exact absurd (Tree.isFinite_of_evaluateWithin (evaluated i)) infinite
    · obtain ⟨columns, assigned, first⟩ := table.exists_assign_eq target value.cells
      refine ⟨columns, value.cells, ?_, first, ?_⟩
      · rw [result, accepted, ← assigned]
        rfl
      · intro i
        rw [value.get_cells, cell]

/-- The column `a` hides a constant, and the sign of a zero is kept. -/
theorem Table.evaluate_negated_product_eq_interpret :
    ∃ columns doubles, ((⟨2, [⟨"a", .floats .double #v[some 1.5, some 0]⟩]⟩ : Table).evaluate
        ((∅ : SymbolTable).insertMany [("a", Scalar.float 7), ("k", Scalar.float 2)]) "y = -a * k").result =
          .ok ("y", ⟨2, columns⟩) ∧
      columns.find? (·.name == "y") = some ⟨"y", .floats .double doubles⟩ ∧
      doubles.get 0 = some (-3) ∧ doubles.get 1 = some (-0) := by
  have parsed : parse "y = -a * k" = .ok (.binary .assign (.literal "y" .identifier)
      (.binary .multiply (.unary .negate (.literal "a" .identifier)) (.literal "k" .identifier))) := by
    decide +kernel
  have whole : (⟨2, [⟨"a", .floats .double #v[some 1.5, some 0]⟩]⟩ : Table).IsWholeFor
      (.binary .multiply (.unary .negate (.literal "a" .identifier)) (.literal "k" .identifier)) := by
    intro name _ named
    obtain rfl := List.mem_singleton.1 named
    refine ⟨_, #v[some 1.5, some 0], rfl, rfl, ?_⟩
    intro (i : Fin 2)
    match i with
    | 0 => exact ⟨1.5, rfl⟩
    | 1 => exact ⟨0, rfl⟩
  have performed : ∀ i : Fin 2, interpret (Scope.symbolsAt ⟨⟨2, [⟨"a", .floats .double #v[some 1.5, some 0]⟩]⟩,
        (∅ : SymbolTable).insertMany [("a", Scalar.float 7), ("k", Scalar.float 2)]⟩ i)
      (.binary .assign (.literal "y" .identifier)
        (.binary .multiply (.unary .negate (.literal "a" .identifier)) (.literal "k" .identifier))) =
        .ok ("y", #v[-3, -0].get i) := by
    intro i
    match i with
    | 0 => decide +kernel
    | 1 => decide +kernel
  obtain ⟨columns, doubles, result, first, cells⟩ :=
    Table.evaluate_eq_interpret parsed (by decide) whole performed
  exact ⟨columns, doubles, result, first, cells 0, cells 1⟩

end Formulary
