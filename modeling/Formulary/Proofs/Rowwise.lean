import Formulary.Table.Formula
import Formulary.Proofs.Names
import Formulary.Proofs.Numerals

/-!
# Rows, one by one

The value of an expression over a table has in each row the value that the expression has there,
with each identifier standing for what it refers to in that row. A formula fails for a zero divisor if
some divisor is zero in some row, and otherwise for a result that is not finite if it is not in some
row; otherwise it fills the column that it assigns.
-/

namespace Formulary
open Formulary.Number

namespace Tree

/-- The value of an expression in one row, given what its identifiers stand for there. An operation
    has a value if its operands have one. -/
def rowValue (row : String → Option Float) : Tree → Option Float
  | .literal name .identifier => row name
  | .literal text _ => floatOfText? text
  | .unary .negate operand => (operand.rowValue row).map (-·)
  | .binary op left right => do
    let operation ← op.arithmetic?
    let x ← left.rowValue row
    let y ← right.rowValue row
    return operation x y
  | _ => none

/-- The divisors of an expression, wherever they stand in it. -/
def divisors : Tree → List Tree
  | .binary op left right => (if op = .divide then [right] else []) ++ (left.divisors ++ right.divisors)
  | .unary _ operand => operand.divisors
  | .literal _ _ | .foreign _ => []

variable {rows : Nat}

/-- Some divisor is zero in some row. -/
def DividesByZero (row : Fin rows → String → Option Float) (expression : Tree) : Prop :=
  ∃ i, ∃ divisor ∈ expression.divisors, ∃ x, divisor.rowValue (row i) = some x ∧ x == 0

/-- The value in some row is not finite. -/
def Overflows (row : Fin rows → String → Option Float) (expression : Tree) : Prop :=
  ∃ i x, expression.rowValue (row i) = some x ∧ ¬ x.isFinite

theorem arithmetic?_of_known {op : BinaryOperator} (known : op ∈ sumOperators ++ productOperators) :
    ∃ operation, op.arithmetic? = some operation := by
  simp only [sumOperators, productOperators, List.cons_append, List.nil_append, List.mem_cons, List.not_mem_nil,
    or_false] at known
  rcases known with rfl | rfl | rfl | rfl <;> exact ⟨_, rfl⟩

theorem ne_assign_of_known {op : BinaryOperator} (known : op ∈ sumOperators ++ productOperators) :
    op ≠ .assign := by
  rintro rfl
  simp [sumOperators, productOperators] at known

theorem rowValue_binary {op : BinaryOperator} {operation : Float → Float → Float}
    (known : op.arithmetic? = some operation) (row : String → Option Float) (left right : Tree) :
    (Tree.binary op left right).rowValue row =
      Value.cellOperation operation (left.rowValue row) (right.rowValue row) := by
  rw [rowValue, known]
  cases left.rowValue row with
  | none => rfl
  | some x => cases right.rowValue row <;> rfl

theorem mem_divisors_binary {op : BinaryOperator} {left right divisor : Tree} :
    divisor ∈ (Tree.binary op left right).divisors ↔
      (op = .divide ∧ divisor = right) ∨ divisor ∈ left.divisors ∨ divisor ∈ right.divisors := by
  rw [divisors, List.mem_append, List.mem_append]
  by_cases division : op = .divide
  · simp [division]
  · simp [division]

theorem cellOperation_eq_none_iff {operation : Float → Float → Float} {left right : Option Float} :
    Value.cellOperation operation left right = none ↔ left = none ∨ right = none := by
  cases left <;> cases right <;> simp [Value.cellOperation]

/-- An expression has no value in a row exactly if some identifier of it stands for nothing there. -/
theorem IsExpression.rowValue_eq_none_iff {expression : Tree} (isExpression : expression.IsExpression)
    (row : String → Option Float) :
    expression.rowValue row = none ↔ ∃ name ∈ expression.identifiers, row name = none := by
  induction isExpression with
  | binary known _ _ ihl ihr =>
    obtain ⟨operation, known⟩ := arithmetic?_of_known known
    rw [rowValue_binary known, cellOperation_eq_none_iff, ihl, ihr, identifiers]
    simp only [List.mem_append, or_and_right, exists_or]
  | negation _ ih => rw [rowValue, Option.map_eq_none_iff, ih, identifiers]
  | @literal text kind isLexeme =>
    cases kind with
    | identifier => simp [rowValue, identifiers]
    | integer =>
      obtain ⟨value, found⟩ := Lexeme.exists_floatOfText? (Lexeme.IsInteger.isNumber isLexeme)
      simp [rowValue, identifiers, found]
    | float =>
      obtain ⟨value, found⟩ := Lexeme.exists_floatOfText? (Lexeme.IsFloat.isNumber isLexeme)
      simp [rowValue, identifiers, found]
    | unknown => exact isLexeme.elim

end Tree

namespace Value

variable {rows : Nat}

/-- The cell of a value in a row. -/
def cellAt (value : Value rows) (i : Fin rows) : Option Float :=
  match value with
  | .scalar x => some x
  | .column xs => xs.get i

theorem get_cells (value : Value rows) (i : Fin rows) : value.cells.get i = value.cellAt i := by
  cases value with
  | scalar x => exact Vector.getElem_replicate i.isLt
  | column xs => rfl

theorem cellAt_map (f : Float → Float) (value : Value rows) (i : Fin rows) :
    (value.map f).cellAt i = (value.cellAt i).map f := by
  cases value with
  | scalar x => rfl
  | column xs => exact Vector.getElem_map (Option.map f) i.isLt

theorem cellAt_combine (f : Float → Float → Float) (left right : Value rows) (i : Fin rows) :
    (left.combine f right).cellAt i = cellOperation f (left.cellAt i) (right.cellAt i) := by
  cases left with
  | scalar x =>
    cases right with
    | scalar y => rfl
    | column ys => exact Vector.getElem_map (cellOperation f (some x)) i.isLt
  | column xs =>
    cases right with
    | scalar y => exact Vector.getElem_map (cellOperation f · (some y)) i.isLt
    | column ys => exact Vector.getElem_zipWith i.isLt

theorem hasZero_iff (filled : 0 < rows) (value : Value rows) :
    value.hasZero ↔ ∃ i x, value.cellAt i = some x ∧ x == 0 := by
  cases value with
  | scalar x =>
    constructor
    · intro zero
      exact ⟨⟨0, filled⟩, x, rfl, zero⟩
    · rintro ⟨_, _, same, zero⟩
      cases same
      exact zero
  | column xs =>
    rw [hasZero, Vector.any_eq_true]
    constructor
    · rintro ⟨i, inside, zero⟩
      cases found : xs[i] with
      | none =>
        rw [found] at zero
        cases zero
      | some x =>
        rw [found] at zero
        exact ⟨⟨i, inside⟩, x, found, zero⟩
    · rintro ⟨i, x, found, zero⟩
      have here : xs[i.val] = some x := found
      exact ⟨i, i.isLt, by rw [here]; exact zero⟩

theorem all_isFinite_iff (xs : Doubles rows) :
    xs.all (·.all Float.isFinite) ↔ ¬ ∃ i x, (Value.column xs).cellAt i = some x ∧ ¬ x.isFinite := by
  rw [Vector.all_eq_true]
  constructor
  · rintro finite ⟨i, x, found, infinite⟩
    have here : xs[i.val] = some x := found
    have value := finite i i.isLt
    rw [here] at value
    exact infinite value
  · intro finite i inside
    cases found : xs[i] with
    | none => rfl
    | some x =>
      by_contra infinite
      exact finite ⟨⟨i, inside⟩, x, found, infinite⟩

/-- The cells of a value are refused exactly if one of them is not finite. -/
theorem finiteCells_cases (filled : 0 < rows) (value : Value rows) :
    (∃ i x, value.cellAt i = some x ∧ ¬ x.isFinite) ∧
        (∃ which, value.finiteCells = evaluationError (.notFinite which)) ∨
      (¬ ∃ i x, value.cellAt i = some x ∧ ¬ x.isFinite) ∧ value.finiteCells = .ok value.cells := by
  cases value with
  | scalar x =>
    by_cases finite : x.isFinite
    · right
      refine ⟨?_, by rw [finiteCells, if_pos finite]⟩
      rintro ⟨_, _, same, infinite⟩
      cases same
      exact infinite finite
    · left
      exact ⟨⟨⟨0, filled⟩, x, rfl, finite⟩, _, by rw [finiteCells, if_neg finite]⟩
  | column xs =>
    by_cases finite : xs.all (·.all Float.isFinite)
    · right
      refine ⟨(all_isFinite_iff xs).1 finite, ?_⟩
      rw [finiteCells, if_pos finite]
      rfl
    · left
      refine ⟨?_, .someRow, by rw [finiteCells, if_neg finite]⟩
      rw [all_isFinite_iff, not_not] at finite
      exact finite

end Value

theorem Tree.overflows_iff {rows : Nat} {row : Fin rows → String → Option Float} {expression : Tree}
    {value : Value rows} (cells : ∀ i, value.cellAt i = expression.rowValue (row i)) :
    expression.Overflows row ↔ ∃ i x, value.cellAt i = some x ∧ ¬ x.isFinite := by
  simp only [Overflows, cells]

section
variable {rows : Nat}

/-- The cell of a column in a row is empty, whatever the cells of the column are. -/
def Cells.EmptyAt (i : Fin rows) : Cells rows → Prop
  | .integers _ cells | .decimals _ cells => cells.get i = none
  | .floats _ cells => cells.get i = none
  | .truths cells => cells.get i = none
  | .others _ cells => cells.get i = none

/-- Some column of a name has an empty cell in a row. -/
def Table.EmptyAt (table : Table) (i : Fin table.rows) (name : String) : Prop :=
  ∃ column ∈ table.columns, column.name = name ∧ column.cells.EmptyAt i

theorem get_map_eq_none_iff {α : Type} (f : α → Float) (cells : Vector (Option α) rows) (i : Fin rows) :
    (cells.map (·.map f)).get i = none ↔ cells.get i = none := by
  have cell : (cells.map (·.map f)).get i = (cells.get i).map f := Vector.getElem_map (Option.map f) i.isLt
  rw [cell, Option.map_eq_none_iff]

theorem eq_map_of_integersToDoubles {type : IntegerType} {cells : Vector (Option Int) rows}
    {doubles : Doubles rows} (converted : integersToDoubles type cells = .ok doubles) :
    doubles = cells.map (·.map floatOfInt) := by
  unfold integersToDoubles at converted
  dsimp only at converted
  split at converted
  · cases converted
    rfl
  · split at converted
    · cases converted
    · cases converted
      rfl

/-- A conversion to doubles keeps the empty cells of a column empty and fills all others. -/
theorem Cells.get_eq_none_iff_of_toDoubles {name : String} {cells : Cells rows} {doubles : Doubles rows}
    (converted : cells.toDoubles name = .ok doubles) (i : Fin rows) :
    doubles.get i = none ↔ cells.EmptyAt i := by
  cases cells with
  | integers type integers =>
    rw [eq_map_of_integersToDoubles converted]
    exact get_map_eq_none_iff floatOfInt integers i
  | floats type floats =>
    cases converted
    rfl
  | truths truths =>
    cases converted
    exact get_map_eq_none_iff _ truths i
  | decimals type digits =>
    cases converted
    exact get_map_eq_none_iff _ digits i
  | others typeName texts => cases converted

end

/-- What a name refers to is empty in a row exactly if a column of the name is. -/
theorem Scope.Refers.cellAt_eq_none_iff {scope : Scope} {name : String} {value : Value scope.table.rows}
    (refers : scope.Refers name value) (i : Fin scope.table.rows) :
    value.cellAt i = none ↔ scope.table.EmptyAt i name := by
  cases refers with
  | @column column doubles unique converted =>
    have named : ∀ other, other ∈ scope.table.columns ∧ other.name = name ↔ other = column := by
      intro other
      have only : other ∈ scope.table.named name ↔ other = column := by rw [unique, List.mem_singleton]
      rwa [Table.named, List.mem_filter, beq_iff_eq] at only
    rw [Value.cellAt, Cells.get_eq_none_iff_of_toDoubles converted]
    constructor
    · intro empty
      obtain ⟨member, same⟩ := (named column).2 rfl
      exact ⟨column, member, same, empty⟩
    · rintro ⟨other, member, same, empty⟩
      obtain rfl := (named other).1 ⟨member, same⟩
      exact empty
  | constant noColumn =>
    constructor
    · intro empty
      cases empty
    · rintro ⟨column, member, same, _⟩
      exact absurd (List.mem_map.2 ⟨column, member, same⟩) noColumn

section
variable {scope : Scope} {resolved : Resolved scope} {meaning : String → Value scope.table.rows}

/-- What identifiers stand for in a row, given what they refer to. -/
def rowOf {rows : Nat} (meaning : String → Value rows) (i : Fin rows) (name : String) : Option Float :=
  (meaning name).cellAt i

theorem Tree.dividesByZero_binary {rows : Nat} {row : Fin rows → String → Option Float} {op : BinaryOperator}
    {left right : Tree} :
    (Tree.binary op left right).DividesByZero row ↔
      (op = .divide ∧ ∃ i x, right.rowValue (row i) = some x ∧ x == 0) ∨
        left.DividesByZero row ∨ right.DividesByZero row := by
  constructor
  · rintro ⟨i, divisor, member, x, found, zero⟩
    rcases mem_divisors_binary.1 member with ⟨division, rfl⟩ | member | member
    · exact .inl ⟨division, i, x, found, zero⟩
    · exact .inr (.inl ⟨i, divisor, member, x, found, zero⟩)
    · exact .inr (.inr ⟨i, divisor, member, x, found, zero⟩)
  · rintro (⟨division, i, x, found, zero⟩ | ⟨i, divisor, member, x, found, zero⟩ |
      ⟨i, divisor, member, x, found, zero⟩)
    · exact ⟨i, right, mem_divisors_binary.2 (.inl ⟨division, rfl⟩), x, found, zero⟩
    · exact ⟨i, divisor, mem_divisors_binary.2 (.inr (.inl member)), x, found, zero⟩
    · exact ⟨i, divisor, mem_divisors_binary.2 (.inr (.inr member)), x, found, zero⟩

theorem Tree.evaluateRowsWithin_binary {op : BinaryOperator} (other : op ≠ .assign) (left right : Tree)
    (room : Nat) :
    (Tree.binary op left right).evaluateRowsWithin resolved (room + 1) =
      (left.evaluateRowsWithin resolved room).bind fun leftValue =>
        (right.evaluateRowsWithin resolved room).bind fun rightValue =>
          op.evaluateRows leftValue rightValue := by
  rw [evaluateRowsWithin]
  · rfl
  · exact other

theorem BinaryOperator.evaluateRows_of_hasZero {rows : Nat} {op : BinaryOperator} {left right : Value rows}
    (division : op = .divide ∧ right.hasZero) :
    ∃ zero, op.evaluateRows left right = evaluationError (.divisionByZero zero) := by
  unfold evaluateRows
  exact ⟨_, if_pos division⟩

/-- Two doubles are computed with like two cells, unless the second is a zero that divides. -/
theorem BinaryOperator.compute_of_known {op : BinaryOperator} {operation : Float → Float → Float}
    (known : op.arithmetic? = some operation) {x y : Float} (safe : ¬ (op = .divide ∧ y == 0)) :
    op.compute x y = .ok (operation x y) := by
  cases op with
  | add | subtract | multiply =>
    cases known
    rfl
  | divide =>
    cases known
    exact quotient_of_ne_zero fun zero => safe ⟨rfl, zero⟩
  | assign | unknown => cases known

theorem BinaryOperator.evaluateRows_of_not_hasZero {rows : Nat} {op : BinaryOperator}
    {operation : Float → Float → Float} (known : op.arithmetic? = some operation) {left right : Value rows}
    (safe : ¬ (op = .divide ∧ right.hasZero)) :
    op.evaluateRows left right = .ok (left.combine operation right) := by
  unfold evaluateRows
  rw [if_neg safe]
  cases left with
  | scalar x =>
    cases right with
    | scalar y => simp only [compute_of_known known safe, Except.map, Value.combine]
    | column ys => simp only [known]
  | column xs => simp only [known]

/-- An expression whose names have been resolved fails for a zero divisor, or has a value that is in
    each row what the expression is there. -/
theorem Tree.IsExpression.evaluateRowsWithin_cases (filled : 0 < scope.table.rows) {expression : Tree}
    (isExpression : expression.IsExpression) {room : Nat} (shallow : expression.depth ≤ room)
    (bound : ∀ name ∈ expression.identifiers, resolved[name]? = some (meaning name)) :
    (expression.DividesByZero (rowOf meaning) ∧
        ∃ zero, expression.evaluateRowsWithin resolved room = evaluationError (.divisionByZero zero)) ∨
      (¬ expression.DividesByZero (rowOf meaning) ∧
        ∃ value, expression.evaluateRowsWithin resolved room = .ok value ∧
          ∀ i, value.cellAt i = expression.rowValue (rowOf meaning i)) := by
  -- A zero divisor of a part is one of the whole, even in a row where the whole has no value.
  induction isExpression generalizing room with
  | @binary op left right known _ _ ihl ihr =>
    obtain ⟨room, rfl⟩ := Nat.exists_eq_add_of_le' (Nat.le_of_add_left_le shallow)
    simp only [depth, Nat.add_le_add_iff_right, Nat.max_le] at shallow
    simp only [identifiers, List.forall_mem_append] at bound
    rw [evaluateRowsWithin_binary (ne_assign_of_known known), dividesByZero_binary]
    obtain ⟨operation, known⟩ := arithmetic?_of_known known
    rcases ihl shallow.1 bound.1 with ⟨divides, zero, failed⟩ | ⟨wholeLeft, leftValue, read, cells⟩
    · exact .inl ⟨.inr (.inl divides), zero, by rw [failed]; rfl⟩
    · rcases ihr shallow.2 bound.2 with ⟨divides, zero, failed⟩ | ⟨wholeRight, rightValue, read', cells'⟩
      · exact .inl ⟨.inr (.inr divides), zero, by rw [read, failed]; rfl⟩
      · simp only [read, read', Except.bind]
        have hasZero : rightValue.hasZero ↔ ∃ i x, right.rowValue (rowOf meaning i) = some x ∧ x == 0 := by
          simp only [Value.hasZero_iff filled, cells']
        by_cases division : op = .divide ∧ rightValue.hasZero
        · left
          exact ⟨.inl ⟨division.1, hasZero.1 division.2⟩, BinaryOperator.evaluateRows_of_hasZero division⟩
        · right
          refine ⟨?_, _, BinaryOperator.evaluateRows_of_not_hasZero known division, ?_⟩
          · rintro (⟨divide, zero⟩ | divides | divides)
            · exact division ⟨divide, hasZero.2 zero⟩
            · exact wholeLeft divides
            · exact wholeRight divides
          · intro i
            rw [Value.cellAt_combine, cells, cells', rowValue_binary known]
  | negation _ ih =>
    obtain ⟨room, rfl⟩ := Nat.exists_eq_add_of_le' (Nat.le_of_add_left_le shallow)
    rcases ih (Nat.le_of_succ_le_succ shallow) bound with ⟨divides, zero, failed⟩ | ⟨whole, value, read, cells⟩
    · left
      refine ⟨divides, zero, ?_⟩
      rw [evaluateRowsWithin, failed]
      rfl
    · right
      refine ⟨whole, value.map (-·), ?_, ?_⟩
      · rw [evaluateRowsWithin, read]
        rfl
      · intro i
        rw [Value.cellAt_map, cells, rowValue]
  | @literal text kind isLexeme =>
    have shallow : 1 ≤ room := shallow
    obtain ⟨room, rfl⟩ := Nat.exists_eq_add_of_le' shallow
    right
    refine ⟨by simp [DividesByZero, divisors], ?_⟩
    cases kind with
    | identifier =>
      have found := bound text (by simp [identifiers])
      refine ⟨meaning text, ?_, fun i => rfl⟩
      rw [evaluateRowsWithin, if_pos rfl, found]
    | integer =>
      obtain ⟨x, value, numeral⟩ := Lexeme.exists_numeralValue (Lexeme.IsInteger.isNumber isLexeme)
      refine ⟨.scalar x, ?_, fun i => numeral.symm⟩
      rw [evaluateRowsWithin, if_neg (by simp), value]
      rfl
    | float =>
      obtain ⟨x, value, numeral⟩ := Lexeme.exists_numeralValue (Lexeme.IsFloat.isNumber isLexeme)
      refine ⟨.scalar x, ?_, fun i => numeral.symm⟩
      rw [evaluateRowsWithin, if_neg (by simp), value]
      rfl
    | unknown => exact isLexeme.elim

end

/-! ## Formulas on tables -/

theorem find?_set_of_findIdx? {α : Type} {p : α → Bool} {a : α} (holds : p a) {xs : List α} {place : Nat}
    (found : xs.findIdx? p = some place) : (xs.set place a).find? p = some a := by
  induction xs generalizing place with
  | nil => cases found
  | cons x xs ih =>
    rw [List.findIdx?_cons] at found
    split at found
    next =>
      cases found
      rw [List.set_cons_zero, List.find?_cons_of_pos holds]
    next other =>
      obtain ⟨before, earlier, rfl⟩ := Option.map_eq_some_iff.1 found
      rw [List.set_cons_succ, List.find?_cons_of_neg other, ih earlier]

/-- After an assignment the first column of its name is the one that was assigned. -/
theorem Table.exists_assign_eq (table : Table) (name : String) (doubles : Doubles table.rows) :
    ∃ columns, table.assign name doubles = ⟨table.rows, columns⟩ ∧
      columns.find? (·.name == name) = some ⟨name, .floats .double doubles⟩ := by
  have named : (name == name) = true := beq_self_eq_true name
  cases found : table.columns.findIdx? (·.name == name) with
  | some place =>
    refine ⟨table.columns.set place ⟨name, .floats .double doubles⟩, by rw [assign, index?, found], ?_⟩
    refine find?_set_of_findIdx? ?_ found
    exact named
  | none =>
    refine ⟨table.columns ++ [⟨name, .floats .double doubles⟩], by rw [assign, index?, found], ?_⟩
    have absent : table.columns.find? (·.name == name) = none := by
      simpa using List.findIdx?_eq_none_iff.1 found
    rw [List.find?_append, absent, List.find?_singleton, if_pos named]
    rfl

/-- The outcome of a formula whose names can all be resolved is that of its expression. -/
theorem Table.result_evaluate {table : Table} {constants : SymbolTable} {source target : String}
    {expression : Tree} {names : List String} {resolved : Resolved ⟨table, constants⟩}
    (parsed : parse source = .ok (.binary .assign (.literal target .identifier) expression))
    (references : expression.references = .ok names)
    (run : Scope.resolve ⟨table, constants⟩ ∅ names = (.ok (), resolved)) :
    (table.evaluate constants source).result =
      (expression.evaluateRows resolved).bind fun value =>
        value.finiteCells.map fun cells => (target, table.assign target cells) := by
  simp only [Table.evaluate, parsed, Scope.interpret, Tree.assignment, references, run]
  cases expression.evaluateRows resolved with
  | error error => rfl
  | ok value =>
    simp only [bind, Except.bind]
    cases value.finiteCells <;> rfl

/-- A formula on a table with a row, all of whose identifiers refer to something, divides by zero in
    some row and fails, or its result is that of a value that has the right cell in every row. -/
theorem Table.result_cases {table : Table} {constants : SymbolTable} {source target : String}
    {expression : Tree} {meaning : String → Value table.rows}
    (parsed : parse source = .ok (.binary .assign (.literal target .identifier) expression))
    (filled : 0 < table.rows)
    (bound : ∀ name ∈ expression.identifiers, Scope.Refers ⟨table, constants⟩ name (meaning name)) :
    (expression.DividesByZero (rowOf meaning) ∧
        ∃ zero, (table.evaluate constants source).result = .error (.evaluation (.divisionByZero zero))) ∨
      (¬ expression.DividesByZero (rowOf meaning) ∧
        ∃ value : Value table.rows, (∀ i, value.cellAt i = expression.rowValue (rowOf meaning i)) ∧
          (table.evaluate constants source).result =
            value.finiteCells.map fun cells => (target, table.assign target cells)) := by
  obtain ⟨isExpression, shallow⟩ := isExpression_of_parse parsed
  obtain ⟨names, references, listed⟩ := isExpression.exists_references shallow
  obtain ⟨resolved, run, found⟩ :=
    Scope.exists_resolve_eq (fun name member => bound name ((listed name).1 member)) ∅
  have kept : ∀ name ∈ expression.identifiers, resolved[name]? = some (meaning name) := by
    intro name member
    rw [found, if_pos ((listed name).2 member)]
  rw [Table.result_evaluate parsed references run, Tree.evaluateRows]
  rcases isExpression.evaluateRowsWithin_cases filled shallow kept with
    ⟨divides, zero, failed⟩ | ⟨safe, value, read, cells⟩
  · exact .inl ⟨divides, zero, by rw [failed]; rfl⟩
  · exact .inr ⟨safe, value, cells, by rw [read]; rfl⟩

/-- A formula on a table with a row, all of whose identifiers refer to something, fails for a zero
    divisor exactly if some divisor is zero in some row; if none is, it fails for a result that is not
    finite exactly if the result in some row is not; otherwise it gives the table a column of its
    results, with a cell empty exactly where some identifier stands for an empty cell, which is where
    the column of its name in the table has one. -/
theorem Table.evaluate_rowwise {table : Table} {constants : SymbolTable} {source target : String}
    {expression : Tree} {meaning : String → Value table.rows}
    (parsed : parse source = .ok (.binary .assign (.literal target .identifier) expression))
    (filled : 0 < table.rows)
    (bound : ∀ name ∈ expression.identifiers, Scope.Refers ⟨table, constants⟩ name (meaning name)) :
    ((∃ zero, (table.evaluate constants source).result = .error (.evaluation (.divisionByZero zero))) ↔
        expression.DividesByZero (rowOf meaning)) ∧
      (¬ expression.DividesByZero (rowOf meaning) →
        ((∃ which, (table.evaluate constants source).result = .error (.evaluation (.notFinite which))) ↔
          expression.Overflows (rowOf meaning)) ∧
        (¬ expression.Overflows (rowOf meaning) →
          ∃ columns doubles, (table.evaluate constants source).result = .ok (target, ⟨table.rows, columns⟩) ∧
            columns.find? (·.name == target) = some ⟨target, .floats .double doubles⟩ ∧
            ∀ i : Fin table.rows, doubles.get i = expression.rowValue (rowOf meaning i) ∧
              (doubles.get i = none ↔ ∃ name ∈ expression.identifiers, rowOf meaning i name = none) ∧
              (doubles.get i = none ↔ ∃ name ∈ expression.identifiers, table.EmptyAt i name))) := by
  obtain ⟨isExpression, _⟩ := isExpression_of_parse parsed
  rcases Table.result_cases parsed filled bound with ⟨divides, zero, failed⟩ | ⟨whole, value, cells, result⟩
  · rw [failed]
    exact ⟨⟨fun _ => divides, fun _ => ⟨zero, rfl⟩⟩, fun whole => absurd divides whole⟩
  · rw [result]
    have overflows := Tree.overflows_iff cells
    rcases value.finiteCells_cases filled with ⟨infinite, which, refused⟩ | ⟨finite, accepted⟩
    · rw [refused]
      refine ⟨⟨?_, fun divides => absurd divides whole⟩, fun _ => ⟨?_, ?_⟩⟩
      · rintro ⟨zero, same⟩
        cases same
      · exact ⟨fun _ => overflows.2 infinite, fun _ => ⟨which, rfl⟩⟩
      · intro finite
        exact absurd (overflows.2 infinite) finite
    · rw [accepted]
      obtain ⟨columns, assigned, first⟩ := table.exists_assign_eq target value.cells
      refine ⟨⟨?_, fun divides => absurd divides whole⟩, fun _ => ⟨⟨?_, ?_⟩, fun _ => ?_⟩⟩
      · rintro ⟨zero, same⟩
        cases same
      · rintro ⟨which, same⟩
        cases same
      · intro infinite
        exact absurd (overflows.1 infinite) finite
      · refine ⟨columns, value.cells, by rw [← assigned]; rfl, first, ?_⟩
        intro i
        have cell : value.cells.get i = expression.rowValue (rowOf meaning i) := by
          rw [value.get_cells, cells]
        have empty : value.cells.get i = none ↔ ∃ name ∈ expression.identifiers, rowOf meaning i name = none := by
          rw [cell, isExpression.rowValue_eq_none_iff]
        refine ⟨cell, empty, empty.trans ?_⟩
        exact exists_congr fun name => and_congr_right fun member => (bound name member).cellAt_eq_none_iff i

/-- An empty cell divided by itself is no zero divisor, and the result is empty. -/
theorem Table.evaluate_empty_quotient :
    ∃ columns doubles, ((⟨1, [⟨"a", .floats .double #v[none]⟩]⟩ : Table).evaluate ∅ "y = a / a").result =
        .ok ("y", ⟨1, columns⟩) ∧
      columns.find? (·.name == "y") = some ⟨"y", .floats .double doubles⟩ ∧ doubles.get 0 = none := by
  have parsed : parse "y = a / a" = .ok (.binary .assign (.literal "y" .identifier)
      (.binary .divide (.literal "a" .identifier) (.literal "a" .identifier))) := by
    decide +kernel
  have bound : ∀ name ∈ ["a", "a"],
      Scope.Refers ⟨⟨1, [⟨"a", .floats .double #v[none]⟩]⟩, ∅⟩ name (.column #v[none]) := by
    intro name member
    simp only [List.mem_cons, List.not_mem_nil, or_false, or_self] at member
    subst member
    exact .column rfl rfl
  have empty : ∀ i : Fin 1, rowOf (fun _ => .column #v[none]) i "a" = none := by decide
  obtain ⟨_, safe⟩ := @Table.evaluate_rowwise ⟨1, [⟨"a", .floats .double #v[none]⟩]⟩ ∅ "y = a / a" "y" _
    (fun _ => .column #v[none]) parsed Nat.one_pos bound
  obtain ⟨_, finite⟩ := safe (by
    rintro ⟨i, divisor, member, x, found, _⟩
    obtain rfl := List.mem_singleton.1 member
    cases found.symm.trans (empty i))
  obtain ⟨columns, doubles, result, first, cells⟩ := finite (by
    rintro ⟨i, x, found, _⟩
    rw [Tree.rowValue_binary rfl, Tree.rowValue, empty i] at found
    cases found)
  refine ⟨columns, doubles, result, first, ?_⟩
  exact (cells 0).2.2.2 ⟨"a", List.mem_cons_self, _, List.mem_cons_self, rfl, rfl⟩

end Formulary
