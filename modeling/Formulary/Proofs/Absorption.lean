import Formulary.Proofs.Agreement

/-!
# Values that are not finite

The result of an operation on doubles is not finite if one of the operands is not, unless the operation
is a division by an infinity. So a value that is not finite shows in the result of a formula, or an
infinite divisor of the formula has absorbed it: over a table only results are checked, and a formula
that is refused with the symbol table of a row may fill a column.
-/

namespace Formulary.Number
open Float.Model.UnpackedFloat

section
variable {format : Float.Model.Format} {u v : Float.Model.UnpackedFloat}

/-- A number that is finite once it has been packed is finite. -/
theorem isFinite_of_isFinite_unpack_pack (finite : (unpack format (pack format u)).isFinite) : u.isFinite := by
  have notFull := unpackExponent_ne_of_isFinite finite
  rw [← BitVec.neg_one_eq_allOnes] at notFull
  cases u with
  | finite | zero => rfl
  | infinity | notANumber => exact absurd unpackExponent_packComponents notFull

theorem isFinite_of_isFinite_unpacked_add (finite : (add format u v).isFinite) : u.isFinite ∧ v.isFinite := by
  cases u with
  | notANumber => cases finite
  | infinity =>
    cases v with
    | infinity =>
      -- The sum of two infinities depends on their signs, and is finite in neither case.
      change (if _ then _ else _ : Float.Model.UnpackedFloat).isFinite at finite
      split at finite <;> cases finite
    | zero | finite | notANumber => cases finite
  | zero | finite =>
    cases v with
    | zero | finite => exact ⟨rfl, rfl⟩
    | infinity | notANumber => cases finite

theorem isFinite_of_isFinite_unpacked_sub (finite : (sub format u v).isFinite) : u.isFinite ∧ v.isFinite := by
  cases u with
  | notANumber => cases finite
  | infinity =>
    cases v with
    | infinity =>
      change (if _ then _ else _ : Float.Model.UnpackedFloat).isFinite at finite
      split at finite <;> cases finite
    | zero | finite | notANumber => cases finite
  | zero | finite =>
    cases v with
    | zero | finite => exact ⟨rfl, rfl⟩
    | infinity | notANumber => cases finite

theorem isFinite_of_isFinite_unpacked_mul (finite : (mul format u v).isFinite) : u.isFinite ∧ v.isFinite := by
  cases u with
  | notANumber => cases finite
  | infinity => cases v <;> cases finite
  | zero | finite =>
    cases v with
    | zero | finite => exact ⟨rfl, rfl⟩
    | infinity | notANumber => cases finite

/-- A quotient by an infinity is zero, so it says nothing of the dividend. -/
theorem isFinite_of_isFinite_unpacked_div (noInfinity : ¬ v.isInf) (finite : (div format u v).isFinite) :
    u.isFinite ∧ v.isFinite := by
  cases u with
  | notANumber => cases finite
  | infinity => cases v <;> cases finite
  | zero | finite =>
    cases v with
    | zero | finite => exact ⟨rfl, rfl⟩
    | infinity => exact absurd rfl noInfinity
    | notANumber => cases finite

theorem isFinite_of_isFinite_unpacked_neg (finite : (neg u).isFinite) : u.isFinite := by
  cases u with
  | zero | finite => rfl
  | infinity | notANumber => cases finite

end

theorem isFinite_of_isFinite_neg {x : Float} (finite : (-x).isFinite) : x.isFinite :=
  isFinite_of_isFinite_unpacked_neg (isFinite_of_isFinite_unpack_pack finite)

end Formulary.Number

namespace Formulary
open Formulary.Number

/-- The operands of an operation with a finite result are finite, unless it divides by an infinity. -/
theorem BinaryOperator.isFinite_of_arithmetic {op : BinaryOperator} {operation : Float → Float → Float}
    (known : op.arithmetic? = some operation) {x y : Float} (noInfinity : op = .divide → ¬ y.isInf)
    (finite : (operation x y).isFinite) : x.isFinite ∧ y.isFinite := by
  cases op with
  | add =>
    cases known
    exact isFinite_of_isFinite_unpacked_add (isFinite_of_isFinite_unpack_pack finite)
  | subtract =>
    cases known
    exact isFinite_of_isFinite_unpacked_sub (isFinite_of_isFinite_unpack_pack finite)
  | multiply =>
    cases known
    exact isFinite_of_isFinite_unpacked_mul (isFinite_of_isFinite_unpack_pack finite)
  | divide =>
    cases known
    exact isFinite_of_isFinite_unpacked_div (noInfinity rfl) (isFinite_of_isFinite_unpack_pack finite)
  | assign | unknown => cases known

/-- An operation that is refused for its result has a result that is not finite, and divides by no zero. -/
theorem BinaryOperator.exists_of_evaluate_eq_notFinite {op : BinaryOperator} {x y : Float} {result : Overflow}
    (refused : op.evaluate x y = evaluationError (.notFinite result)) :
    ∃ operation, op.arithmetic? = some operation ∧ ¬ (operation x y).isFinite := by
  have safe : ¬ (op = .divide ∧ y == 0) := by
    rintro ⟨rfl, zero⟩
    rw [divide_of_zero zero] at refused
    cases refused
  cases known : op.arithmetic? with
  | some operation =>
    refine ⟨operation, rfl, fun finite => ?_⟩
    rw [evaluate_of_known known safe, requireFinite, if_pos finite] at refused
    cases refused
  | none =>
    cases op with
    | add | subtract | multiply | divide => cases known
    | assign | unknown => cases refused

theorem requireFinite_eq_error {x : Float} {error : Error} (refused : requireFinite x = .error error) :
    ¬ x.isFinite := by
  intro finite
  rw [requireFinite, if_pos finite] at refused
  cases refused

theorem literalValue_ne_notFinite (symbols : SymbolTable) (text : String) (kind : LiteralKind) (result : Overflow) :
    literalValue symbols text kind ≠ evaluationError (.notFinite result) := by
  intro refused
  cases kind with
  | identifier =>
    rw [literalValue] at refused
    split at refused
    next value _ =>
      unfold Scalar.evaluate at refused
      split at refused <;> cases refused
    next => cases refused
  | integer | float =>
    simp only [literalValue, numeralValue] at refused
    split at refused <;> cases refused
  | unknown => cases refused

namespace Tree

variable {row : String → Option Float} {symbols : SymbolTable}

/-- No divisor of an expression is infinite in a row. -/
def KeepsOverflow (row : String → Option Float) (expression : Tree) : Prop :=
  ∀ divisor ∈ expression.divisors, ∀ x, divisor.rowValue row = some x → ¬ x.isInf

theorem IsExpression.exists_rowValue {expression : Tree} (isExpression : expression.IsExpression)
    (full : ∀ name ∈ expression.identifiers, ∃ x, row name = some x) : ∃ x, expression.rowValue row = some x := by
  rw [← Option.ne_none_iff_exists', Ne, isExpression.rowValue_eq_none_iff]
  rintro ⟨name, member, nothing⟩
  obtain ⟨x, something⟩ := full name member
  rw [nothing] at something
  cases something

/-- If an expression is refused with a symbol table for a value that is not finite, its value is not
    finite in a row that reads alike and in which no divisor is infinite. -/
theorem IsExpression.rowValue_of_notFinite {expression : Tree} (isExpression : expression.IsExpression)
    {room : Nat} {result : Overflow} (alike : ∀ name ∈ expression.identifiers, row name = symbols.double? name)
    (full : ∀ name ∈ expression.identifiers, ∃ x, row name = some x) (keeps : expression.KeepsOverflow row)
    (refused : expression.evaluateWithin symbols room = evaluationError (.notFinite result)) :
    ∃ x, expression.rowValue row = some x ∧ ¬ x.isFinite := by
  induction isExpression generalizing room with
  | @binary op left right known isLeft isRight ihl ihr =>
    cases room with
    | zero => cases refused
    | succ room =>
      simp only [identifiers, List.forall_mem_append] at alike full
      obtain ⟨operation, arithmetic⟩ := arithmetic?_of_known known
      obtain ⟨x, valueLeft⟩ := isLeft.exists_rowValue full.1
      obtain ⟨y, valueRight⟩ := isRight.exists_rowValue full.2
      have noInfinity : op = .divide → ¬ y.isInf := fun division =>
        keeps right (mem_divisors_binary.2 (.inl ⟨division, rfl⟩)) y valueRight
      have keepsLeft : left.KeepsOverflow row := fun divisor member =>
        keeps divisor (mem_divisors_binary.2 (.inr (.inl member)))
      have keepsRight : right.KeepsOverflow row := fun divisor member =>
        keeps divisor (mem_divisors_binary.2 (.inr (.inr member)))
      refine ⟨operation x y, by rw [rowValue_binary arithmetic, valueLeft, valueRight, Value.cellOperation], ?_⟩
      rw [evaluateWithin_binary (ne_assign_of_known known)] at refused
      -- The left operand is refused, or the right one, or the result of the operation itself.
      rcases bind_eq_error_iff.1 refused with refused | ⟨x', readLeft, refused⟩
      · obtain ⟨x', found, infinite⟩ := ihl alike.1 full.1 keepsLeft refused
        obtain rfl : x = x' := Option.some.inj (valueLeft.symm.trans found)
        exact fun finite => infinite (BinaryOperator.isFinite_of_arithmetic arithmetic noInfinity finite).1
      · rcases bind_eq_error_iff.1 refused with refused | ⟨y', readRight, refused⟩
        · obtain ⟨y', found, infinite⟩ := ihr alike.2 full.2 keepsRight refused
          obtain rfl : y = y' := Option.some.inj (valueRight.symm.trans found)
          exact fun finite => infinite (BinaryOperator.isFinite_of_arithmetic arithmetic noInfinity finite).2
        · obtain ⟨found, _⟩ := isLeft.rowValue_of_evaluateWithin alike.1 readLeft
          obtain rfl : x = x' := Option.some.inj (valueLeft.symm.trans found)
          obtain ⟨found, _⟩ := isRight.rowValue_of_evaluateWithin alike.2 readRight
          obtain rfl : y = y' := Option.some.inj (valueRight.symm.trans found)
          obtain ⟨operation', arithmetic', infinite⟩ := BinaryOperator.exists_of_evaluate_eq_notFinite refused
          obtain rfl : operation = operation' := Option.some.inj (arithmetic.symm.trans arithmetic')
          exact infinite
  | @negation operand _ ih =>
    cases room with
    | zero => cases refused
    | succ room =>
      rw [evaluateWithin_unary] at refused
      rcases bind_eq_error_iff.1 refused with refused | ⟨x, _, refused⟩
      · obtain ⟨x, found, infinite⟩ := ih alike full keeps refused
        exact ⟨-x, by rw [rowValue, found, Option.map_some], fun finite => infinite (isFinite_of_isFinite_neg finite)⟩
      · cases refused
  | @literal text kind isLexeme =>
    cases room with
    | zero => cases refused
    | succ room =>
      rw [evaluateWithin_literal] at refused
      rcases bind_eq_error_iff.1 refused with unread | ⟨x, read, refused⟩
      · exact absurd unread (literalValue_ne_notFinite symbols text kind result)
      · exact ⟨x, rowValue_of_literalValue isLexeme alike read, requireFinite_eq_error refused⟩

end Tree

/-- What a name refers to in a row is what the symbol table of the row binds it to. -/
theorem Scope.double?_symbolsAt {scope : Scope} {name : String} {value : Value scope.table.rows}
    {i : Fin scope.table.rows} {x : Float} (refers : scope.Refers name value) (cell : value.cellAt i = some x) :
    (scope.symbolsAt i).double? name = some x := by
  cases refers with
  | column unique converted =>
    rw [SymbolTable.double?, getElem?_symbolsAt_of_named unique converted cell]
    rfl
  | constant noColumn bound converted =>
    rw [SymbolTable.double?, getElem?_symbolsAt_of_noColumn noColumn, bound, Option.bind_some, converted]
    exact cell

/-- An error of arithmetic: a zero divisor, or a result that is not finite. -/
inductive Error.IsArithmetic : Error → Prop where
  | divisionByZero (divisor : ZeroDivisor) : IsArithmetic (.evaluation (.divisionByZero divisor))
  | notFinite (result : Overflow) : IsArithmetic (.evaluation (.notFinite result))

/-- A formula on a table with a row, all of whose identifiers refer to something, fails for its
    arithmetic exactly if a divisor is zero or the result is not finite in some row. -/
theorem Table.isArithmetic_iff {table : Table} {constants : SymbolTable} {source target : String}
    {expression : Tree} {meaning : String → Value table.rows}
    (parsed : parse source = .ok (.binary .assign (.literal target .identifier) expression))
    (filled : 0 < table.rows)
    (bound : ∀ name ∈ expression.identifiers, Scope.Refers ⟨table, constants⟩ name (meaning name)) :
    (∃ error, (table.evaluate constants source).result = .error error ∧ error.IsArithmetic) ↔
      expression.DividesByZero (rowOf meaning) ∨ expression.Overflows (rowOf meaning) := by
  rcases Table.result_cases parsed filled bound with ⟨divides, zero, failed⟩ | ⟨whole, value, cells, result⟩
  · exact iff_of_true ⟨_, failed, .divisionByZero zero⟩ (.inl divides)
  · rw [result, or_iff_right whole, Tree.overflows_iff cells]
    rcases value.finiteCells_cases filled with ⟨infinite, which, refused⟩ | ⟨finite, accepted⟩
    · rw [refused]
      exact iff_of_true ⟨_, rfl, .notFinite which⟩ infinite
    · rw [accepted]
      refine iff_of_false ?_ finite
      rintro ⟨_, same, _⟩
      cases same

/-- Let the statement of a formula be refused with the symbol table of some row, none of whose cells
    that it refers to is empty, for a value that is not finite. The formula fails for its arithmetic
    over the table exactly if a divisor is zero or the result is not finite in some row; and it does
    fail if no divisor is infinite in that row. -/
theorem Table.evaluate_fails_unless_absorbed {table : Table} {constants : SymbolTable} {source target : String}
    {expression : Tree} {meaning : String → Value table.rows} {i : Fin table.rows} {overflow : Overflow}
    (parsed : parse source = .ok (.binary .assign (.literal target .identifier) expression))
    (bound : ∀ name ∈ expression.identifiers, Scope.Refers ⟨table, constants⟩ name (meaning name))
    (full : ∀ name ∈ expression.identifiers, ∃ x, rowOf meaning i name = some x)
    (refused : interpret (Scope.symbolsAt ⟨table, constants⟩ i)
      (.binary .assign (.literal target .identifier) expression) = .error (.evaluation (.notFinite overflow))) :
    ((∃ error, (table.evaluate constants source).result = .error error ∧ error.IsArithmetic) ↔
        expression.DividesByZero (rowOf meaning) ∨ expression.Overflows (rowOf meaning)) ∧
      (expression.KeepsOverflow (rowOf meaning i) →
        ∃ error, (table.evaluate constants source).result = .error error ∧ error.IsArithmetic) := by
  obtain ⟨isExpression, _⟩ := isExpression_of_parse parsed
  have fails := Table.isArithmetic_iff parsed i.pos bound
  refine ⟨fails, fun keeps => fails.2 (.inr ?_)⟩
  have alike : ∀ name ∈ expression.identifiers,
      rowOf meaning i name = (Scope.symbolsAt ⟨table, constants⟩ i).double? name := by
    intro name member
    obtain ⟨x, cell⟩ := full name member
    exact cell.trans (Scope.double?_symbolsAt (bound name member) cell).symm
  have unevaluated : expression.evaluate (Scope.symbolsAt ⟨table, constants⟩ i) =
      evaluationError (.notFinite overflow) := by
    rcases bind_eq_error_iff.1 refused with unevaluated | ⟨_, _, bound⟩
    · exact unevaluated
    · cases bound
  exact ⟨i, isExpression.rowValue_of_notFinite alike full keeps unevaluated⟩

/-- In `y = x * x / 2` the only divisor is finite, and the product is too great for a cell. -/
theorem Table.evaluate_square_half_fails :
    ∃ error, ((⟨1, [⟨"x", .floats .double #v[some 1e200]⟩]⟩ : Table).evaluate ∅ "y = x * x / 2").result =
      .error error ∧ error.IsArithmetic := by
  have parsed : parse "y = x * x / 2" = .ok (.binary .assign (.literal "y" .identifier)
      (.binary .multiply (.literal "x" .identifier)
        (.binary .divide (.literal "x" .identifier) (.literal "2" .integer)))) := by
    decide +kernel
  have refers : Scope.Refers ⟨⟨1, [⟨"x", .floats .double #v[some 1e200]⟩]⟩, ∅⟩ "x" (.column #v[some 1e200]) :=
    .column rfl rfl
  have two : floatOfText? "2" = some 2 := by decide +kernel
  refine (@Table.evaluate_fails_unless_absorbed ⟨1, [⟨"x", .floats .double #v[some 1e200]⟩]⟩ ∅ _ "y" _
    (fun _ => .column #v[some 1e200]) 0 (.value infinity) parsed ?_ ?_ (by decide +kernel)).2 ?_
  · intro name member
    obtain rfl : name = "x" := by simpa [Tree.identifiers] using member
    exact refers
  · exact fun _ _ => ⟨1e200, rfl⟩
  · intro divisor member x found
    obtain rfl : divisor = .literal "2" .integer := by simpa [Tree.divisors] using member
    obtain rfl : 2 = x := Option.some.inj (two.symm.trans found)
    decide +kernel

/-- In `y = 1 / (x * x)` the product is too great for a double, so with the symbol table of the row the
    formula is refused; over the table the infinite divisor makes the cell zero. -/
theorem Table.evaluate_inverse_square_absorbs :
    ∃ statement columns doubles, parse "y = 1 / (x * x)" = .ok statement ∧
      Scope.Refers ⟨⟨1, [⟨"x", .floats .double #v[some 1e200]⟩]⟩, ∅⟩ "x" (.column #v[some 1e200]) ∧
      interpret (Scope.symbolsAt ⟨⟨1, [⟨"x", .floats .double #v[some 1e200]⟩]⟩, ∅⟩ 0) statement =
        .error (.evaluation (.notFinite (.value infinity))) ∧
      ((⟨1, [⟨"x", .floats .double #v[some 1e200]⟩]⟩ : Table).evaluate ∅ "y = 1 / (x * x)").result =
        .ok ("y", ⟨1, columns⟩) ∧
      columns.find? (·.name == "y") = some ⟨"y", .floats .double doubles⟩ ∧ doubles.get 0 = some 0 := by
  have parsed : parse "y = 1 / (x * x)" = .ok (.binary .assign (.literal "y" .identifier)
      (.binary .divide (.literal "1" .integer)
        (.binary .multiply (.literal "x" .identifier) (.literal "x" .identifier)))) := by
    decide +kernel
  have refers : Scope.Refers ⟨⟨1, [⟨"x", .floats .double #v[some 1e200]⟩]⟩, ∅⟩ "x" (.column #v[some 1e200]) :=
    .column rfl rfl
  have product : (Tree.binary .multiply (.literal "x" .identifier) (.literal "x" .identifier)).rowValue
      (fun _ => some 1e200) = some infinity := by
    decide +kernel
  have quotient : (Tree.binary .divide (.literal "1" .integer)
      (.binary .multiply (.literal "x" .identifier) (.literal "x" .identifier))).rowValue
      (fun _ => some 1e200) = some 0 := by
    decide +kernel
  have row : ∀ i, rowOf (fun _ => Value.column #v[some 1e200]) i = fun _ => some 1e200 := by
    intro (i : Fin 1)
    match i with
    | 0 => rfl
  have bound : ∀ name ∈ ["x", "x"],
      Scope.Refers ⟨⟨1, [⟨"x", .floats .double #v[some 1e200]⟩]⟩, ∅⟩ name (.column #v[some 1e200]) := by
    intro name member
    obtain rfl : name = "x" := by simpa using member
    exact refers
  rcases @Table.result_cases ⟨1, [⟨"x", .floats .double #v[some 1e200]⟩]⟩ ∅ _ "y" _
      (fun _ => .column #v[some 1e200]) parsed Nat.one_pos bound with
    ⟨⟨i, divisor, member, x, found, zero⟩, _⟩ | ⟨_, value, cells, result⟩
  · obtain rfl := List.mem_singleton.1 member
    rw [row, product] at found
    cases found
    exact absurd zero (by decide +kernel)
  · have cell : ∀ i, value.cellAt i = some 0 := by
      intro i
      rw [cells, row, quotient]
    rcases value.finiteCells_cases Nat.one_pos with ⟨⟨i, x, found, infinite⟩, _⟩ | ⟨_, accepted⟩
    · rw [cell] at found
      cases found
      exact absurd (by decide +kernel) infinite
    · obtain ⟨columns, assigned, first⟩ :=
        Table.exists_assign_eq ⟨1, [⟨"x", .floats .double #v[some 1e200]⟩]⟩ "y" value.cells
      refine ⟨_, columns, value.cells, parsed, refers, by decide +kernel, ?_, first, ?_⟩
      · rw [result, accepted, ← assigned]
        rfl
      · rw [value.get_cells, cell]

end Formulary
