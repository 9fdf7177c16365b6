import Formulary.Proofs.LongestMatch
import Formulary.Proofs.Rowwise
import Formulary.Proofs.Sessions

/-!
# Which errors a source has

A source fails for what is written in it, or for the values that its names are bound to. The errors
of tokens and trees that are made by hand are not among its errors, on a symbol table or over a
table: what is read is a statement with complete lexemes, and every divisor is checked.
-/

namespace Formulary
open Formulary.Text Formulary.Number Formulary.Lexeme

namespace Error

/-- An error of a source that is no statement. -/
def IsOfReading : Error → Prop
  | .unrecognizedCharacter _ _ | .syntaxError _ | .nestedTooDeeply => True
  | .evaluation _ | .defect _ => False

/-- An error of a statement for what its names are bound to. -/
def IsOfValues : Error → Prop
  | .evaluation .nestedTooDeeply | .evaluation (.undefinedVariable _) | .evaluation (.divisionByZero _)
  | .evaluation (.notFinite _) => True
  | _ => False

/-- An error of the columns that a name could refer to. -/
def IsOfColumns : Error → Prop
  | .evaluation (.notNumeric _ _) | .defect (.repeatedColumn _ _) | .defect (.integerOutOfRange _ _) => True
  | _ => False

/-- An error that only tokens, trees or scalars made by hand have, or a check that was left out. -/
def IsInternal : Error → Prop
  | .evaluation .notAssignment | .evaluation .targetNotIdentifier | .evaluation .nestedAssignment => True
  | .defect (.repeatedColumn _ _) | .defect (.integerOutOfRange _ _) => False
  | .defect _ => True
  | _ => False

variable {error : Error}

theorem IsOfReading.isComplaint (reading : error.IsOfReading) : error.isComplaint ∧ ¬ error.IsInternal := by
  cases error with
  | unrecognizedCharacter | syntaxError | nestedTooDeeply => exact ⟨rfl, id⟩
  | evaluation | defect => exact reading.elim

theorem IsOfValues.isComplaint (values : error.IsOfValues) : error.isComplaint ∧ ¬ error.IsInternal := by
  cases error with
  | evaluation error =>
    refine ⟨rfl, ?_⟩
    cases error with
    | nestedTooDeeply | undefinedVariable | divisionByZero | notFinite => exact id
    | notAssignment | targetNotIdentifier | nestedAssignment | notNumeric => exact values.elim
  | unrecognizedCharacter | syntaxError | nestedTooDeeply | defect => exact values.elim

theorem IsOfColumns.not_isInternal (columns : error.IsOfColumns) : ¬ error.IsInternal := by
  unfold IsOfColumns at columns
  split at columns
  next => exact id
  next => exact id
  next => exact id
  next => exact columns.elim

end Error

/-- A tree built once more, node by node, by the builders that check what they are given. -/
def Tree.rebuild : Tree → Except Error Tree
  | .binary op left right => do
    let left ← left.rebuild
    let right ← right.rebuild
    binary? op.text left right
  | .unary op operand => do unary? op.text (← operand.rebuild)
  | .literal text kind => literal? text kind.text
  | .foreign value => .ok (.foreign value)

theorem Tree.binary?_text {op : BinaryOperator} (known : ∀ text, op ≠ .unknown text) (left right : Tree) :
    binary? op.text left right = .ok (.binary op left right) := by
  cases op with
  | unknown text => exact absurd rfl (known text)
  | assign | add | subtract | multiply | divide => rfl

/-- The builders accept all that a derivation puts together. -/
theorem Derivation.rebuild_tree {rule : Rule} (d : Derivation rule) : d.tree.rebuild = .ok d.tree := by
  induction d with
  | statement target value ih =>
    simp only [tree, Tree.rebuild, ih]
    rfl
  | ofTerm _ ih | ofFactor _ ih | parenthesized _ ih => exact ih
  | sum left op isSum right ihl ihr =>
    simp only [tree, Tree.rebuild, ihl, ihr]
    apply Tree.binary?_text
    rintro text rfl
    simp [sumOperators] at isSum
  | product left op isProduct right ihl ihr =>
    simp only [tree, Tree.rebuild, ihl, ihr]
    apply Tree.binary?_text
    rintro text rfl
    simp [productOperators] at isProduct
  | integer | float | identifier => rfl
  | negated operand ih =>
    simp only [tree, Tree.rebuild, ih]
    rfl

/-- A cursor with nothing ahead stays where it is, on the end marker. -/
theorem Cursor.advance_of_nil {cursor : Cursor} (done : cursor.upcoming = []) :
    cursor.advance = cursor ∧ cursor.current.kind = .endMarker := by
  obtain ⟨behind, current, ahead, closed⟩ := cursor
  obtain rfl : ahead = [] := List.map_eq_nil_iff.1 done
  exact ⟨rfl, closed⟩

namespace Reader

variable {cursor stop : Cursor} {error : Error}

theorem exists_within_eq_error {α : Type} {rule : Rule} {body : Reader Cursor α}
    (failed : body cursor = .error error stop) (reading : error.IsOfReading) :
    ∃ error stop, within rule body cursor = .error error stop ∧ error.IsOfReading := by
  cases error with
  | syntaxError error => exact ⟨_, _, within_of_syntaxError failed, trivial⟩
  | nestedTooDeeply => exact ⟨_, _, within_of_tooDeep failed, trivial⟩
  | unrecognizedCharacter found column =>
    exact ⟨.unrecognizedCharacter found column, stop, by simp only [within, failed], trivial⟩
  | evaluation | defect => exact reading.elim

theorem exists_within_chain_eq_error {rule : Rule} {operand more : Reader Cursor Tree} {choices : List BinaryOperator}
    (failed : ∃ error stop, operand cursor = .error error stop ∧ error.IsOfReading) :
    ∃ error stop, within rule (chain operand more choices) cursor = .error error stop ∧ error.IsOfReading := by
  obtain ⟨error, stop, failed, reading⟩ := failed
  exact exists_within_eq_error (chain_of_error failed) reading

/-- With nothing ahead the cursor stays on the end marker, with which no rule begins. -/
theorem exists_rule_eq_error_of_nil (done : cursor.upcoming = []) (rule : Rule) (room : Nat) :
    ∃ error stop, Reader.rule rule room cursor = .error error stop ∧ error.IsOfReading := by
  obtain ⟨stays, ended⟩ := Cursor.advance_of_nil done
  have reads : next cursor = .ok cursor.current cursor := by rw [next_eq, stays]
  have factors : ∀ room, ∃ error stop, factor room cursor = .error error stop ∧ error.IsOfReading := by
    intro room
    cases room with
    | zero => exact ⟨.nestedTooDeeply, cursor, by rw [factor]; rfl, trivial⟩
    | succ room =>
      have refused : ¬ Wanted.factor.admits cursor.current.terminal := by
        simp [Wanted.admits, Token.terminal, ended]
      have failed : (next >>= factorFrom room) cursor =
          .error (.syntaxError (wantedAt .factor cursor.current)) cursor := by
        rw [bind_of_ok reads, factorFrom_refused refused, fail_eq]
      rw [factor_succ]
      exact exists_within_eq_error failed trivial
  have terms : ∀ room, ∃ error stop, term room cursor = .error error stop ∧ error.IsOfReading := by
    intro room
    cases room with
    | zero => exact ⟨.nestedTooDeeply, cursor, by rw [term]; rfl, trivial⟩
    | succ room =>
      rw [term_succ]
      exact exists_within_chain_eq_error (factors room)
  cases rule with
  | factor => exact factors room
  | term => exact terms room
  | expression =>
    cases room with
    | zero => exact ⟨.nestedTooDeeply, cursor, by rw [Reader.rule, expression]; rfl, trivial⟩
    | succ room =>
      rw [Reader.rule, expression_succ]
      exact exists_within_chain_eq_error (terms room)
  | statement =>
    have other : cursor.current.kind ≠ .identifier := by simp [ended]
    have failed : (next >>= statementFrom room) cursor =
        .error (.syntaxError (wantedAt .identifier cursor.current)) cursor := by
      rw [bind_of_ok reads, statementFrom_refused other]
    rw [Reader.rule, statement_eq]
    exact exists_within_eq_error failed trivial

/-- Every rule, at every cursor, answers with a tree that the builders accept or with an error of
    reading. -/
theorem rule_cases (rule : Rule) (room : Nat) (cursor : Cursor) :
    (∃ tree stop, Reader.rule rule room cursor = .ok tree stop ∧ tree.rebuild = .ok tree) ∨
      ∃ error stop, Reader.rule rule room cursor = .error error stop ∧ error.IsOfReading := by
  by_cases done : cursor.upcoming = []
  · exact .inr (exists_rule_eq_error_of_nil done rule room)
  · rcases Verdict.total rule room cursor done with
      ⟨d, _, _, fits, coming, ends⟩ | ⟨u, _, _, fits, coming, refused⟩ | ⟨stop, failed, _⟩
    · exact .inl ⟨d.tree, _, d.read fits coming ends, d.rebuild_tree⟩
    · exact .inr ⟨_, _, u.read fits coming refused, trivial⟩
    · exact .inr ⟨_, stop, failed, trivial⟩

end Reader

/-- A source that is not parsed has an error of reading. -/
theorem isOfReading_of_parse {source : String} {error : Error} (failed : parse source = .error error) :
    error.IsOfReading := by
  rcases tokenize_cases source with ⟨found, n, _, lexed⟩ | ⟨_, _, _, _, _, _, refused⟩
  · obtain ⟨cursor, fresh⟩ := Cursor.exists_ofTokens (closed_of_tokenize lexed)
    rw [parse_of_tokenize lexed, parseTokens_eq fresh, Cursor.parse] at failed
    rcases Reader.rule_cases .statement ruleLimit cursor with
      ⟨tree, stop, read, _⟩ | ⟨_, stop, failed', reading⟩
    · rw [Reader.rule] at read
      rw [read] at failed
      cases failed
    · rw [Reader.rule] at failed'
      rw [failed'] at failed
      cases failed
      exact reading
  · rw [parse, refused] at failed
    cases failed
    trivial

/-- The numbers among the tokens of a source are numerals, whether or not the rest is tokens too. -/
theorem exists_floatOfText?_of_mem {source : String} {token : Token}
    (member : token ∈ (Lexer.ofText source).tokenize.2.tokens)
    (numeric : token.kind = .integer ∨ token.kind = .float) : ∃ x, floatOfText? token.text = some x := by
  have start : source.toList = source.toList.drop 0 := rfl
  obtain ⟨_, _, stand⟩ := scan_standsIn 0 source.toList start (Nat.zero_le _)
  have found : token ∈ (scan 0 source.toList).tokens := by
    rw [Lexer.tokenize, Lexer.ofText] at member
    simp only [List.nil_append] at member
    split at member
    · rw [List.mem_append, List.mem_singleton] at member
      rcases member with member | rfl
      · exact member
      · simp [Token.endMarker] at numeric
    · exact member
  obtain ⟨_, _, _, isLexeme⟩ := stand token found
  rcases numeric with kind | kind
  · rw [kind] at isLexeme
    exact exists_floatOfText? (IsInteger.isNumber isLexeme)
  · rw [kind] at isLexeme
    exact exists_floatOfText? (IsFloat.isNumber isLexeme)

/-! ## Values -/

/-- A symbol table whose values are doubles, finite or not. -/
def SymbolTable.HoldsFloats (symbols : SymbolTable) : Prop :=
  ∀ (name : String) (value : Scalar), symbols[name]? = some value → ∃ x, value = .float x

theorem SymbolTable.holdsFloats_empty : HoldsFloats ∅ := by
  intro name value bound
  rw [Std.TreeMap.getElem?_emptyc] at bound
  cases bound

theorem SymbolTable.HoldsFloats.insert {symbols : SymbolTable} (floats : symbols.HoldsFloats) (name : String)
    (x : Float) : HoldsFloats (Std.TreeMap.insert symbols name (.float x)) := by
  intro other value bound
  rw [getElem?_insert_name] at bound
  split at bound
  · exact ⟨x, (Option.some.inj bound).symm⟩
  · exact floats other value bound

theorem isOfValues_of_requireFinite {x : Float} {error : Error} (failed : requireFinite x = .error error) :
    error.IsOfValues := by
  unfold requireFinite at failed
  split at failed
  · cases failed
  · cases failed
    trivial

section
variable {op : BinaryOperator} {error : Error}

/-- An operation of the grammar fails for a zero divisor or for its result. -/
theorem BinaryOperator.isOfValues_of_evaluate (known : op ∈ sumOperators ++ productOperators) {x y : Float}
    (failed : op.evaluate x y = .error error) : error.IsOfValues := by
  obtain ⟨operation, known⟩ := Tree.arithmetic?_of_known known
  by_cases division : op = .divide ∧ y == 0
  · rw [division.1, divide_of_zero division.2] at failed
    cases failed
    trivial
  · rw [evaluate_of_known known division] at failed
    exact isOfValues_of_requireFinite failed

theorem BinaryOperator.isOfValues_of_evaluateRows {rows : Nat} (known : op ∈ sumOperators ++ productOperators)
    {left right : Value rows} (failed : op.evaluateRows left right = .error error) : error.IsOfValues := by
  obtain ⟨operation, known⟩ := Tree.arithmetic?_of_known known
  by_cases division : op = .divide ∧ right.hasZero
  · have refused : ∃ zero, op.evaluateRows left right = evaluationError (.divisionByZero zero) :=
      evaluateRows_of_hasZero division
    obtain ⟨zero, refused⟩ := refused
    rw [refused] at failed
    cases failed
    trivial
  · rw [evaluateRows_of_not_hasZero known division] at failed
    cases failed

end

namespace Tree

variable {symbols : SymbolTable} {scope : Scope} {resolved : Resolved scope} {expression : Tree} {room : Nat}
  {error : Error}

/-- A literal that is no name is a numeral. -/
theorem exists_numeralValue_of_isLexeme {text : String} {kind : LiteralKind} (other : kind ≠ .identifier)
    (isLexeme : IsLexeme kind.tokenKind text.toList) :
    (kind = .integer ∨ kind = .float) ∧ ∃ x, numeralValue text = .ok x := by
  cases kind with
  | identifier => exact absurd rfl other
  | integer =>
    obtain ⟨x, value, _⟩ := exists_numeralValue (IsInteger.isNumber isLexeme)
    exact ⟨.inl rfl, x, value⟩
  | float =>
    obtain ⟨x, value, _⟩ := exists_numeralValue (IsFloat.isNumber isLexeme)
    exact ⟨.inr rfl, x, value⟩
  | unknown => exact isLexeme.elim

theorem isOfValues_of_literalValue (floats : symbols.HoldsFloats) {text : String} {kind : LiteralKind}
    (isLexeme : IsLexeme kind.tokenKind text.toList) (failed : literalValue symbols text kind = .error error) :
    error.IsOfValues := by
  by_cases name : kind = .identifier
  · subst name
    rw [literalValue] at failed
    split at failed
    next value bound =>
      obtain ⟨x, rfl⟩ := floats text value bound
      cases failed
    next =>
      cases failed
      trivial
  · obtain ⟨rfl | rfl, x, value⟩ := exists_numeralValue_of_isLexeme name isLexeme
    · rw [literalValue, value] at failed
      cases failed
    · rw [literalValue, value] at failed
      cases failed

/-- An expression fails, with names bound to doubles, for an undefined name, a zero divisor, a result that
    is not finite, or its depth. -/
theorem IsExpression.isOfValues_of_evaluateWithin (floats : symbols.HoldsFloats)
    (isExpression : expression.IsExpression) (failed : expression.evaluateWithin symbols room = .error error) :
    error.IsOfValues := by
  induction room generalizing expression with
  | zero =>
    cases failed
    trivial
  | succ room ih =>
    cases isExpression with
    | @binary op left right known isLeft isRight =>
      rw [evaluateWithin_binary (ne_assign_of_known known)] at failed
      rcases bind_eq_error_iff.1 failed with failed | ⟨x, _, failed⟩
      · exact ih isLeft failed
      · rcases bind_eq_error_iff.1 failed with failed | ⟨y, _, failed⟩
        · exact ih isRight failed
        · exact BinaryOperator.isOfValues_of_evaluate known failed
    | negation isOperand =>
      rw [evaluateWithin_unary] at failed
      rcases bind_eq_error_iff.1 failed with failed | ⟨x, _, negated⟩
      · exact ih isOperand failed
      · cases negated
    | literal isLexeme =>
      rw [evaluateWithin_literal] at failed
      rcases bind_eq_error_iff.1 failed with failed | ⟨x, _, failed⟩
      · exact isOfValues_of_literalValue floats isLexeme failed
      · exact isOfValues_of_requireFinite failed

/-- Over a table an expression fails for the same reasons, whatever its names have been resolved to. -/
theorem IsExpression.isOfValues_of_evaluateRowsWithin (isExpression : expression.IsExpression)
    (failed : expression.evaluateRowsWithin resolved room = .error error) : error.IsOfValues := by
  induction room generalizing expression with
  | zero =>
    cases failed
    trivial
  | succ room ih =>
    cases isExpression with
    | @binary op left right known isLeft isRight =>
      rw [evaluateRowsWithin_binary (ne_assign_of_known known)] at failed
      rcases bind_eq_error_iff.1 failed with failed | ⟨x, _, failed⟩
      · exact ih isLeft failed
      · rcases bind_eq_error_iff.1 failed with failed | ⟨y, _, failed⟩
        · exact ih isRight failed
        · exact BinaryOperator.isOfValues_of_evaluateRows known failed
    | negation isOperand =>
      rw [evaluateRowsWithin] at failed
      rcases bind_eq_error_iff.1 failed with failed | ⟨x, _, negated⟩
      · exact ih isOperand failed
      · cases negated
    | @literal text kind isLexeme =>
      rw [evaluateRowsWithin] at failed
      by_cases name : kind = .identifier
      · rw [if_pos name] at failed
        split at failed
        · cases failed
        · cases failed
          trivial
      · obtain ⟨_, x, value⟩ := exists_numeralValue_of_isLexeme name isLexeme
        rw [if_neg name, value] at failed
        cases failed

end Tree

section
variable {rows : Nat} {error : Error}

theorem isOfColumns_of_integersToDoubles {type : IntegerType} {cells : Vector (Option Int) rows}
    (failed : integersToDoubles type cells = .error error) : error.IsOfColumns := by
  unfold integersToDoubles at failed
  dsimp only at failed
  split at failed
  · cases failed
  · split at failed
    · cases failed
      trivial
    · cases failed

theorem Cells.isOfColumns_of_toDoubles {name : String} {cells : Cells rows}
    (failed : cells.toDoubles name = .error error) : error.IsOfColumns := by
  cases cells with
  | integers => exact isOfColumns_of_integersToDoubles failed
  | floats | truths | decimals => cases failed
  | others =>
    cases failed
    trivial

theorem Value.isOfValues_of_finiteCells {value : Value rows} (failed : value.finiteCells = .error error) :
    error.IsOfValues := by
  unfold finiteCells at failed
  split at failed
  · split at failed
    · cases failed
    · cases failed
      trivial
  · split at failed
    · cases failed
    · cases failed
      trivial

end

namespace Scope

variable {scope : Scope} {error : Error}

theorem isOfValues_or_isOfColumns_of_lookup (floats : scope.constants.HoldsFloats) {name : String}
    (failed : scope.lookup name = .error error) : error.IsOfValues ∨ error.IsOfColumns := by
  rw [lookup] at failed
  split at failed
  next column _ =>
    cases converted : column.cells.toDoubles name with
    | ok doubles =>
      rw [converted] at failed
      cases failed
    | error error =>
      rw [converted] at failed
      cases failed
      exact .inr (Cells.isOfColumns_of_toDoubles converted)
  next =>
    split at failed
    next value bound =>
      obtain ⟨x, rfl⟩ := floats name value bound
      cases failed
    next =>
      cases failed
      exact .inl trivial
  next =>
    cases failed
    exact .inr trivial

/-- Names that cannot all be resolved fail for the one that cannot. -/
theorem isOfValues_or_isOfColumns_of_resolve (floats : scope.constants.HoldsFloats) {names : List String}
    {resolved after : Resolved scope} (failed : scope.resolve resolved names = (.error error, after)) :
    error.IsOfValues ∨ error.IsOfColumns := by
  induction names generalizing resolved with
  | nil => cases failed
  | cons name names ih =>
    rw [resolve] at failed
    split at failed
    next => exact ih failed
    next error unresolved =>
      cases failed
      exact isOfValues_or_isOfColumns_of_lookup floats unresolved

end Scope

/-- On a symbol table of doubles a source fails with an error of reading or of values. -/
theorem SymbolTable.error_cases_run {symbols : SymbolTable} (floats : symbols.HoldsFloats) {source : String}
    {error : Error} (failed : (symbols.run source).result = .error error) :
    error.IsOfReading ∨ error.IsOfValues := by
  rcases symbols.run_cases source with ⟨_, unparsed, failed', _⟩ | ⟨statement, parsed, result, _⟩
  · rw [failed'] at failed
    cases failed
    exact .inl (isOfReading_of_parse unparsed)
  · right
    cases isStatement_of_parse parsed with
    | @assignment target expression _ isExpression =>
      rcases symbols.perform_cases (.binary .assign (.literal target .identifier) expression) with
        ⟨_, interpreted, performed⟩ | ⟨_, _, _, _, performed⟩
      · rw [result, performed] at failed
        cases failed
        have evaluated : (expression.evaluate symbols).bind (fun x => .ok (target, x)) = .error error := interpreted
        rcases bind_eq_error_iff.1 evaluated with failed | ⟨_, _, assigned⟩
        · exact isExpression.isOfValues_of_evaluateWithin floats failed
        · cases assigned
      · rw [result, performed] at failed
        cases failed

/-- Over a table, with constants that are doubles, a source fails with an error of reading, of values or of
    columns. -/
theorem Table.error_cases_evaluate {table : Table} {constants : SymbolTable} (floats : constants.HoldsFloats)
    {source : String} {error : Error} (failed : (table.evaluate constants source).result = .error error) :
    error.IsOfReading ∨ error.IsOfValues ∨ error.IsOfColumns := by
  cases parsed : parse source with
  | error error =>
    rw [Table.evaluate, parsed] at failed
    cases failed
    exact .inl (isOfReading_of_parse parsed)
  | ok statement =>
    right
    cases isStatement_of_parse parsed with
    | @assignment target expression _ _ =>
      obtain ⟨isExpression, shallow⟩ := isExpression_of_parse parsed
      obtain ⟨names, references, _⟩ := isExpression.exists_references shallow
      cases run : Scope.resolve ⟨table, constants⟩ ∅ names with
      | mk outcome resolved =>
        cases outcome with
        | error error =>
          simp only [Table.evaluate, parsed, Scope.interpret, Tree.assignment, references, run] at failed
          cases failed
          exact Scope.isOfValues_or_isOfColumns_of_resolve floats run
        | ok =>
          left
          rw [Table.result_evaluate parsed references run] at failed
          rcases bind_eq_error_iff.1 failed with failed | ⟨value, _, failed⟩
          · exact isExpression.isOfValues_of_evaluateRowsWithin failed
          · cases cells : value.finiteCells with
            | ok cells =>
              rw [cells] at failed
              cases failed
            | error error =>
              rw [cells] at failed
              cases failed
              exact Value.isOfValues_of_finiteCells cells

/-- A source has a value or fails with a complaint, whatever doubles its names are bound to, and no
    internal error occurs, on a symbol table or over a table. The numbers among its tokens are all
    numerals. Wherever it starts, a rule puts together what the builders of trees accept, or complains. -/
theorem SymbolTable.run_eq_ok_or_complains {symbols constants : SymbolTable} (floats : symbols.HoldsFloats)
    (constantFloats : constants.HoldsFloats) (table : Table) (source : String) :
    ((∃ name value, (symbols.run source).result = .ok (name, value)) ∨
      ∃ error, (symbols.run source).result = .error error ∧ error.isComplaint ∧ ¬ error.IsInternal) ∧
    (∀ error, (table.evaluate constants source).result = .error error → ¬ error.IsInternal) ∧
    (∀ token ∈ (Lexer.ofText source).tokenize.2.tokens, token.kind = .integer ∨ token.kind = .float →
      ∃ x, floatOfText? token.text = some x) ∧
    ∀ rule room (cursor : Cursor),
      (∃ tree stop, Reader.rule rule room cursor = .ok tree stop ∧ tree.rebuild = .ok tree) ∨
        ∃ error stop, Reader.rule rule room cursor = .error error stop ∧
          error.isComplaint ∧ ¬ error.IsInternal := by
  refine ⟨?_, ?_, fun _ => exists_floatOfText?_of_mem, ?_⟩
  · cases outcome : (symbols.run source).result with
    | ok assigned => exact .inl ⟨assigned.1, assigned.2, rfl⟩
    | error error =>
      right
      rcases error_cases_run floats outcome with reading | values
      · exact ⟨error, rfl, reading.isComplaint⟩
      · exact ⟨error, rfl, values.isComplaint⟩
  · intro error failed
    rcases Table.error_cases_evaluate constantFloats failed with reading | values | columns
    · exact reading.isComplaint.2
    · exact values.isComplaint.2
    · exact columns.not_isInternal
  · intro rule room cursor
    rcases Reader.rule_cases rule room cursor with read | ⟨error, stop, failed, reading⟩
    · exact .inl read
    · exact .inr ⟨error, stop, failed, reading.isComplaint⟩

/-- The infinite `a` is complained about, and so are, though not as a complaint, two columns of its name. -/
theorem SymbolTable.run_infinite_complains :
    let symbols : SymbolTable := Std.TreeMap.insert ∅ "a" (Scalar.float (1 / 0))
    let table : Table := ⟨1, [⟨"a", .truths #v[none]⟩, ⟨"a", .floats .double #v[some 2]⟩]⟩
    (∃ error, (symbols.run "x = -.5e1 * a").result = .error error ∧ error.isComplaint ∧ ¬ error.IsInternal) ∧
      ∃ error, (table.evaluate symbols "x = -.5e1 * a").result = .error error ∧ ¬ error.isComplaint ∧
        ¬ error.IsInternal := by
  intro symbols table
  have floats : symbols.HoldsFloats := holdsFloats_empty.insert "a" (1 / 0)
  obtain ⟨run, evaluated, _⟩ := SymbolTable.run_eq_ok_or_complains floats floats table "x = -.5e1 * a"
  constructor
  · rcases run with ⟨name, value, result⟩ | complains
    · have failed : (symbols.run "x = -.5e1 * a").result = .error (.evaluation (.notFinite (.value (1 / 0)))) := by
        decide +kernel
      rw [failed] at result
      cases result
    · exact complains
  · have repeated : (table.evaluate symbols "x = -.5e1 * a").result.map Prod.fst =
        .error (.defect (.repeatedColumn "a" 2)) := by
      decide +kernel
    cases result : (table.evaluate symbols "x = -.5e1 * a").result with
    | ok assigned =>
      rw [result] at repeated
      cases repeated
    | error error =>
      have internal := evaluated error result
      rw [result] at repeated
      cases repeated
      exact ⟨_, rfl, by decide, internal⟩

end Formulary
