import Formulary.Proofs.Spelling

/-!
# Printing and parsing back

A tree is read as an expression, as a term and as a factor with parentheses only where the grammar
needs them. The formula of the tree is the text of such a reading, and no derivation of the same tree
has fewer rules open at once. So the formula of a statement is parsed back to it wherever any text is.
-/

namespace Formulary
open Formulary.Lexeme

/-- A tree read as an expression, as a term and as a factor. -/
structure Readings where
  expression : Derivation .expression
  term : Derivation .term
  factor : Derivation .factor
  sameTerm : term.tree = expression.tree
  sameFactor : factor.tree = expression.tree
  expressionDepth : expression.depth ≤ term.depth + 1
  termDepth : term.depth ≤ factor.depth + 1
  factorDepth : factor.depth ≤ expression.depth + 1

namespace Readings

/-- A sum needs parentheses as a term and as a factor. -/
def ofSum (expression : Derivation .expression) : Readings where
  expression := expression
  term := .ofFactor (.parenthesized expression)
  factor := .parenthesized expression
  sameTerm := rfl
  sameFactor := rfl
  expressionDepth := Nat.le_add_right _ 3
  termDepth := Nat.le_refl _
  factorDepth := Nat.le_refl _

/-- A product needs parentheses as a factor. -/
def ofProduct (term : Derivation .term) : Readings where
  expression := .ofTerm term
  term := term
  factor := .parenthesized (.ofTerm term)
  sameTerm := rfl
  sameFactor := rfl
  expressionDepth := Nat.le_refl _
  termDepth := Nat.le_add_right _ 3
  factorDepth := Nat.le_refl _

/-- A factor needs no parentheses. -/
def ofFactor (factor : Derivation .factor) : Readings where
  expression := .ofTerm (.ofFactor factor)
  term := .ofFactor factor
  factor := factor
  sameTerm := rfl
  sameFactor := rfl
  expressionDepth := Nat.le_refl _
  termDepth := Nat.le_refl _
  factorDepth := Nat.le_add_right _ 3

/-- The depth of the reading as a rule. There is none as a statement. -/
def depth (readings : Readings) : Rule → Nat
  | .statement => 0
  | .expression => readings.expression.depth
  | .term => readings.term.depth
  | .factor => readings.factor.depth

end Readings

/-- The readings of a tree that use parentheses only where the grammar needs them. -/
inductive Tree.Reads : Tree → Readings → Prop where
  | integer (text : String) : Reads (.literal text .integer) (.ofFactor (.integer text))
  | float (text : String) : Reads (.literal text .float) (.ofFactor (.float text))
  | identifier (text : String) : Reads (.literal text .identifier) (.ofFactor (.identifier text))
  | negation {operand : Tree} {inner : Readings} (readsOperand : operand.Reads inner) :
      Reads (.unary .negate operand) (.ofFactor (.negated inner.factor))
  | sum {op : BinaryOperator} {left right : Tree} {first second : Readings} (isSum : op ∈ sumOperators)
      (readsLeft : left.Reads first) (readsRight : right.Reads second) :
      Reads (.binary op left right) (.ofSum (.sum first.term op isSum second.expression))
  | product {op : BinaryOperator} {left right : Tree} {first second : Readings}
      (isProduct : op ∈ productOperators) (readsLeft : left.Reads first) (readsRight : right.Reads second) :
      Reads (.binary op left right) (.ofProduct (.product first.factor op isProduct second.term))

namespace Tree

theorem IsExpression.exists_reads {tree : Tree} (isExpression : tree.IsExpression) :
    ∃ readings, tree.Reads readings := by
  induction isExpression with
  | binary known _ _ ihl ihr =>
    obtain ⟨first, readsLeft⟩ := ihl
    obtain ⟨second, readsRight⟩ := ihr
    rw [List.mem_append] at known
    rcases known with isSum | isProduct
    · exact ⟨_, .sum isSum readsLeft readsRight⟩
    · exact ⟨_, .product isProduct readsLeft readsRight⟩
  | negation _ ih =>
    obtain ⟨inner, readsOperand⟩ := ih
    exact ⟨_, .negation readsOperand⟩
  | @literal text kind isLexeme =>
    cases kind with
    | integer => exact ⟨_, .integer text⟩
    | float => exact ⟨_, .float text⟩
    | identifier => exact ⟨_, .identifier text⟩
    | unknown => exact isLexeme.elim

namespace Reads

variable {tree : Tree} {readings : Readings}

theorem tree_eq (reads : tree.Reads readings) : readings.expression.tree = tree := by
  induction reads with
  | integer | float | identifier => rfl
  | @negation operand inner _ ih =>
    change Tree.unary .negate inner.factor.tree = _
    rw [inner.sameFactor, ih]
  | @sum op left right first second isSum _ _ ihl ihr =>
    change Tree.binary op first.term.tree second.expression.tree = _
    rw [first.sameTerm, ihl, ihr]
  | @product op left right first second isProduct _ _ ihl ihr =>
    change Tree.binary op first.factor.tree second.term.tree = _
    rw [first.sameFactor, second.sameTerm, ihl, ihr]

end Reads

theorem precedence?_of_isSum {op : BinaryOperator} (isSum : op ∈ sumOperators) : op.precedence? = some 1 := by
  simp only [sumOperators, List.mem_cons, List.not_mem_nil, or_false] at isSum
  rcases isSum with rfl | rfl <;> rfl

theorem precedence?_of_isProduct {op : BinaryOperator} (isProduct : op ∈ productOperators) :
    op.precedence? = some 2 := by
  simp only [productOperators, List.mem_cons, List.not_mem_nil, or_false] at isProduct
  rcases isProduct with rfl | rfl <;> rfl

theorem operandText_binary {op : BinaryOperator} {strength : Nat} (known : op.precedence? = some (strength + 1))
    (outer : Nat) (side : Side) (left right : Tree) (text : String) :
    operandText outer side (.binary op left right) text =
      .ok (if needsParentheses outer side (strength + 1) then parenthesized text else text) := by
  have other : op ≠ .assign := by
    rintro rfl
    cases known
  rw [operandText, known]
  exact other

theorem formula_binary {op : BinaryOperator} {strength : Nat} (known : op.precedence? = some (strength + 1))
    {left right : Tree} {leftText rightText : String} (leftFormula : left.formula = .ok leftText)
    (rightFormula : right.formula = .ok rightText) :
    (Tree.binary op left right).formula = do
      let leftOperand ← operandText (strength + 1) .left left leftText
      let rightOperand ← operandText (strength + 1) .right right rightText
      return leftOperand ++ " " ++ op.text ++ " " ++ rightOperand := by
  have other : op ≠ .assign := by
    rintro rfl
    cases known
  rw [formula, known, leftFormula, rightFormula]
  · rfl
  · exact other

theorem needsParentheses_of_stronger {outer : Nat} {side : Side} (product : needsParentheses outer side 2) :
    needsParentheses outer side 1 := by
  simp only [needsParentheses, Bool.or_eq_true, decide_eq_true_eq, Bool.and_eq_true, beq_iff_eq] at product ⊢
  omega

/-- An operand is written as a factor where products need parentheses, else as a term where sums do,
    else as an expression. -/
theorem Reads.operandText_eq {tree : Tree} {readings : Readings} (reads : tree.Reads readings) (outer : Nat)
    (side : Side) :
    operandText outer side tree readings.expression.text =
      .ok (if needsParentheses outer side 2 then readings.factor.text
        else if needsParentheses outer side 1 then readings.term.text
        else readings.expression.text) := by
  cases reads with
  | integer | float | identifier | negation =>
    split
    · rfl
    · split <;> rfl
  | sum isSum =>
    rw [operandText_binary (precedence?_of_isSum isSum)]
    by_cases product : needsParentheses outer side 2
    · rw [if_pos product, if_pos (needsParentheses_of_stronger product)]
      rfl
    · rw [if_neg product]
      rfl
  | product isProduct =>
    rw [operandText_binary (precedence?_of_isProduct isProduct)]
    by_cases product : needsParentheses outer side 2
    · rw [if_pos product, if_pos product]
      rfl
    · rw [if_neg product, if_neg product]
      split <;> rfl

theorem Reads.negatedText_eq {tree : Tree} {readings : Readings} (reads : tree.Reads readings) :
    negatedText tree readings.expression.text = readings.factor.text := by
  cases reads <;> rfl

/-- The formula of an expression is the text of its reading. -/
theorem Reads.formula_eq {tree : Tree} {readings : Readings} (reads : tree.Reads readings) :
    tree.formula = .ok readings.expression.text := by
  induction reads with
  | integer | float | identifier => rfl
  | negation readsOperand ih =>
    simp only [formula, ih, bind, Except.bind, readsOperand.negatedText_eq]
    rfl
  | sum isSum readsLeft readsRight ihl ihr =>
    rw [formula_binary (precedence?_of_isSum isSum) ihl ihr, readsLeft.operandText_eq, readsRight.operandText_eq]
    rfl
  | product isProduct readsLeft readsRight ihl ihr =>
    rw [formula_binary (precedence?_of_isProduct isProduct) ihl ihr, readsLeft.operandText_eq,
      readsRight.operandText_eq]
    rfl

/-! ## No derivation is less deep than a reading -/

theorem not_isProduct_of_isSum {op : BinaryOperator} (isSum : op ∈ sumOperators) : op ∉ productOperators := by
  simp only [sumOperators, List.mem_cons, List.not_mem_nil, or_false] at isSum
  rcases isSum with rfl | rfl <;> decide

/-- No derivation of a tree is less deep than the reading of the tree as the same rule. -/
theorem Reads.depth_le {rule : Rule} (d : Derivation rule) {readings : Readings} (reads : d.tree.Reads readings) :
    readings.depth rule ≤ d.depth := by
  -- A rule or a parenthesis more in the derivation costs the reading one step at most, by the bounds
  -- that `Readings` carries.
  induction d generalizing readings with
  | statement => exact Nat.zero_le _
  | ofTerm term ih => exact readings.expressionDepth.trans (Nat.succ_le_succ (ih reads))
  | ofFactor factor ih => exact readings.termDepth.trans (Nat.succ_le_succ (ih reads))
  | parenthesized inner ih => exact readings.factorDepth.trans (Nat.succ_le_succ (ih reads))
  | sum left op isSum right ihl ihr =>
    cases reads with
    | sum _ readsLeft readsRight =>
      have first := ihl readsLeft
      have second := ihr readsRight
      simp only [Readings.depth, Readings.ofSum, Derivation.depth] at first second ⊢
      omega
    | product isProduct => exact absurd isProduct (not_isProduct_of_isSum isSum)
  | product left op isProduct right ihl ihr =>
    cases reads with
    | sum isSum => exact absurd isProduct (not_isProduct_of_isSum isSum)
    | product _ readsLeft readsRight =>
      have first := ihl readsLeft
      have second := ihr readsRight
      simp only [Readings.depth, Readings.ofProduct, Derivation.depth] at first second ⊢
      omega
  | integer | float | identifier =>
    cases reads
    exact Nat.le_refl 1
  | negated operand ih =>
    cases reads with
    | negation readsOperand => exact Nat.succ_le_succ (ih readsOperand)

end Tree

namespace Derivation

theorem lexical_parenthesized {inner : Derivation .expression} (lexical : inner.Lexical) :
    (parenthesized inner).Lexical := by
  have opening : IsLexeme .operator "(".toList := ⟨'(', by decide, rfl⟩
  have closing : IsLexeme .operator ")".toList := ⟨')', by decide, rfl⟩
  simp only [Lexical, terminals, List.cons_append, List.forall_mem_cons, List.forall_mem_append]
  exact ⟨opening, lexical, closing, by simp⟩

theorem isLexeme_operator {op : BinaryOperator} (known : op ∈ sumOperators ++ productOperators) :
    IsLexeme op.terminal.1 op.terminal.2.toList := by
  have other : ∀ text, op ≠ .unknown text := by
    rintro text rfl
    simp [sumOperators, productOperators] at known
  obtain ⟨c, isOperator, single⟩ := BinaryOperator.exists_character other
  exact ⟨c, isOperator, by rw [BinaryOperator.terminal, single, String.toList_ofList]⟩

end Derivation

/-- All terminals of the readings of an expression are complete lexemes. -/
theorem Tree.Reads.lexical {tree : Tree} {readings : Readings} (reads : tree.Reads readings)
    (isExpression : tree.IsExpression) :
    readings.expression.Lexical ∧ readings.term.Lexical ∧ readings.factor.Lexical := by
  induction reads with
  | integer | float | identifier =>
    cases isExpression with
    | literal isLexeme =>
      exact ⟨List.forall_mem_singleton.2 isLexeme, List.forall_mem_singleton.2 isLexeme,
        List.forall_mem_singleton.2 isLexeme⟩
  | @negation _ inner _ ih =>
    cases isExpression with
    | negation isOperand =>
      have minus : IsLexeme .operator "-".toList := ⟨'-', by decide, rfl⟩
      have lexical : (Derivation.negated inner.factor).Lexical := by
        simp only [Derivation.Lexical, Derivation.terminals, List.forall_mem_cons]
        exact ⟨minus, (ih isOperand).2.2⟩
      exact ⟨lexical, lexical, lexical⟩
  | @sum op _ _ first second isSum _ _ ihl ihr =>
    cases isExpression with
    | binary known isLeft isRight =>
      have lexical : (Derivation.sum first.term op isSum second.expression).Lexical := by
        simp only [Derivation.Lexical, Derivation.terminals, List.forall_mem_append, List.forall_mem_cons]
        exact ⟨(ihl isLeft).2.1, Derivation.isLexeme_operator known, (ihr isRight).1⟩
      have closed := Derivation.lexical_parenthesized lexical
      exact ⟨lexical, closed, closed⟩
  | @product op _ _ first second isProduct _ _ ihl ihr =>
    cases isExpression with
    | binary known isLeft isRight =>
      have lexical : (Derivation.product first.factor op isProduct second.term).Lexical := by
        simp only [Derivation.Lexical, Derivation.terminals, List.forall_mem_append, List.forall_mem_cons]
        exact ⟨(ihl isLeft).2.2, Derivation.isLexeme_operator known, (ihr isRight).2.1⟩
      have closed : (Readings.ofProduct (.product first.factor op isProduct second.term)).factor.Lexical :=
        Derivation.lexical_parenthesized lexical
      exact ⟨lexical, lexical, closed⟩

/-- The derivation of a statement that uses parentheses only where the grammar needs them. -/
inductive Tree.ReadsAs : Tree → Derivation .statement → Prop where
  | assignment (target : String) {value : Tree} {readings : Readings} (reads : value.Reads readings) :
      ReadsAs (.binary .assign (.literal target .identifier) value) (.statement target readings.expression)

theorem Tree.IsStatement.exists_readsAs {tree : Tree} (isStatement : tree.IsStatement) :
    ∃ d, tree.ReadsAs d ∧ d.Lexical := by
  cases isStatement with
  | @assignment target value name isValue =>
    obtain ⟨readings, reads⟩ := isValue.exists_reads
    have equals : IsLexeme .operator "=".toList := ⟨'=', by decide, rfl⟩
    refine ⟨_, .assignment target reads, ?_⟩
    exact List.forall_mem_cons.2 ⟨name, List.forall_mem_cons.2 ⟨equals, (reads.lexical isValue).1⟩⟩

namespace Tree.ReadsAs

variable {tree : Tree} {d : Derivation .statement}

theorem tree_eq (readsAs : tree.ReadsAs d) : d.tree = tree := by
  cases readsAs with
  | assignment target reads => rw [Derivation.tree, reads.tree_eq]

/-- The formula of a statement is the text of that derivation. -/
theorem formula_eq (readsAs : tree.ReadsAs d) : tree.formula = .ok d.text := by
  cases readsAs with
  | assignment target reads =>
    simp only [formula, bind, Except.bind, reads.formula_eq, reads.operandText_eq]
    rfl

/-- Any derivation of the statement gives the same tree to its expression as the reading does. -/
theorem exists_reads (readsAs : tree.ReadsAs d) {e : Derivation .statement} (same : e.tree = tree) :
    ∃ target name readings inner, d = .statement target readings.expression ∧ e = .statement name inner ∧
      inner.tree.Reads readings := by
  cases readsAs with
  | assignment target reads =>
    cases e with
    | statement name inner =>
      simp only [Derivation.tree, Tree.binary.injEq, true_and] at same
      exact ⟨target, name, _, inner, rfl, rfl, same.2 ▸ reads⟩

/-- No derivation of a statement is less deep. -/
theorem depth_le (readsAs : tree.ReadsAs d) {e : Derivation .statement} (same : e.tree = tree) :
    d.depth ≤ e.depth := by
  obtain ⟨_, _, _, inner, rfl, rfl, reads⟩ := readsAs.exists_reads same
  exact Reads.depth_le inner reads

end Tree.ReadsAs

/-- The formula of a statement is the text of a derivation of it with complete lexemes, and no other
    derivation of it is less deep. -/
theorem Tree.IsStatement.exists_derivation {tree : Tree} (isStatement : tree.IsStatement) :
    ∃ d : Derivation .statement, d.Lexical ∧ d.tree = tree ∧ tree.formula = .ok d.text ∧
      ∀ e : Derivation .statement, e.tree = tree → d.depth ≤ e.depth := by
  obtain ⟨d, readsAs, lexical⟩ := isStatement.exists_readsAs
  exact ⟨d, lexical, readsAs.tree_eq, readsAs.formula_eq, fun _ same => readsAs.depth_le same⟩

/-- The formula of a statement is parsed back to it, unless it is nested too deeply. The formula of the
    tree of a source is always parsed back to it. -/
theorem parse_formula_eq_ok (tree : Tree) :
    (tree.IsStatement → ∃ text, tree.formula = .ok text ∧
      (parse text = .ok tree ∨ parse text = .error .nestedTooDeeply)) ∧
    ∀ source, parse source = .ok tree → ∃ text, tree.formula = .ok text ∧ parse text = .ok tree := by
  constructor
  · intro isStatement
    obtain ⟨d, lexical, rfl, printed, _⟩ := isStatement.exists_derivation
    exact ⟨d.text, printed, (d.parse_text lexical).1⟩
  · intro source parsed
    obtain ⟨d, lexical, rfl, printed, least⟩ := (isStatement_of_parse parsed).exists_derivation
    obtain ⟨e, _, fits, same⟩ := exists_derivation_of_parse parsed
    exact ⟨d.text, printed, (d.parse_text lexical).2 ((least e same).trans fits)⟩

/-- `x=((1-a))*(-b)` is printed with the parentheses and spaces that it needs, and parsed back. -/
theorem parse_formula_product_eq_ok :
    ∃ tree : Tree, tree.IsStatement ∧ tree.formula = .ok "x = (1 - a) * -b" ∧
      parse "x = (1 - a) * -b" = .ok tree := by
  have parsed : parse "x=((1-a))*(-b)" = .ok (.binary .assign (.literal "x" .identifier)
      (.binary .multiply (.binary .subtract (.literal "1" .integer) (.literal "a" .identifier))
        (.unary .negate (.literal "b" .identifier)))) := by
    decide +kernel
  have isStatement := isStatement_of_parse parsed
  obtain ⟨text, printed, _⟩ := (parse_formula_eq_ok _).1 isStatement
  obtain ⟨text', printed', back⟩ := (parse_formula_eq_ok _).2 _ parsed
  obtain rfl : text = text' := Except.ok.inj (printed.symm.trans printed')
  obtain rfl : "x = (1 - a) * -b" = text := Except.ok.inj printed
  exact ⟨_, isStatement, printed, back⟩

end Formulary
