import Formulary.Proofs.Printing
import Formulary.Proofs.Separators

/-!
# As few parentheses as possible

Parentheses leave no trace in a tree. The other terminals of a source can be read off its tree, in
their order, so all sources of one tree differ in their parentheses and blanks alone. The formula of
the tree is one of these sources, and none of the others has fewer parentheses.
-/

namespace Formulary
open Formulary.Lexeme

def isParenthesis (terminal : Terminal) : Bool :=
  terminal ∈ [(TokenKind.operator, "("), (.operator, ")")]

/-- The terminals that are no parentheses. -/
def bare (terminals : List Terminal) : List Terminal :=
  terminals.filter (!isParenthesis ·)

/-- The number of parentheses in a text. -/
def parentheses (source : String) : Nat :=
  source.toList.countP fun c => c = '(' ∨ c = ')'

/-- The terminals of a tree from left to right, without any parentheses. -/
def Tree.terminals : Tree → List Terminal
  | .binary op left right => left.terminals ++ op.terminal :: right.terminals
  | .unary op operand => (.operator, op.text) :: operand.terminals
  | .literal text kind => [(kind.tokenKind, text)]
  | .foreign _ => []

@[simp] theorem isParenthesis_operator (text : String) :
    isParenthesis (.operator, text) = decide (text = "(" ∨ text = ")") := by
  simp [isParenthesis]

@[simp] theorem isParenthesis_of_ne {kind : TokenKind} (other : kind ≠ .operator) (text : String) :
    isParenthesis (kind, text) = false := by
  simp [isParenthesis, other]

theorem not_isParenthesis_terminal {op : BinaryOperator} (known : op ∈ sumOperators ++ productOperators) :
    isParenthesis op.terminal = false := by
  revert op
  decide

namespace Derivation

/-- The number of expressions between parentheses. -/
def pairs : {rule : Rule} → Derivation rule → Nat
  | _, .statement _ value => value.pairs
  | _, .ofTerm term => term.pairs
  | _, .sum left _ _ right => left.pairs + right.pairs
  | _, .ofFactor factor => factor.pairs
  | _, .product left _ _ right => left.pairs + right.pairs
  | _, .integer _ | _, .float _ | _, .identifier _ => 0
  | _, .parenthesized inner => inner.pairs + 1
  | _, .negated operand => operand.pairs

/-- Without the parentheses, the terminals of a derivation are those of its tree. -/
theorem bare_terminals {rule : Rule} (d : Derivation rule) : bare d.terminals = d.tree.terminals := by
  unfold bare
  induction d with
  | statement target value ih =>
    simp [terminals, tree, Tree.terminals, LiteralKind.tokenKind, BinaryOperator.terminal, BinaryOperator.text, ih]
  | ofTerm _ ih | ofFactor _ ih => exact ih
  | sum left op isSum right ihl ihr =>
    have visible := not_isParenthesis_terminal (List.mem_append_left _ isSum)
    simp [terminals, tree, Tree.terminals, visible, ihl, ihr]
  | product left op isProduct right ihl ihr =>
    have visible := not_isParenthesis_terminal (List.mem_append_right _ isProduct)
    simp [terminals, tree, Tree.terminals, visible, ihl, ihr]
  | integer | float | identifier => simp [terminals, tree, Tree.terminals, LiteralKind.tokenKind]
  | parenthesized inner ih => simp [terminals, tree, ih]
  | negated operand ih => simp [terminals, tree, Tree.terminals, UnaryOperator.text, ih]

/-- Each expression between parentheses has two of them. -/
theorem countP_isParenthesis {rule : Rule} (d : Derivation rule) :
    d.terminals.countP isParenthesis = 2 * d.pairs := by
  induction d with
  | statement target value ih => simp [terminals, pairs, ih]
  | ofTerm _ ih | ofFactor _ ih => exact ih
  | sum left op isSum right ihl ihr =>
    have visible := not_isParenthesis_terminal (List.mem_append_left _ isSum)
    simp [terminals, pairs, visible, ihl, ihr, Nat.mul_add]
  | product left op isProduct right ihl ihr =>
    have visible := not_isParenthesis_terminal (List.mem_append_right _ isProduct)
    simp [terminals, pairs, visible, ihl, ihr, Nat.mul_add]
  | integer | float | identifier => simp [terminals, pairs]
  | parenthesized inner ih => simp [terminals, pairs, ih, Nat.mul_add]
  | negated operand ih => simp [terminals, pairs, ih]

end Derivation

/-- The number of expressions between parentheses in the reading as a rule. There is none as a statement. -/
def Readings.pairs (readings : Readings) : Rule → Nat
  | .statement => 0
  | .expression => readings.expression.pairs
  | .term => readings.term.pairs
  | .factor => readings.factor.pairs

namespace Tree

variable {tree : Tree} {readings : Readings}

/-- A stricter rule may need parentheses where a looser one needs none, but never two pairs of them. -/
theorem Reads.pairs_bounds (reads : tree.Reads readings) :
    readings.expression.pairs ≤ readings.term.pairs ∧ readings.term.pairs ≤ readings.factor.pairs ∧
      readings.factor.pairs ≤ readings.expression.pairs + 1 := by
  cases reads with
  | integer | float | identifier => exact ⟨Nat.le_refl _, Nat.le_refl _, Nat.le_succ _⟩
  | negation => exact ⟨Nat.le_refl _, Nat.le_refl _, Nat.le_succ _⟩
  | sum => exact ⟨Nat.le_succ _, Nat.le_refl _, Nat.le_refl _⟩
  | product => exact ⟨Nat.le_refl _, Nat.le_succ _, Nat.le_refl _⟩

/-- No derivation of a tree has fewer parentheses than the reading of the tree as the same rule. -/
theorem Reads.pairs_le {rule : Rule} (d : Derivation rule) {readings : Readings} (reads : d.tree.Reads readings) :
    readings.pairs rule ≤ d.pairs := by
  -- A rule more in the derivation costs no parentheses in the reading, and a pair of parentheses more
  -- costs it one pair at most.
  induction d generalizing readings with
  | statement => exact Nat.zero_le _
  | ofTerm term ih => exact reads.pairs_bounds.1.trans (ih reads)
  | ofFactor factor ih => exact reads.pairs_bounds.2.1.trans (ih reads)
  | parenthesized inner ih => exact reads.pairs_bounds.2.2.trans (Nat.succ_le_succ (ih reads))
  | sum left op isSum right ihl ihr =>
    cases reads with
    | sum _ readsLeft readsRight => exact Nat.add_le_add (ihl readsLeft) (ihr readsRight)
    | product isProduct => exact absurd isProduct (not_isProduct_of_isSum isSum)
  | product left op isProduct right ihl ihr =>
    cases reads with
    | sum isSum => exact absurd isProduct (not_isProduct_of_isSum isSum)
    | product _ readsLeft readsRight => exact Nat.add_le_add (ihl readsLeft) (ihr readsRight)
  | integer | float | identifier =>
    cases reads
    exact Nat.le_refl 0
  | negated operand ih =>
    cases reads with
    | @negation _ inner readsOperand =>
      have inside : inner.factor.pairs ≤ operand.pairs := ih readsOperand
      exact inside

/-- No derivation of a statement has fewer parentheses. -/
theorem ReadsAs.pairs_le {d e : Derivation .statement} (readsAs : tree.ReadsAs d) (same : e.tree = tree) :
    d.pairs ≤ e.pairs := by
  obtain ⟨_, _, _, inner, rfl, rfl, reads⟩ := readsAs.exists_reads same
  exact Reads.pairs_le inner reads

end Tree

theorem exists_of_isParenthesis {terminal : Terminal} (one : isParenthesis terminal) :
    ∃ c, terminal.2.toList = [c] ∧ (c = '(' ∨ c = ')') := by
  simp only [isParenthesis, List.mem_cons, List.not_mem_nil, or_false, decide_eq_true_eq] at one
  rcases one with rfl | rfl
  · exact ⟨'(', rfl, .inl rfl⟩
  · exact ⟨')', rfl, .inr rfl⟩

/-- A lexeme has a parenthesis in it only if it is one. -/
theorem Lexeme.IsLexeme.countP_eq {kind : TokenKind} {text : List Char} (isLexeme : IsLexeme kind text) :
    text.countP (fun c => c = '(' ∨ c = ')') = [(kind, String.ofList text)].countP isParenthesis := by
  by_cases within : ∃ c ∈ text, c = '(' ∨ c = ')'
  · obtain ⟨c, member, one⟩ := within
    obtain rfl : text = [c] := isLexeme.eq_of_mem_of_separates member (separates_parenthesis one)
    have isOperator : IsLexeme .operator [c] := ⟨c, by rcases one with rfl | rfl <;> decide, rfl⟩
    obtain rfl := isLexeme.kind_unique isOperator
    rcases one with rfl | rfl <;> decide
  · have other : ¬ isParenthesis (kind, String.ofList text) := by
      intro one
      obtain ⟨c, single, isOne⟩ := exists_of_isParenthesis one
      rw [String.toList_ofList] at single
      exact within ⟨c, single ▸ List.mem_singleton_self c, isOne⟩
    rw [List.countP_singleton, if_neg other, List.countP_eq_zero]
    simpa using within

theorem Reaches.countP_eq {passed stop : Nat} {cs ahead : List Char} {found : List Token}
    (reaches : Reaches passed cs found stop ahead) (ended : ahead = []) :
    cs.countP (fun c => c = '(' ∨ c = ')') = (found.map Token.terminal).countP isParenthesis := by
  induction reaches with
  | here => simp [ended]
  | @blank passed stop c rest ahead found blank more ih =>
    have other : ¬ (c = '(' ∨ c = ')') := by
      rintro (rfl | rfl) <;> exact absurd blank (by decide)
    rw [List.countP_cons_of_neg (by simpa using other), ih ended]
  | lexeme longest more ih =>
    rw [List.countP_append, longest.1.countP_eq, ih ended, ← List.countP_append]
    rfl

/-- The parentheses in a source are those among its tokens. -/
theorem parentheses_eq_of_tokenize {source : String} {tokens : List Token} (lexed : tokenize source = .ok tokens) :
    parentheses source = (tokens.map Token.terminal).countP isParenthesis := by
  obtain ⟨found, rfl, reaches, _⟩ := exists_walk_of_tokenize lexed
  rw [parentheses, reaches.countP_eq rfl, List.map_append, List.countP_append]
  rfl

/-- The parentheses in a source of a derivation, and what else is in it. -/
theorem parentheses_of_tokenize {source : String} {tokens : List Token} {d : Derivation .statement}
    (lexed : tokenize source = .ok tokens) (split : tokens.map Token.terminal = d.terminals ++ [(.endMarker, "")]) :
    parentheses source = 2 * d.pairs ∧
      bare (tokens.map Token.terminal) = d.tree.terminals ++ [(.endMarker, "")] := by
  constructor
  · rw [parentheses_eq_of_tokenize lexed, split, List.countP_append, d.countP_isParenthesis]
    rfl
  · rw [split, bare, List.filter_append, ← d.bare_terminals]
    rfl

theorem exists_terminals_of_parse {source : String} {tree : Tree} (parsed : parse source = .ok tree) :
    ∃ tokens, tokenize source = .ok tokens ∧ ∃ d : Derivation .statement,
      tokens.map Token.terminal = d.terminals ++ [(.endMarker, "")] ∧ d.depth ≤ ruleLimit ∧ d.tree = tree := by
  obtain ⟨found, lexed, _, _, d, same, fits, rfl⟩ := exists_walk_of_parse parsed
  exact ⟨_, lexed, d, by rw [List.map_append, same]; rfl, fits, rfl⟩

/-- The tree of a source is a statement, and its terminals are those of the source without the
    parentheses. The formula of the tree has the same ones, and is parsed back to the tree. No source
    that is parsed to the tree has fewer parentheses than the formula. -/
theorem formula_fewest_parentheses {source : String} {tree : Tree} (parsed : parse source = .ok tree) :
    tree.IsStatement ∧
      ∃ tokens text printed, tokenize source = .ok tokens ∧ tree.formula = .ok text ∧
        tokenize text = .ok printed ∧
        bare (tokens.map Token.terminal) = tree.terminals ++ [(.endMarker, "")] ∧
        bare (printed.map Token.terminal) = bare (tokens.map Token.terminal) ∧
        parse text = .ok tree ∧
        ∀ other, parse other = .ok tree → parentheses text ≤ parentheses other := by
  have isStatement := isStatement_of_parse parsed
  obtain ⟨d, readsAs, lexical⟩ := isStatement.exists_readsAs
  obtain rfl := readsAs.tree_eq
  have spelled := d.spelled lexical apart_nil .nil
  rw [List.append_nil, List.append_nil] at spelled
  obtain ⟨printed, lexedText, splitText⟩ := spelled.tokenize
  obtain ⟨tokens, lexed, e, split, fits, same⟩ := exists_terminals_of_parse parsed
  obtain ⟨written, bareText⟩ := parentheses_of_tokenize lexedText splitText
  have bareSource := (parentheses_of_tokenize lexed split).2
  rw [same] at bareSource
  refine ⟨isStatement, tokens, d.text, printed, lexed, readsAs.formula_eq, lexedText, bareSource,
    bareText.trans bareSource.symm, ?_, ?_⟩
  · exact (d.parse_text lexical).2 ((readsAs.depth_le same).trans fits)
  · intro other parsed'
    obtain ⟨_, lexed', e', split', _, same'⟩ := exists_terminals_of_parse parsed'
    rw [written, (parentheses_of_tokenize lexed' split').1]
    exact Nat.mul_le_mul_left 2 (readsAs.pairs_le same')

/-- `x = (1 - a) * -b` has the fewest parentheses of all sources of the tree of `x=((1-a))*(-b)`. -/
theorem formula_fewest_parentheses_product :
    ∃ tree : Tree, parse "x=((1-a))*(-b)" = .ok tree ∧ tree.formula = .ok "x = (1 - a) * -b" ∧
      parentheses "x=((1-a))*(-b)" = 6 ∧ parentheses "x = (1 - a) * -b" = 2 ∧
      ∀ other, parse other = .ok tree → 2 ≤ parentheses other := by
  have parsed : parse "x=((1-a))*(-b)" = .ok (.binary .assign (.literal "x" .identifier)
      (.binary .multiply (.binary .subtract (.literal "1" .integer) (.literal "a" .identifier))
        (.unary .negate (.literal "b" .identifier)))) := by
    decide +kernel
  obtain ⟨_, _, text, _, _, written, _, _, _, _, fewest⟩ := formula_fewest_parentheses parsed
  obtain rfl : "x = (1 - a) * -b" = text := Except.ok.inj written
  exact ⟨_, parsed, written, by decide, by decide, fewest⟩

end Formulary
