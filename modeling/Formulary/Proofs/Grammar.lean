import Formulary.Token
import Formulary.Tree

/-!
# The grammar of formulas

A derivation says how the grammar gives a list of terminals, and which tree it gives them. A
derivation that breaks off has read what it could and wants one more terminal: what it wants, and
which rules are open there, is all that a syntax error says. Every derivation that breaks off can be
completed by each terminal that it wants.
-/

namespace Formulary

/-- What the grammar sees of a token: its kind and its text. -/
abbrev Terminal := TokenKind × String

-- Whether a terminal is in a list is decided with this instance.
instance : LawfulBEq Terminal := inferInstance

/-- The terminal that a token is an occurrence of. -/
def Token.terminal (token : Token) : Terminal := (token.kind, token.text)

/-- The terminal of an operator. -/
def BinaryOperator.terminal (op : BinaryOperator) : Terminal := (.operator, op.text)

/-- The operators between the terms of an expression. -/
def sumOperators : List BinaryOperator := [.add, .subtract]

/-- The operators between the factors of a term. -/
def productOperators : List BinaryOperator := [.multiply, .divide]

theorem Token.isOperator_iff {token : Token} {text : String} :
    token.isOperator text = true ↔ token.terminal = (.operator, text) := by
  simp [isOperator, terminal]

/-- The derivations of a rule of the grammar: one constructor for each production. -/
inductive Derivation : Rule → Type where
  /-- A name, an equals sign and an expression are a statement. -/
  | statement (target : String) (value : Derivation .expression) : Derivation .statement
  /-- A term is an expression. -/
  | ofTerm (term : Derivation .term) : Derivation .expression
  /-- A term, a plus or minus sign and an expression are an expression. -/
  | sum (left : Derivation .term) (op : BinaryOperator) (isSum : op ∈ sumOperators)
      (right : Derivation .expression) : Derivation .expression
  /-- A factor is a term. -/
  | ofFactor (factor : Derivation .factor) : Derivation .term
  /-- A factor, a multiplication or division sign and a term are a term. -/
  | product (left : Derivation .factor) (op : BinaryOperator) (isProduct : op ∈ productOperators)
      (right : Derivation .term) : Derivation .term
  | integer (text : String) : Derivation .factor
  | float (text : String) : Derivation .factor
  | identifier (text : String) : Derivation .factor
  /-- An expression between parentheses is a factor. -/
  | parenthesized (inner : Derivation .expression) : Derivation .factor
  /-- A factor after a minus sign is a factor. -/
  | negated (operand : Derivation .factor) : Derivation .factor

namespace Derivation

/-- The terminals that are derived, from left to right. -/
def terminals : {rule : Rule} → Derivation rule → List Terminal
  | _, .statement target value => (.identifier, target) :: (.operator, "=") :: value.terminals
  | _, .ofTerm term => term.terminals
  | _, .sum left op _ right => left.terminals ++ op.terminal :: right.terminals
  | _, .ofFactor factor => factor.terminals
  | _, .product left op _ right => left.terminals ++ op.terminal :: right.terminals
  | _, .integer text => [(.integer, text)]
  | _, .float text => [(.float, text)]
  | _, .identifier text => [(.identifier, text)]
  | _, .parenthesized inner => (.operator, "(") :: inner.terminals ++ [(.operator, ")")]
  | _, .negated operand => (.operator, "-") :: operand.terminals

/-- The tree of a derivation. Chains of operators nest to the right, and parentheses leave no node. -/
def tree : {rule : Rule} → Derivation rule → Tree
  | _, .statement target value => .binary .assign (.literal target .identifier) value.tree
  | _, .ofTerm term => term.tree
  | _, .sum left op _ right => .binary op left.tree right.tree
  | _, .ofFactor factor => factor.tree
  | _, .product left op _ right => .binary op left.tree right.tree
  | _, .integer text => .literal text .integer
  | _, .float text => .literal text .float
  | _, .identifier text => .literal text .identifier
  | _, .parenthesized inner => inner.tree
  | _, .negated operand => .unary .negate operand.tree

/-- The greatest number of expressions, terms and factors that are open at once. -/
def depth : {rule : Rule} → Derivation rule → Nat
  | _, .statement _ value => value.depth
  | _, .ofTerm term => term.depth + 1
  | _, .sum left _ _ right => max left.depth right.depth + 1
  | _, .ofFactor factor => factor.depth + 1
  | _, .product left _ _ right => max left.depth right.depth + 1
  | _, .integer _ | _, .float _ | _, .identifier _ => 1
  | _, .parenthesized inner => inner.depth + 1
  | _, .negated operand => operand.depth + 1

/-- No end marker is derived. -/
theorem kind_ne_endMarker {rule : Rule} (d : Derivation rule) :
    ∀ terminal ∈ d.terminals, terminal.1 ≠ .endMarker := by
  induction d with
  | statement _ _ ih => simpa [terminals] using ih
  | ofTerm _ ih | ofFactor _ ih => exact ih
  | sum _ _ _ _ ihl ihr | product _ _ _ _ ihl ihr =>
    intro terminal member
    simp only [terminals, List.mem_append, List.mem_cons] at member
    rcases member with member | rfl | member
    · exact ihl terminal member
    · simp [BinaryOperator.terminal]
    · exact ihr terminal member
  | integer | float | identifier => simp [terminals]
  | parenthesized _ ih =>
    intro terminal member
    simp only [terminals, List.cons_append, List.mem_cons, List.mem_append, List.not_mem_nil,
      or_false] at member
    rcases member with rfl | member | rfl
    · simp
    · exact ih terminal member
    · simp
  | negated _ ih => simpa [terminals] using ih

end Derivation

/-- A statement of the grammar, as terminals, with its tree. -/
def Derives (terminals : List Terminal) (tree : Tree) : Prop :=
  ∃ d : Derivation .statement, d.terminals = terminals ∧ d.tree = tree

/-- Terminals that some statement of the grammar begins with. -/
def Viable (terminals : List Terminal) : Prop :=
  ∃ d : Derivation .statement, terminals <+: d.terminals

/-- The terminals, the end marker included, that a syntax error can ask for. -/
def Wanted.admits : Wanted → Terminal → Prop
  | .identifier, terminal => terminal.1 = .identifier
  | .equalsSign, terminal => terminal = (.operator, "=")
  | .factor, terminal =>
    terminal.1 ∈ [TokenKind.integer, .float, .identifier] ∨
      terminal ∈ [(TokenKind.operator, "("), (.operator, "-")]
  | .closingParenthesis, terminal => terminal = (.operator, ")")
  | .endOfInput, terminal => terminal.1 = .endMarker

theorem Wanted.exists_admitted (wanted : Wanted) : ∃ terminal, wanted.admits terminal := by
  cases wanted with
  | identifier => exact ⟨(.identifier, ""), rfl⟩
  | equalsSign => exact ⟨_, rfl⟩
  | factor => exact ⟨(.integer, ""), .inl (by simp)⟩
  | closingParenthesis => exact ⟨_, rfl⟩
  | endOfInput => exact ⟨(.endMarker, ""), rfl⟩

/-- The operators that go on with a rule after a complete derivation of it. -/
def Rule.continuations : Rule → List BinaryOperator
  | .expression => sumOperators ++ productOperators
  | .term => productOperators
  | .factor | .statement => []

/-- A terminal that does not go on with a rule. After a statement only the end marker may stand. -/
def Rule.ends : Rule → Terminal → Prop
  | .statement, next => next.1 = .endMarker
  | rule, next => ∀ op ∈ rule.continuations, next ≠ op.terminal

/-- A terminal that is not wanted, and does not go on with an expression where one has ended. -/
def Wanted.refuses : Wanted → Terminal → Prop
  | .closingParenthesis, bad => ¬ Wanted.closingParenthesis.admits bad ∧ Rule.expression.ends bad
  | .endOfInput, bad => ¬ Wanted.endOfInput.admits bad ∧ Rule.expression.ends bad
  | wanted, bad => ¬ wanted.admits bad

/-! ## Derivations that break off -/

/-- The derivations of a rule that break off where one more terminal is wanted. -/
inductive Unfinished : Rule → Type where
  /-- Nothing has been read. -/
  | beforeTarget : Unfinished .statement
  /-- The target has been read, and an equals sign is wanted. -/
  | beforeEquals (target : String) : Unfinished .statement
  | inValue (target : String) (value : Unfinished .expression) : Unfinished .statement
  /-- All has been read, and the end of the input is wanted. -/
  | beforeEnd (target : String) (value : Derivation .expression) : Unfinished .statement
  | inTerm (term : Unfinished .term) : Unfinished .expression
  | inSum (left : Derivation .term) (op : BinaryOperator) (isSum : op ∈ sumOperators)
      (right : Unfinished .expression) : Unfinished .expression
  | inFactor (factor : Unfinished .factor) : Unfinished .term
  | inProduct (left : Derivation .factor) (op : BinaryOperator) (isProduct : op ∈ productOperators)
      (right : Unfinished .term) : Unfinished .term
  /-- A factor is wanted. -/
  | beforeFactor : Unfinished .factor
  | inParentheses (inner : Unfinished .expression) : Unfinished .factor
  /-- An expression has been read, and the closing parenthesis is wanted. -/
  | beforeClosing (inner : Derivation .expression) : Unfinished .factor
  | inNegated (operand : Unfinished .factor) : Unfinished .factor

namespace Unfinished

/-- The terminals that have been read. -/
def terminals : {rule : Rule} → Unfinished rule → List Terminal
  | _, .beforeTarget | _, .beforeFactor => []
  | _, .beforeEquals target => [(.identifier, target)]
  | _, .inValue target value => (.identifier, target) :: (.operator, "=") :: value.terminals
  | _, .beforeEnd target value => (.identifier, target) :: (.operator, "=") :: value.terminals
  | _, .inTerm term => term.terminals
  | _, .inSum left op _ right => left.terminals ++ op.terminal :: right.terminals
  | _, .inFactor factor => factor.terminals
  | _, .inProduct left op _ right => left.terminals ++ op.terminal :: right.terminals
  | _, .inParentheses inner => (.operator, "(") :: inner.terminals
  | _, .beforeClosing inner => (.operator, "(") :: inner.terminals
  | _, .inNegated operand => (.operator, "-") :: operand.terminals

/-- What is wanted next. -/
def wanted : {rule : Rule} → Unfinished rule → Wanted
  | _, .beforeTarget => .identifier
  | _, .beforeEquals _ => .equalsSign
  | _, .inValue _ value => value.wanted
  | _, .beforeEnd _ _ => .endOfInput
  | _, .inTerm term => term.wanted
  | _, .inSum _ _ _ right => right.wanted
  | _, .inFactor factor => factor.wanted
  | _, .inProduct _ _ _ right => right.wanted
  | _, .beforeFactor => .factor
  | _, .inParentheses inner => inner.wanted
  | _, .beforeClosing _ => .closingParenthesis
  | _, .inNegated operand => operand.wanted

/-- The rules that are open, innermost first. -/
def openRules : {rule : Rule} → Unfinished rule → List Rule
  | _, .beforeTarget | _, .beforeEquals _ | _, .beforeEnd _ _ => [.statement]
  | _, .inValue _ value => value.openRules ++ [.statement]
  | _, .inTerm term => term.openRules ++ [.expression]
  | _, .inSum _ _ _ right => right.openRules ++ [.expression]
  | _, .inFactor factor => factor.openRules ++ [.term]
  | _, .inProduct _ _ _ right => right.openRules ++ [.term]
  | _, .beforeFactor | _, .beforeClosing _ => [.factor]
  | _, .inParentheses inner => inner.openRules ++ [.factor]
  | _, .inNegated operand => operand.openRules ++ [.factor]

/-- The greatest number of expressions, terms and factors that have been open at once. -/
def depth : {rule : Rule} → Unfinished rule → Nat
  | _, .beforeTarget | _, .beforeEquals _ => 0
  | _, .inValue _ value => value.depth
  | _, .beforeEnd _ value => value.depth
  | _, .inTerm term => term.depth + 1
  | _, .inSum left _ _ right => max left.depth right.depth + 1
  | _, .inFactor factor => factor.depth + 1
  | _, .inProduct left _ _ right => max left.depth right.depth + 1
  | _, .beforeFactor => 1
  | _, .inParentheses inner => inner.depth + 1
  | _, .beforeClosing inner => inner.depth + 1
  | _, .inNegated operand => operand.depth + 1

/-- The syntax error at a token that is refused. -/
def errorAt {rule : Rule} (u : Unfinished rule) (bad : Token) : SyntaxError where
  problem :=
    if bad.kind = .endMarker then .endOfInput u.wanted
    else if u.wanted = .endOfInput then .trailingToken bad.text
    else .invalidToken u.wanted bad.text
  column := bad.column
  rules := u.openRules

private theorem prefix_append_cons {α : Type} {front whole : List α} {a : α} (left : List α) (sign : α)
    (reached : front ++ [a] <+: whole) :
    (left ++ sign :: front) ++ [a] <+: left ++ sign :: whole := by
  simpa using reached

/-- A derivation that breaks off goes on with every terminal that it wants. -/
theorem exists_completion {rule : Rule} (u : Unfinished rule) {terminal : Terminal}
    (notEnd : u.wanted ≠ .endOfInput) (admitted : u.wanted.admits terminal) :
    ∃ d : Derivation rule, u.terminals ++ [terminal] <+: d.terminals := by
  obtain ⟨kind, text⟩ := terminal
  induction u with
  | beforeTarget =>
    have name : kind = .identifier := admitted
    subst name
    exact ⟨.statement text (.ofTerm (.ofFactor (.integer "0"))), by simp [terminals, Derivation.terminals]⟩
  | beforeEquals target =>
    have sign : (kind, text) = (.operator, "=") := admitted
    rw [sign]
    exact ⟨.statement target (.ofTerm (.ofFactor (.integer "0"))), by
      simp [terminals, Derivation.terminals]⟩
  | inValue target value ih =>
    obtain ⟨d, reached⟩ := ih notEnd admitted
    exact ⟨.statement target d, by simpa [terminals, Derivation.terminals] using reached⟩
  | beforeEnd => exact absurd rfl notEnd
  | inTerm term ih =>
    obtain ⟨d, reached⟩ := ih notEnd admitted
    exact ⟨.ofTerm d, reached⟩
  | inSum left op isSum right ih =>
    obtain ⟨d, reached⟩ := ih notEnd admitted
    exact ⟨.sum left op isSum d, prefix_append_cons left.terminals op.terminal reached⟩
  | inFactor factor ih =>
    obtain ⟨d, reached⟩ := ih notEnd admitted
    exact ⟨.ofFactor d, reached⟩
  | inProduct left op isProduct right ih =>
    obtain ⟨d, reached⟩ := ih notEnd admitted
    exact ⟨.product left op isProduct d, prefix_append_cons left.terminals op.terminal reached⟩
  | beforeFactor =>
    simp only [wanted, Wanted.admits, List.mem_cons, List.not_mem_nil, or_false, Prod.mk.injEq] at admitted
    rcases admitted with (rfl | rfl | rfl) | ⟨rfl, rfl⟩ | ⟨rfl, rfl⟩
    · exact ⟨.integer text, by simp [terminals, Derivation.terminals]⟩
    · exact ⟨.float text, by simp [terminals, Derivation.terminals]⟩
    · exact ⟨.identifier text, by simp [terminals, Derivation.terminals]⟩
    · exact ⟨.parenthesized (.ofTerm (.ofFactor (.integer "0"))), by simp [terminals, Derivation.terminals]⟩
    · exact ⟨.negated (.integer "0"), by simp [terminals, Derivation.terminals]⟩
  | inParentheses inner ih =>
    obtain ⟨d, reached⟩ := ih notEnd admitted
    refine ⟨.parenthesized d, ?_⟩
    simp only [terminals, Derivation.terminals, List.cons_append, List.cons_prefix_cons, true_and]
    exact reached.trans (List.prefix_append _ _)
  | beforeClosing inner =>
    have sign : (kind, text) = (.operator, ")") := admitted
    rw [sign]
    exact ⟨.parenthesized inner, by simp [terminals, Derivation.terminals]⟩
  | inNegated operand ih =>
    obtain ⟨d, reached⟩ := ih notEnd admitted
    exact ⟨.negated d, by simpa [terminals, Derivation.terminals] using reached⟩

/-- Inside a statement the end of the input is never all that is wanted. -/
theorem wanted_ne_endOfInput {rule : Rule} (u : Unfinished rule) (inside : rule ≠ .statement) :
    u.wanted ≠ .endOfInput := by
  induction u with
  | beforeTarget | beforeEquals | inValue | beforeEnd => exact absurd rfl inside
  | beforeFactor | beforeClosing => simp [wanted]
  | inTerm _ ih | inSum _ _ _ _ ih | inFactor _ ih | inProduct _ _ _ _ ih | inParentheses _ ih
  | inNegated _ ih => exact ih (by simp)

/-- Where the end of the input is wanted, a statement is complete. -/
theorem exists_derivation_of_endOfInput (u : Unfinished .statement) (ended : u.wanted = .endOfInput) :
    ∃ d : Derivation .statement, d.terminals = u.terminals := by
  cases u with
  | beforeTarget | beforeEquals => simp [wanted] at ended
  | inValue target value => exact absurd ended (value.wanted_ne_endOfInput (by simp))
  | beforeEnd target value => exact ⟨.statement target value, rfl⟩

/-- What a derivation that breaks off has read begins some statement. -/
theorem viable_terminals (u : Unfinished .statement) : Viable u.terminals := by
  by_cases ended : u.wanted = .endOfInput
  · obtain ⟨d, same⟩ := u.exists_derivation_of_endOfInput ended
    exact ⟨d, same ▸ List.prefix_refl _⟩
  · obtain ⟨terminal, admitted⟩ := u.wanted.exists_admitted
    obtain ⟨d, reached⟩ := u.exists_completion ended admitted
    exact ⟨d, (List.prefix_append _ _).trans reached⟩

end Unfinished

end Formulary
