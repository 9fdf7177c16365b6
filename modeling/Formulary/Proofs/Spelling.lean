import Formulary.Proofs.LongestMatch
import Formulary.Proofs.Parsing
import Formulary.Tree.Printer

/-!
# Derivations as texts

A derivation whose terminals are complete lexemes can be written as a text, with a space on both
sides of every binary operator and of the equals sign. The text is lexed to the terminals, and parsed
to the tree of the derivation. The tree of every source comes from such a derivation.
-/

namespace Formulary
open Formulary.Lexeme

namespace Derivation

/-- The text of a derivation. -/
def text : {rule : Rule} → Derivation rule → String
  | _, .statement target value => target ++ " = " ++ value.text
  | _, .ofTerm term => term.text
  | _, .sum left op _ right => left.text ++ " " ++ op.text ++ " " ++ right.text
  | _, .ofFactor factor => factor.text
  | _, .product left op _ right => left.text ++ " " ++ op.text ++ " " ++ right.text
  | _, .integer text => text
  | _, .float text => text
  | _, .identifier text => text
  | _, .parenthesized inner => Tree.parenthesized inner.text
  | _, .negated operand => "-" ++ operand.text

/-- All terminals of a derivation are complete lexemes. -/
def Lexical {rule : Rule} (d : Derivation rule) : Prop :=
  ∀ terminal ∈ d.terminals, IsLexeme terminal.1 terminal.2.toList

end Derivation

theorem BinaryOperator.exists_character {op : BinaryOperator} (known : ∀ text, op ≠ .unknown text) :
    ∃ c ∈ operators, op.text = String.ofList [c] := by
  cases op with
  | assign => exact ⟨'=', by decide, rfl⟩
  | add => exact ⟨'+', by decide, rfl⟩
  | subtract => exact ⟨'-', by decide, rfl⟩
  | multiply => exact ⟨'*', by decide, rfl⟩
  | divide => exact ⟨'/', by decide, rfl⟩
  | unknown text => exact absurd rfl (known text)

namespace Spelled

variable {rest : List Char} {terminals : List Terminal}

theorem operator {c : Char} {text : String} (isOperator : c ∈ operators) (single : text = String.ofList [c])
    (spelled : Spelled rest terminals) : Spelled (c :: rest) ((.operator, text) :: terminals) := by
  subst single
  have isLexeme : IsLexeme .operator [c] := ⟨c, isOperator, rfl⟩
  have found : atHead? ([c] ++ rest) = some (.operator, [c]) := atHead?_operator isOperator rest
  exact .lexeme isLexeme.not_isBlank found spelled

theorem spaced {op : BinaryOperator} (known : ∀ text, op ≠ .unknown text) (spelled : Spelled rest terminals) :
    Spelled (" ".toList ++ (op.text.toList ++ (" ".toList ++ rest))) (op.terminal :: terminals) := by
  obtain ⟨c, isOperator, single⟩ := BinaryOperator.exists_character known
  have character : op.text.toList = [c] := by rw [single, String.toList_ofList]
  rw [character]
  have after : Spelled (' ' :: rest) terminals := .blank (by decide) spelled
  exact .blank (by decide) (.operator isOperator single after)

theorem append {kind : TokenKind} {text : String} (isLexeme : IsLexeme kind text.toList) (apart : Apart rest)
    (spelled : Spelled rest terminals) : Spelled (text.toList ++ rest) ((kind, text) :: terminals) := by
  obtain ⟨c, more, same⟩ := List.exists_cons_of_ne_nil isLexeme.ne_nil
  have found := isLexeme.atHead?_append apart
  have whole : text = String.ofList (c :: more) := by rw [← same, String.ofList_toList]
  rw [same] at isLexeme found ⊢
  rw [whole]
  exact .lexeme isLexeme.not_isBlank found spelled

end Spelled

/-- The text of a derivation is lexed to its terminals, unless what follows goes on with the last one. -/
theorem Derivation.spelled {rule : Rule} {d : Derivation rule} (lexical : d.Lexical) {rest : List Char}
    {following : List Terminal} (apart : Apart rest) (spelled : Spelled rest following) :
    Spelled (d.text.toList ++ rest) (d.terminals ++ following) := by
  induction d generalizing rest following with
  | statement target value ih =>
    simp only [Lexical, terminals, List.forall_mem_cons] at lexical
    obtain ⟨name, _, lexical⟩ := lexical
    have known : ∀ text, BinaryOperator.assign ≠ .unknown text := by simp
    have value := Spelled.spaced known (ih lexical apart spelled)
    simp only [text, terminals, String.toList_append, List.append_assoc, List.cons_append]
    exact .append name (apart_cons (by decide) (by decide)) value
  | ofTerm _ ih | ofFactor _ ih => exact ih lexical apart spelled
  | sum left op member right ihl ihr | product left op member right ihl ihr =>
    simp only [Lexical, terminals, List.forall_mem_append, List.forall_mem_cons] at lexical
    obtain ⟨lexicalLeft, _, lexicalRight⟩ := lexical
    have known : ∀ text, op ≠ .unknown text := by
      rintro text rfl
      simp [sumOperators, productOperators] at member
    have right := Spelled.spaced known (ihr lexicalRight apart spelled)
    simp only [text, terminals, String.toList_append, List.append_assoc, List.cons_append]
    exact ihl lexicalLeft (apart_cons (by decide) (by decide)) right
  | integer text | float text | identifier text =>
    exact .append (lexical _ List.mem_cons_self) apart spelled
  | parenthesized inner ih =>
    simp only [Lexical, terminals, List.cons_append, List.forall_mem_cons, List.forall_mem_append] at lexical
    obtain ⟨_, lexical, _⟩ := lexical
    have closing : Spelled (')' :: rest) ((.operator, ")") :: following) :=
      .operator (by decide) (by decide) spelled
    have inside := ih lexical (apart_cons (by decide) (by decide)) closing
    simp only [text, terminals, Tree.parenthesized, String.toList_append, List.append_assoc, List.cons_append,
      List.nil_append]
    exact .operator (by decide) (by decide) inside
  | negated operand ih =>
    simp only [Lexical, terminals, List.forall_mem_cons] at lexical
    simp only [text, terminals, String.toList_append, List.append_assoc, List.cons_append]
    exact .operator (by decide) (by decide) (ih lexical.2 apart spelled)

/-- The kind of the tokens that a literal stands for. -/
def LiteralKind.tokenKind : LiteralKind → TokenKind
  | .integer => .integer
  | .float => .float
  | .identifier => .identifier
  | .unknown text => .other text

/-- A tree of sums, products, negations and complete lexemes. -/
inductive Tree.IsExpression : Tree → Prop where
  | binary {op : BinaryOperator} {left right : Tree} (known : op ∈ sumOperators ++ productOperators)
      (isLeft : left.IsExpression) (isRight : right.IsExpression) : IsExpression (.binary op left right)
  | negation {operand : Tree} (isOperand : operand.IsExpression) : IsExpression (.unary .negate operand)
  | literal {text : String} {kind : LiteralKind} (isLexeme : IsLexeme kind.tokenKind text.toList) :
      IsExpression (.literal text kind)

/-- An expression that is assigned to an identifier. -/
inductive Tree.IsStatement : Tree → Prop where
  | assignment {target : String} {value : Tree} (name : IsIdentifier target.toList)
      (isValue : value.IsExpression) : IsStatement (.binary .assign (.literal target .identifier) value)

/-- The tree of a derivation with complete lexemes is an expression. -/
theorem Derivation.isExpression_tree {rule : Rule} {d : Derivation rule} (inside : rule ≠ .statement)
    (lexical : d.Lexical) :
    d.tree.IsExpression := by
  induction d with
  | statement => exact absurd rfl inside
  | ofTerm _ ih | ofFactor _ ih => exact ih (by simp) lexical
  | sum left op isSum right ihl ihr =>
    simp only [Lexical, terminals, List.forall_mem_append, List.forall_mem_cons] at lexical
    exact .binary (List.mem_append_left _ isSum) (ihl (by simp) lexical.1) (ihr (by simp) lexical.2.2)
  | product left op isProduct right ihl ihr =>
    simp only [Lexical, terminals, List.forall_mem_append, List.forall_mem_cons] at lexical
    exact .binary (List.mem_append_right _ isProduct) (ihl (by simp) lexical.1) (ihr (by simp) lexical.2.2)
  | integer | float | identifier => exact .literal (lexical _ List.mem_cons_self)
  | parenthesized inner ih =>
    simp only [Lexical, terminals, List.cons_append, List.forall_mem_cons, List.forall_mem_append] at lexical
    exact ih (by simp) lexical.2.1
  | negated operand ih =>
    simp only [Lexical, terminals, List.forall_mem_cons] at lexical
    exact .negation (ih (by simp) lexical.2)

theorem parse_of_tokenize {source : String} {tokens : List Token} (lexed : tokenize source = .ok tokens) :
    parse source = parseTokens tokens := by
  rw [parse, lexed]
  rfl

/-- A source that spells a statement is parsed to its tree, unless it is nested too deeply, which takes
    more than a hundred tokens; it is not if the derivation fits into the room there is. -/
theorem Derivation.parse_of_spelled {d : Derivation .statement} {source : String}
    (spelled : Spelled source.toList d.terminals) :
    (parse source = .ok d.tree ∨ parse source = .error .nestedTooDeeply ∧
        ∃ tokens, tokenize source = .ok tokens ∧ 100 < tokens.length) ∧
      (d.depth ≤ ruleLimit → parse source = .ok d.tree) := by
  obtain ⟨tokens, lexed, terminals⟩ := spelled.tokenize
  have closed := closed_of_tokenize lexed
  have same : sentence tokens = d.terminals := sentence_eq_of_split terminals d.kind_ne_endMarker rfl
  rw [parse_of_tokenize lexed]
  refine ⟨?_, parseTokens_of_fits closed d same.symm⟩
  rcases parseTokens_cases closed with ⟨e, same', fits⟩ | ⟨_, none⟩ | ⟨tooDeep, long⟩
  · left
    rw [parseTokens_of_fits closed e same' fits, Derivation.tree_eq (same'.trans same)]
  · exact absurd ⟨d.tree, d, same.symm, rfl⟩ none
  · exact .inr ⟨tooDeep, tokens, lexed, long⟩

/-- The text of a statement is parsed to its tree, unless it is nested too deeply; it is not if the
    derivation fits into the room there is. -/
theorem Derivation.parse_text {d : Derivation .statement} (lexical : d.Lexical) :
    (parse d.text = .ok d.tree ∨ parse d.text = .error .nestedTooDeeply) ∧
      (d.depth ≤ ruleLimit → parse d.text = .ok d.tree) := by
  have spelled := d.spelled lexical apart_nil .nil
  rw [List.append_nil, List.append_nil] at spelled
  obtain ⟨parsed, fits⟩ := Derivation.parse_of_spelled spelled
  exact ⟨parsed.imp_right And.left, fits⟩

/-- The tree of a source comes from a derivation of its tokens that fits into the room there is. -/
theorem exists_tokens_of_parse {source : String} {tree : Tree} (parsed : parse source = .ok tree) :
    ∃ tokens, tokenize source = .ok tokens ∧
      ∃ d : Derivation .statement, d.terminals = sentence tokens ∧ d.depth ≤ ruleLimit ∧ d.tree = tree := by
  cases lexed : tokenize source with
  | error error =>
    rw [parse, lexed] at parsed
    cases parsed
  | ok tokens =>
    have closed := closed_of_tokenize lexed
    rw [parse_of_tokenize lexed] at parsed
    refine ⟨tokens, rfl, ?_⟩
    rcases parseTokens_cases closed with ⟨d, same, fits⟩ | ⟨⟨error, failed⟩, _⟩ | ⟨tooDeep, _⟩
    · rw [parseTokens_of_fits closed d same fits] at parsed
      exact ⟨d, same, fits, Except.ok.inj parsed⟩
    · rw [failed] at parsed
      cases parsed
    · rw [tooDeep] at parsed
      cases parsed

/-- The tree of a source comes from a derivation of what a walk to its end finds. -/
theorem exists_walk_of_parse {source : String} {tree : Tree} (parsed : parse source = .ok tree) :
    ∃ found, tokenize source = .ok (found ++ [.endMarker (columnAfter source.toList.length)]) ∧
      Reaches 0 source.toList found source.toList.length [] ∧ (∀ token ∈ found, token.StandsIn source.toList) ∧
      ∃ d : Derivation .statement, d.terminals = found.map Token.terminal ∧ d.depth ≤ ruleLimit ∧ d.tree = tree := by
  obtain ⟨tokens, lexed, d, same, fits, rfl⟩ := exists_tokens_of_parse parsed
  obtain ⟨found, rfl, reaches, stand⟩ := exists_walk_of_tokenize lexed
  refine ⟨found, lexed, reaches, stand, d, ?_, fits, rfl⟩
  have noMarker : ∀ terminal ∈ found.map Token.terminal, terminal.1 ≠ .endMarker := by
    intro terminal member
    obtain ⟨token, inside, rfl⟩ := List.mem_map.1 member
    exact (stand token inside).kind_ne_endMarker
  rw [same, sentence_eq_of_split (by rw [List.map_append, List.map_singleton]) noMarker rfl]

/-- The tree of a source comes from a derivation that fits into the room there is, and whose terminals
    are complete lexemes. -/
theorem exists_derivation_of_parse {source : String} {tree : Tree} (parsed : parse source = .ok tree) :
    ∃ d : Derivation .statement, d.Lexical ∧ d.depth ≤ ruleLimit ∧ d.tree = tree := by
  obtain ⟨found, _, _, stand, d, same, fits, rfl⟩ := exists_walk_of_parse parsed
  refine ⟨d, ?_, fits, rfl⟩
  intro terminal member
  rw [same] at member
  obtain ⟨token, inside, rfl⟩ := List.mem_map.1 member
  obtain ⟨_, _, _, isLexeme⟩ := stand token inside
  exact isLexeme

/-- The tree of a source is a statement. -/
theorem isStatement_of_parse {source : String} {tree : Tree} (parsed : parse source = .ok tree) :
    tree.IsStatement := by
  obtain ⟨d, lexical, _, rfl⟩ := exists_derivation_of_parse parsed
  cases d with
  | statement target value =>
    simp only [Derivation.Lexical, Derivation.terminals, List.forall_mem_cons] at lexical
    exact .assignment lexical.1 (value.isExpression_tree (by simp) lexical.2.2)

end Formulary
