import Formulary.Proofs.Rejection

/-!
# The rules that are open at a syntax error

A syntax error names the rules that were open where it was found. They can be counted along the
terminals before it, without any grammar: each parenthesis that is still open has its own counts of
signs, and so has the statement around them all. What has been completed, a pair of parentheses
included, leaves nothing in these counts but the fact that an operand has been read.
-/

namespace Formulary

/-- What has been read inside one parenthesis, or outside of all of them. -/
structure Level where
  /-- The plus and minus signs that join two terms. -/
  sums : Nat := 0
  /-- The signs that join two factors, since the last of those. -/
  products : Nat := 0
  /-- The minus signs right before what comes next. -/
  minuses : Nat := 0
  /-- An operand has been read, and no sign after it. -/
  filled : Bool := false

namespace Level

def afterOperand (level : Level) : Level := { level with minuses := 0, filled := true }

def afterSum (level : Level) : Level := { sums := level.sums + 1 }

def afterProduct (level : Level) : Level := { sums := level.sums, products := level.products + 1 }

def afterMinus (level : Level) : Level := { level with minuses := level.minuses + 1 }

/-- Reads a terminal that is no parenthesis. A plus or minus sign joins two terms if it stands behind
    an operand; another minus sign negates. -/
def read (level : Level) (terminal : Terminal) : Level :=
  if level.filled ∧ terminal ∈ sumOperators.map BinaryOperator.terminal then level.afterSum
  else if terminal ∈ productOperators.map BinaryOperator.terminal then level.afterProduct
  else if terminal = (.operator, "-") then level.afterMinus
  else level.afterOperand

/-- The rules that are open at a level, from the outside in: one expression and one for each plus or
    minus sign, one term and one for each sign between factors, one factor and one for each minus sign
    before what comes next. -/
def rules (level : Level) : List Rule :=
  .replicate (level.sums + 1) .expression ++ .replicate (level.products + 1) .term ++
    .replicate (level.minuses + 1) .factor

end Level

/-- Reads a terminal at the innermost level, which comes first. A parenthesis that opens starts a level,
    and one that closes ends a level and is the end of an operand of the level around. -/
def readAt (levels : List Level) (terminal : Terminal) : List Level :=
  if terminal = (.operator, "(") then {} :: levels
  else if terminal = (.operator, ")") then levels.tail.modifyHead Level.afterOperand
  else levels.modifyHead (Level.read · terminal)

/-- The levels that are open after some terminals of an expression, innermost first. -/
def openLevels (terminals : List Terminal) : List Level :=
  terminals.foldl readAt [{}]

/-- The levels, of those that are open, in which something is unfinished. Where a closing parenthesis
    is wanted, the innermost level is complete. Before and after an expression there is none. -/
def Wanted.unfinished : Wanted → List Level → List Level
  | .factor, levels => levels
  | .closingParenthesis, levels => levels.tail
  | _, _ => []

/-- The rules that are open at some levels, innermost first, from the outside in. -/
def rulesAt (levels : List Level) : List Rule :=
  levels.reverse.flatMap Level.rules

@[simp] theorem rulesAt_cons (level : Level) (levels : List Level) :
    rulesAt (level :: levels) = rulesAt levels ++ level.rules := by
  simp [rulesAt]

section
variable {level : Level} {outer : List Level}

theorem readAt_opening (levels : List Level) : readAt levels (.operator, "(") = {} :: levels := rfl

theorem readAt_closing (inner : Level) :
    readAt (inner :: level :: outer) (.operator, ")") = level.afterOperand :: outer := rfl

theorem readAt_minus (empty : level.filled = false) :
    readAt (level :: outer) (.operator, "-") = level.afterMinus :: outer := by
  have negates : level.read (.operator, "-") = level.afterMinus := by
    rw [Level.read, if_neg (by simp [empty]), if_neg (by decide), if_pos rfl]
  rw [readAt, if_neg (by decide), if_neg (by decide), List.modifyHead_cons, negates]

theorem readAt_sum {op : BinaryOperator} (isSum : op ∈ sumOperators) (filled : level.filled) :
    readAt (level :: outer) op.terminal = level.afterSum :: outer := by
  have other : op.terminal ≠ (.operator, "(") ∧ op.terminal ≠ (.operator, ")") := by
    revert op
    decide
  have joins : level.read op.terminal = level.afterSum := by
    rw [Level.read, if_pos ⟨filled, List.mem_map_of_mem isSum⟩]
  rw [readAt, if_neg other.1, if_neg other.2, List.modifyHead_cons, joins]

theorem readAt_product {op : BinaryOperator} (isProduct : op ∈ productOperators) :
    readAt (level :: outer) op.terminal = level.afterProduct :: outer := by
  have other : op.terminal ∉ sumOperators.map BinaryOperator.terminal ∧ op.terminal ≠ (.operator, "(") ∧
      op.terminal ≠ (.operator, ")") := by
    revert op
    decide
  have joins : level.read op.terminal = level.afterProduct := by
    rw [Level.read, if_neg fun both => other.1 both.2, if_pos (List.mem_map_of_mem isProduct)]
  rw [readAt, if_neg other.2.1, if_neg other.2.2, List.modifyHead_cons, joins]

theorem readAt_literal {kind : TokenKind} (literal : kind ≠ .operator) (text : String) :
    readAt (level :: outer) (kind, text) = level.afterOperand :: outer := by
  simp [readAt, Level.read, sumOperators, productOperators, BinaryOperator.terminal, literal]

end

/-- What a complete derivation makes of the level at which it is read. -/
def Level.Passes (before after : Level) : Rule → Prop
  | .factor => after = before.afterOperand
  | .term => after.filled ∧ after.sums = before.sums
  | .expression => after.filled
  | .statement => True

/-- A complete derivation leaves the levels around as they are, and fills its own level. -/
theorem Derivation.foldl_readAt {rule : Rule} (d : Derivation rule) (inside : rule ≠ .statement) (level : Level)
    (empty : level.filled = false) (outer : List Level) :
    ∃ after, d.terminals.foldl readAt (level :: outer) = after :: outer ∧ level.Passes after rule := by
  induction d generalizing level outer with
  | statement => exact absurd rfl inside
  | ofTerm term ih =>
    obtain ⟨after, reads, filled, _⟩ := ih (by simp) level empty outer
    exact ⟨after, reads, filled⟩
  | ofFactor factor ih =>
    obtain ⟨_, reads, rfl⟩ := ih (by simp) level empty outer
    exact ⟨_, reads, rfl, rfl⟩
  | sum left op isSum right ihl ihr =>
    obtain ⟨between, reads, filled, _⟩ := ihl (by simp) level empty outer
    obtain ⟨after, reads', filled'⟩ := ihr (by simp) between.afterSum rfl outer
    refine ⟨after, ?_, filled'⟩
    rw [terminals, List.foldl_append, reads, List.foldl_cons, readAt_sum isSum filled, reads']
  | product left op isProduct right ihl ihr =>
    obtain ⟨_, reads, rfl⟩ := ihl (by simp) level empty outer
    obtain ⟨after, reads', filled, same⟩ := ihr (by simp) level.afterOperand.afterProduct rfl outer
    refine ⟨after, ?_, filled, same⟩
    rw [terminals, List.foldl_append, reads, List.foldl_cons, readAt_product isProduct, reads']
  | integer | float | identifier => exact ⟨level.afterOperand, by simp [terminals, readAt_literal], rfl⟩
  | parenthesized inner ih =>
    obtain ⟨after, reads, _⟩ := ih (by simp) {} rfl (level :: outer)
    refine ⟨_, ?_, rfl⟩
    rw [terminals, List.cons_append, List.foldl_cons, readAt_opening, List.foldl_append, reads]
    exact readAt_closing after
  | negated operand ih =>
    obtain ⟨_, reads, rfl⟩ := ih (by simp) level.afterMinus empty outer
    refine ⟨_, ?_, rfl⟩
    rw [terminals, List.foldl_cons, readAt_minus empty, reads]
    rfl

/-- A level at which a rule may begin. -/
def Level.Begins (level : Level) : Rule → Prop
  | .expression => ∃ sums, level = { sums }
  | .term => ∃ sums products, level = { sums, products }
  | .factor => level.filled = false
  | .statement => True

/-- The rules of a level that are open around the rule that begins there, from the outside in. -/
def Level.around (level : Level) : Rule → List Rule
  | .expression => .replicate level.sums .expression
  | .term => .replicate (level.sums + 1) .expression ++ .replicate level.products .term
  | .factor => .replicate (level.sums + 1) .expression ++ .replicate (level.products + 1) .term ++
      .replicate level.minuses .factor
  | .statement => []

theorem Level.rules_eq (level : Level) : level.rules = level.around .factor ++ [.factor] := by
  simp [rules, around, List.replicate_succ']

private theorem append_openRules {outer before after inner : List Rule} {rule : Rule}
    (oneMore : after = before ++ [rule]) :
    outer ++ after ++ inner.reverse = outer ++ before ++ (inner ++ [rule]).reverse := by
  simp [oneMore]

/-- The rules around a derivation that breaks off, and those that are open in it, are the rules of the
    levels that its terminals leave unfinished. -/
theorem Unfinished.rulesAt_eq {rule : Rule} (u : Unfinished rule) (inside : rule ≠ .statement) (level : Level)
    (begins : level.Begins rule) (outer : List Level) :
    rulesAt (u.wanted.unfinished (u.terminals.foldl readAt (level :: outer))) =
      rulesAt outer ++ level.around rule ++ u.openRules.reverse := by
  -- One rule more is open around the part that breaks off than around the whole, and the terminals
  -- before that part add one to the count of that rule.
  induction u generalizing level outer with
  | beforeTarget | beforeEquals | inValue | beforeEnd => exact absurd rfl inside
  | inTerm term ih =>
    obtain ⟨sums, rfl⟩ := begins
    refine (ih (by simp) { sums } ⟨sums, 0, rfl⟩ outer).trans (append_openRules ?_)
    simp [Level.around, List.replicate_succ']
  | inSum left op isSum right ih =>
    obtain ⟨sums, rfl⟩ := begins
    obtain ⟨between, reads, filled, same⟩ := left.foldl_readAt (by simp) { sums } rfl outer
    rw [terminals, List.foldl_append, reads, List.foldl_cons, readAt_sum isSum filled]
    refine (ih (by simp) between.afterSum ⟨_, rfl⟩ outer).trans (append_openRules ?_)
    simp [Level.around, Level.afterSum, same, List.replicate_succ']
  | inFactor factor ih =>
    obtain ⟨sums, products, rfl⟩ := begins
    refine (ih (by simp) { sums, products } rfl outer).trans (append_openRules ?_)
    simp [Level.around, List.replicate_succ']
  | inProduct left op isProduct right ih =>
    obtain ⟨sums, products, rfl⟩ := begins
    obtain ⟨_, reads, rfl⟩ := left.foldl_readAt (by simp) { sums, products } rfl outer
    rw [terminals, List.foldl_append, reads, List.foldl_cons, readAt_product isProduct]
    refine (ih (by simp) _ ⟨sums, products + 1, rfl⟩ outer).trans (append_openRules ?_)
    simp [Level.around, List.replicate_succ']
  | beforeFactor =>
    change rulesAt (level :: outer) = rulesAt outer ++ level.around .factor ++ [.factor]
    rw [rulesAt_cons, Level.rules_eq, List.append_assoc]
  | inParentheses inner ih =>
    rw [terminals, List.foldl_cons, readAt_opening]
    refine (ih (by simp) {} ⟨0, rfl⟩ (level :: outer)).trans ?_
    simp [rulesAt_cons, Level.rules_eq, openRules, Level.around]
  | beforeClosing inner =>
    obtain ⟨after, reads, _⟩ := inner.foldl_readAt (by simp) {} rfl (level :: outer)
    rw [terminals, List.foldl_cons, readAt_opening, reads]
    change rulesAt (level :: outer) = rulesAt outer ++ level.around .factor ++ [.factor]
    rw [rulesAt_cons, Level.rules_eq, List.append_assoc]
  | inNegated operand ih =>
    rw [terminals, List.foldl_cons, readAt_minus begins]
    refine (ih (by simp) level.afterMinus begins outer).trans (append_openRules ?_)
    simp [Level.around, Level.afterMinus, List.replicate_succ']

/-- The rules that are open where a statement breaks off are the statement, and those of the levels that
    the terminals of its expression leave unfinished. -/
theorem Unfinished.openRules_reverse_eq (u : Unfinished .statement) :
    u.openRules.reverse = .statement :: rulesAt (u.wanted.unfinished (openLevels (u.terminals.drop 2))) := by
  cases u with
  | beforeTarget | beforeEquals | beforeEnd => rfl
  | inValue target value =>
    have inside := value.rulesAt_eq (by simp) {} ⟨0, rfl⟩ []
    simp only [openRules, terminals, wanted, List.reverse_append, List.drop_succ_cons, List.drop_zero, openLevels]
    rw [inside]
    rfl

theorem Cursor.exists_unfinished_of_parse {tokens : List Token} {cursor stop : Cursor} {error : SyntaxError}
    (fresh : ofTokens tokens = .ok cursor) (failed : cursor.parse = .error (.syntaxError error) stop) :
    ∃ (u : Unfinished .statement) (bad : Terminal) (rest : List Terminal), u.depth ≤ ruleLimit ∧
      tokens.map Token.terminal = u.terminals ++ bad :: rest ∧ u.wanted.refuses bad := by
  have ahead := (ofTokens_eq_ok_iff.1 fresh).2.2
  have closed := closed_of_ofTokens fresh
  have something : cursor.upcoming ≠ [] := by simpa [upcoming, ahead] using closed.ne_nil
  rcases Verdict.total .statement ruleLimit cursor something with
    ⟨d, marker, rest, fits, split, ended⟩ | ⟨u, bad, rest, fits, split, refused⟩ | ⟨deepStop, deep, _⟩
  · have parsed : cursor.parse = .ok d.tree _ := d.read fits split ended
    rw [parsed] at failed
    cases failed
  · exact ⟨u, bad, rest, fits, by rw [← split, upcoming, ahead], refused⟩
  · have deep : cursor.parse = .error .nestedTooDeeply deepStop := deep
    rw [deep] at failed
    cases failed

/-- A syntax error of a fresh cursor names the rules that are open before the token under the cursor.
    These are the statement, and, if the error is inside its expression, those of the levels that the
    tokens between the equals sign and that token leave unfinished. -/
theorem Cursor.parse_syntaxError_rules {tokens : List Token} {cursor stop : Cursor} {error : SyntaxError}
    (fresh : ofTokens tokens = .ok cursor) (failed : cursor.parse = .error (.syntaxError error) stop) :
    ∃ i bad, stop.position = i + 1 ∧ stop.current = bad ∧ tokens[i]? = some bad ∧
      error.rules.reverse = .statement ::
        rulesAt (error.problem.wanted.unfinished (openLevels (((tokens.take i).drop 2).map Token.terminal))) := by
  obtain ⟨u, bad, rest, fits, coming, refused⟩ := exists_unfinished_of_parse fresh failed
  obtain ⟨token, stop', failed', current, position, found, _⟩ := u.parse_eq fresh fits coming refused
  rw [failed'] at failed
  cases failed
  have front : (tokens.take u.terminals.length).map Token.terminal = u.terminals := by
    rw [List.map_take, coming, List.take_left]
  refine ⟨u.terminals.length, token, position, current, found, ?_⟩
  rw [List.map_drop, front, u.wanted_problem_errorAt]
  exact u.openRules_reverse_eq

/-- Before the end of `x = 1 + 2 * -(3 - -` two levels are open: in the outer one a sum, a product and a
    negation have begun, in the inner one a difference and a negation. -/
theorem Cursor.parse_syntaxError_rules_nested :
    ∃ tokens cursor error stop, tokenize "x = 1 + 2 * -(3 - -" = .ok tokens ∧ ofTokens tokens = .ok cursor ∧
      cursor.parse = .error (.syntaxError error) stop ∧
      error.rules.reverse = [.statement, .expression, .expression, .term, .term, .factor, .factor,
        .expression, .expression, .term, .factor, .factor] := by
  have lexed : tokenize "x = 1 + 2 * -(3 - -" = .ok [⟨.identifier, "x", 1⟩, ⟨.operator, "=", 3⟩,
      ⟨.integer, "1", 5⟩, ⟨.operator, "+", 7⟩, ⟨.integer, "2", 9⟩, ⟨.operator, "*", 11⟩, ⟨.operator, "-", 13⟩,
      ⟨.operator, "(", 14⟩, ⟨.integer, "3", 15⟩, ⟨.operator, "-", 17⟩, ⟨.operator, "-", 19⟩,
      .endMarker 20] := by
    decide +kernel
  obtain ⟨cursor, fresh⟩ := exists_ofTokens (closed_of_tokenize lexed)
  obtain ⟨error, stop, position, wanted, failed⟩ : ∃ error stop, stop.position = 12 ∧
      error.problem.wanted = .factor ∧ cursor.parse = .error (.syntaxError error) stop := by
    cases fresh
    exact ⟨_, _, rfl, rfl, rfl⟩
  obtain ⟨i, bad, position', _, _, rules⟩ := parse_syntaxError_rules fresh failed
  obtain rfl : i = 11 := Nat.succ.inj (position'.symm.trans position)
  rw [wanted] at rules
  exact ⟨_, cursor, error, stop, lexed, fresh, failed, rules⟩

end Formulary
