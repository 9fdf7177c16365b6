import Mathlib.Data.List.Basic
import Formulary.Tree.Parser
import Formulary.Proofs.Grammar

/-!
# Reading follows the grammar

A rule of the reader comes to one of three ends: it has read a derivation and answers with its tree,
it stands on a token that a derivation broken off there refuses, or it needs more rules open at once
than it may have. Conversely each derivation, broken off or not, that fits into the room there is
read to its end.
-/

namespace Formulary

namespace Cursor

/-- The terminals ahead of a cursor. -/
def upcoming (cursor : Cursor) : List Terminal := cursor.ahead.map Token.terminal

theorem ahead_eq_of_upcoming {cursor : Cursor} {next : Terminal} {rest : List Terminal}
    (coming : cursor.upcoming = next :: rest) :
    ∃ token tokens, cursor.ahead = token :: tokens ∧ token.terminal = next ∧
      tokens.map Token.terminal = rest := by
  obtain ⟨token, tokens, same, first, others⟩ := List.map_eq_cons_iff.1 coming
  exact ⟨token, tokens, same, first, others⟩

theorem advance_of_ahead {cursor : Cursor} {token : Token} {tokens : List Token}
    (same : cursor.ahead = token :: tokens) :
    cursor.advance.current = token ∧ cursor.advance.ahead = tokens ∧
      cursor.advance.retreat? = some cursor ∧ cursor.advance.position = cursor.position + 1 := by
  obtain ⟨behind, current, ahead, closed⟩ := cursor
  subst same
  simp [advance, retreat?, position]

theorem terminal_current_advance {cursor : Cursor} {next : Terminal} {rest : List Terminal}
    (coming : cursor.upcoming = next :: rest) : cursor.advance.current.terminal = next := by
  obtain ⟨token, tokens, same, first, _⟩ := ahead_eq_of_upcoming coming
  rw [(advance_of_ahead same).1, first]

theorem upcoming_advance {cursor : Cursor} {next : Terminal} {rest : List Terminal}
    (coming : cursor.upcoming = next :: rest) : cursor.advance.upcoming = rest := by
  obtain ⟨token, tokens, same, _, others⟩ := ahead_eq_of_upcoming coming
  rw [upcoming, (advance_of_ahead same).2.1, others]

theorem retreat?_advance {cursor : Cursor} {next : Terminal} {rest : List Terminal}
    (coming : cursor.upcoming = next :: rest) : cursor.advance.retreat? = some cursor := by
  obtain ⟨token, tokens, same, _, _⟩ := ahead_eq_of_upcoming coming
  exact (advance_of_ahead same).2.2.1

theorem position_advance {cursor : Cursor} {next : Terminal} {rest : List Terminal}
    (coming : cursor.upcoming = next :: rest) : cursor.advance.position = cursor.position + 1 := by
  obtain ⟨token, tokens, same, _, _⟩ := ahead_eq_of_upcoming coming
  exact (advance_of_ahead same).2.2.2

/-- The cursor after so many terminals. -/
def past (cursor : Cursor) (front : List Terminal) : Cursor :=
  front.foldl (fun place _ => place.advance) cursor

@[simp] theorem past_nil (cursor : Cursor) : cursor.past [] = cursor := rfl

@[simp] theorem past_cons (cursor : Cursor) (next : Terminal) (front : List Terminal) :
    cursor.past (next :: front) = cursor.advance.past front := rfl

@[simp] theorem past_append (cursor : Cursor) (front back : List Terminal) :
    cursor.past (front ++ back) = (cursor.past front).past back :=
  List.foldl_append

theorem upcoming_past {cursor : Cursor} {front rest : List Terminal}
    (coming : cursor.upcoming = front ++ rest) : (cursor.past front).upcoming = rest := by
  induction front generalizing cursor with
  | nil => exact coming
  | cons next front ih => exact ih (upcoming_advance coming)

theorem position_past {cursor : Cursor} {front rest : List Terminal}
    (coming : cursor.upcoming = front ++ rest) :
    (cursor.past front).position = cursor.position + front.length := by
  induction front generalizing cursor with
  | nil => rfl
  | cons next front ih =>
    rw [past_cons, ih (upcoming_advance coming), position_advance coming, List.length_cons]
    omega

@[simp] theorem toList_past (cursor : Cursor) (front : List Terminal) :
    (cursor.past front).toList = cursor.toList := by
  induction front generalizing cursor with
  | nil => rfl
  | cons next front ih => rw [past_cons, ih, toList_advance]

theorem getElem?_toList_position (cursor : Cursor) : cursor.toList[cursor.position]? = some cursor.current := by
  simp [toList, position]

/-- The last token is an end marker, so something follows every other terminal. -/
theorem exists_next {cursor : Cursor} {next : Terminal} {rest : List Terminal}
    (coming : cursor.upcoming = next :: rest) (goesOn : next.1 ≠ .endMarker) :
    ∃ following more, rest = following :: more := by
  obtain ⟨token, tokens, same, rfl, rfl⟩ := ahead_eq_of_upcoming coming
  cases tokens with
  | cons following more => exact ⟨_, _, rfl⟩
  | nil =>
    have closed := cursor.closed
    rw [same] at closed
    exact absurd closed goesOn

end Cursor

namespace Reader

variable {α β : Type} {cursor stop : Cursor}

theorem bind_of_ok {x : Reader Cursor α} {f : α → Reader Cursor β} {a : α} (read : x cursor = .ok a stop) :
    (x >>= f) cursor = f a stop := by
  simp [bind, EStateM.bind, read]

theorem bind_of_error {x : Reader Cursor α} {f : α → Reader Cursor β} {error : Error}
    (failed : x cursor = .error error stop) : (x >>= f) cursor = .error error stop := by
  simp [bind, EStateM.bind, failed]

theorem within_of_ok {rule : Rule} {body : Reader Cursor α} {a : α} (read : body cursor = .ok a stop) :
    within rule body cursor = .ok a stop := by
  simp [within, read]

theorem within_of_syntaxError {rule : Rule} {body : Reader Cursor α} {error : SyntaxError}
    (failed : body cursor = .error (.syntaxError error) stop) :
    within rule body cursor = .error (.syntaxError (error.addRule rule)) stop := by
  simp [within, failed]

theorem within_of_tooDeep {rule : Rule} {body : Reader Cursor α}
    (failed : body cursor = .error .nestedTooDeeply stop) :
    within rule body cursor = .error .nestedTooDeeply stop := by
  simp [within, failed]

theorem next_eq (cursor : Cursor) : next cursor = .ok cursor.advance.current cursor.advance := rfl

/-- The syntax error at a token, seen from inside the innermost rule. -/
def wantedAt (wanted : Wanted) (bad : Token) : SyntaxError where
  problem := if bad.kind = .endMarker then .endOfInput wanted else .invalidToken wanted bad.text
  column := bad.column

theorem fail_eq (wanted : Wanted) (cursor : Cursor) :
    (fail wanted : Reader Cursor α) cursor = .error (.syntaxError (wantedAt wanted cursor.current)) cursor :=
  rfl

theorem retreat_of_retreat? {previous : Cursor} (back : cursor.retreat? = some previous) :
    Movable.retreat cursor = .ok () previous := by
  obtain ⟨behind, current, ahead, closed⟩ := cursor
  cases behind with
  | nil => cases back
  | cons token behind =>
    cases back
    rfl

section Operators
variable {text : String} {wanted : Wanted} {found : Terminal} {rest : List Terminal}

theorem expectOperator_of_eq (coming : cursor.upcoming = (.operator, text) :: rest) :
    expectOperator text wanted cursor = .ok () cursor.advance := by
  have same := Token.isOperator_iff.2 (Cursor.terminal_current_advance coming)
  rw [expectOperator, bind_of_ok (next_eq cursor), if_pos same]
  rfl

theorem expectOperator_of_ne (coming : cursor.upcoming = found :: rest)
    (other : found ≠ (.operator, text)) :
    expectOperator text wanted cursor =
      .error (.syntaxError (wantedAt wanted cursor.advance.current)) cursor.advance := by
  have different : ¬ cursor.advance.current.isOperator text := by
    rwa [Token.isOperator_iff, Cursor.terminal_current_advance coming]
  rw [expectOperator, bind_of_ok (next_eq cursor), if_neg different, fail_eq]

end Operators

section Choices
variable {choices : List BinaryOperator} {op : BinaryOperator} {found : Terminal} {rest : List Terminal}

/-- Operators that are told apart by their texts. -/
def Distinct (choices : List BinaryOperator) : Prop :=
  ∀ op ∈ choices, ∀ other ∈ choices, op.text = other.text → op = other

theorem distinct_sumOperators : Distinct sumOperators := by
  simp [Distinct, sumOperators, BinaryOperator.text]

theorem distinct_productOperators : Distinct productOperators := by
  simp [Distinct, productOperators, BinaryOperator.text]

theorem takeOperator_of_mem (distinct : Distinct choices) (member : op ∈ choices)
    (coming : cursor.upcoming = op.terminal :: rest) :
    takeOperator choices cursor = .ok (some op) cursor.advance := by
  have current := Cursor.terminal_current_advance coming
  have found : choices.find? (cursor.advance.current.isOperator ·.text) = some op := by
    cases search : choices.find? (cursor.advance.current.isOperator ·.text) with
    | none =>
      have missing := List.find?_eq_none.1 search op member
      exact absurd (Token.isOperator_iff.2 current) missing
    | some other =>
      have holds : cursor.advance.current.isOperator other.text := by simpa using List.find?_some search
      have same := Token.isOperator_iff.1 holds
      have texts : op.text = other.text := congrArg Prod.snd (current.symm.trans same)
      rw [distinct op member other (List.mem_of_find?_eq_some search) texts]
  rw [takeOperator, bind_of_ok (next_eq cursor), found]
  rfl

theorem takeOperator_of_not_mem (coming : cursor.upcoming = found :: rest)
    (others : ∀ op ∈ choices, found ≠ op.terminal) :
    takeOperator choices cursor = .ok none cursor := by
  have missing : choices.find? (cursor.advance.current.isOperator ·.text) = none := by
    rw [List.find?_eq_none]
    intro op member
    rw [Token.isOperator_iff, Cursor.terminal_current_advance coming]
    exact others op member
  rw [takeOperator, bind_of_ok (next_eq cursor), missing]
  exact bind_of_ok (retreat_of_retreat? (Cursor.retreat?_advance coming))

end Choices

section
variable {σ : Type} [Movable σ]

theorem expression_succ (room : Nat) :
    (expression (room + 1) : Reader σ Tree) =
      within .expression (chain (term room) (expression room) sumOperators) := by
  rw [expression]
  rfl

theorem term_succ (room : Nat) :
    (term (room + 1) : Reader σ Tree) =
      within .term (chain (factor room) (term room) productOperators) := by
  rw [term]
  rfl

end

section Chain
variable {operand more : Reader Cursor Tree} {choices : List BinaryOperator} {after : Cursor}
  {left right : Tree} {op : BinaryOperator} {next : Terminal} {rest : List Terminal} {error : Error}

theorem chain_of_error (failed : operand cursor = .error error stop) :
    chain operand more choices cursor = .error error stop :=
  bind_of_error failed

theorem chain_of_end (read : operand cursor = .ok left after) (coming : after.upcoming = next :: rest)
    (others : ∀ op ∈ choices, next ≠ op.terminal) :
    chain operand more choices cursor = .ok left after := by
  rw [chain, bind_of_ok read, bind_of_ok (takeOperator_of_not_mem coming others)]
  rfl

theorem chain_of_operator (distinct : Distinct choices) (member : op ∈ choices)
    (read : operand cursor = .ok left after) (coming : after.upcoming = op.terminal :: rest) :
    chain operand more choices cursor = (more >>= fun right => pure (.binary op left right)) after.advance := by
  rw [chain, bind_of_ok read, bind_of_ok (takeOperator_of_mem distinct member coming)]

theorem chain_of_more (distinct : Distinct choices) (member : op ∈ choices)
    (read : operand cursor = .ok left after) (coming : after.upcoming = op.terminal :: rest)
    (moreRead : more after.advance = .ok right stop) :
    chain operand more choices cursor = .ok (.binary op left right) stop := by
  rw [chain_of_operator distinct member read coming, bind_of_ok moreRead]
  rfl

theorem chain_of_more_error (distinct : Distinct choices) (member : op ∈ choices)
    (read : operand cursor = .ok left after) (coming : after.upcoming = op.terminal :: rest)
    (moreFailed : more after.advance = .error error stop) :
    chain operand more choices cursor = .error error stop := by
  rw [chain_of_operator distinct member read coming, bind_of_error moreFailed]

end Chain

section Factor
variable {σ : Type} [Movable σ] {room : Nat} {text : String} {found : Terminal} {rest : List Terminal}

/-- The factor that starts with a token. -/
def factorFrom (room : Nat) (token : Token) : Reader σ Tree :=
  match token.kind with
  | .integer => return .literal token.text .integer
  | .float => return .literal token.text .float
  | .identifier => return .literal token.text .identifier
  | _ =>
    if token.isOperator "(" then do
      let inner ← expression room
      expectOperator ")" .closingParenthesis
      return inner
    else if token.isOperator "-" then do
      return .unary .negate (← factor room)
    else fail .factor

theorem factor_succ (room : Nat) :
    (factor (room + 1) : Reader σ Tree) = within .factor (next >>= factorFrom room) := by
  rw [factor]
  rfl

theorem factor_of_parenthesis (coming : cursor.upcoming = (.operator, "(") :: rest) :
    (next >>= factorFrom room) cursor = (do
      let inner ← expression room
      expectOperator ")" .closingParenthesis
      return inner : Reader Cursor Tree) cursor.advance := by
  have opening := Cursor.terminal_current_advance coming
  have isOpening := Token.isOperator_iff.2 opening
  simp only [Token.terminal, Prod.mk.injEq] at opening
  rw [bind_of_ok (next_eq cursor), factorFrom, opening.1]
  simp only [isOpening, if_true]

theorem factor_of_minus (coming : cursor.upcoming = (.operator, "-") :: rest) :
    (next >>= factorFrom room) cursor =
      (factor room >>= fun operand => pure (.unary .negate operand)) cursor.advance := by
  have minus := Cursor.terminal_current_advance coming
  have isMinus := Token.isOperator_iff.2 minus
  have notOpening : ¬ cursor.advance.current.isOperator "(" := by
    simp [Token.isOperator_iff, minus]
  simp only [Token.terminal, Prod.mk.injEq] at minus
  rw [bind_of_ok (next_eq cursor), factorFrom, minus.1]
  simp only [isMinus, notOpening, Bool.false_eq_true, if_true, if_false]

theorem factorFrom_refused {token : Token} (refused : ¬ Wanted.factor.admits token.terminal) :
    (factorFrom room token : Reader Cursor Tree) = fail .factor := by
  simp only [Wanted.admits, List.mem_cons, List.not_mem_nil, or_false, not_or] at refused
  have notOpening : ¬ token.isOperator "(" := by
    simp [Token.isOperator_iff, refused]
  have notMinus : ¬ token.isOperator "-" := by
    simp [Token.isOperator_iff, refused]
  rw [factorFrom]
  split
  next kind => exact absurd kind refused.1.1
  next kind => exact absurd kind refused.1.2.1
  next kind => exact absurd kind refused.1.2.2
  next => simp only [notOpening, notMinus, Bool.false_eq_true, if_false]

end Factor

section Statement
variable {σ : Type} [Movable σ] {room : Nat} {target : Token}

/-- The end of a statement, given the token after its value. -/
def closeStatement (target : String) (value : Tree) (following : Token) : Reader σ Tree := do
  if following.kind ≠ .endMarker then
    throw (.syntaxError { problem := .trailingToken following.text, column := following.column })
  return .binary .assign (.literal target .identifier) value

/-- The statement that starts with a token. -/
def statementFrom (room : Nat) (target : Token) : Reader σ Tree := do
  if target.kind ≠ .identifier then fail .identifier
  expectOperator "=" .equalsSign
  let value ← expression room
  next >>= closeStatement target.text value

theorem statement_eq (room : Nat) :
    (statement room : Reader σ Tree) = within .statement (next >>= statementFrom room) :=
  rfl

theorem statement_of_named {name : String} {rest : List Terminal}
    (coming : cursor.upcoming = (.identifier, name) :: rest) :
    (next >>= statementFrom room) cursor = (do
      expectOperator "=" .equalsSign
      let value ← expression room
      next >>= closeStatement name value : Reader Cursor Tree) cursor.advance := by
  have target := Cursor.terminal_current_advance coming
  simp only [Token.terminal, Prod.mk.injEq] at target
  rw [bind_of_ok (next_eq cursor), statementFrom, if_neg (not_not.2 target.1), target.2]

theorem statement_of_assignment {name : String} {rest : List Terminal}
    (coming : cursor.upcoming = (.identifier, name) :: (.operator, "=") :: rest) :
    (next >>= statementFrom room) cursor =
      (expression room >>= fun value => next >>= closeStatement name value) cursor.advance.advance := by
  rw [statement_of_named coming, bind_of_ok (expectOperator_of_eq (Cursor.upcoming_advance coming))]

theorem statementFrom_refused (other : target.kind ≠ .identifier) :
    statementFrom room target cursor =
      .error (.syntaxError (wantedAt .identifier cursor.current)) cursor := by
  rw [statementFrom, if_pos other]
  rfl

theorem closeStatement_of_end {name : String} {value : Tree} {following : Token}
    (ended : following.kind = .endMarker) :
    (closeStatement name value following : Reader Cursor Tree) =
      pure (.binary .assign (.literal name .identifier) value) := by
  rw [closeStatement, if_neg (not_not.2 ended)]

theorem closeStatement_of_trailing {name : String} {value : Tree} {following : Token}
    (trailing : following.kind ≠ .endMarker) :
    closeStatement name value following cursor =
      .error (.syntaxError { problem := .trailingToken following.text, column := following.column })
        cursor := by
  rw [closeStatement, if_pos trailing]
  rfl

end Statement

/-- The reader of a rule, with so much room for open rules. -/
def rule {σ : Type} [Movable σ] : Rule → Nat → Reader σ Tree
  | .statement => statement
  | .expression => expression
  | .term => term
  | .factor => factor

end Reader

namespace Rule

theorem ends_of_endMarker {next : Terminal} (ended : next.1 = .endMarker) (rule : Rule) :
    rule.ends next := by
  have other : ∀ op : BinaryOperator, next ≠ op.terminal := by
    rintro op rfl
    simp [BinaryOperator.terminal] at ended
  cases rule with
  | statement => exact ended
  | expression | term | factor => exact fun op _ => other op

theorem ends_factor (next : Terminal) : factor.ends next := by
  simp [ends, continuations]

theorem ends_term_of_isSum {op : BinaryOperator} (isSum : op ∈ sumOperators) : term.ends op.terminal := by
  simp only [sumOperators, List.mem_cons, List.not_mem_nil, or_false] at isSum
  rcases isSum with rfl | rfl <;> simp [ends, continuations, productOperators, BinaryOperator.terminal,
    BinaryOperator.text]

theorem ends_expression_closing : expression.ends (.operator, ")") := by
  simp [ends, continuations, sumOperators, productOperators, BinaryOperator.terminal, BinaryOperator.text]

theorem ends_expression_iff {next : Terminal} :
    expression.ends next ↔ (∀ op ∈ sumOperators, next ≠ op.terminal) ∧ term.ends next := by
  simp [ends, continuations, or_imp, forall_and]

/-- After a statement the cursor has moved past the end marker. -/
def close : Rule → Cursor → Cursor
  | .statement, cursor => cursor.advance
  | _, cursor => cursor

end Rule

/-! ## Derivations are read -/

open Reader

/-- A derivation that fits into the room there is read to its end, if it ends there. -/
theorem Derivation.read {rule : Rule} (d : Derivation rule) {room : Nat} {cursor : Cursor}
    {next : Terminal} {rest : List Terminal} (fits : d.depth ≤ room)
    (coming : cursor.upcoming = d.terminals ++ next :: rest) (ends : rule.ends next) :
    Reader.rule rule room cursor = .ok d.tree (rule.close (cursor.past d.terminals)) := by
  -- What follows a part of a derivation ends that part too, which is why it is told apart by its rule.
  induction d generalizing room cursor next rest with
  | statement target value ih =>
    have body := Cursor.upcoming_advance (Cursor.upcoming_advance coming)
    have valueRead : expression room cursor.advance.advance =
        .ok value.tree (cursor.advance.advance.past value.terminals) :=
      ih fits body (Rule.ends_of_endMarker ends _)
    have following := Cursor.terminal_current_advance (Cursor.upcoming_past body)
    have ended : (cursor.advance.advance.past value.terminals).advance.current.kind = .endMarker :=
      (congrArg Prod.fst following).trans ends
    change Reader.statement room cursor = _
    rw [statement_eq]
    refine within_of_ok ?_
    rw [statement_of_assignment coming, bind_of_ok valueRead, bind_of_ok (next_eq _),
      closeStatement_of_end ended]
    rfl
  | ofTerm only ih =>
    obtain ⟨room, rfl⟩ := Nat.exists_eq_add_of_le' (Nat.le_of_add_left_le fits)
    obtain ⟨noSum, endsTerm⟩ := Rule.ends_expression_iff.1 ends
    have onlyRead := ih (Nat.le_of_succ_le_succ fits) coming endsTerm
    have after := Cursor.upcoming_past coming
    change expression (room + 1) cursor = _
    rw [expression_succ]
    exact within_of_ok (chain_of_end onlyRead after noSum)
  | sum left op isSum right ihl ihr =>
    obtain ⟨room, rfl⟩ := Nat.exists_eq_add_of_le' (Nat.le_of_add_left_le fits)
    simp only [depth, Nat.add_le_add_iff_right, Nat.max_le] at fits
    simp only [terminals, List.append_assoc, List.cons_append] at coming
    have leftRead : term room cursor = .ok left.tree (cursor.past left.terminals) :=
      ihl fits.1 coming (Rule.ends_term_of_isSum isSum)
    have after := Cursor.upcoming_past coming
    have rightRead : expression room (cursor.past left.terminals).advance =
        .ok right.tree ((cursor.past left.terminals).advance.past right.terminals) :=
      ihr fits.2 (Cursor.upcoming_advance after) ends
    change expression (room + 1) cursor = _
    rw [expression_succ, terminals, Cursor.past_append]
    exact within_of_ok (chain_of_more distinct_sumOperators isSum leftRead after rightRead)
  | ofFactor only ih =>
    obtain ⟨room, rfl⟩ := Nat.exists_eq_add_of_le' (Nat.le_of_add_left_le fits)
    have onlyRead := ih (Nat.le_of_succ_le_succ fits) coming (Rule.ends_factor next)
    have after := Cursor.upcoming_past coming
    change term (room + 1) cursor = _
    rw [term_succ]
    exact within_of_ok (chain_of_end onlyRead after ends)
  | product left op isProduct right ihl ihr =>
    obtain ⟨room, rfl⟩ := Nat.exists_eq_add_of_le' (Nat.le_of_add_left_le fits)
    simp only [depth, Nat.add_le_add_iff_right, Nat.max_le] at fits
    simp only [terminals, List.append_assoc, List.cons_append] at coming
    have leftRead : factor room cursor = .ok left.tree (cursor.past left.terminals) :=
      ihl fits.1 coming (Rule.ends_factor _)
    have after := Cursor.upcoming_past coming
    have rightRead : term room (cursor.past left.terminals).advance =
        .ok right.tree ((cursor.past left.terminals).advance.past right.terminals) :=
      ihr fits.2 (Cursor.upcoming_advance after) ends
    change term (room + 1) cursor = _
    rw [term_succ, terminals, Cursor.past_append]
    exact within_of_ok (chain_of_more distinct_productOperators isProduct leftRead after rightRead)
  | integer text | float text | identifier text =>
    obtain ⟨room, rfl⟩ := Nat.exists_eq_add_of_le' fits
    have current := Cursor.terminal_current_advance coming
    simp only [Token.terminal, Prod.mk.injEq] at current
    change factor (room + 1) cursor = _
    rw [factor_succ]
    refine within_of_ok ?_
    rw [bind_of_ok (next_eq cursor), factorFrom, current.1, current.2]
    rfl
  | parenthesized inner ih =>
    obtain ⟨room, rfl⟩ := Nat.exists_eq_add_of_le' (Nat.le_of_add_left_le fits)
    simp only [terminals, List.append_assoc, List.cons_append, List.nil_append] at coming
    have body := Cursor.upcoming_advance coming
    have innerRead : expression room cursor.advance =
        .ok inner.tree (cursor.advance.past inner.terminals) :=
      ih (Nat.le_of_succ_le_succ fits) body Rule.ends_expression_closing
    have after := Cursor.upcoming_past body
    change factor (room + 1) cursor = _
    rw [factor_succ, terminals, List.cons_append, Cursor.past_cons, Cursor.past_append]
    refine within_of_ok ?_
    rw [factor_of_parenthesis coming, bind_of_ok innerRead, bind_of_ok (expectOperator_of_eq after)]
    rfl
  | negated operand ih =>
    obtain ⟨room, rfl⟩ := Nat.exists_eq_add_of_le' (Nat.le_of_add_left_le fits)
    have operandRead : factor room cursor.advance =
        .ok operand.tree (cursor.advance.past operand.terminals) :=
      ih (Nat.le_of_succ_le_succ fits) (Cursor.upcoming_advance coming) ends
    change factor (room + 1) cursor = _
    rw [factor_succ]
    refine within_of_ok ?_
    rw [factor_of_minus coming, bind_of_ok operandRead]
    rfl

namespace Unfinished

/-- The failure to go on: an error about the token after the terminals that have been read. -/
def failure {rule : Rule} (u : Unfinished rule) (cursor : Cursor) : EStateM.Result Error Cursor Tree :=
  let stop := (cursor.past u.terminals).advance
  .error (.syntaxError (u.errorAt stop.current)) stop

theorem failure_of_wanted {rule : Rule} {u : Unfinished rule} (cursor : Cursor)
    (wanted : u.wanted ≠ .endOfInput) :
    u.failure cursor =
      .error (.syntaxError { wantedAt u.wanted (cursor.past u.terminals).advance.current with
        rules := u.openRules }) (cursor.past u.terminals).advance := by
  simp [failure, errorAt, wantedAt, wanted]

/-- A derivation that breaks off, and fits into the room there is, is read to the token that it
    refuses. -/
theorem read {rule : Rule} (u : Unfinished rule) {room : Nat} {cursor : Cursor} {bad : Terminal}
    {rest : List Terminal} (fits : u.depth ≤ room) (coming : cursor.upcoming = u.terminals ++ bad :: rest)
    (refused : u.wanted.refuses bad) :
    Reader.rule rule room cursor = u.failure cursor := by
  -- Parts that are complete are read as derivations; the last part is the one that breaks off.
  induction u generalizing room cursor bad rest with
  | beforeTarget =>
    have current := Cursor.terminal_current_advance coming
    have other : cursor.advance.current.kind ≠ .identifier := by
      rintro name
      exact refused ((congrArg Prod.fst current).symm.trans name)
    change Reader.statement room cursor = _
    rw [statement_eq, failure_of_wanted cursor (by simp [wanted])]
    refine within_of_syntaxError ?_
    rw [bind_of_ok (next_eq cursor), statementFrom_refused other]
    rfl
  | beforeEquals target =>
    have equals := Cursor.upcoming_advance coming
    change Reader.statement room cursor = _
    rw [statement_eq, failure_of_wanted cursor (by simp [wanted])]
    refine within_of_syntaxError ?_
    rw [statement_of_named coming, bind_of_error (expectOperator_of_ne equals refused)]
    rfl
  | inValue target value ih =>
    have body := Cursor.upcoming_advance (Cursor.upcoming_advance coming)
    have valueFailed : expression room cursor.advance.advance = value.failure cursor.advance.advance :=
      ih fits body refused
    have failed : (next >>= statementFrom room) cursor = value.failure cursor.advance.advance := by
      rw [statement_of_assignment coming, bind_of_error valueFailed]
      rfl
    change Reader.statement room cursor = _
    rw [statement_eq, within_of_syntaxError failed]
    rfl
  | beforeEnd target value =>
    have body := Cursor.upcoming_advance (Cursor.upcoming_advance coming)
    have valueRead : expression room cursor.advance.advance =
        .ok value.tree (cursor.advance.advance.past value.terminals) :=
      value.read fits body refused.2
    have following := Cursor.terminal_current_advance (Cursor.upcoming_past body)
    have trailing : (cursor.advance.advance.past value.terminals).advance.current.kind ≠ .endMarker :=
      fun ended => refused.1 ((congrArg Prod.fst following).symm.trans ended)
    have failed : (next >>= statementFrom room) cursor =
        .error (.syntaxError
          { problem := .trailingToken (cursor.advance.advance.past value.terminals).advance.current.text
            column := (cursor.advance.advance.past value.terminals).advance.current.column })
          (cursor.advance.advance.past value.terminals).advance := by
      rw [statement_of_assignment coming, bind_of_ok valueRead, bind_of_ok (next_eq _),
        closeStatement_of_trailing trailing]
    change Reader.statement room cursor = _
    rw [statement_eq, within_of_syntaxError failed]
    simp [failure, errorAt, wanted, terminals, openRules, trailing, SyntaxError.addRule]
  | inTerm first ih =>
    obtain ⟨room, rfl⟩ := Nat.exists_eq_add_of_le' (Nat.le_of_add_left_le fits)
    have failed : term room cursor = first.failure cursor := ih (Nat.le_of_succ_le_succ fits) coming refused
    change expression (room + 1) cursor = _
    rw [expression_succ, within_of_syntaxError (chain_of_error failed)]
    rfl
  | inSum left op isSum right ih =>
    obtain ⟨room, rfl⟩ := Nat.exists_eq_add_of_le' (Nat.le_of_add_left_le fits)
    simp only [depth, Nat.add_le_add_iff_right, Nat.max_le] at fits
    simp only [terminals, List.append_assoc, List.cons_append] at coming
    have leftRead : term room cursor = .ok left.tree (cursor.past left.terminals) :=
      left.read fits.1 coming (Rule.ends_term_of_isSum isSum)
    have after := Cursor.upcoming_past coming
    have rightFailed : expression room (cursor.past left.terminals).advance =
        right.failure (cursor.past left.terminals).advance :=
      ih fits.2 (Cursor.upcoming_advance after) refused
    have failed := chain_of_more_error distinct_sumOperators isSum leftRead after rightFailed
    change expression (room + 1) cursor = _
    rw [expression_succ, within_of_syntaxError failed]
    simp only [failure, terminals, Cursor.past_append]
    rfl
  | inFactor first ih =>
    obtain ⟨room, rfl⟩ := Nat.exists_eq_add_of_le' (Nat.le_of_add_left_le fits)
    have failed : factor room cursor = first.failure cursor := ih (Nat.le_of_succ_le_succ fits) coming refused
    change term (room + 1) cursor = _
    rw [term_succ, within_of_syntaxError (chain_of_error failed)]
    rfl
  | inProduct left op isProduct right ih =>
    obtain ⟨room, rfl⟩ := Nat.exists_eq_add_of_le' (Nat.le_of_add_left_le fits)
    simp only [depth, Nat.add_le_add_iff_right, Nat.max_le] at fits
    simp only [terminals, List.append_assoc, List.cons_append] at coming
    have leftRead : factor room cursor = .ok left.tree (cursor.past left.terminals) :=
      left.read fits.1 coming (Rule.ends_factor _)
    have after := Cursor.upcoming_past coming
    have rightFailed : term room (cursor.past left.terminals).advance =
        right.failure (cursor.past left.terminals).advance :=
      ih fits.2 (Cursor.upcoming_advance after) refused
    have failed := chain_of_more_error distinct_productOperators isProduct leftRead after rightFailed
    change term (room + 1) cursor = _
    rw [term_succ, within_of_syntaxError failed]
    simp only [failure, terminals, Cursor.past_append]
    rfl
  | beforeFactor =>
    obtain ⟨room, rfl⟩ := Nat.exists_eq_add_of_le' fits
    have current := Cursor.terminal_current_advance coming
    have other : ¬ Wanted.factor.admits cursor.advance.current.terminal := current ▸ refused
    have failed : (next >>= factorFrom room) cursor =
        .error (.syntaxError (wantedAt .factor cursor.advance.current)) cursor.advance := by
      rw [bind_of_ok (next_eq cursor), factorFrom_refused other, fail_eq]
    change factor (room + 1) cursor = _
    rw [factor_succ, within_of_syntaxError failed, failure_of_wanted cursor (by simp [wanted])]
    rfl
  | inParentheses inner ih =>
    obtain ⟨room, rfl⟩ := Nat.exists_eq_add_of_le' (Nat.le_of_add_left_le fits)
    have innerFailed : expression room cursor.advance = inner.failure cursor.advance :=
      ih (Nat.le_of_succ_le_succ fits) (Cursor.upcoming_advance coming) refused
    have failed : (next >>= factorFrom room) cursor = inner.failure cursor.advance := by
      rw [factor_of_parenthesis coming, bind_of_error innerFailed]
      rfl
    change factor (room + 1) cursor = _
    rw [factor_succ, within_of_syntaxError failed]
    rfl
  | beforeClosing inner =>
    obtain ⟨room, rfl⟩ := Nat.exists_eq_add_of_le' (Nat.le_of_add_left_le fits)
    have body := Cursor.upcoming_advance coming
    have innerRead : expression room cursor.advance =
        .ok inner.tree (cursor.advance.past inner.terminals) :=
      inner.read (Nat.le_of_succ_le_succ fits) body refused.2
    have failed : (next >>= factorFrom room) cursor =
        .error (.syntaxError (wantedAt .closingParenthesis (cursor.advance.past inner.terminals).advance.current))
          (cursor.advance.past inner.terminals).advance := by
      rw [factor_of_parenthesis coming, bind_of_ok innerRead,
        bind_of_error (expectOperator_of_ne (Cursor.upcoming_past body) refused.1)]
    change factor (room + 1) cursor = _
    rw [factor_succ, within_of_syntaxError failed, failure_of_wanted cursor (by simp [wanted])]
    rfl
  | inNegated operand ih =>
    obtain ⟨room, rfl⟩ := Nat.exists_eq_add_of_le' (Nat.le_of_add_left_le fits)
    have operandFailed : factor room cursor.advance = operand.failure cursor.advance :=
      ih (Nat.le_of_succ_le_succ fits) (Cursor.upcoming_advance coming) refused
    have failed : (next >>= factorFrom room) cursor = operand.failure cursor.advance := by
      rw [factor_of_minus coming, bind_of_error operandFailed]
      rfl
    change factor (room + 1) cursor = _
    rw [factor_succ, within_of_syntaxError failed]
    rfl

end Unfinished

/-! ## Every reading comes to one of three ends -/

/-- How far a rule stands below the expression that it may be the start of. -/
def Rule.rank : Rule → Nat
  | .term => 1
  | .factor => 2
  | .expression | .statement => 0

/-- What a rule comes to at a cursor. Too many rules can be open only where many tokens are ahead. -/
inductive Verdict (rule : Rule) (room : Nat) (cursor : Cursor) : Prop where
  | accepted (d : Derivation rule) (next : Terminal) (rest : List Terminal) (fits : d.depth ≤ room)
      (coming : cursor.upcoming = d.terminals ++ next :: rest) (ends : rule.ends next)
  | refused (u : Unfinished rule) (bad : Terminal) (rest : List Terminal) (fits : u.depth ≤ room)
      (coming : cursor.upcoming = u.terminals ++ bad :: rest) (refused : u.wanted.refuses bad)
  | tooDeep (stop : Cursor) (failed : Reader.rule rule room cursor = .error .nestedTooDeeply stop)
      (short : room + rule.rank < 3 * cursor.upcoming.length)

namespace Verdict

/-- A rule comes to one of the three ends at every cursor with something ahead. -/
def Total (rule : Rule) (room : Nat) : Prop :=
  ∀ cursor : Cursor, cursor.upcoming ≠ [] → Verdict rule room cursor

variable {room : Nat}

private theorem total_zero {rule : Rule} (inside : rule ≠ .statement) : Total rule 0 := by
  intro cursor coming
  have some_ahead := List.length_pos_iff.2 coming
  cases rule with
  | statement => exact absurd rfl inside
  | expression =>
    exact .tooDeep cursor (by rw [Reader.rule, expression]; rfl) (by simp only [Rule.rank]; omega)
  | term => exact .tooDeep cursor (by rw [Reader.rule, term]; rfl) (by simp only [Rule.rank]; omega)
  | factor => exact .tooDeep cursor (by rw [Reader.rule, factor]; rfl) (by simp only [Rule.rank]; omega)

private theorem total_expression_succ (terms : Total .term room) (expressions : Total .expression room) :
    Total .expression (room + 1) := by
  intro cursor coming
  rcases terms cursor coming with ⟨left, next, rest, fits, leftComing, ends⟩ |
    ⟨left, bad, rest, fits, leftComing, refused⟩ | ⟨stop, failed, short⟩
  · by_cases goesOn : ∃ op ∈ sumOperators, next = op.terminal
    · obtain ⟨op, isSum, rfl⟩ := goesOn
      have leftRead : term room cursor = .ok left.tree (cursor.past left.terminals) :=
        left.read fits leftComing ends
      have after := Cursor.upcoming_past leftComing
      have right := Cursor.upcoming_advance after
      obtain ⟨following, more, rfl⟩ := Cursor.exists_next after (by simp [BinaryOperator.terminal])
      rcases expressions (cursor.past left.terminals).advance (by simp [right]) with
        ⟨d, next, rest, fits', rightComing, ends'⟩ | ⟨u, bad, rest, fits', rightComing, refused⟩ |
        ⟨stop, failed, short⟩
      · rw [right] at rightComing
        exact .accepted (.sum left op isSum d) next rest (by simp only [Derivation.depth]; omega)
          (by simp [leftComing, rightComing, Derivation.terminals]) ends'
      · rw [right] at rightComing
        exact .refused (.inSum left op isSum u) bad rest (by simp only [Unfinished.depth]; omega)
          (by simp [leftComing, rightComing, Unfinished.terminals]) refused
      · have moreFailed : expression room (cursor.past left.terminals).advance =
            .error .nestedTooDeeply stop := failed
        have deep := chain_of_more_error distinct_sumOperators isSum leftRead after moreFailed
        refine .tooDeep stop (by rw [Reader.rule, expression_succ, within_of_tooDeep deep]) ?_
        simp only [right, leftComing, Rule.rank, List.length_append, List.length_cons] at short ⊢
        omega
    · simp only [not_exists, not_and] at goesOn
      exact .accepted (.ofTerm left) next rest (Nat.succ_le_succ fits) leftComing
        (Rule.ends_expression_iff.2 ⟨goesOn, ends⟩)
  · exact .refused (.inTerm left) bad rest (Nat.succ_le_succ fits) leftComing refused
  -- No token has been read on the way down to a term, and the rank is what has been opened for it.
  · have leftFailed : term room cursor = .error .nestedTooDeeply stop := failed
    refine .tooDeep stop ?_ ?_
    · rw [Reader.rule, expression_succ, within_of_tooDeep (chain_of_error leftFailed)]
    · simp only [Rule.rank] at short ⊢
      omega

private theorem total_term_succ (factors : Total .factor room) (terms : Total .term room) :
    Total .term (room + 1) := by
  intro cursor coming
  rcases factors cursor coming with ⟨left, next, rest, fits, leftComing, ends⟩ |
    ⟨left, bad, rest, fits, leftComing, refused⟩ | ⟨stop, failed, short⟩
  · by_cases goesOn : ∃ op ∈ productOperators, next = op.terminal
    · obtain ⟨op, isProduct, rfl⟩ := goesOn
      have leftRead : factor room cursor = .ok left.tree (cursor.past left.terminals) :=
        left.read fits leftComing ends
      have after := Cursor.upcoming_past leftComing
      have right := Cursor.upcoming_advance after
      obtain ⟨following, more, rfl⟩ := Cursor.exists_next after (by simp [BinaryOperator.terminal])
      rcases terms (cursor.past left.terminals).advance (by simp [right]) with
        ⟨d, next, rest, fits', rightComing, ends'⟩ | ⟨u, bad, rest, fits', rightComing, refused⟩ |
        ⟨stop, failed, short⟩
      · rw [right] at rightComing
        exact .accepted (.product left op isProduct d) next rest (by simp only [Derivation.depth]; omega)
          (by simp [leftComing, rightComing, Derivation.terminals]) ends'
      · rw [right] at rightComing
        exact .refused (.inProduct left op isProduct u) bad rest (by simp only [Unfinished.depth]; omega)
          (by simp [leftComing, rightComing, Unfinished.terminals]) refused
      · have moreFailed : term room (cursor.past left.terminals).advance =
            .error .nestedTooDeeply stop := failed
        have deep := chain_of_more_error distinct_productOperators isProduct leftRead after moreFailed
        refine .tooDeep stop (by rw [Reader.rule, term_succ, within_of_tooDeep deep]) ?_
        simp only [right, leftComing, Rule.rank, List.length_append, List.length_cons] at short ⊢
        omega
    · simp only [not_exists, not_and] at goesOn
      exact .accepted (.ofFactor left) next rest (Nat.succ_le_succ fits) leftComing goesOn
  · exact .refused (.inFactor left) bad rest (Nat.succ_le_succ fits) leftComing refused
  · have leftFailed : factor room cursor = .error .nestedTooDeeply stop := failed
    refine .tooDeep stop ?_ ?_
    · rw [Reader.rule, term_succ, within_of_tooDeep (chain_of_error leftFailed)]
    · simp only [Rule.rank] at short ⊢
      omega

private theorem of_parenthesis (expressions : Total .expression room) {cursor : Cursor} {rest : List Terminal}
    (ahead : cursor.upcoming = (.operator, "(") :: rest) : Verdict .factor (room + 1) cursor := by
  obtain ⟨following, more, rfl⟩ := Cursor.exists_next ahead (by simp)
  have inside := Cursor.upcoming_advance ahead
  rcases expressions cursor.advance (by simp [inside]) with ⟨d, next, rest, fits, coming, ends⟩ |
    ⟨u, bad, rest, fits, coming, refused⟩ | ⟨stop, failed, short⟩
  · by_cases closes : next = (.operator, ")")
    · subst closes
      obtain ⟨following', more', rfl⟩ := Cursor.exists_next (Cursor.upcoming_past coming) (by simp)
      rw [inside] at coming
      exact .accepted (.parenthesized d) following' more' (Nat.succ_le_succ fits)
        (by simp [ahead, coming, Derivation.terminals]) (Rule.ends_factor _)
    · rw [inside] at coming
      exact .refused (.beforeClosing d) next rest (Nat.succ_le_succ fits)
        (by simp [ahead, coming, Unfinished.terminals]) ⟨closes, ends⟩
  · rw [inside] at coming
    exact .refused (.inParentheses u) bad rest (Nat.succ_le_succ fits)
      (by simp [ahead, coming, Unfinished.terminals]) refused
  · have innerFailed : expression room cursor.advance = .error .nestedTooDeeply stop := failed
    have deep : (Reader.next >>= factorFrom room) cursor = .error .nestedTooDeeply stop := by
      rw [factor_of_parenthesis ahead, bind_of_error innerFailed]
    refine .tooDeep stop (by rw [Reader.rule, factor_succ, within_of_tooDeep deep]) ?_
    simp only [inside, ahead, Rule.rank, List.length_cons] at short ⊢
    omega

private theorem of_minus (factors : Total .factor room) {cursor : Cursor} {rest : List Terminal}
    (ahead : cursor.upcoming = (.operator, "-") :: rest) : Verdict .factor (room + 1) cursor := by
  obtain ⟨following, more, rfl⟩ := Cursor.exists_next ahead (by simp)
  have inside := Cursor.upcoming_advance ahead
  rcases factors cursor.advance (by simp [inside]) with ⟨d, next, rest, fits, coming, ends⟩ |
    ⟨u, bad, rest, fits, coming, refused⟩ | ⟨stop, failed, short⟩
  · rw [inside] at coming
    exact .accepted (.negated d) next rest (Nat.succ_le_succ fits)
      (by simp [ahead, coming, Derivation.terminals]) ends
  · rw [inside] at coming
    exact .refused (.inNegated u) bad rest (Nat.succ_le_succ fits)
      (by simp [ahead, coming, Unfinished.terminals]) refused
  · have operandFailed : factor room cursor.advance = .error .nestedTooDeeply stop := failed
    have deep : (Reader.next >>= factorFrom room) cursor = .error .nestedTooDeeply stop := by
      rw [factor_of_minus ahead, bind_of_error operandFailed]
    refine .tooDeep stop (by rw [Reader.rule, factor_succ, within_of_tooDeep deep]) ?_
    simp only [inside, ahead, Rule.rank, List.length_cons] at short ⊢
    omega

private theorem total_factor_succ (expressions : Total .expression room) (factors : Total .factor room) :
    Total .factor (room + 1) := by
  intro cursor coming
  obtain ⟨⟨kind, text⟩, rest, ahead⟩ := List.exists_cons_of_ne_nil coming
  by_cases admitted : Wanted.factor.admits (kind, text)
  · have goesOn : kind ≠ .endMarker := by
      rintro rfl
      simp [Wanted.admits] at admitted
    obtain ⟨following, more, rfl⟩ := Cursor.exists_next ahead goesOn
    have single : 1 ≤ room + 1 := Nat.le_add_left 1 room
    simp only [Wanted.admits, List.mem_cons, List.not_mem_nil, or_false, Prod.mk.injEq] at admitted
    rcases admitted with (rfl | rfl | rfl) | ⟨rfl, rfl⟩ | ⟨rfl, rfl⟩
    · exact .accepted (.integer text) following more single ahead (Rule.ends_factor _)
    · exact .accepted (.float text) following more single ahead (Rule.ends_factor _)
    · exact .accepted (.identifier text) following more single ahead (Rule.ends_factor _)
    · exact of_parenthesis expressions ahead
    · exact of_minus factors ahead
  · exact .refused .beforeFactor (kind, text) rest (Nat.le_add_left 1 room) ahead admitted

private theorem total_inside (room : Nat) :
    Total .expression room ∧ Total .term room ∧ Total .factor room := by
  induction room with
  | zero => exact ⟨total_zero (by simp), total_zero (by simp), total_zero (by simp)⟩
  | succ room ih =>
    obtain ⟨expressions, terms, factors⟩ := ih
    exact ⟨total_expression_succ terms expressions, total_term_succ factors terms,
      total_factor_succ expressions factors⟩

private theorem total_statement (room : Nat) : Total .statement room := by
  intro cursor coming
  obtain ⟨⟨kind, target⟩, rest, ahead⟩ := List.exists_cons_of_ne_nil coming
  by_cases name : kind = .identifier
  · subst name
    obtain ⟨sign, rest, rfl⟩ := Cursor.exists_next ahead (by simp)
    have atSign := Cursor.upcoming_advance ahead
    by_cases equals : sign = (.operator, "=")
    · subst equals
      obtain ⟨following, more, rfl⟩ := Cursor.exists_next atSign (by simp)
      have body := Cursor.upcoming_advance atSign
      rcases (total_inside room).1 cursor.advance.advance (by simp [body]) with
        ⟨d, next, rest, fits, coming, ends⟩ | ⟨u, bad, rest, fits, coming, refused⟩ |
        ⟨stop, failed, short⟩
      · rw [body] at coming
        by_cases ended : next.1 = .endMarker
        · exact .accepted (.statement target d) next rest fits
            (by simp [ahead, coming, Derivation.terminals]) ended
        · exact .refused (.beforeEnd target d) next rest fits
            (by simp [ahead, coming, Unfinished.terminals]) ⟨ended, ends⟩
      · rw [body] at coming
        exact .refused (.inValue target u) bad rest fits
          (by simp [ahead, coming, Unfinished.terminals]) refused
      · have valueFailed : expression room cursor.advance.advance = .error .nestedTooDeeply stop := failed
        have deep : (Reader.next >>= statementFrom room) cursor = .error .nestedTooDeeply stop := by
          rw [statement_of_assignment ahead, bind_of_error valueFailed]
        refine .tooDeep stop (by rw [Reader.rule, statement_eq, within_of_tooDeep deep]) ?_
        simp only [body, ahead, Rule.rank, List.length_cons] at short ⊢
        omega
    · exact .refused (.beforeEquals target) sign rest (Nat.zero_le room)
        (by simp [ahead, Unfinished.terminals]) equals
  · exact .refused .beforeTarget (kind, target) rest (Nat.zero_le room) ahead name

/-- Every rule comes to one of the three ends, whatever is ahead. -/
theorem total (rule : Rule) (room : Nat) : Total rule room := by
  obtain ⟨expressions, terms, factors⟩ := total_inside room
  cases rule with
  | statement => exact total_statement room
  | expression => exact expressions
  | term => exact terms
  | factor => exact factors

end Verdict

end Formulary
