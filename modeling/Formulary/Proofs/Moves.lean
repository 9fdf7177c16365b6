import Formulary.Proofs.Complaints

/-!
# The moves of a cursor

A track is a cursor with a record of its moves, from which the rules of the grammar read as from any
state that can be moved. A step forward on the last token leaves the cursor where it is, and a step
back after it would read a token twice. The rules take no such step: they step back only from the
token after an operand, and no operand ends on an end marker. So a cursor can be read from any number
of times, also after an error or past an end marker that is not the last token.
-/

namespace Formulary

inductive Move where
  | forward
  | back

/-- A cursor and the moves that it has made, the latest first. -/
structure Track where
  cursor : Cursor
  moves : List Move

/-- The moves from one cursor to another are sound if each step back undoes the step forward before it,
    and that one had moved the cursor. -/
inductive Walk (start : Cursor) : Track → Prop where
  | start : Walk start ⟨start, []⟩
  | forward {cursor : Cursor} {moves : List Move} (walk : Walk start ⟨cursor, moves⟩) :
      Walk start ⟨cursor.advance, .forward :: moves⟩
  | undo {cursor : Cursor} {moves : List Move} (walk : Walk start ⟨cursor, moves⟩)
      (moved : cursor.advance.position = cursor.position + 1)
      (back : cursor.advance.retreat? = some cursor) : Walk start ⟨cursor, .back :: .forward :: moves⟩

/-- Where a reading has ended. -/
def stopOf {σ α : Type} : EStateM.Result Error σ α → σ
  | .ok _ stop | .error _ stop => stop

namespace Track
open Reader

variable {α β : Type}

/-- What a reader does with the cursor, recorded as a move. -/
def record (move : Move) (reader : Reader Cursor α) : Reader Track α := fun track =>
  match reader track.cursor with
  | .ok a cursor => .ok a ⟨cursor, move :: track.moves⟩
  | .error error cursor => .error error ⟨cursor, move :: track.moves⟩

theorem record_of_ok {move : Move} {reader : Reader Cursor α} {track : Track} {a : α} {stop : Cursor}
    (read : reader track.cursor = .ok a stop) :
    record move reader track = .ok a ⟨stop, move :: track.moves⟩ := by
  simp only [record, read]

/-- A track moves as its cursor does. -/
instance : Movable Track where
  current track := track.cursor.current
  advance := record .forward Movable.advance
  retreat := record .back Movable.retreat

/-- A track with sound moves on which a reading comes to the outcome that another has on the cursor. -/
inductive Matches (start : Cursor) (after : α → Cursor → Prop) :
    EStateM.Result Error Cursor α → EStateM.Result Error Track α → Prop where
  | ok {a : α} {track : Track} (walk : Walk start track) (holds : after a track.cursor) :
      Matches start after (.ok a track.cursor) (.ok a track)
  | error {error : Error} {track : Track} (walk : Walk start track) :
      Matches start after (.error error track.cursor) (.error error track)

/-- An outcome without the moves that led to it. -/
def forget : EStateM.Result Error Track α → EStateM.Result Error Cursor α
  | .ok a track => .ok a track.cursor
  | .error error track => .error error track.cursor

theorem cursor_stopOf (tracked : EStateM.Result Error Track α) :
    (stopOf tracked).cursor = stopOf (forget tracked) := by
  cases tracked <;> rfl

namespace Matches

variable {start : Cursor} {after : α → Cursor → Prop} {read : EStateM.Result Error Cursor α}
  {tracked : EStateM.Result Error Track α}

theorem forget_eq (same : Matches start after read tracked) : forget tracked = read := by
  cases same <;> rfl

theorem walk_stopOf (same : Matches start after read tracked) : Walk start (stopOf tracked) := by
  cases same with
  | ok walk _ => exact walk
  | error walk => exact walk

end Matches

/-- One reading does to a track what another does to its cursor, with sound moves, from a cursor of some kind
    to one of some kind. -/
def Follows (before : Cursor → Prop) (tracked : Reader Track α) (read : Reader Cursor α)
    (after : α → Cursor → Prop) : Prop :=
  ∀ start track, Walk start track → before track.cursor →
    Matches start after (read track.cursor) (tracked track)

section
variable {before : Cursor → Prop} {after : α → Cursor → Prop} {tracked : Reader Track α} {read : Reader Cursor α}

theorem follows_pure {a : α} (holds : ∀ cursor, before cursor → after a cursor) :
    Follows before (pure a) (pure a) after :=
  fun _ track walk here => .ok walk (holds track.cursor here)

theorem follows_throw (error : Error) : Follows before (throw error) (throw error) after :=
  fun _ _ walk _ => .error walk

theorem follows_fail (wanted : Wanted) : Follows before (fail wanted) (fail wanted) after :=
  fun _ _ walk _ => .error walk

theorem Follows.bind {middle : α → Cursor → Prop} {last : β → Cursor → Prop} {f : α → Reader Track β}
    {g : α → Reader Cursor β} (first : Follows before tracked read middle)
    (rest : ∀ a, Follows (middle a) (f a) (g a) last) : Follows before (tracked >>= f) (read >>= g) last := by
  intro start track walk here
  have outcome := first start track walk here
  simp only [Bind.bind, EStateM.bind]
  generalize read track.cursor = ofCursor at outcome
  generalize tracked track = ofTrack at outcome
  cases outcome with
  | ok walk holds => exact rest _ start _ walk holds
  | error walk => exact .error walk

theorem Follows.within (body : Follows before tracked read after) (rule : Rule) :
    Follows before (Reader.within rule tracked) (Reader.within rule read) after := by
  intro start track walk here
  have outcome := body start track walk here
  simp only [Reader.within]
  generalize read track.cursor = ofCursor at outcome
  generalize tracked track = ofTrack at outcome
  cases outcome with
  | ok walk holds => exact .ok walk holds
  | @error error track walk => cases error <;> exact .error walk

end

/-- A cursor that stands on no end marker has something ahead. -/
def Inside (cursor : Cursor) : Prop := cursor.current.kind ≠ .endMarker

theorem Inside.exists_ahead {cursor : Cursor} (inside : Inside cursor) :
    ∃ token tokens, cursor.ahead = token :: tokens := by
  cases ahead : cursor.ahead with
  | cons token tokens => exact ⟨token, tokens, rfl⟩
  | nil =>
    have closed := cursor.closed
    rw [ahead] at closed
    exact absurd closed inside

theorem inside_of_isOperator {cursor : Cursor} {text : String} (expected : cursor.current.isOperator text) :
    Inside cursor := by
  have kind := congrArg Prod.fst (Token.isOperator_iff.1 expected)
  intro ended
  exact absurd (kind.symm.trans ended) (by simp)

section
variable {before : Cursor → Prop}

theorem follows_next : Follows before next next fun token cursor => cursor.current = token :=
  fun _ _ walk _ => .ok walk.forward rfl

theorem follows_expectOperator (text : String) (wanted : Wanted) :
    Follows before (expectOperator text wanted) (expectOperator text wanted) fun _ => Inside := by
  refine follows_next.bind fun token => ?_
  by_cases expected : token.isOperator text
  · rw [if_pos expected, if_pos expected]
    refine follows_pure fun cursor here => ?_
    subst here
    exact inside_of_isOperator expected
  · rw [if_neg expected, if_neg expected]
    exact follows_fail wanted

/-- After an operand the cursor moves on to the next token, so stepping back undoes that. -/
theorem follows_takeOperator (choices : List BinaryOperator) :
    Follows Inside (takeOperator choices) (takeOperator choices) fun _ => Inside := by
  rintro start ⟨cursor, moves⟩ walk inside
  obtain ⟨token, tokens, ahead⟩ := inside.exists_ahead
  obtain ⟨_, _, back, moved⟩ := Cursor.advance_of_ahead ahead
  have looked : next (⟨cursor, moves⟩ : Track) =
      .ok cursor.advance.current ⟨cursor.advance, .forward :: moves⟩ :=
    rfl
  have undone : Movable.retreat (⟨cursor.advance, .forward :: moves⟩ : Track) =
      .ok () ⟨cursor, .back :: .forward :: moves⟩ :=
    record_of_ok (retreat_of_retreat? back)
  simp only [takeOperator, Bind.bind, EStateM.bind, looked, next_eq]
  cases found : choices.find? fun op => cursor.advance.current.isOperator op.text with
  | some op =>
    have expected := List.find?_some found
    exact .ok walk.forward (inside_of_isOperator expected)
  | none =>
    -- On the last token the cursor would be where it was, and stepping back would not lead there.
    simp only [Pure.pure, EStateM.bind, undone, retreat_of_retreat? back]
    exact .ok (walk.undo moved back) inside

theorem follows_chain {operand more : Reader Track Tree} {operand' more' : Reader Cursor Tree}
    (operands : Follows before operand operand' fun _ => Inside)
    (rest : Follows Inside more more' fun _ => Inside) (choices : List BinaryOperator) :
    Follows before (chain operand more choices) (chain operand' more' choices) fun _ => Inside := by
  refine operands.bind fun left => (follows_takeOperator choices).bind fun found => ?_
  cases found with
  | some op => exact rest.bind fun right => follows_pure fun _ inside => inside
  | none => exact follows_pure fun _ inside => inside

/-- A rule inside a statement does the same from every cursor, and does not end on an end marker. -/
def FollowsRule (rule : Rule) (room : Nat) : Prop :=
  ∀ before, Follows before (Reader.rule rule room) (Reader.rule rule room) fun _ => Inside

theorem follows_factorFrom {room : Nat} (inner : FollowsRule .expression room) (operand : FollowsRule .factor room)
    (token : Token) :
    Follows (·.current = token) (factorFrom room token) (factorFrom room token) fun _ => Inside := by
  have literal : ∀ tree : Tree, token.kind ≠ .endMarker →
      Follows (·.current = token) (pure tree) (pure tree) fun _ => Inside := by
    intro tree goesOn
    refine follows_pure fun cursor here => ?_
    rw [Inside, here]
    exact goesOn
  rw [factorFrom, factorFrom]
  cases kind : token.kind with
  | integer | float | identifier => exact literal _ (by simp [kind])
  | operator | endMarker | startMarker | other =>
    dsimp only
    by_cases opening : token.isOperator "("
    · rw [if_pos opening, if_pos opening]
      refine (inner _).bind fun tree => ?_
      exact (follows_expectOperator ")" .closingParenthesis).bind fun _ => follows_pure fun _ inside => inside
    · rw [if_neg opening, if_neg opening]
      by_cases minus : token.isOperator "-"
      · rw [if_pos minus, if_pos minus]
        exact (operand _).bind fun tree => follows_pure fun _ inside => inside
      · rw [if_neg minus, if_neg minus]
        exact follows_fail .factor

/-- All rules but that of statements do the same to a track and to its cursor. -/
theorem follows_rules (room : Nat) :
    FollowsRule .expression room ∧ FollowsRule .term room ∧ FollowsRule .factor room := by
  simp only [FollowsRule, Reader.rule]
  induction room with
  | zero =>
    rw [expression, expression, term, term, factor, factor]
    exact ⟨fun _ => follows_throw _, fun _ => follows_throw _, fun _ => follows_throw _⟩
  | succ room ih =>
    obtain ⟨expressions, terms, factors⟩ := ih
    refine ⟨fun before => ?_, fun before => ?_, fun before => ?_⟩
    · rw [expression_succ, expression_succ]
      exact (follows_chain (terms before) (expressions Inside) sumOperators).within .expression
    · rw [term_succ, term_succ]
      exact (follows_chain (factors before) (terms Inside) productOperators).within .term
    · rw [factor_succ, factor_succ]
      exact (follows_next.bind fun token => follows_factorFrom expressions factors token).within .factor

/-- A statement does the same to a track and to its cursor, and ends on an end marker. -/
theorem follows_statement (room : Nat) :
    Follows before (statement room) (statement room) fun _ cursor => cursor.current.kind = .endMarker := by
  rw [statement_eq, statement_eq]
  refine Follows.within (follows_next.bind fun target => ?_) .statement
  by_cases named : target.kind = .identifier
  · rw [statementFrom, statementFrom, if_neg (not_not.2 named), if_neg (not_not.2 named)]
    refine (follows_expectOperator "=" .equalsSign).bind fun _ => ?_
    refine ((follows_rules room).1 _).bind fun value => follows_next.bind fun following => ?_
    rw [closeStatement, closeStatement]
    by_cases ended : following.kind = .endMarker
    · rw [if_neg (not_not.2 ended), if_neg (not_not.2 ended)]
      refine follows_pure fun cursor here => ?_
      rw [here, ended]
    · rw [if_pos ended, if_pos ended]
      exact follows_throw _
  · rw [statementFrom, statementFrom, if_pos named, if_pos named]
    exact follows_fail .identifier

end

end Track

theorem Walk.toList_eq {start : Cursor} {track : Track} (walk : Walk start track) :
    track.cursor.toList = start.toList := by
  induction walk with
  | start => rfl
  | forward _ ih => exact (Cursor.toList_advance _).trans ih
  | undo _ _ _ ih => exact ih

/-- A syntax error has the column of a token, and its text unless it is an end marker. -/
def SyntaxError.IsAbout (error : SyntaxError) (token : Token) : Prop :=
  error.column = token.column ∧
    match error.problem with
    | .endOfInput _ => token.kind = .endMarker
    | .invalidToken _ got | .trailingToken got => token.kind ≠ .endMarker ∧ got = token.text

theorem Unfinished.isAbout_errorAt {rule : Rule} (u : Unfinished rule) (bad : Token) :
    (u.errorAt bad).IsAbout bad := by
  refine ⟨rfl, ?_⟩
  rw [errorAt]
  by_cases ended : bad.kind = .endMarker
  · simp only [if_pos ended]
    exact ended
  · by_cases trailing : u.wanted = .endOfInput
    · simp only [if_neg ended, if_pos trailing]
      exact ⟨ended, trivial⟩
    · simp only [if_neg ended, if_neg trailing]
      exact ⟨ended, trivial⟩

namespace Cursor

/-- With nothing ahead the cursor stays where it is, and a name is missing. -/
theorem parse_of_nil {cursor : Cursor} (done : cursor.upcoming = []) :
    cursor.parse = .error (.syntaxError ⟨.endOfInput .identifier, cursor.current.column, [.statement]⟩) cursor := by
  obtain ⟨stays, ended⟩ := advance_of_nil done
  have other : cursor.current.kind ≠ .identifier := by simp [ended]
  have failed : (Reader.next >>= Reader.statementFrom ruleLimit) cursor =
      .error (.syntaxError (Reader.wantedAt .identifier cursor.current)) cursor := by
    rw [Reader.bind_of_ok (Reader.next_eq cursor), stays, Reader.statementFrom_refused other]
  rw [parse, Reader.statement_eq, Reader.within_of_syntaxError failed]
  simp [Reader.wantedAt, ended, SyntaxError.addRule]

/-- With something ahead a call moves the cursor forward, to an end marker or to the token at fault. -/
theorem parse_cases {cursor : Cursor} (goesOn : cursor.upcoming ≠ []) :
    (∃ tree stop, cursor.parse = .ok tree stop ∧ stop.current.kind = .endMarker ∧
        cursor.position < stop.position) ∨
      (∃ error stop, cursor.parse = .error (.syntaxError error) stop ∧ error.IsAbout stop.current ∧
        cursor.position < stop.position) ∨
      ∃ stop, cursor.parse = .error .nestedTooDeeply stop := by
  have further : ∀ {front rest next}, cursor.upcoming = front ++ next :: rest →
      cursor.position < (cursor.past front).advance.position := by
    intro front rest next coming
    rw [position_advance (upcoming_past coming), position_past coming]
    omega
  rcases Verdict.total .statement ruleLimit cursor goesOn with
    ⟨d, next, rest, fits, coming, ended⟩ | ⟨u, bad, rest, fits, coming, refused⟩ | ⟨stop, deep, _⟩
  · left
    have current := terminal_current_advance (upcoming_past coming)
    exact ⟨d.tree, _, d.read fits coming ended, (congrArg Prod.fst current).trans ended, further coming⟩
  · right
    left
    exact ⟨_, _, u.read fits coming refused, u.isAbout_errorAt _, further coming⟩
  · exact .inr (.inr ⟨stop, deep⟩)

end Cursor

/-! ## Calls one after the other -/

/-- The cursor after so many calls, each of which starts where the one before it has ended. -/
def Cursor.afterCalls (cursor : Cursor) : Nat → Cursor
  | 0 => cursor
  | calls + 1 => stopOf (cursor.afterCalls calls).parse

/-- The cursor after so many calls, and all the moves that they have made. -/
def Track.afterCalls (track : Track) : Nat → Track
  | 0 => track
  | calls + 1 => stopOf (Reader.statement ruleLimit (track.afterCalls calls))

/-- A call on a track has the outcome of the call on its cursor, and keeps the moves sound. -/
theorem Walk.parse {start : Cursor} {track : Track} (walk : Walk start track) :
    Track.forget (Reader.statement ruleLimit track) = track.cursor.parse ∧
      Walk start (stopOf (Reader.statement ruleLimit track)) := by
  have anywhere : Track.Follows (fun _ => True) (Reader.statement ruleLimit) (Reader.statement ruleLimit) _ :=
    Track.follows_statement ruleLimit
  have outcome := anywhere start track walk trivial
  exact ⟨outcome.forget_eq, outcome.walk_stopOf⟩

/-- Any number of calls make sound moves only. -/
theorem walk_afterCalls (cursor : Cursor) (calls : Nat) :
    Walk cursor (Track.afterCalls ⟨cursor, []⟩ calls) ∧
      (Track.afterCalls ⟨cursor, []⟩ calls).cursor = cursor.afterCalls calls := by
  induction calls with
  | zero => exact ⟨.start, rfl⟩
  | succ calls ih =>
    obtain ⟨walk, same⟩ := ih
    obtain ⟨outcome, walk'⟩ := walk.parse
    refine ⟨walk', ?_⟩
    rw [Track.afterCalls, Track.cursor_stopOf, outcome, same, Cursor.afterCalls]

/-- The cursor has nothing ahead exactly on the last token. -/
theorem Cursor.upcoming_eq_nil_iff {cursor : Cursor} {tokens : List Token}
    (all : cursor.toList = .startMarker :: tokens) :
    (cursor.upcoming = [] ↔ cursor.position = tokens.length) ∧ cursor.position ≤ tokens.length := by
  have length := congrArg List.length all
  simp only [toList, List.length_append, List.length_reverse, List.length_cons] at length
  rw [upcoming, List.map_eq_nil_iff, ← List.length_eq_zero_iff, position]
  constructor
  · constructor <;> intro _ <;> omega
  · omega

/-- On a token list that ends with an end marker, whatever else is in it, any number of calls step back
    only to undo steps that have moved the cursor. A call that is not nested too deeply ends on an end marker
    if it has a tree, and else on the token that its syntax error is about. It ends further ahead than it
    starts, unless it starts on the last token: there it stays, and misses a name. -/
theorem Cursor.parse_afterCalls {tokens : List Token} (closed : Closed tokens) :
    ∃ fresh, ofTokens tokens = .ok fresh ∧ ∀ calls : Nat,
      let start := fresh.afterCalls calls
      let stop := fresh.afterCalls (calls + 1)
      let track := Track.afterCalls ⟨fresh, []⟩ calls
      (Walk fresh track ∧ track.cursor = start ∧ start.toList = .startMarker :: tokens ∧
          Track.forget (Reader.statement ruleLimit track) = start.parse) ∧
        ((∀ stop, start.parse ≠ .error .nestedTooDeeply stop) →
          ((∃ tree, start.parse = .ok tree stop ∧ stop.current.kind = .endMarker) ∨
            ∃ error, start.parse = .error (.syntaxError error) stop ∧ error.IsAbout stop.current) ∧
          (start.position < tokens.length → start.position < stop.position) ∧
          (start.position = tokens.length → stop = start ∧ ∃ error,
            start.parse = .error (.syntaxError error) stop ∧ error.problem = .endOfInput .identifier)) := by
  obtain ⟨fresh, begun⟩ := exists_ofTokens closed
  refine ⟨fresh, begun, fun calls => ?_⟩
  intro start stop track
  obtain ⟨walk, same⟩ := walk_afterCalls fresh calls
  have all : start.toList = .startMarker :: tokens := by
    obtain ⟨behind, current, ahead⟩ := ofTokens_eq_ok_iff.1 begun
    have kept := walk.toList_eq
    rw [same, toList, toList, behind, current, ahead] at kept
    exact kept
  obtain ⟨last, bound⟩ := upcoming_eq_nil_iff all
  have outcome := walk.parse.1
  rw [same] at outcome
  refine ⟨⟨walk, same, all, outcome⟩, fun shallow => ?_⟩
  have ends : stop = stopOf start.parse := rfl
  by_cases done : start.upcoming = []
  · have missing := parse_of_nil done
    have stays : stop = start := by rw [ends, missing, stopOf]
    have ended := (advance_of_nil done).2
    rw [stays]
    refine ⟨.inr ⟨_, missing, rfl, ended⟩, fun before => ?_, fun _ => ⟨rfl, _, missing, rfl⟩⟩
    exact absurd (last.1 done) (Nat.ne_of_lt before)
  · have early : start.position ≠ tokens.length := fun here => done (last.2 here)
    rcases parse_cases done with ⟨tree, stop', read, ended, further⟩ | ⟨error, stop', failed, about, further⟩ |
      ⟨stop', deep⟩
    · obtain rfl : stop = stop' := by rw [ends, read, stopOf]
      exact ⟨.inl ⟨tree, read, ended⟩, fun _ => further, fun here => absurd here early⟩
    · obtain rfl : stop = stop' := by rw [ends, failed, stopOf]
      exact ⟨.inr ⟨error, failed, about⟩, fun _ => further, fun here => absurd here early⟩
    · exact absurd deep (shallow stop')

/-- After `x = 1` and its end marker a second call misses an equals sign after `y`, at the last token, where
    a third one misses a name. -/
theorem Cursor.parse_afterCalls_past_marker :
    let tokens : List Token := [⟨.identifier, "x", 1⟩, ⟨.operator, "=", 2⟩, ⟨.integer, "1", 3⟩, .endMarker 4,
      ⟨.identifier, "y", 5⟩, .endMarker 6]
    ∃ fresh, ofTokens tokens = .ok fresh ∧
      (∃ tree, fresh.parse = .ok tree (fresh.afterCalls 1)) ∧ (fresh.afterCalls 1).position = 4 ∧
      (fresh.afterCalls 2).position = 6 ∧ fresh.afterCalls 3 = fresh.afterCalls 2 ∧
      Walk fresh (Track.afterCalls ⟨fresh, []⟩ 3) := by
  intro tokens
  obtain ⟨fresh, begun, calls⟩ := @parse_afterCalls tokens ⟨_, rfl, rfl⟩
  refine ⟨fresh, begun, ?_⟩
  cases begun
  obtain ⟨_, _, stays⟩ := (calls 2).2 (by
    intro stop nested
    cases nested)
  exact ⟨⟨_, rfl⟩, rfl, rfl, (stays rfl).1, (calls 3).1.1⟩

end Formulary
