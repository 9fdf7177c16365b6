import Formulary.Proofs.Parsing

/-!
# Where parsing fails

A syntax error is about the first token that no statement goes on with. It depends on nothing that
comes after that token, what it wants could have stood in the token's place, and for the tokens of a
source it says where in the source the token stands.
-/

namespace Formulary

/-- What is wanted may stand after some terminals: they are a statement, if the end of the input is
    wanted; else something is wanted, and all that is wanted begins a statement there. -/
def Wanted.MayFollow (front : List Terminal) : Wanted → Prop
  | .endOfInput => ∃ tree, Derives front tree
  | wanted =>
    (∃ terminal, wanted.admits terminal) ∧ ∀ terminal, wanted.admits terminal → Viable (front ++ [terminal])

/-- An error is about a place of a source: after its last character if the input has ended, else
    where the source has the text that the error quotes. -/
def SyntaxError.PointsInto (source : List Char) (error : SyntaxError) : Prop :=
  match error.problem with
  | .endOfInput _ => error.column = source.length + 1
  | problem => ∃ k : Nat, error.column = k + 1 ∧ problem.got ≠ "" ∧ problem.got.toList <+: source.drop k

namespace Unfinished

theorem wanted_problem_errorAt {rule : Rule} (u : Unfinished rule) (bad : Token) :
    (u.errorAt bad).problem.wanted = u.wanted := by
  rw [errorAt]
  split
  · rfl
  · split
    next ended => rw [ended, SyntaxProblem.wanted]
    next => rfl

theorem wanted_mayFollow (u : Unfinished .statement) : u.wanted.MayFollow u.terminals := by
  by_cases ended : u.wanted = .endOfInput
  · obtain ⟨d, same⟩ := u.exists_derivation_of_endOfInput ended
    rw [ended]
    exact ⟨d.tree, d, same, rfl⟩
  · have goesOn : ∀ terminal, u.wanted.admits terminal → Viable (u.terminals ++ [terminal]) :=
      fun _ admitted => u.exists_completion ended admitted
    have admitted := u.wanted.exists_admitted
    cases wanted : u.wanted with
    | endOfInput => exact absurd wanted ended
    | identifier | equalsSign | factor | closingParenthesis =>
      rw [wanted] at admitted goesOn
      exact ⟨admitted, goesOn⟩

/-- A token list on which a derivation breaks off is read to the token that it refuses. -/
theorem parse_eq {u : Unfinished .statement} {tokens : List Token} {cursor : Cursor} {bad : Terminal}
    {rest : List Terminal} (fresh : Cursor.ofTokens tokens = .ok cursor) (fits : u.depth ≤ ruleLimit)
    (coming : tokens.map Token.terminal = u.terminals ++ bad :: rest) (refused : u.wanted.refuses bad) :
    ∃ token stop, cursor.parse = .error (.syntaxError (u.errorAt token)) stop ∧ stop.current = token ∧
      stop.position = u.terminals.length + 1 ∧ tokens[u.terminals.length]? = some token ∧
      token.terminal = bad := by
  obtain ⟨behind, current, ahead⟩ := Cursor.ofTokens_eq_ok_iff.1 fresh
  rw [← ahead] at coming
  have position : (cursor.past u.terminals).advance.position = u.terminals.length + 1 := by
    rw [Cursor.position_advance (Cursor.upcoming_past coming), Cursor.position_past coming, Cursor.position,
      behind, List.length_nil, Nat.zero_add]
  have terminal := Cursor.terminal_current_advance (Cursor.upcoming_past coming)
  refine ⟨_, _, u.read fits coming refused, rfl, position, ?_, terminal⟩
  have found := Cursor.getElem?_toList_position (cursor.past u.terminals).advance
  rw [position, Cursor.toList_advance, Cursor.toList_past, Cursor.toList, behind, current, ahead] at found
  exact found

/-- All token lists that begin with what has been read and the token that is refused fail alike. -/
theorem parseTokens_of_shared {u : Unfinished .statement} {tokens others : List Token} {token : Token}
    {bad : Terminal} {rest : List Terminal} (fits : u.depth ≤ ruleLimit)
    (coming : tokens.map Token.terminal = u.terminals ++ bad :: rest) (refused : u.wanted.refuses bad)
    (found : tokens[u.terminals.length]? = some token) (closed : Closed others)
    (shared : others.take (u.terminals.length + 1) = tokens.take (u.terminals.length + 1)) :
    parseTokens others = .error (.syntaxError (u.errorAt token)) := by
  obtain ⟨cursor, fresh⟩ := Cursor.exists_ofTokens closed
  have read : (others.take (u.terminals.length + 1)).map Token.terminal = u.terminals ++ [bad] := by
    rw [shared, List.map_take, coming, List.take_length_add_append]
    rfl
  have split : others.map Token.terminal =
      u.terminals ++ bad :: (others.drop (u.terminals.length + 1)).map Token.terminal := by
    rw [List.append_cons, ← read, ← List.map_append, List.take_append_drop]
  obtain ⟨token', _, failed, _, _, found', _⟩ := u.parse_eq fresh fits split refused
  -- The terminals of the two lists agree as far as they are read, so the same derivation breaks off
  -- there; that it is the same token, column included, is what `shared` says beyond the terminals.
  have same : token' = token := by
    have here := congrArg (·[u.terminals.length]?) shared
    simp only [List.getElem?_take_of_succ, found, found'] at here
    exact Option.some.inj here
  rw [parseTokens_eq fresh, failed, same]

/-- No statement goes on with a terminal that is refused. -/
theorem not_viable {u : Unfinished .statement} {bad : Terminal} (refused : u.wanted.refuses bad) :
    ¬ Viable (u.terminals ++ [bad]) := by
  rintro ⟨d, more, same⟩
  have coming := Cursor.upcoming_ofTerminals d.terminals
  have broken : (Cursor.ofTerminals d.terminals).upcoming =
      u.terminals ++ bad :: (more ++ [(.endMarker, "")]) := by
    rw [coming, ← same]
    simp
  exact not_derived broken refused coming rfl

/-- An error at a token of a source is about a place of the source. -/
theorem pointsInto_errorAt {source : String} {tokens : List Token} (lexed : tokenize source = .ok tokens)
    {rule : Rule} (u : Unfinished rule) {token : Token} (member : token ∈ tokens) :
    (u.errorAt token).PointsInto source.toList := by
  obtain ⟨front, rfl, stand⟩ := exists_of_tokenize_eq_ok lexed
  rw [List.mem_append, List.mem_singleton] at member
  rcases member with inside | rfl
  · have stands := stand token inside
    have other := stands.kind_ne_endMarker
    obtain ⟨k, column, isPrefix, isLexeme⟩ := stands
    have filled : token.text ≠ "" := by
      intro empty
      rw [empty] at isLexeme
      exact isLexeme.ne_nil rfl
    rw [SyntaxError.PointsInto, errorAt, if_neg other]
    split
    next ended =>
      split at ended <;> cases ended
    next =>
      refine ⟨k, column, ?_⟩
      split <;> exact ⟨filled, isPrefix⟩
  · rw [SyntaxError.PointsInto, errorAt, if_pos (by rfl)]
    rfl

end Unfinished

/-- A syntax error of a fresh cursor is about the token under the cursor: the tokens before it begin
    a statement, with it they begin none, and if it is an end marker they are none themselves. What is
    wanted may stand there. Every token list that begins with the same tokens fails with the same
    error. The error at a token of a source is about a place of the source. -/
theorem Cursor.parse_syntaxError_at_first_impossible {tokens : List Token} {cursor stop : Cursor}
    {error : SyntaxError} (fresh : ofTokens tokens = .ok cursor)
    (failed : cursor.parse = .error (.syntaxError error) stop) :
    ∃ i bad, stop.position = i + 1 ∧ stop.current = bad ∧ tokens[i]? = some bad ∧
      Viable ((tokens.take i).map Token.terminal) ∧
      ¬ Viable ((tokens.take (i + 1)).map Token.terminal) ∧
      (bad.kind = .endMarker → ¬ ∃ tree, Derives ((tokens.take i).map Token.terminal) tree) ∧
      error.problem.wanted.MayFollow ((tokens.take i).map Token.terminal) ∧
      (∀ others, Closed others → others.take (i + 1) = tokens.take (i + 1) →
        parseTokens others = .error (.syntaxError error)) ∧
      ∀ source, tokenize source = .ok tokens → error.PointsInto source.toList := by
  have ahead := (ofTokens_eq_ok_iff.1 fresh).2.2
  have closed := closed_of_ofTokens fresh
  have something : cursor.upcoming ≠ [] := by simpa [upcoming, ahead] using closed.ne_nil
  rcases Verdict.total .statement ruleLimit cursor something with
    ⟨d, marker, rest, fits, split, ended⟩ | ⟨u, bad, rest, fits, split, refused⟩ | ⟨deepStop, deep, _⟩
  · have parsed : cursor.parse = .ok d.tree _ := d.read fits split ended
    rw [parsed] at failed
    cases failed
  · have coming : tokens.map Token.terminal = u.terminals ++ bad :: rest := by rw [← split, upcoming, ahead]
    obtain ⟨token, stop', failed', current, position, found, terminal⟩ :=
      u.parse_eq fresh fits coming refused
    rw [failed'] at failed
    cases failed
    have front : (tokens.take u.terminals.length).map Token.terminal = u.terminals := by
      rw [List.map_take, coming, List.take_left]
    have further : (tokens.take (u.terminals.length + 1)).map Token.terminal = u.terminals ++ [bad] := by
      rw [List.map_take, coming, List.take_length_add_append]
      rfl
    refine ⟨u.terminals.length, token, position, current, found, ?_⟩
    rw [front, further, u.wanted_problem_errorAt]
    refine ⟨u.viable_terminals, u.not_viable refused, ?_, u.wanted_mayFollow, ?_, ?_⟩
    · rintro ended ⟨_, d, same, _⟩
      have ends : Rule.statement.ends bad := terminal ▸ ended
      exact Unfinished.not_derived split refused (same ▸ split) ends
    · intro others othersClosed shared
      exact u.parseTokens_of_shared fits coming refused found othersClosed shared
    · exact fun source lexed => u.pointsInto_errorAt lexed (List.mem_of_getElem? found)
  · have deep : cursor.parse = .error .nestedTooDeeply deepStop := deep
    rw [deep] at failed
    cases failed

/-- In `x = 1 2` the second number is the first impossible token, and the error quotes it from there. -/
theorem Cursor.parse_second_number_impossible :
    ∃ tokens cursor error stop, tokenize "x = 1 2" = .ok tokens ∧ ofTokens tokens = .ok cursor ∧
      cursor.parse = .error (.syntaxError error) stop ∧ error.PointsInto "x = 1 2".toList ∧
      Viable [(.identifier, "x"), (.operator, "="), (.integer, "1")] ∧
      ¬ Viable [(.identifier, "x"), (.operator, "="), (.integer, "1"), (.integer, "2")] := by
  have lexed : tokenize "x = 1 2" = .ok [⟨.identifier, "x", 1⟩, ⟨.operator, "=", 3⟩, ⟨.integer, "1", 5⟩,
      ⟨.integer, "2", 7⟩, .endMarker 8] := by
    decide +kernel
  obtain ⟨cursor, fresh⟩ := exists_ofTokens (closed_of_tokenize lexed)
  obtain ⟨error, stop, position, failed⟩ : ∃ error stop, stop.position = 4 ∧
      cursor.parse = .error (.syntaxError error) stop := by
    cases fresh
    exact ⟨_, _, rfl, rfl⟩
  obtain ⟨i, bad, position', _, _, viable, stuck, _, _, _, points⟩ :=
    parse_syntaxError_at_first_impossible fresh failed
  obtain rfl : i = 3 := Nat.succ.inj (position'.symm.trans position)
  exact ⟨_, cursor, error, stop, lexed, fresh, failed, points _ lexed, viable, stuck⟩

end Formulary
