import Mathlib.Data.List.TakeWhile
import Formulary.Proofs.Reading
import Formulary.Proofs.Scanning

/-!
# What is parsed

A token list is parsed exactly if the tokens before its first end marker are a statement of the
grammar, and then to the one tree that the grammar gives it.
-/

namespace Formulary

/-- A token list that ends with an end marker. -/
def Closed (tokens : List Token) : Prop :=
  ∃ last, tokens.getLast? = some last ∧ last.kind = .endMarker

/-- The terminals before the first end marker. -/
def sentence (tokens : List Token) : List Terminal :=
  (tokens.map Token.terminal).takeWhile (·.1 ≠ .endMarker)

namespace Cursor

theorem ofTokens_eq_ok_iff {tokens : List Token} {cursor : Cursor} :
    ofTokens tokens = .ok cursor ↔
      cursor.behind = [] ∧ cursor.current = .startMarker ∧ cursor.ahead = tokens := by
  obtain ⟨behind, current, ahead, closed⟩ := cursor
  constructor
  · intro fresh
    rw [ofTokens] at fresh
    split at fresh
    · cases fresh
      exact ⟨rfl, rfl, rfl⟩
    · cases fresh
  · rintro ⟨rfl, rfl, rfl⟩
    rw [ofTokens, dif_pos closed]

theorem exists_ofTokens {tokens : List Token} (closed : Closed tokens) :
    ∃ cursor, ofTokens tokens = .ok cursor := by
  obtain ⟨last, found, kind⟩ := closed
  exact ⟨⟨[], .startMarker, tokens, by simpa [found] using kind⟩, ofTokens_eq_ok_iff.2 ⟨rfl, rfl, rfl⟩⟩

theorem closed_of_ofTokens {tokens : List Token} {cursor : Cursor} (fresh : ofTokens tokens = .ok cursor) :
    Closed tokens := by
  obtain ⟨_, start, rfl⟩ := ofTokens_eq_ok_iff.1 fresh
  have closed := cursor.closed
  cases found : cursor.ahead.getLast? with
  | none =>
    rw [found, Option.getD_none, start] at closed
    cases closed
  | some last =>
    rw [found, Option.getD_some] at closed
    exact ⟨last, found, closed⟩

end Cursor

theorem closed_of_tokenize {source : String} {tokens : List Token} (lexed : tokenize source = .ok tokens) :
    Closed tokens := by
  obtain ⟨front, rfl, _⟩ := exists_of_tokenize_eq_ok lexed
  exact ⟨_, List.getLast?_concat, rfl⟩

theorem Closed.ne_nil {tokens : List Token} (closed : Closed tokens) : tokens ≠ [] := by
  rintro rfl
  obtain ⟨last, found, _⟩ := closed
  simp at found

/-- A closed token list is its sentence, an end marker, and perhaps more. -/
theorem Closed.exists_split {tokens : List Token} (closed : Closed tokens) :
    ∃ marker rest, tokens.map Token.terminal = sentence tokens ++ marker :: rest ∧
      marker.1 = .endMarker := by
  obtain ⟨last, found, kind⟩ := closed
  have split := List.takeWhile_append_dropWhile (p := fun t : Terminal => t.1 ≠ TokenKind.endMarker)
    (l := tokens.map Token.terminal)
  cases after : (tokens.map Token.terminal).dropWhile (fun t => t.1 ≠ TokenKind.endMarker) with
  | nil =>
    have member : last.terminal ∈ tokens.map Token.terminal :=
      List.mem_map_of_mem (List.mem_of_getLast? found)
    have goesOn := List.dropWhile_eq_nil_iff.1 after last.terminal member
    simp [Token.terminal, kind] at goesOn
  | cons marker rest =>
    rw [after] at split
    have stops := List.head?_dropWhile_not (fun t : Terminal => t.1 ≠ TokenKind.endMarker)
      (tokens.map Token.terminal)
    rw [after] at stops
    exact ⟨marker, rest, split.symm, by simpa using stops⟩

theorem sentence_eq_of_split {tokens : List Token} {front rest : List Terminal} {marker : Terminal}
    (split : tokens.map Token.terminal = front ++ marker :: rest)
    (goesOn : ∀ terminal ∈ front, terminal.1 ≠ .endMarker) (ended : marker.1 = .endMarker) :
    sentence tokens = front := by
  rw [sentence, split, List.takeWhile_append_of_pos (by simpa using goesOn)]
  simp [ended]

/-- The cursor before some terminals and an end marker. -/
def Cursor.ofTerminals (terminals : List Terminal) : Cursor where
  behind := []
  current := .startMarker
  ahead := terminals.map (fun (kind, text) => ⟨kind, text, 0⟩) ++ [.endMarker 0]
  closed := by simp [Token.endMarker]

theorem Cursor.upcoming_ofTerminals (terminals : List Terminal) :
    (ofTerminals terminals).upcoming = terminals ++ [(.endMarker, "")] := by
  simp [ofTerminals, upcoming, Token.terminal, Token.endMarker, Function.comp_def]

/-- What is derived from the same terminals has the same tree. -/
theorem Derivation.tree_eq {rule : Rule} {d e : Derivation rule} (same : d.terminals = e.terminals) :
    d.tree = e.tree := by
  have ended : rule.ends (.endMarker, "") := Rule.ends_of_endMarker rfl rule
  have coming := Cursor.upcoming_ofTerminals d.terminals
  have first := d.read (Nat.le_max_left d.depth e.depth) coming ended
  have coming' : (Cursor.ofTerminals d.terminals).upcoming = e.terminals ++ (.endMarker, "") :: [] :=
    same ▸ coming
  have second := e.read (Nat.le_max_right d.depth e.depth) coming' ended
  rw [first] at second
  exact (EStateM.Result.ok.inj second).1

theorem Derives.unique {terminals : List Terminal} {tree other : Tree} (derived : Derives terminals tree)
    (derived' : Derives terminals other) : tree = other := by
  obtain ⟨d, rfl, rfl⟩ := derived
  obtain ⟨e, same, rfl⟩ := derived'
  exact Derivation.tree_eq same.symm

/-- Where a derivation of a rule breaks off at a terminal that it refuses, none of that rule ends
    later or earlier. -/
theorem Unfinished.not_derived {rule : Rule} {u : Unfinished rule} {d : Derivation rule} {cursor : Cursor}
    {bad next : Terminal} {rest rest' : List Terminal}
    (coming : cursor.upcoming = u.terminals ++ bad :: rest) (refused : u.wanted.refuses bad)
    (derived : cursor.upcoming = d.terminals ++ next :: rest') (ends : rule.ends next) : False := by
  have failed := u.read (Nat.le_max_left u.depth d.depth) coming refused
  have read := d.read (Nat.le_max_right u.depth d.depth) derived ends
  rw [failed] at read
  cases read

theorem parseTokens_eq {tokens : List Token} {cursor : Cursor} (fresh : Cursor.ofTokens tokens = .ok cursor) :
    parseTokens tokens =
      match cursor.parse with
      | .ok tree _ => .ok tree
      | .error error _ => .error error := by
  rw [parseTokens, fresh]
  simp only [bind, Except.bind]
  cases cursor.parse <;> rfl

/-- A derivation of the sentence that fits into the room there is gives the tree that is parsed. -/
theorem parseTokens_of_fits {tokens : List Token} (closed : Closed tokens) (d : Derivation .statement)
    (same : d.terminals = sentence tokens) (fits : d.depth ≤ ruleLimit) :
    parseTokens tokens = .ok d.tree := by
  obtain ⟨cursor, fresh⟩ := Cursor.exists_ofTokens closed
  obtain ⟨marker, rest, split, ended⟩ := closed.exists_split
  have coming : cursor.upcoming = d.terminals ++ marker :: rest := by
    rw [Cursor.upcoming, (Cursor.ofTokens_eq_ok_iff.1 fresh).2.2, split, same]
  have parsed : cursor.parse = .ok d.tree _ := d.read fits coming ended
  rw [parseTokens_eq fresh, parsed]

/-- The sentence of a closed token list has a derivation that fits into the room there is, or it is
    no statement and there is a syntax error, or it is nested too deeply. -/
theorem parseTokens_cases {tokens : List Token} (closed : Closed tokens) :
    (∃ d : Derivation .statement, d.terminals = sentence tokens ∧ d.depth ≤ ruleLimit) ∨
      ((∃ error, parseTokens tokens = .error (.syntaxError error)) ∧
        ¬ ∃ tree, Derives (sentence tokens) tree) ∨
      parseTokens tokens = .error .nestedTooDeeply ∧ 100 < tokens.length := by
  obtain ⟨cursor, fresh⟩ := Cursor.exists_ofTokens closed
  have ahead := (Cursor.ofTokens_eq_ok_iff.1 fresh).2.2
  have coming : cursor.upcoming = tokens.map Token.terminal := by rw [Cursor.upcoming, ahead]
  have something : cursor.upcoming ≠ [] := by simpa [coming] using closed.ne_nil
  rcases Verdict.total .statement ruleLimit cursor something with
    ⟨d, marker, rest, fits, split, ended⟩ | ⟨u, bad, rest, fits, split, refused⟩ | ⟨stop, failed, short⟩
  · exact .inl ⟨d, (sentence_eq_of_split (coming ▸ split) d.kind_ne_endMarker ended).symm, fits⟩
  · right
    left
    have failed : cursor.parse = u.failure cursor := u.read fits split refused
    refine ⟨⟨_, by rw [parseTokens_eq fresh, failed, Unfinished.failure]⟩, ?_⟩
    rintro ⟨tree, d, same, _⟩
    obtain ⟨marker, rest', whole, ended⟩ := closed.exists_split
    rw [← same, ← coming] at whole
    exact Unfinished.not_derived split refused whole ended
  · right
    right
    have failed : cursor.parse = .error .nestedTooDeeply stop := failed
    refine ⟨by rw [parseTokens_eq fresh, failed], ?_⟩
    rw [coming, List.length_map] at short
    unfold ruleLimit at short
    omega

/-- A closed token list is nested too deeply, which takes more than a hundred tokens, or it is parsed
    exactly if its sentence is a statement of the grammar, to the tree of that statement; otherwise
    there is a syntax error. No statement has two trees. -/
theorem parseTokens_eq_ok_iff_derives {tokens : List Token} (closed : Closed tokens) :
    (parseTokens tokens = .error .nestedTooDeeply ∧ 100 < tokens.length ∨
      (∀ tree, parseTokens tokens = .ok tree ↔ Derives (sentence tokens) tree) ∧
      ((¬ ∃ tree, Derives (sentence tokens) tree) →
        ∃ error, parseTokens tokens = .error (.syntaxError error))) ∧
    ∀ terminals tree other, Derives terminals tree → Derives terminals other → tree = other := by
  refine ⟨?_, fun _ _ _ => Derives.unique⟩
  rcases parseTokens_cases closed with ⟨d, same, fits⟩ | ⟨⟨error, failed⟩, none⟩ | tooDeep
  · right
    have derived : Derives (sentence tokens) d.tree := ⟨d, same, rfl⟩
    refine ⟨fun tree => ?_, fun none => absurd ⟨_, derived⟩ none⟩
    rw [parseTokens_of_fits closed d same fits, Except.ok.injEq]
    constructor
    · rintro rfl
      exact derived
    · intro derived'
      exact derived.unique derived'
  · right
    refine ⟨fun tree => ?_, fun _ => ⟨error, failed⟩⟩
    rw [failed]
    constructor
    · intro parsed
      cases parsed
    · intro derived
      exact absurd ⟨tree, derived⟩ none
  · exact .inl tooDeep

/-- `x = 8 - 3 - (a)` is parsed to a difference with a difference on its right. -/
theorem parseTokens_chain_eq_ok :
    parseTokens [⟨.identifier, "x", 1⟩, ⟨.operator, "=", 3⟩, ⟨.integer, "8", 5⟩, ⟨.operator, "-", 7⟩,
        ⟨.integer, "3", 9⟩, ⟨.operator, "-", 11⟩, ⟨.operator, "(", 13⟩, ⟨.identifier, "a", 14⟩,
        ⟨.operator, ")", 15⟩, .endMarker 16] =
      .ok (.binary .assign (.literal "x" .identifier) (.binary .subtract (.literal "8" .integer)
        (.binary .subtract (.literal "3" .integer) (.literal "a" .identifier)))) := by
  have closed : Closed [⟨.identifier, "x", 1⟩, ⟨.operator, "=", 3⟩, ⟨.integer, "8", 5⟩, ⟨.operator, "-", 7⟩,
      ⟨.integer, "3", 9⟩, ⟨.operator, "-", 11⟩, ⟨.operator, "(", 13⟩, ⟨.identifier, "a", 14⟩,
      ⟨.operator, ")", 15⟩, .endMarker 16] :=
    ⟨_, rfl, rfl⟩
  obtain ⟨⟨_, long⟩ | ⟨parsed, _⟩, _⟩ := parseTokens_eq_ok_iff_derives closed
  · simp at long
  · refine (parsed _).2 ⟨.statement "x" (.sum (.ofFactor (.integer "8")) .subtract (by decide)
      (.sum (.ofFactor (.integer "3")) .subtract (by decide)
        (.ofTerm (.ofFactor (.parenthesized (.ofTerm (.ofFactor (.identifier "a")))))))), ?_, rfl⟩
    decide

end Formulary
