import Formulary.Token.Lexer
import Formulary.Proofs.Lexemes
import Formulary.Proofs.Grammar

/-!
# From a source to its tokens and back

Every token of a source stands in it at the token's column, and is a complete lexeme of its kind. A
text that spells some terminals, each as a lexeme that what follows does not go on with, has just
those tokens.
-/

namespace Formulary
open Formulary.Text

theorem scan_nil (passed : Nat) : scan passed [] = ⟨[], passed, []⟩ := by
  rw [scan.eq_def]

theorem scan_cons (passed : Nat) (c : Char) (rest : List Char) :
    scan passed (c :: rest) =
      if isBlank c then scan (passed + 1) rest
      else
        match Lexeme.atHead? (c :: rest) with
        | none => ⟨[], passed, c :: rest⟩
        | some (kind, text) =>
          let tail := scan (passed + text.length) ((c :: rest).drop text.length)
          { tail with tokens := ⟨kind, String.ofList text, columnAfter passed⟩ :: tail.tokens } := by
  rw [scan.eq_def]
  dsimp only
  split
  · rfl
  · cases Lexeme.atHead? (c :: rest) <;> rfl

/-- A token stands in a source at its column, as a complete lexeme of its kind. -/
def Token.StandsIn (source : List Char) (token : Token) : Prop :=
  ∃ k, token.column = columnAfter k ∧ token.text.toList <+: source.drop k ∧
    Lexeme.IsLexeme token.kind token.text.toList

theorem Token.StandsIn.kind_ne_endMarker {source : List Char} {token : Token}
    (stands : token.StandsIn source) : token.kind ≠ .endMarker := by
  obtain ⟨k, _, _, isLexeme⟩ := stands
  intro marker
  rw [marker] at isLexeme
  exact isLexeme

theorem length_drop_of_isPrefix {source text : List Char} {passed : Nat} (inside : passed ≤ source.length)
    (isPrefix : text <+: source.drop passed) : passed + text.length ≤ source.length := by
  have short := isPrefix.length_le
  rw [List.length_drop] at short
  omega

/-- A walk that starts in a source stops in it, and all tokens that it finds stand there. -/
theorem scan_standsIn {source : List Char} (passed : Nat) (cs : List Char) (here : cs = source.drop passed)
    (inside : passed ≤ source.length) :
    (scan passed cs).ahead = source.drop (scan passed cs).passed ∧
      (scan passed cs).passed ≤ source.length ∧
      ∀ token ∈ (scan passed cs).tokens, token.StandsIn source := by
  induction passed, cs using scan.induct with
  | case1 passed =>
    rw [scan_nil]
    exact ⟨here, inside, by simp⟩
  | case2 passed c rest blank ih =>
    rw [scan_cons, if_pos blank]
    have next : rest = source.drop (passed + 1) := by
      rw [← List.drop_drop, ← here, List.drop_one, List.tail_cons]
    have isPrefix : [c] <+: source.drop passed := here ▸ by simp
    have more : passed + 1 ≤ source.length := length_drop_of_isPrefix inside isPrefix
    exact ih next more
  | case3 passed c rest visible stops =>
    rw [scan_cons, if_neg visible, stops]
    exact ⟨here, inside, by simp⟩
  | case4 passed c rest visible kind text found ih =>
    obtain ⟨isLexeme, isPrefix⟩ := Lexeme.isLexeme_of_atHead? found
    have next : (c :: rest).drop text.length = source.drop (passed + text.length) := by
      rw [here, List.drop_drop]
    obtain ⟨ahead, bound, stand⟩ := ih next (length_drop_of_isPrefix inside (here ▸ isPrefix))
    rw [scan_cons, if_neg visible, found]
    refine ⟨ahead, bound, List.forall_mem_cons.2 ⟨⟨passed, rfl, ?_, ?_⟩, stand⟩⟩
    · simpa [here] using isPrefix
    · simpa using isLexeme

/-- The tokens of a source stand in it, and an end marker stands after its last character. -/
theorem exists_of_tokenize_eq_ok {source : String} {tokens : List Token} (lexed : tokenize source = .ok tokens) :
    ∃ front, tokens = front ++ [.endMarker (columnAfter source.toList.length)] ∧
      ∀ token ∈ front, token.StandsIn source.toList := by
  have start : source.toList = source.toList.drop 0 := rfl
  obtain ⟨ahead, bound, stand⟩ := scan_standsIn 0 source.toList start (Nat.zero_le _)
  rw [tokenize, Lexer.tokenize, Lexer.ofText] at lexed
  simp only at lexed
  split at lexed
  next ended =>
    have passed : (scan 0 source.toList).passed = source.toList.length := by
      rw [ended, eq_comm, List.drop_eq_nil_iff] at ahead
      omega
    rw [passed] at lexed
    exact ⟨_, (Except.ok.inj lexed).symm, stand⟩
  next => cases lexed

/-- A text spells some terminals: what stands between them is blank, and each is the lexeme that is
    taken where it starts. -/
inductive Spelled : List Char → List Terminal → Prop where
  | nil : Spelled [] []
  | blank {c : Char} {rest : List Char} {terminals : List Terminal} (blank : isBlank c)
      (spelled : Spelled rest terminals) : Spelled (c :: rest) terminals
  | lexeme {c : Char} {text rest : List Char} {kind : TokenKind} {terminals : List Terminal}
      (visible : ¬ isBlank c) (found : Lexeme.atHead? ((c :: text) ++ rest) = some (kind, c :: text))
      (spelled : Spelled rest terminals) :
      Spelled ((c :: text) ++ rest) ((kind, String.ofList (c :: text)) :: terminals)

/-- A walk over a text that spells some terminals finds them all. -/
theorem Spelled.scan {cs : List Char} {terminals : List Terminal} (spelled : Spelled cs terminals)
    (passed : Nat) :
    (scan passed cs).ahead = [] ∧ (scan passed cs).tokens.map Token.terminal = terminals := by
  induction spelled generalizing passed with
  | nil =>
    rw [scan_nil]
    exact ⟨rfl, rfl⟩
  | blank blank _ ih =>
    rw [scan_cons, if_pos blank]
    exact ih (passed + 1)
  | @lexeme c text rest kind terminals visible found _ ih =>
    obtain ⟨ahead, tokens⟩ := ih (passed + (c :: text).length)
    have after : (c :: (text ++ rest)).drop (c :: text).length = rest := List.drop_left
    rw [List.cons_append] at found ⊢
    rw [scan_cons, if_neg visible, found]
    simp only [after]
    exact ⟨ahead, by rw [List.map_cons, tokens, Token.terminal]⟩

/-- A text that spells some terminals has them as its tokens, and after them an end marker. -/
theorem Spelled.tokenize {source : String} {terminals : List Terminal}
    (spelled : Spelled source.toList terminals) :
    ∃ tokens, Formulary.tokenize source = .ok tokens ∧
      tokens.map Token.terminal = terminals ++ [(.endMarker, "")] := by
  obtain ⟨ahead, found⟩ := spelled.scan 0
  rw [Formulary.tokenize, Lexer.tokenize, Lexer.ofText]
  simp only [ahead, List.nil_append]
  exact ⟨_, rfl, by simp [found, Token.terminal, Token.endMarker]⟩

end Formulary
