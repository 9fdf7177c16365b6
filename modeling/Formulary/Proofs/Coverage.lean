import Formulary.Proofs.Separators

/-!
# Tokens cover their source

Each token of a source is the text that stands at its column. The tokens are in order and do not
overlap, the last of them is the end marker behind the last character, and what stands in no token is
blank. So a source is known from its tokens and its blanks.
-/

namespace Formulary
open Formulary.Text Formulary.Lexeme

/-- A source has the text of a token at the token's column. -/
def Token.IsAt (source : List Char) (token : Token) : Prop :=
  ∃ k, token.column = columnAfter k ∧ (source.drop k).take token.text.length = token.text.toList

/-- A token takes up the character that has so many others before it. -/
def Token.Covers (token : Token) (k : Nat) : Prop :=
  token.column ≤ columnAfter k ∧ columnAfter k < token.column + token.text.length

/-- A token starts before another one, and has ended where that one starts. -/
def Token.Precedes (token later : Token) : Prop :=
  token.column < later.column ∧ token.column + token.text.length ≤ later.column

/-- The text with the given blanks and tokens, so many characters being before it. The column of each
    token says how many of the blanks stand before it. -/
def interleave (passed : Nat) (blanks : List Char) : List Token → List Char
  | [] => []
  | token :: tokens =>
    let gap := (token.column - columnAfter passed).toNat
    blanks.take gap ++ token.text.toList ++
      interleave (passed + gap + token.text.length) (blanks.drop gap) tokens

theorem Token.isAt_of_standsIn {source : List Char} {token : Token} (stands : token.StandsIn source) :
    token.IsAt source := by
  obtain ⟨k, column, isPrefix, _⟩ := stands
  refine ⟨k, column, ?_⟩
  rw [← String.length_toList, ← List.prefix_iff_eq_take.1 isPrefix]

theorem Token.isAt_endMarker (source : List Char) : (Token.endMarker (columnAfter source.length)).IsAt source :=
  ⟨source.length, rfl, by simp [endMarker]⟩

theorem Token.not_covers_endMarker (column : Int) (k : Nat) : ¬ (Token.endMarker column).Covers k := by
  rintro ⟨starts, ends⟩
  simp only [endMarker, String.length_empty] at starts ends
  omega

section
variable {passed : Nat} {blanks : List Char} {tokens : List Token}

/-- A blank before the first token is the first character. -/
theorem interleave_cons (c : Char) (filled : tokens ≠ [])
    (beyond : ∀ token ∈ tokens, columnAfter (passed + 1) ≤ token.column) :
    interleave passed (c :: blanks) tokens = c :: interleave (passed + 1) blanks tokens := by
  obtain ⟨token, tokens, rfl⟩ := List.exists_cons_of_ne_nil filled
  have beyond := beyond token List.mem_cons_self
  have wider : (token.column - columnAfter passed).toNat =
      (token.column - columnAfter (passed + 1)).toNat + 1 := by
    unfold columnAfter at beyond ⊢
    omega
  simp only [interleave]
  rw [wider, List.take_succ_cons, List.drop_succ_cons, Nat.add_right_comm passed 1, ← Nat.add_assoc passed]
  rfl

/-- A token at the first column is the first text. -/
theorem interleave_token (kind : TokenKind) (text : List Char) :
    interleave passed blanks (⟨kind, String.ofList text, columnAfter passed⟩ :: tokens) =
      text ++ interleave (passed + text.length) blanks tokens := by
  simp [interleave]

end

namespace Reaches

variable {passed stop : Nat} {cs ahead : List Char} {found : List Token}

theorem passed_le_stop (reaches : Reaches passed cs found stop ahead) : passed ≤ stop := by
  obtain ⟨front, _, length, _⟩ := reaches.exists_front
  omega

/-- No token that a walk finds, nor an end marker where it stops, stands before its start. -/
theorem le_column_closed (reaches : Reaches passed cs found stop ahead) :
    ∀ token ∈ found ++ [.endMarker (columnAfter stop)], columnAfter passed ≤ token.column := by
  rw [List.forall_mem_append, List.forall_mem_singleton]
  refine ⟨reaches.le_column, ?_⟩
  have bound := reaches.passed_le_stop
  simp only [Token.endMarker, columnAfter]
  omega

/-- The tokens of a walk are in order, and an end marker where it stops comes after them. -/
theorem pairwise_precedes (reaches : Reaches passed cs found stop ahead) :
    (found ++ [Token.endMarker (columnAfter stop)]).Pairwise Token.Precedes := by
  induction reaches with
  | here => exact List.pairwise_singleton _ _
  | blank _ _ ih => exact ih
  | @lexeme passed stop kind text rest ahead found longest more ih =>
    rw [List.cons_append, List.pairwise_cons]
    refine ⟨fun later member => ?_, ih⟩
    have beyond := more.le_column_closed later member
    have filled := List.length_pos_iff.2 longest.1.ne_nil
    simp only [Token.Precedes, String.length_ofList, columnAfter] at beyond ⊢
    omega

/-- A character that has been walked over is blank exactly if it stands in no token. -/
theorem isBlank_iff (reaches : Reaches passed cs found stop ahead) (ended : ahead = []) {k : Nat} {c : Char}
    (here : cs[k]? = some c) : isBlank c ↔ ∀ token ∈ found, ¬ token.Covers (passed + k) := by
  induction reaches generalizing k with
  | here =>
    rw [ended] at here
    cases here
  | @blank passed stop d rest ahead found blank more ih =>
    cases k with
    | zero =>
      cases here
      refine iff_of_true blank fun token member covers => ?_
      have beyond := more.le_column token member
      unfold Token.Covers columnAfter at covers
      unfold columnAfter at beyond
      omega
    | succ k =>
      rw [ih ended here, Nat.add_right_comm, Nat.add_assoc]
  | @lexeme passed stop kind text rest ahead found longest more ih =>
    rw [List.forall_mem_cons]
    by_cases inside : k < text.length
    · rw [List.getElem?_append_left inside] at here
      refine iff_of_false (longest.1.not_isBlank_of_mem (List.mem_of_getElem? here)) fun outside => outside.1 ?_
      simp only [Token.Covers, String.length_ofList, columnAfter]
      omega
    · rw [List.getElem?_append_right (Nat.le_of_not_lt inside)] at here
      have after : passed + text.length + (k - text.length) = passed + k := by omega
      have beyond : ¬ Token.Covers ⟨kind, String.ofList text, columnAfter passed⟩ (passed + k) := by
        simp only [Token.Covers, String.length_ofList, columnAfter]
        omega
      rw [ih ended here, after]
      exact (and_iff_right beyond).symm

theorem filter_isBlank_text {kind : TokenKind} {text rest : List Char} (isLexeme : IsLexeme kind text) :
    (text ++ rest).filter isBlank = rest.filter isBlank ∧
      (text ++ rest).filter (!isBlank ·) = text ++ rest.filter (!isBlank ·) := by
  have visible : ∀ c ∈ text, isBlank c = false := by
    intro c member
    exact Bool.eq_false_iff.2 (isLexeme.not_isBlank_of_mem member)
  rw [List.filter_append, List.filter_append]
  constructor
  · rw [List.filter_eq_nil_iff.2 (by simpa using visible), List.nil_append]
  · rw [List.filter_eq_self.2 (by simpa using visible)]

/-- Without its blanks, a text that has been walked over is the texts of its tokens. -/
theorem filter_not_isBlank (reaches : Reaches passed cs found stop ahead) (ended : ahead = []) :
    cs.filter (!isBlank ·) = found.flatMap (·.text.toList) := by
  induction reaches with
  | here => simp [ended]
  | blank blank _ ih => rw [List.filter_cons_of_neg (by simp [blank]), ih ended]
  | lexeme longest _ ih =>
    rw [(filter_isBlank_text longest.1).2, ih ended, List.flatMap_cons, String.toList_ofList]

/-- A text that has been walked over is its blanks and its tokens, with an end marker where it ends. -/
theorem interleave_eq (reaches : Reaches passed cs found stop ahead) (ended : ahead = []) :
    interleave passed (cs.filter isBlank) (found ++ [.endMarker (columnAfter stop)]) = cs := by
  induction reaches with
  | here => simp [ended, interleave, Token.endMarker]
  | blank blank more ih =>
    rw [List.filter_cons_of_pos blank, interleave_cons _ (by simp) more.le_column_closed, ih ended]
  | lexeme longest _ ih =>
    rw [(filter_isBlank_text longest.1).1, List.cons_append, interleave_token, ih ended]

end Reaches

/-- The tokens of a source are what stands at their columns, in order and without overlapping. A
    character is blank exactly if it stands in no token. One token is an end marker, the last one, and
    it stands after the last character. Without its blanks the source is the texts of its tokens, and
    with them in the gaps between the tokens it is the source again. -/
theorem tokenize_covers_source {source : String} {tokens : List Token} (lexed : tokenize source = .ok tokens) :
    (∀ token ∈ tokens, token.IsAt source.toList) ∧
      tokens.Pairwise Token.Precedes ∧
      (∀ k c, source.toList[k]? = some c → (isBlank c ↔ ∀ token ∈ tokens, ¬ token.Covers k)) ∧
      (∃ front, tokens = front ++ [.endMarker (columnAfter source.toList.length)] ∧
        ∀ token ∈ front, token.kind ≠ .endMarker) ∧
      source.toList.filter (!isBlank ·) = tokens.flatMap (·.text.toList) ∧
      interleave 0 (source.toList.filter isBlank) tokens = source.toList := by
  obtain ⟨found, rfl, reaches, stand⟩ := exists_walk_of_tokenize lexed
  refine ⟨?_, reaches.pairwise_precedes, ?_, ⟨found, rfl, fun token member => (stand token member).kind_ne_endMarker⟩,
    ?_, reaches.interleave_eq rfl⟩
  · rw [List.forall_mem_append, List.forall_mem_singleton]
    exact ⟨fun token member => Token.isAt_of_standsIn (stand token member), Token.isAt_endMarker _⟩
  · intro k c here
    rw [reaches.isBlank_iff rfl here, Nat.zero_add, List.forall_mem_append, List.forall_mem_singleton]
    exact (and_iff_left (Token.not_covers_endMarker _ k)).symm
  · rw [reaches.filter_not_isBlank rfl, List.flatMap_append]
    simp [Token.endMarker]

/-- The wide blank at the head of a source and the common one at its end are in no token. -/
theorem tokenize_covers_between_blanks :
    ∃ tokens, tokenize "\u3000x=.5e1 " = .ok tokens ∧ tokens.Pairwise Token.Precedes ∧
      tokens.flatMap (·.text.toList) = "x=.5e1".toList ∧
      interleave 0 ['\u3000', ' '] tokens = "\u3000x=.5e1 ".toList := by
  have lexed : tokenize "\u3000x=.5e1 " = .ok [⟨.identifier, "x", 2⟩, ⟨.operator, "=", 3⟩,
      ⟨.float, ".5e1", 4⟩, .endMarker 9] := by
    decide +kernel
  obtain ⟨_, ordered, _, _, visible, whole⟩ := tokenize_covers_source lexed
  exact ⟨_, lexed, ordered, visible.symm.trans (by decide +kernel), whole⟩

end Formulary
