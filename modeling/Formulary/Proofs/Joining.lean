import Formulary.Proofs.Spelling
import Formulary.Proofs.Separators

/-!
# Texts joined by blanks

Of two texts with a blank between them each is lexed as if it stood alone, only that the columns of the
second one count on from the first. So no lexeme reaches over a blank, and how many blanks stand between
the tokens of a source, and which, makes no difference to their kinds and texts.
-/

namespace Formulary
open Formulary.Text Formulary.Lexeme

/-- A token that stands so many columns further to the right. -/
def Token.moved (n : Nat) (token : Token) : Token :=
  { token with column := token.column + n }

/-- The texts of some tokens, joined by runs of blanks: the run between two tokens is not empty, and there
    may be one after the last token. -/
inductive Joined : List Token → List Char → Prop where
  | nil {gap : List Char} (blank : ∀ c ∈ gap, isBlank c) : Joined [] gap
  | cons {token : Token} {tokens : List Token} {gap rest : List Char} (parted : tokens = [] ∨ gap ≠ [])
      (blank : ∀ c ∈ gap, isBlank c) (joined : Joined tokens rest) :
      Joined (token :: tokens) (token.text.toList ++ (gap ++ rest))

namespace Reaches

variable {passed stop stop' : Nat} {cs middle ahead : List Char} {found found' : List Token}

/-- One walk goes on where another one stops. -/
theorem trans (first : Reaches passed cs found stop middle) (second : Reaches stop middle found' stop' ahead) :
    Reaches passed cs (found ++ found') stop' ahead := by
  induction first with
  | here => exact second
  | blank blank _ ih => exact .blank blank (ih second)
  | lexeme longest _ ih => exact .lexeme longest (ih second)

/-- A walk over the same text further to the right. -/
theorem moved (reaches : Reaches passed cs found stop ahead) (n : Nat) :
    Reaches (n + passed) cs (found.map (Token.moved n)) (n + stop) ahead := by
  induction reaches with
  | here passed cs => exact .here (n + passed) cs
  | blank blank _ ih => exact .blank blank ih
  | @lexeme passed stop kind text rest ahead found longest _ ih =>
    have column : (Token.moved n ⟨kind, String.ofList text, columnAfter passed⟩) =
        ⟨kind, String.ofList text, columnAfter (n + passed)⟩ := by
      simp only [Token.moved, columnAfter, Token.mk.injEq, true_and]
      omega
    rw [List.map_cons, column]
    rw [← Nat.add_assoc] at ih
    exact .lexeme longest ih

/-- A walk to the end of one text goes on, past a blank, as the walk over another one. -/
theorem append_blank {first second : List Char} {c : Char} (blank : isBlank c)
    (before : Reaches 0 first found first.length []) (after : Reaches 0 second found' stop ahead) :
    Reaches 0 (first ++ c :: second) (found ++ found'.map (Token.moved (first.length + 1)))
      (first.length + 1 + stop) ahead := by
  have seam := before.append_separates (separates_of_isBlank blank) second
  exact seam.trans (.blank blank (after.moved (first.length + 1)))

end Reaches

theorem apart_of_isBlank {c : Char} (blank : isBlank c) (rest : List Char) : Apart (c :: rest) := by
  refine apart_cons (separates_of_isBlank blank).1 ?_
  rintro rfl
  exact absurd blank (by decide)

theorem Spelled.blanks {gap rest : List Char} {terminals : List Terminal} (blank : ∀ c ∈ gap, isBlank c)
    (spelled : Spelled rest terminals) : Spelled (gap ++ rest) terminals := by
  induction gap with
  | nil => exact spelled
  | cons c gap ih =>
    rw [List.forall_mem_cons] at blank
    exact .blank blank.1 (ih blank.2)

namespace Joined

variable {tokens : List Token} {cs : List Char}

/-- What follows a token does not go on with it. -/
theorem apart {gap : List Char} (joined : Joined tokens cs) (parted : tokens = [] ∨ gap ≠ [])
    (blank : ∀ c ∈ gap, isBlank c) : Apart (gap ++ cs) := by
  cases gap with
  | cons c gap => exact apart_of_isBlank (blank c List.mem_cons_self) _
  | nil =>
    obtain rfl : tokens = [] := by simpa using parted
    cases joined with
    | nil blank' =>
      cases cs with
      | nil => exact apart_nil
      | cons c cs => exact apart_of_isBlank (blank' c List.mem_cons_self) _

/-- Joined texts of complete lexemes spell them. -/
theorem spelled (joined : Joined tokens cs) (isLexeme : ∀ token ∈ tokens, IsLexeme token.kind token.text.toList) :
    Spelled cs (tokens.map Token.terminal) := by
  induction joined with
  | nil blank =>
    have spelled := Spelled.blanks blank .nil
    rwa [List.append_nil] at spelled
  | @cons token tokens gap rest parted blank joined ih =>
    rw [List.forall_mem_cons] at isLexeme
    exact .append isLexeme.1 (joined.apart parted blank) (.blanks blank (ih isLexeme.2))

end Joined

/-- A source that is refused has a walk that gets stuck at the character. -/
theorem exists_walk_of_refused {source : String} {error : Error} (refused : tokenize source = .error error) :
    ∃ found n c rest, Reaches 0 source.toList found n (c :: rest) ∧ Stuck (c :: rest) ∧
      error = .unrecognizedCharacter c (columnAfter n) := by
  rcases tokenize_cases source with ⟨_, _, _, lexed⟩ | ⟨found, n, c, rest, reaches, stuck, refused'⟩
  · rw [lexed] at refused
    cases refused
  · rw [refused'] at refused
    exact ⟨found, n, c, rest, reaches, stuck, (Except.error.inj refused).symm⟩

section
variable {first second : String} {front tokens : List Token} {c : Char}

theorem toList_push_append (first second : String) (c : Char) :
    (first.push c ++ second).toList = first.toList ++ c :: second.toList := by
  rw [String.toList_append, String.toList_push, List.append_assoc, List.singleton_append]

theorem tokenize_push_append_of_ok (blank : isBlank c)
    (before : Reaches 0 first.toList front first.toList.length []) (lexed : tokenize second = .ok tokens) :
    tokenize (first.push c ++ second) = .ok (front ++ tokens.map (Token.moved (first.length + 1))) := by
  obtain ⟨found, rfl, after, _⟩ := exists_walk_of_tokenize lexed
  have reaches := before.append_blank blank after
  rw [← toList_push_append, String.length_toList, String.length_toList] at reaches
  have marker : Token.moved (first.length + 1) (.endMarker (columnAfter second.toList.length)) =
      .endMarker (columnAfter (first.length + 1 + second.length)) := by
    simp only [Token.moved, Token.endMarker, columnAfter, String.length_toList, Token.mk.injEq, true_and]
    omega
  rw [tokenize_of_end reaches, List.map_append, List.map_singleton, marker, List.append_assoc]

theorem tokenize_push_append_of_error {d : Char} {k : Int} (blank : isBlank c)
    (before : Reaches 0 first.toList front first.toList.length [])
    (refused : tokenize second = .error (.unrecognizedCharacter d k)) :
    tokenize (first.push c ++ second) = .error (.unrecognizedCharacter d (first.length + 1 + k)) := by
  obtain ⟨found, n, _, rest, after, stuck, same⟩ := exists_walk_of_refused refused
  obtain ⟨rfl, rfl⟩ := Error.unrecognizedCharacter.inj same
  have reaches := before.append_blank blank after
  rw [← toList_push_append, String.length_toList] at reaches
  have column : columnAfter (first.length + 1 + n) = first.length + 1 + columnAfter n := by
    unfold columnAfter
    omega
  rw [(tokenize_of_stuck reaches stuck).1, column]

theorem tokenize_push_append_of_refused {d : Char} {k : Int} (blank : isBlank c)
    (refused : tokenize first = .error (.unrecognizedCharacter d k)) :
    tokenize (first.push c ++ second) = .error (.unrecognizedCharacter d k) := by
  obtain ⟨found, n, _, rest, before, stuck, same⟩ := exists_walk_of_refused refused
  obtain ⟨rfl, rfl⟩ := Error.unrecognizedCharacter.inj same
  have separates := separates_of_isBlank blank
  have reaches := before.append_separates separates second.toList
  rw [← toList_push_append] at reaches
  exact (tokenize_of_stuck reaches (stuck.append separates)).1

/-- If the first text has tokens, the whole is lexed exactly if the second text is. -/
theorem tokenize_push_append_eq_ok_iff (blank : isBlank c)
    (before : Reaches 0 first.toList front first.toList.length []) :
    (∃ whole, tokenize (first.push c ++ second) = .ok whole) ↔ ∃ tokens, tokenize second = .ok tokens := by
  constructor
  · rintro ⟨whole, lexed⟩
    cases outcome : tokenize second with
    | ok tokens => exact ⟨tokens, rfl⟩
    | error error =>
      obtain ⟨_, n, d, _, _, _, rfl⟩ := exists_walk_of_refused outcome
      rw [tokenize_push_append_of_error blank before outcome] at lexed
      cases lexed
  · rintro ⟨tokens, lexed⟩
    exact ⟨_, tokenize_push_append_of_ok blank before lexed⟩

end

/-- Let a blank stand between two texts. If the first one has tokens, the whole is lexed exactly if the
    second one is: then it has the tokens of both, those of the second one moved to their new columns, and
    if not it is refused at the same character, in its new column. If the first one is refused, the whole
    is refused alike. The tokens of a text can be joined by any blanks: their kinds and texts stay as they
    are. -/
theorem tokenize_push_append {c : Char} (blank : isBlank c) (first second : String) :
    (∀ tokens, tokenize first = .ok tokens →
      ∃ front, tokens = front ++ [.endMarker (columnAfter first.length)] ∧
        ((∃ whole, tokenize (first.push c ++ second) = .ok whole) ↔ ∃ further, tokenize second = .ok further) ∧
        (∀ further, tokenize second = .ok further →
          tokenize (first.push c ++ second) = .ok (front ++ further.map (Token.moved (first.length + 1)))) ∧
        (∀ d k, tokenize second = .error (.unrecognizedCharacter d k) →
          tokenize (first.push c ++ second) = .error (.unrecognizedCharacter d (first.length + 1 + k))) ∧
        ∀ joined : String, Joined front joined.toList →
          ∃ anew, tokenize joined = .ok anew ∧ anew.map Token.terminal = tokens.map Token.terminal) ∧
    ∀ d k, tokenize first = .error (.unrecognizedCharacter d k) →
      tokenize (first.push c ++ second) = .error (.unrecognizedCharacter d k) := by
  refine ⟨fun tokens lexed => ?_, fun d k => tokenize_push_append_of_refused blank⟩
  obtain ⟨front, rfl, before, stand⟩ := exists_walk_of_tokenize lexed
  refine ⟨front, by rw [String.length_toList], tokenize_push_append_eq_ok_iff blank before,
    fun _ => tokenize_push_append_of_ok blank before, fun _ _ => tokenize_push_append_of_error blank before,
    fun joined isJoined => ?_⟩
  have isLexeme : ∀ token ∈ front, IsLexeme token.kind token.text.toList := by
    intro token member
    obtain ⟨_, _, _, isLexeme⟩ := stand token member
    exact isLexeme
  obtain ⟨anew, lexed, same⟩ := (isJoined.spelled isLexeme).tokenize
  exact ⟨anew, lexed, by rw [same, List.map_append, List.map_singleton]; rfl⟩

/-- Without the wide blank the mark and the digit on its two sides would belong to one number, `2e5`. -/
theorem tokenize_push_append_half_number :
    let front : List Token := [⟨.identifier, "x", 1⟩, ⟨.operator, "=", 2⟩, ⟨.integer, "2", 3⟩, ⟨.identifier, "e", 4⟩]
    isBlank '\u2003' ∧ tokenize "x=2e" = .ok (front ++ [Token.endMarker 5]) ∧
      tokenize "5." = .ok [⟨.float, "5.", 1⟩, .endMarker 3] ∧
      tokenize ("x=2e".push '\u2003' ++ "5.") = .ok (front ++ [⟨.float, "5.", 6⟩, .endMarker 8]) ∧
      Joined front "x =\n2  e\t".toList ∧
      ∃ anew, tokenize "x =\n2  e\t" = .ok anew ∧
        anew.map Token.terminal = (front ++ [Token.endMarker 5]).map Token.terminal := by
  intro front
  have blank : isBlank '\u2003' := by decide
  have lexed : tokenize "x=2e" = .ok (front ++ [Token.endMarker 5]) := by decide +kernel
  have further : tokenize "5." = .ok [⟨.float, "5.", 1⟩, .endMarker 3] := by decide +kernel
  have split : "x =\n2  e\t".toList = "x".toList ++ ([' '] ++ ("=".toList ++ (['\n'] ++ ("2".toList ++ ([' ', ' '] ++
      ("e".toList ++ (['\t'] ++ []))))))) := by decide +kernel
  have spread : Joined front "x =\n2  e\t".toList := by
    rw [split]
    exact .cons (.inr (by decide)) (by simp [isBlank]) (.cons (.inr (by decide)) (by simp [isBlank])
      (.cons (.inr (by decide)) (by simp [isBlank]) (.cons (.inl rfl) (by simp [isBlank]) (.nil (by simp)))))
  obtain ⟨accepted, _⟩ := tokenize_push_append blank "x=2e" "5."
  obtain ⟨front', same, _, whole, _, joined⟩ := accepted _ lexed
  obtain ⟨rfl, _⟩ := List.append_inj' same rfl
  exact ⟨blank, lexed, further, whole _ further, spread, joined _ spread⟩

end Formulary
