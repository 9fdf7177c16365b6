import Formulary.Proofs.Separators
import Formulary.Proofs.Substitution

/-!
# Inlining a name

Of two sources the first one assigns a name that the second one reads. The second one is inlined: the
text right of the first one's equals sign is put, between parentheses, in the place of each identifier
of the name right of its own. That changes the tokens only there, so the source is parsed to the tree
with the expression in the place of the name, and it has the outcome that the two sources have when
they are run one after the other.
-/

namespace Formulary
open Formulary.Text Formulary.Lexeme

/-- The characters of a source left of its first equals sign. -/
def beforeSign (source : String) : List Char := source.toList.takeWhile (· ≠ '=')

/-- The characters of a source right of its first equals sign. -/
def afterSign (source : String) : List Char := (source.toList.dropWhile (· ≠ '=')).tail

/-- A text with other characters in the place of some tokens, which stand in it in this order. So many
    characters are before the text. -/
def splice (replacement : List Char) (passed : Nat) (cs : List Char) : List Token → List Char
  | [] => cs
  | token :: tokens =>
    let gap := (token.column - columnAfter passed).toNat
    let width := token.text.toList.length
    cs.take gap ++ replacement ++ splice replacement (passed + gap + width) (cs.drop (gap + width)) tokens

/-- A token right of the equals sign of a source that is the identifier of a name. -/
def Token.reads (token : Token) (source name : String) : Bool :=
  columnAfter (beforeSign source).length < token.column && token.terminal == (.identifier, name)

/-- The second source with what the first one assigns, between parentheses, in the place of each
    identifier of the name right of its equals sign. -/
def inlined (name first second : String) : String :=
  match tokenize second with
  | .ok tokens =>
    String.ofList (splice ('(' :: (afterSign first ++ [')'])) 0 second.toList (tokens.filter (·.reads second name)))
  | .error _ => second

theorem Spelled.longest {kind : TokenKind} {text rest : List Char} {terminals : List Terminal}
    (longest : IsLongest kind text (text ++ rest)) (spelled : Spelled rest terminals) :
    Spelled (text ++ rest) ((kind, String.ofList text) :: terminals) := by
  obtain ⟨c, more, rfl⟩ := List.exists_cons_of_ne_nil longest.1.ne_nil
  exact .lexeme longest.1.not_isBlank (isLongest_iff.1 longest) spelled

/-- A walk spells the tokens that it takes, before what is spelled by the text ahead. -/
theorem Reaches.spelled {passed stop : Nat} {cs ahead : List Char} {found : List Token} {terminals : List Terminal}
    (reaches : Reaches passed cs found stop ahead) (spelled : Spelled ahead terminals) :
    Spelled cs (found.map Token.terminal ++ terminals) := by
  induction reaches with
  | here => exact spelled
  | blank blank _ ih => exact .blank blank (ih spelled)
  | lexeme longest _ ih => exact .longest longest (ih spelled)

/-- A text that is walked over to its end spells the same tokens before a separator. -/
theorem Reaches.spelled_append {passed stop : Nat} {cs ahead rest : List Char} {found : List Token}
    {terminals : List Terminal} {c : Char} (reaches : Reaches passed cs found stop ahead) (ended : ahead = [])
    (separates : Separates c) (spelled : Spelled (c :: rest) terminals) :
    Spelled (cs ++ c :: rest) (found.map Token.terminal ++ terminals) := by
  subst ended
  exact (reaches.append_separates separates rest).spelled spelled

section
variable {replacement front rest cs : List Char} {passed : Nat} {tokens : List Token}

/-- What is before all tokens is kept. -/
theorem splice_append (beyond : ∀ token ∈ tokens, columnAfter (passed + front.length) ≤ token.column) :
    splice replacement passed (front ++ rest) tokens =
      front ++ splice replacement (passed + front.length) rest tokens := by
  cases tokens with
  | nil => rfl
  | cons token tokens =>
    have beyond := beyond token List.mem_cons_self
    have split : (token.column - columnAfter passed).toNat =
        front.length + (token.column - columnAfter (passed + front.length)).toNat := by
      unfold columnAfter at beyond ⊢
      omega
    simp only [splice]
    rw [split, List.take_length_add_append]
    simp only [List.append_assoc, Nat.add_assoc, List.drop_length_add_append]

theorem splice_token {kind : TokenKind} {text : List Char} :
    splice replacement passed (text ++ rest) (⟨kind, String.ofList text, columnAfter passed⟩ :: tokens) =
      replacement ++ splice replacement (passed + text.length) rest tokens := by
  simp [splice]

/-- A spliced text is the text itself, or goes on with the replacement somewhere. -/
theorem splice_cases (replacement : List Char) (passed : Nat) (cs : List Char) (tokens : List Token) :
    splice replacement passed cs tokens = cs ∨
      ∃ between rest other, cs = between ++ rest ∧
        splice replacement passed cs tokens = between ++ (replacement ++ other) := by
  cases tokens with
  | nil => exact .inl rfl
  | cons token tokens =>
    right
    simp only [splice, List.append_assoc]
    exact ⟨_, _, _, (List.take_append_drop _ cs).symm, rfl⟩

end

/-- A text with chosen tokens exchanged for a text that starts with a separator spells the terminals
    of that text in their place, and the other tokens as before. -/
theorem Reaches.spelled_splice {chosen : Token → Bool} {c : Char} {body : List Char} {inner : List Terminal}
    {passed stop : Nat} {cs ahead : List Char} {found : List Token}
    (reaches : Reaches passed cs found stop ahead) (ended : ahead = []) (separates : Separates c)
    (spells : ∀ rest terminals, Spelled rest terminals → Spelled (c :: body ++ rest) (inner ++ terminals)) :
    Spelled (splice (c :: body) passed cs (found.filter chosen))
      (found.flatMap fun token => if chosen token then inner else [token.terminal]) := by
  induction reaches with
  | here =>
    subst ended
    exact .nil
  | @blank passed stop d rest ahead found blank more ih =>
    have split : d :: rest = [d] ++ rest := rfl
    rw [split, splice_append fun token member => more.le_column token (List.mem_of_mem_filter member)]
    exact .blank blank (ih ended)
  | @lexeme passed stop kind text rest ahead found longest more ih =>
    have spelled := ih ended
    rw [List.filter_cons, List.flatMap_cons]
    split
    next =>
      rw [splice_token]
      exact spells _ _ spelled
    next =>
      rw [splice_append fun token member => more.le_column token (List.mem_of_mem_filter member)]
      refine .longest ?_ spelled
      -- What follows the lexeme is as before, at least up to the first separator that is put in.
      rcases splice_cases (c :: body) (passed + text.length) rest (found.filter chosen) with
        same | ⟨between, after, other, rfl, same⟩
      · rw [same]
        exact longest
      · rw [same]
        exact longest.of_separates separates

/-- A walk that finds a token skips blanks up to it, takes its text, and goes on. -/
theorem Reaches.exists_of_cons {passed stop : Nat} {cs ahead : List Char} {token : Token} {found : List Token}
    (reaches : Reaches passed cs (token :: found) stop ahead) :
    ∃ blanks text rest, cs = blanks ++ (text ++ rest) ∧ (∀ c ∈ blanks, isBlank c) ∧ IsLexeme token.kind text ∧
      token.text.toList = text ∧ token.column = columnAfter (passed + blanks.length) ∧
      Reaches (passed + (blanks ++ text).length) rest found stop ahead := by
  generalize all : token :: found = tokens at reaches
  induction reaches with
  | here => cases all
  | @blank passed stop c rest ahead tokens blank _ ih =>
    obtain ⟨blanks, text, rest, rfl, blanks', isLexeme, same, column, more⟩ := ih all
    refine ⟨c :: blanks, text, rest, rfl, List.forall_mem_cons.2 ⟨blank, blanks'⟩, isLexeme, same, ?_, ?_⟩
    · rw [column, List.length_cons, Nat.add_right_comm, Nat.add_assoc]
    · rw [List.cons_append, List.length_cons, ← Nat.add_assoc, Nat.add_right_comm]
      exact more
  | @lexeme passed stop kind text rest ahead tokens longest more =>
    cases all
    exact ⟨[], text, rest, rfl, by simp, longest.1, String.toList_ofList, rfl, more⟩

theorem sides_of_eq {source : String} {left right : List Char} (whole : source.toList = left ++ '=' :: right)
    (noSign : '=' ∉ left) : beforeSign source = left ∧ afterSign source = right := by
  have inside : ∀ c ∈ left, decide (c ≠ '=') = true := by
    intro c member
    rw [decide_eq_true_iff]
    rintro rfl
    exact noSign member
  have stops : ∀ c, ('=' :: right).head? = some c → decide (c ≠ '=') = false := by simp
  obtain ⟨before, after⟩ := takeWhile_append_of_head inside stops
  rw [← whole] at before after
  exact ⟨before, by rw [afterSign, after, List.tail_cons]⟩

/-- The tokens of a source that assigns a value to its target: the name, the sign, and those of the
    value, at the end of which the source ends. -/
structure Assignment (source target : String) (value : Derivation .expression) where
  name : Token
  sign : Token
  right : List Token
  stop : Nat
  walk : Reaches 0 source.toList (name :: sign :: right) stop []
  isTarget : name.terminal = (.identifier, target)
  isSign : sign.terminal = (.operator, "=")
  isValue : right.map Token.terminal = value.terminals

namespace Assignment

variable {source target : String} {value : Derivation .expression}

/-- The first equals sign is the one of the assignment: the name stands left of it, and what is right of
    it is walked over to the end. -/
theorem sides (assignment : Assignment source target value) :
    assignment.name.column ≤ columnAfter (beforeSign source).length ∧
      assignment.sign.column = columnAfter (beforeSign source).length ∧
      Reaches ((beforeSign source).length + 1) (afterSign source) assignment.right assignment.stop [] := by
  obtain ⟨blanks, text, rest, split, blank, isName, written, column, more⟩ := assignment.walk.exists_of_cons
  obtain ⟨blanks', text', right, rfl, blank', _, written', column', more'⟩ := more.exists_of_cons
  have isSign : text' = ['='] := by
    rw [← written', (Prod.mk.inj assignment.isSign).2]
    rfl
  have isName : IsIdentifier text := by
    rw [(Prod.mk.inj assignment.isTarget).1] at isName
    exact isName
  have noSign : '=' ∉ blanks ++ text ++ blanks' := by
    rw [List.mem_append, List.mem_append]
    rintro ((member | member) | member)
    · exact absurd (blank _ member) (by decide)
    · exact absurd (isName.isNamePart _ member) (by decide)
    · exact absurd (blank' _ member) (by decide)
  have whole : source.toList = (blanks ++ text ++ blanks') ++ '=' :: right := by
    rw [split, isSign]
    simp only [List.append_assoc, List.cons_append, List.nil_append]
  obtain ⟨before, after⟩ := sides_of_eq whole noSign
  rw [before, after]
  refine ⟨?_, ?_, ?_⟩
  · rw [column]
    unfold columnAfter
    simp only [List.length_append]
    omega
  · rw [column', Nat.zero_add, ← List.length_append]
  · rw [isSign, Nat.zero_add, ← List.length_append, ← List.append_assoc, List.length_append, List.length_singleton] at more'
    exact more'

/-- Right of the sign all identifiers of a name are chosen, and left of it none. -/
theorem reads_eq (assignment : Assignment source target value) (name : String) :
    assignment.name.reads source name = false ∧ assignment.sign.reads source name = false ∧
      ∀ token ∈ assignment.right, token.reads source name = (token.terminal == (.identifier, name)) := by
  obtain ⟨column, column', right⟩ := assignment.sides
  refine ⟨?_, ?_, fun token member => ?_⟩
  · rw [Token.reads, decide_eq_false (Int.not_lt.2 column), Bool.false_and]
  · rw [Token.reads, decide_eq_false (Int.not_lt.2 (Int.le_of_eq column')), Bool.false_and]
  · have bound := right.le_column token member
    have beyond : columnAfter (beforeSign source).length < token.column := by
      unfold columnAfter at bound ⊢
      omega
    rw [Token.reads, decide_eq_true beyond, Bool.true_and]

/-- Before anything that follows, the value between parentheses is spelled by the text right of the sign
    between parentheses. -/
theorem spelled_parenthesized (assignment : Assignment source target value) {rest : List Char}
    {terminals : List Terminal} (spelled : Spelled rest terminals) :
    Spelled ('(' :: (afterSign source ++ [')']) ++ rest)
      ((Derivation.parenthesized value).terminals ++ terminals) := by
  have closing : Spelled (')' :: rest) ((.operator, ")") :: terminals) :=
    .operator (by decide) (by decide) spelled
  have inside := assignment.sides.2.2.spelled_append rfl (separates_parenthesis (.inr rfl)) closing
  rw [assignment.isValue] at inside
  simp only [Derivation.terminals, List.cons_append, List.append_assoc, List.nil_append]
  exact .operator (by decide) (by decide) inside

end Assignment

/-- A source that is parsed assigns the value of some derivation to its target. -/
theorem exists_assignment_of_parse {source target : String} {expression : Tree}
    (parsed : parse source = .ok (.binary .assign (.literal target .identifier) expression)) :
    ∃ value, Nonempty (Assignment source target value) ∧ value.tree = expression := by
  obtain ⟨found, _, reaches, _, d, same, _, built⟩ := exists_walk_of_parse parsed
  cases d with
  | statement target' value =>
    simp only [Derivation.tree, Tree.binary.injEq, Tree.literal.injEq, true_and, and_true] at built
    obtain ⟨rfl, rfl⟩ := built
    obtain ⟨name, tail, rfl, isTarget, same⟩ := List.map_eq_cons_iff.1 same.symm
    obtain ⟨sign, right, rfl, isSign, isValue⟩ := List.map_eq_cons_iff.1 same
    exact ⟨value, ⟨⟨name, sign, right, _, reaches, isTarget, isSign, isValue⟩⟩, rfl⟩

/-! ## The inlined source -/

variable {first second name target : String}

theorem Assignment.toList_inlined {value : Derivation .expression} (reading : Assignment second target value) :
    (inlined name first second).toList =
      splice ('(' :: (afterSign first ++ [')'])) 0 second.toList
        ((reading.name :: reading.sign :: reading.right).filter (·.reads second name)) := by
  have notMarker : (Token.endMarker (columnAfter reading.stop)).reads second name = false := by
    simp [Token.reads, Token.terminal, Token.endMarker]
  rw [inlined, tokenize_of_end reading.walk]
  simp only [String.toList_ofList, List.filter_append, List.filter_cons, List.filter_nil, notMarker,
    Bool.false_eq_true, if_false, List.append_nil]

/-- The inlined source spells the second statement with the value of the first one in the place of the
    name. -/
theorem Assignment.spelled_inlined {inner value : Derivation .expression} (bound : Assignment first name inner)
    (reading : Assignment second target value) :
    Spelled (inlined name first second).toList
      (Derivation.statement target (value.substitute name inner)).terminals := by
  obtain ⟨notTarget, notSign, right⟩ := reading.reads_eq name
  have expanded : ∀ token ∈ reading.right,
      (if token.reads second name then (Derivation.parenthesized inner).terminals else [token.terminal]) =
        Derivation.expand name inner token.terminal := by
    intro token member
    simp only [right token member, beq_iff_eq, Derivation.expand]
  have exchanged : (reading.name :: reading.sign :: reading.right).flatMap (fun token =>
        if token.reads second name then (Derivation.parenthesized inner).terminals else [token.terminal]) =
      (Derivation.statement target (value.substitute name inner)).terminals := by
    rw [Derivation.terminals, Derivation.terminals_substitute value (by simp), ← reading.isValue, List.flatMap_map,
      ← reading.isTarget, ← reading.isSign, List.flatMap_cons, List.flatMap_cons, List.flatMap_congr expanded]
    simp only [notTarget, notSign, Bool.false_eq_true, if_false, List.cons_append, List.nil_append]
  rw [reading.toList_inlined, ← exchanged]
  exact reading.walk.spelled_splice rfl (separates_parenthesis (.inl rfl)) fun _ _ => bound.spelled_parenthesized

/-- A name that is given the value of an expression can be inlined: unless the source that comes of it
    is nested too deeply, which takes more than a hundred tokens, it is parsed to the tree with the
    expression in the place of the name, and has the outcome that the second source has after the first
    one. -/
theorem SymbolTable.result_run_inlined (symbols : SymbolTable) {expression outer : Tree}
    {assigned : String × Float}
    (parsed₁ : parse first = .ok (.binary .assign (.literal name .identifier) expression))
    (parsed₂ : parse second = .ok (.binary .assign (.literal target .identifier) outer))
    (ran : (symbols.run first).result = .ok assigned) :
    (parse (inlined name first second) = .error .nestedTooDeeply ∧
        ∃ tokens, tokenize (inlined name first second) = .ok tokens ∧ 100 < tokens.length) ∨
      parse (inlined name first second) =
          .ok (.binary .assign (.literal target .identifier) (outer.substitute name expression)) ∧
        (symbols.run (inlined name first second)).result =
          ((symbols.run first).symbols.run second).result := by
  obtain ⟨inner, ⟨bound⟩, rfl⟩ := exists_assignment_of_parse parsed₁
  obtain ⟨value, ⟨reading⟩, rfl⟩ := exists_assignment_of_parse parsed₂
  rw [or_comm]
  refine (Derivation.parse_of_spelled (bound.spelled_inlined reading)).1.imp_left fun parsed => ?_
  rw [Derivation.tree, Derivation.tree_substitute value (by simp)] at parsed
  refine ⟨parsed, ?_⟩
  obtain ⟨performed, after⟩ := symbols.run_of_parse parsed₁
  rw [ran, interpret_assignment] at performed
  obtain ⟨result, evaluated, _⟩ := bind_eq_ok_iff.1 performed.symm
  have extended : (symbols.run first).symbols = symbols.insert name (.float result) := by
    rw [after, perform, interpret_assignment, evaluated]
    rfl
  have same : (value.tree.substitute name inner.tree).evaluate symbols =
      value.tree.evaluate (symbols.insert name (.float result)) :=
    Tree.evaluateWithin_substitute evaluated (isExpression_of_parse parsed₁).2 (isExpression_of_parse parsed).2
  rw [(symbols.run_of_parse parsed).1, (run_of_parse _ parsed₂).1, extended, interpret_assignment,
    interpret_assignment, same]

/-- A name that is read by the expression it is given is inlined twice, beside a name that is unbound. -/
theorem SymbolTable.result_run_inlined_twice :
    let symbols : SymbolTable := (∅ : SymbolTable).insert "x" (.int 1)
    inlined "x" "x = 1 - x" "y = -x*x1/x" = "y = -( 1 - x)*x1/( 1 - x)" ∧
      (symbols.run "y = -( 1 - x)*x1/( 1 - x)").result = .error (.evaluation (.undefinedVariable "x1")) := by
  intro symbols
  have written : inlined "x" "x = 1 - x" "y = -x*x1/x" = "y = -( 1 - x)*x1/( 1 - x)" := by decide +kernel
  have parsed₁ : parse "x = 1 - x" = .ok (.binary .assign (.literal "x" .identifier)
      (.binary .subtract (.literal "1" .integer) (.literal "x" .identifier))) := by decide +kernel
  have parsed₂ : parse "y = -x*x1/x" = .ok (.binary .assign (.literal "y" .identifier)
      (.binary .multiply (.unary .negate (.literal "x" .identifier))
        (.binary .divide (.literal "x1" .identifier) (.literal "x" .identifier)))) := by decide +kernel
  have ran : (symbols.run "x = 1 - x").result = .ok ("x", 0) := by decide +kernel
  have unbound : ((symbols.run "x = 1 - x").symbols.run "y = -x*x1/x").result =
      .error (.evaluation (.undefinedVariable "x1")) := by decide +kernel
  have shallow : parse "y = -( 1 - x)*x1/( 1 - x)" ≠ .error .nestedTooDeeply := by decide +kernel
  refine ⟨written, ?_⟩
  rw [← written] at shallow ⊢
  have inline := symbols.result_run_inlined parsed₁ parsed₂ ran
  rw [(inline.resolve_left fun tooDeep => shallow tooDeep.1).2, unbound]

end Formulary
