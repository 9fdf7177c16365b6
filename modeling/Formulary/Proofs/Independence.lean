import Formulary.Proofs.Names
import Formulary.Proofs.Sessions

/-!
# Sources that leave each other alone

The outcome of a source depends on the table only through the names that its right-hand side reads,
and it changes no name but the one that it assigns. So sources none of which assigns what another one
assigns or reads can be run in any order: each has the outcome that it has on its own, and the table
comes out the same.
-/

namespace Formulary

section
variable {symbols other : SymbolTable}

theorem literalValue_congr {text : String} {kind : LiteralKind}
    (agree : ∀ name ∈ (Tree.literal text kind).identifiers, symbols[name]? = other[name]?) :
    literalValue symbols text kind = literalValue other text kind := by
  cases kind with
  | identifier =>
    have same := agree text (by simp [Tree.identifiers])
    rw [literalValue, literalValue, same]
  | integer | float | unknown => rfl

/-- An expression has the same outcome on tables that agree on its identifiers. -/
theorem Tree.evaluateWithin_congr {tree : Tree}
    (agree : ∀ name ∈ tree.identifiers, symbols[name]? = other[name]?) (room : Nat) :
    tree.evaluateWithin symbols room = tree.evaluateWithin other room := by
  induction tree generalizing room with
  | binary op left right ihl ihr =>
    cases room with
    | zero => rfl
    | succ room =>
      by_cases assigns : op = .assign
      · subst assigns
        rfl
      · rw [identifiers, List.forall_mem_append] at agree
        simp only [evaluateWithin_binary assigns, ihl agree.1, ihr agree.2]
  | unary op operand ih =>
    cases room with
    | zero => rfl
    | succ room => simp only [evaluateWithin_unary, ih agree]
  | literal text kind =>
    cases room with
    | zero => rfl
    | succ room => rw [evaluateWithin_literal, evaluateWithin_literal, literalValue_congr agree]
  | foreign value => cases room <;> rfl

theorem interpret_assignment (symbols : SymbolTable) (target : String) (expression : Tree) :
    interpret symbols (.binary .assign (.literal target .identifier) expression) =
      (expression.evaluate symbols).bind fun value => .ok (target, value) :=
  rfl

/-- A statement has the same outcome on tables that agree on the identifiers of its right-hand side. -/
theorem interpret_congr {target : String} {expression : Tree}
    (agree : ∀ name ∈ expression.identifiers, symbols[name]? = other[name]?) :
    interpret symbols (.binary .assign (.literal target .identifier) expression) =
      interpret other (.binary .assign (.literal target .identifier) expression) := by
  have same : expression.evaluate symbols = expression.evaluate other := Tree.evaluateWithin_congr agree depthLimit
  rw [interpret_assignment, interpret_assignment, same]

end

/-- A source assigns nothing that another one assigns or reads. -/
def Spares (source other : String) : Prop :=
  ∀ name ∈ assignedName? source, name ∉ assignedName? other ∧ name ∉ readNames other

/-- Two sources that leave each other alone. Each may read the name that it assigns itself. -/
def Independent (source other : String) : Prop :=
  Spares source other ∧ Spares other source

instance : DecidableRel Independent := fun source other =>
  inferInstanceAs (Decidable ((∀ name ∈ assignedName? source, _) ∧ ∀ name ∈ assignedName? other, _))

theorem Independent.symm {source other : String} (independent : Independent source other) :
    Independent other source :=
  And.symm independent

namespace SymbolTable

section
variable {symbols other : SymbolTable} {source name : String}

/-- A source has the same outcome on tables that agree on what it reads. -/
theorem result_run_congr (agree : ∀ name ∈ readNames source, symbols[name]? = other[name]?) :
    (symbols.run source).result = (other.run source).result := by
  rcases symbols.run_cases source with ⟨error, unparsed, failed, _⟩ | ⟨statement, parsed, _⟩
  · rcases other.run_cases source with ⟨error', unparsed', failed', _⟩ | ⟨_, parsed, _⟩
    · rw [failed, failed', Except.error.inj (unparsed.symm.trans unparsed')]
    · rw [unparsed] at parsed
      cases parsed
  · cases isStatement_of_parse parsed with
    | @assignment target expression =>
      rw [readNames, parsed] at agree
      rw [(symbols.run_of_parse parsed).1, (other.run_of_parse parsed).1, interpret_congr agree]

/-- The table after a source is what it was, but for the name that is assigned where there is a value. -/
theorem getElem?_symbols_run (symbols : SymbolTable) (source name : String) :
    (symbols.run source).symbols[name]? =
      match (symbols.run source).result with
      | .ok (target, value) => if target = name then some (.float value) else symbols[name]?
      | .error _ => symbols[name]? := by
  have respects := symbols.respects_run source
  rw [Step.Respects, Outcome.reply] at respects
  cases result : (symbols.run source).result with
  | error error =>
    simp only [result, Except.map] at respects
    rw [respects]
  | ok assigned =>
    simp only [result, Except.map] at respects
    exact respects.2.2 name

/-- A value is assigned to the name that the source assigns. -/
theorem assignedName?_of_run {value : Float} (ran : (symbols.run source).result = .ok (name, value)) :
    assignedName? source = some name := by
  rcases symbols.run_cases source with ⟨error, _, failed, _⟩ | ⟨statement, parsed, _⟩
  · rw [failed] at ran
    cases ran
  · cases isStatement_of_parse parsed with
    | @assignment target expression =>
      rw [(symbols.run_of_parse parsed).1, interpret_assignment] at ran
      obtain ⟨_, _, same⟩ := bind_eq_ok_iff.1 ran
      cases same
      rw [assignedName?, parsed]

/-- A source changes no name but the one that it assigns. -/
theorem getElem?_symbols_run_of_ne (spared : name ∉ assignedName? source) :
    (symbols.run source).symbols[name]? = symbols[name]? := by
  rw [getElem?_symbols_run]
  split
  next target value ran =>
    rw [if_neg]
    rintro rfl
    exact spared (assignedName?_of_run ran)
  next => rfl

/-- What a source makes of a name depends on what it reads, and on the name itself. -/
theorem getElem?_symbols_run_congr (agree : ∀ name ∈ readNames source, symbols[name]? = other[name]?)
    (here : symbols[name]? = other[name]?) :
    (symbols.run source).symbols[name]? = (other.run source).symbols[name]? := by
  rw [getElem?_symbols_run, getElem?_symbols_run, result_run_congr agree, here]

/-- A source that has run leaves alone what an independent one reads and assigns. -/
theorem getElem?_symbols_run_of_spares {later : String} (spares : Spares source later) :
    (∀ name ∈ readNames later, (symbols.run source).symbols[name]? = symbols[name]?) ∧
      ∀ name ∈ assignedName? later, (symbols.run source).symbols[name]? = symbols[name]? := by
  constructor
  · intro name read
    exact getElem?_symbols_run_of_ne fun assigned => (spares name assigned).2 read
  · intro name assigned'
    exact getElem?_symbols_run_of_ne fun assigned => (spares name assigned).1 assigned'

end

/-- The outcomes of sources that are run one after the other on one table. -/
def outcomes (symbols : SymbolTable) : List String → List (Except Error (String × Float))
  | [] => []
  | source :: sources => (symbols.run source).result :: (symbols.run source).symbols.outcomes sources

/-- The table after sources that are run one after the other. -/
def afterAll (symbols : SymbolTable) (sources : List String) : SymbolTable :=
  symbols.after (sources.map .run)

theorem afterAll_cons (symbols : SymbolTable) (source : String) (sources : List String) :
    symbols.afterAll (source :: sources) = (symbols.run source).symbols.afterAll sources :=
  rfl

section
variable {symbols : SymbolTable} {sources : List String} {name : String}

/-- Independent sources have the outcomes that each of them has on its own. -/
theorem outcomes_eq_map (independent : sources.Pairwise Independent) :
    symbols.outcomes sources = sources.map fun source => (symbols.run source).result := by
  induction sources generalizing symbols with
  | nil => rfl
  | cons first sources ih =>
    rw [List.pairwise_cons] at independent
    rw [outcomes, ih independent.2, List.map_cons]
    congr 1
    apply List.map_congr_left
    intro source member
    exact result_run_congr (getElem?_symbols_run_of_spares (independent.1 source member).1).1

theorem getElem?_afterAll_of_unassigned (unassigned : ∀ source ∈ sources, name ∉ assignedName? source) :
    (symbols.afterAll sources)[name]? = symbols[name]? := by
  induction sources generalizing symbols with
  | nil => rfl
  | cons first sources ih =>
    rw [List.forall_mem_cons] at unassigned
    rw [afterAll_cons, ih unassigned.2, getElem?_symbols_run_of_ne unassigned.1]

/-- After independent sources the name that one of them assigns is what that one makes of it on its own. -/
theorem getElem?_afterAll_of_assigned (independent : sources.Pairwise Independent) {source : String}
    (member : source ∈ sources) (assigned : name ∈ assignedName? source) :
    (symbols.afterAll sources)[name]? = (symbols.run source).symbols[name]? := by
  induction sources generalizing symbols with
  | nil => cases member
  | cons first sources ih =>
    rw [List.pairwise_cons] at independent
    rw [afterAll_cons]
    rcases List.mem_cons.1 member with rfl | later
    · apply getElem?_afterAll_of_unassigned
      intro source later
      exact ((independent.1 source later).1 name assigned).1
    · obtain ⟨read, here⟩ := getElem?_symbols_run_of_spares (independent.1 source later).1
      rw [ih independent.2 later]
      exact getElem?_symbols_run_congr read (here name assigned)

/-- The table after independent sources does not depend on their order. -/
theorem getElem?_afterAll_perm {others : List String} (independent : sources.Pairwise Independent)
    (perm : sources.Perm others) : (symbols.afterAll sources)[name]? = (symbols.afterAll others)[name]? := by
  have independent' : others.Pairwise Independent := (perm.pairwise_iff Independent.symm).1 independent
  by_cases assigned : ∃ source ∈ sources, name ∈ assignedName? source
  · obtain ⟨source, member, assigned⟩ := assigned
    rw [getElem?_afterAll_of_assigned independent member assigned,
      getElem?_afterAll_of_assigned independent' (perm.mem_iff.1 member) assigned]
  · have unassigned : ∀ source ∈ sources, name ∉ assignedName? source := by
      intro source member here
      exact assigned ⟨source, member, here⟩
    rw [getElem?_afterAll_of_unassigned unassigned, getElem?_afterAll_of_unassigned]
    intro source member
    exact unassigned source (perm.mem_iff.2 member)

/-- Sources none of which assigns what another one assigns or reads have, in every order in which they
    are run on one table, each the outcome that it has on its own, and leave the same table. -/
theorem outcomes_afterAll_perm (symbols : SymbolTable) {sources others : List String}
    (independent : sources.Pairwise Independent) (perm : sources.Perm others) :
    symbols.outcomes sources = sources.map (fun source => (symbols.run source).result) ∧
      symbols.outcomes others = others.map (fun source => (symbols.run source).result) ∧
      ∀ name : String, (symbols.afterAll sources)[name]? = (symbols.afterAll others)[name]? := by
  have independent' : others.Pairwise Independent := (perm.pairwise_iff Independent.symm).1 independent
  exact ⟨outcomes_eq_map independent, outcomes_eq_map independent', fun _ => getElem?_afterAll_perm independent perm⟩

end

/-- A division by zero, a source that is not parsed and one that reads what it assigns, backwards. -/
theorem outcomes_reversed_failures :
    let symbols : SymbolTable := (∅ : SymbolTable).insertMany [("a", Scalar.int 1), ("y", Scalar.bool true)]
    symbols.outcomes ["y = y + a", "z = (", "x = a / 0"] =
        [.ok ("y", 2), (symbols.run "z = (").result, .error (.evaluation (.divisionByZero .scalar))] ∧
      (symbols.afterAll ["y = y + a", "z = (", "x = a / 0"])["y"]? =
        (symbols.afterAll ["x = a / 0", "z = (", "y = y + a"])["y"]? := by
  intro symbols
  have independent : ["x = a / 0", "z = (", "y = y + a"].Pairwise Independent := by decide +kernel
  obtain ⟨_, reversed, same⟩ := outcomes_afterAll_perm symbols independent (List.reverse_perm _).symm
  refine ⟨?_, (same "y").symm⟩
  refine reversed.trans ?_
  have sum : (symbols.run "y = y + a").result = .ok ("y", 2) := by decide +kernel
  have quotient : (symbols.run "x = a / 0").result = .error (.evaluation (.divisionByZero .scalar)) := by
    decide +kernel
  simp only [List.reverse_cons, List.reverse_nil, List.nil_append, List.cons_append, List.map_cons, List.map_nil,
    sum, quotient]

end SymbolTable
end Formulary
