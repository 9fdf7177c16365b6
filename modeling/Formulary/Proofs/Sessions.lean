import Formulary.Session
import Formulary.Proofs.Finiteness

/-!
# What becomes of a symbol table

A step that fails, and one that only reads, leave the symbol table as it was; a step that assigns
binds one name to a finite value. So after any steps each name is bound to the value that it was
assigned last, or to what it was bound to before.
-/

namespace Formulary

variable {symbols : SymbolTable}

/-- A statement fails and changes nothing, or binds its target to a finite value. -/
theorem SymbolTable.perform_cases (symbols : SymbolTable) (statement : Tree) :
    (∃ error, interpret symbols statement = .error error ∧
        symbols.perform statement = { result := .error error, symbols }) ∨
      ∃ name value, interpret symbols statement = .ok (name, value) ∧ value.isFinite ∧
        symbols.perform statement =
          { result := .ok (name, value), symbols := symbols.insert name (.float value) } := by
  rw [perform]
  cases performed : interpret symbols statement with
  | error error => exact .inl ⟨error, rfl, rfl⟩
  | ok assigned =>
    obtain ⟨name, value⟩ := assigned
    obtain ⟨_, _, _, finite⟩ := exists_of_interpret_eq_ok performed
    exact .inr ⟨name, value, rfl, finite, rfl⟩

/-- A source that is not parsed fails and changes nothing; else its statement is carried out. -/
theorem SymbolTable.run_cases (symbols : SymbolTable) (source : String) :
    (∃ error, parse source = .error error ∧ (symbols.run source).result = .error error ∧
        (symbols.run source).symbols = symbols) ∨
      ∃ statement, parse source = .ok statement ∧
        (symbols.run source).result = (symbols.perform statement).result ∧
        (symbols.run source).symbols = (symbols.perform statement).symbols := by
  rw [parse, run]
  cases tokenize source with
  | error error => exact .inl ⟨error, rfl, rfl, rfl⟩
  | ok tokens =>
    simp only [bind, Except.bind]
    cases parseTokens tokens with
    | error error => exact .inl ⟨error, rfl, rfl, rfl⟩
    | ok statement =>
      refine .inr ⟨statement, rfl, ?_⟩
      simp only
      cases performed : (symbols.perform statement).result with
      | error error => exact ⟨rfl, rfl⟩
      | ok assigned => exact ⟨rfl, rfl⟩

/-- A source that is parsed has the outcome of its statement. -/
theorem SymbolTable.run_of_parse (symbols : SymbolTable) {source : String} {statement : Tree}
    (parsed : parse source = .ok statement) :
    (symbols.run source).result = interpret symbols statement ∧
      (symbols.run source).symbols = (symbols.perform statement).symbols := by
  rcases symbols.run_cases source with ⟨_, failed, _⟩ | ⟨other, parsed', result, after⟩
  · rw [parsed] at failed
    cases failed
  · obtain rfl : other = statement := Except.ok.inj (parsed'.symm.trans parsed)
    refine ⟨?_, after⟩
    rw [result, perform]
    cases interpret symbols other <;> rfl

/-- A step that carries out a statement. -/
def Step.assigns : Step → Bool
  | .formula _ | .interpret _ | .run _ => true
  | .evaluate _ | .csv | .set _ _ | .delete _ => false

/-- A step that looks at the table and leaves it alone. -/
def Step.reads : Step → Bool
  | .evaluate _ | .csv => true
  | .formula _ | .interpret _ | .run _ | .set _ _ | .delete _ => false

/-- What a step may make of a table: nothing if it fails, nothing if it only reads, and if it assigns
    a finite value bound to one name. -/
def Step.Respects (step : Step) (before : SymbolTable) (outcome : Outcome Reply) : Prop :=
  match outcome.result with
  | .error _ => outcome.symbols = before
  | .ok (.assigned name value) =>
    step.assigns ∧ value.isFinite ∧
      ∀ other, outcome.symbols[other]? = if name = other then some (.float value) else before[other]?
  | .ok _ => step.reads ∧ outcome.symbols = before

theorem SymbolTable.respects_perform (symbols : SymbolTable) {step : Step} (assigns : step.assigns)
    (statement : Tree) : step.Respects symbols (symbols.perform statement).reply := by
  rcases symbols.perform_cases statement with ⟨error, _, failed⟩ | ⟨name, value, _, finite, performed⟩
  · rw [failed]
    rfl
  · rw [performed]
    exact ⟨assigns, finite, fun other => getElem?_insert_name symbols name other (.float value)⟩

theorem SymbolTable.respects_run (symbols : SymbolTable) (source : String) :
    (Step.run source).Respects symbols (symbols.run source).reply := by
  have assigns : (Step.run source).assigns := rfl
  rcases symbols.run_cases source with ⟨error, _, failed, kept⟩ | ⟨statement, _, result, after⟩
  · rw [Step.Respects, Outcome.reply]
    simp only [failed, Except.map]
    exact kept
  · have performed := symbols.respects_perform assigns statement
    rw [Step.Respects, Outcome.reply] at performed ⊢
    simp only [result, after]
    exact performed

/-- Every step that assigns or reads does to the table what it may. -/
theorem SymbolTable.respects_step (symbols : SymbolTable) {step : Step} (own : step.assigns ∨ step.reads) :
    step.Respects symbols (symbols.step step) := by
  cases step with
  | formula source =>
    rw [SymbolTable.step]
    cases parse source with
    | ok statement => exact symbols.respects_perform rfl statement
    | error error => rfl
  | interpret statement => exact symbols.respects_perform rfl statement
  | run source => exact symbols.respects_run source
  | evaluate expression =>
    rw [SymbolTable.step]
    cases expression.evaluate symbols with
    | ok value => exact ⟨rfl, rfl⟩
    | error error => rfl
  | csv => exact ⟨rfl, rfl⟩
  | set | delete => simp [Step.assigns, Step.reads] at own

/-- The table after some steps. -/
def SymbolTable.after (symbols : SymbolTable) : List Step → SymbolTable
  | [] => symbols
  | step :: steps => (symbols.step step).symbols.after steps

/-- The name and the value that a step has assigned, if it has. -/
def Outcome.assigned? (outcome : Outcome Reply) : Option (String × Float) :=
  match outcome.result with
  | .ok (.assigned name value) => some (name, value)
  | _ => none

/-- What some steps assign, the latest first. -/
def SymbolTable.assignments (symbols : SymbolTable) : List Step → List (String × Float)
  | [] => []
  | step :: steps =>
    (symbols.step step).symbols.assignments steps ++ (symbols.step step).assigned?.toList

/-- After a step a name is bound to what it has been assigned, or else to what it was bound to. -/
theorem Step.Respects.getElem?_symbols {step : Step} {outcome : Outcome Reply}
    (respects : step.Respects symbols outcome) (name : String) :
    outcome.symbols[name]? = ((outcome.assigned?.toList.lookup name).map .float).or symbols[name]? := by
  rw [Respects] at respects
  rw [Outcome.assigned?]
  split at respects
  next failed =>
    rw [failed, respects]
    rfl
  next target value assigned =>
    rw [assigned, respects.2.2 name]
    simp only [Option.toList_some, List.lookup_cons, List.lookup_nil]
    by_cases same : target = name
    · simp [same]
    · have differ : (name == target) = false := beq_eq_false_iff_ne.2 (Ne.symm same)
      simp [same, differ]
  next reply other read =>
    rw [read, respects.2]
    cases reply with
    | assigned target value => exact absurd rfl (other target value)
    | value | text | done => rfl

theorem Step.Respects.isFinite_of_assigned? {step : Step} {outcome : Outcome Reply}
    (respects : step.Respects symbols outcome) {name : String} {value : Float}
    (assigned : outcome.assigned? = some (name, value)) : value.isFinite := by
  rw [Outcome.assigned?] at assigned
  split at assigned
  next found =>
    cases assigned
    rw [Respects, found] at respects
    exact respects.2.1
  next => cases assigned

theorem SymbolTable.after_append (symbols : SymbolTable) (front back : List Step) :
    symbols.after (front ++ back) = (symbols.after front).after back := by
  induction front generalizing symbols with
  | nil => rfl
  | cons step front ih => exact ih (symbols.step step).symbols

theorem SymbolTable.isFinite_of_mem_assignments {symbols : SymbolTable} {steps : List Step}
    (own : ∀ step ∈ steps, step.assigns ∨ step.reads) {name : String} {value : Float}
    (member : (name, value) ∈ symbols.assignments steps) : value.isFinite := by
  induction steps generalizing symbols with
  | nil => cases member
  | cons step steps ih =>
    rw [List.forall_mem_cons] at own
    rw [assignments, List.mem_append, Option.mem_toList] at member
    rcases member with later | here
    · exact ih own.2 later
    · exact (symbols.respects_step own.1).isFinite_of_assigned? here

/-- After some steps that assign or read, each of them on the table that those before it left, a name
    is bound to the value that it was assigned last, which is finite, or else to what it was bound to
    at the start. -/
theorem SymbolTable.getElem?_after (symbols : SymbolTable) {steps : List Step}
    (own : ∀ step ∈ steps, step.assigns ∨ step.reads) :
    (∀ front step back, steps = front ++ step :: back →
      step.Respects (symbols.after front) ((symbols.after front).step step) ∧
        symbols.after (front ++ [step]) = ((symbols.after front).step step).symbols) ∧
      (∀ name value, (name, value) ∈ symbols.assignments steps → value.isFinite) ∧
      ∀ name, (symbols.after steps)[name]? =
        (((symbols.assignments steps).lookup name).map .float).or symbols[name]? := by
  refine ⟨?_, fun name value => isFinite_of_mem_assignments own, ?_⟩
  · rintro front step back rfl
    refine ⟨respects_step _ (own step (by simp)), ?_⟩
    rw [after_append]
    rfl
  · intro name
    induction steps generalizing symbols with
    | nil => rfl
    | cons step steps ih =>
      rw [List.forall_mem_cons] at own
      rw [after, ih _ own.2, (symbols.respects_step own.1).getElem?_symbols, assignments, List.lookup_append,
        Option.map_or, Option.or_assoc]

/-- A division by zero and a tree with an unknown operator leave no trace. -/
theorem SymbolTable.getElem?_after_failures :
    let symbols : SymbolTable := (∅ : SymbolTable).insertMany [("a", Scalar.text "2"), ("b", Scalar.absent)]
    let after := symbols.after [.run "b = 1 / 0", .run "x = -a", .interpret (.binary .assign
      (.literal "x" .identifier) (.binary (.unknown "%") (.literal "1" .integer) (.foreign .absent))), .csv]
    after["x"]? = some (.float (-2)) ∧ after["b"]? = some .absent := by
  intro symbols after
  have own : ∀ step ∈ [Step.run "b = 1 / 0", .run "x = -a", .interpret (.binary .assign
      (.literal "x" .identifier) (.binary (.unknown "%") (.literal "1" .integer) (.foreign .absent))), .csv],
      step.assigns ∨ step.reads := by
    decide
  obtain ⟨_, _, bound⟩ := SymbolTable.getElem?_after symbols own
  rw [bound, bound]
  decide +kernel

end Formulary
