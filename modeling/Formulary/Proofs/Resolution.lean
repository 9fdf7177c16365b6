import Formulary.Proofs.Coherence

/-!
# Resolving the names of a statement

The names of a statement are resolved in the order of their characters' codes, before any arithmetic.
So the least name that fails decides the error, whatever else is wrong with the expression, and just
the names below it are bound by then. An expression whose names have all been resolved is evaluated
without an undefined name.
-/

namespace Formulary

namespace Tree

variable {tree : Tree}

/-- A tree without foreign values has all its identifiers found in it, if it is not too deep. -/
theorem identifiersWithin_of_native (native : ∀ value, .foreign value ∉ tree.preorder) (room : Nat) :
    tree.identifiersWithin room = .ok tree.identifiers ∨
      tree.identifiersWithin room = evaluationError .nestedTooDeeply := by
  induction tree generalizing room with
  | binary op left right ihl ihr =>
    simp only [preorder, List.mem_cons, List.mem_append, not_or] at native
    cases room with
    | zero => exact .inr rfl
    | succ room =>
      rw [identifiersWithin]
      rcases ihl (fun value => (native value).2.1) room with found | failed
      · rcases ihr (fun value => (native value).2.2) room with found' | failed
        · left
          rw [found, found']
          rfl
        · right
          rw [found, failed]
          rfl
      · right
        rw [failed]
        rfl
  | unary op operand ih =>
    simp only [preorder, List.mem_cons, not_or] at native
    cases room with
    | zero => exact .inr rfl
    | succ room => exact ih (fun value => (native value).2) room
  | literal text kind =>
    cases room with
    | zero => exact .inr rfl
    | succ room => exact .inl rfl
  | foreign value => exact absurd List.mem_cons_self (native value)

theorem references_of_native (native : ∀ value, .foreign value ∉ tree.preorder) :
    (∃ names, tree.references = .ok names) ∨ tree.references = evaluationError .nestedTooDeeply := by
  rw [references]
  rcases identifiersWithin_of_native native depthLimit with found | failed
  · rw [found]
    exact .inl ⟨_, rfl⟩
  · rw [failed]
    exact .inr rfl

/-- The names of an expression are listed in the order of their characters' codes, each once. -/
theorem pairwise_references {names : List String} (references : tree.references = .ok names) :
    names.Pairwise fun name later => name.toList < later.toList := by
  obtain ⟨found, _, same⟩ := bind_eq_ok_iff.1 references
  cases same
  exact Std.TreeSet.ordered_toList.imp compare_eq_lt_iff.1

end Tree

namespace Scope

variable {scope : Scope}

/-- Why a name refers to nothing, with the error that says so: several columns have it, its column is not
    numeric or has an integer that does not convert, its constant does not convert, or there is neither. -/
inductive Fails (scope : Scope) (name : String) : Error → Prop where
  | repeated (several : 2 ≤ (scope.table.named name).length) :
      Fails scope name (.defect (.repeatedColumn name (scope.table.named name).length))
  | notNumeric {column : Column scope.table.rows} {type : String}
      {cells : Vector (Option String) scope.table.rows} (unique : scope.table.named name = [column])
      (other : column.cells = .others type cells) : Fails scope name (.evaluation (.notNumeric name type))
  | outOfRange {column : Column scope.table.rows} {type : IntegerType}
      {cells : Vector (Option Int) scope.table.rows} {least value : Int} {before after : List (Option Int)}
      (unique : scope.table.named name = [column]) (integers : column.cells = .integers type cells)
      (checked : type.least? = some least) (here : cells.toList = before ++ some value :: after)
      (refused : value < least ∨ exactReach < value)
      (first : ∀ earlier, some earlier ∈ before → least ≤ earlier ∧ earlier ≤ exactReach) :
      Fails scope name (.defect (.integerOutOfRange value least))
  | inconvertible {value : Scalar} {problem : ConversionError} (noColumn : name ∉ scope.table.names)
      (bound : scope.constants[name]? = some value) (refused : value.toFloat = .error problem) :
      Fails scope name (.defect (.conversion problem))
  | undefined (noColumn : name ∉ scope.table.names) (unbound : scope.constants[name]? = none) :
      Fails scope name (.evaluation (.undefinedVariable name))

theorem outOfRange_some_iff {least value : Int} :
    outOfRange least (some value) = true ↔ value < least ∨ exactReach < value := by
  simp [outOfRange]

theorem find?_outOfRange_eq_some_iff {cells : List (Option Int)} {least value : Int} :
    cells.find? (outOfRange least) = some (some value) ↔
      ∃ before after, cells = before ++ some value :: after ∧ (value < least ∨ exactReach < value) ∧
        ∀ earlier, some earlier ∈ before → least ≤ earlier ∧ earlier ≤ exactReach := by
  have inside : ∀ before : List (Option Int), (∀ cell ∈ before, (!outOfRange least cell) = true) ↔
      ∀ earlier, some earlier ∈ before → least ≤ earlier ∧ earlier ≤ exactReach := by
    intro before
    constructor
    · intro none earlier member
      simpa [outOfRange] using none _ member
    · intro inside cell member
      cases cell with
      | none => rfl
      | some earlier => simpa [outOfRange] using inside earlier member
  rw [List.find?_eq_some_iff_append, outOfRange_some_iff]
  constructor
  · rintro ⟨refused, before, after, split, first⟩
    exact ⟨before, after, split, refused, (inside before).1 first⟩
  · rintro ⟨before, after, split, refused, first⟩
    exact ⟨refused, before, after, split, (inside before).2 first⟩

theorem integersToDoubles_eq_error_iff {rows : Nat} {type : IntegerType} {cells : Vector (Option Int) rows}
    {error : Error} :
    integersToDoubles type cells = .error error ↔
      ∃ least value, type.least? = some least ∧ cells.toList.find? (outOfRange least) = some (some value) ∧
        error = .defect (.integerOutOfRange value least) := by
  rw [integersToDoubles]
  constructor
  · intro failed
    split at failed
    next => cases failed
    next least checked =>
      split at failed
      next value found =>
        cases failed
        exact ⟨least, value, checked, found, rfl⟩
      next => cases failed
  · rintro ⟨least, value, checked, found, rfl⟩
    simp only [checked, found]

theorem toDoubles_eq_error_iff {rows : Nat} {name : String} {cells : Cells rows} {error : Error} :
    cells.toDoubles name = .error error ↔
      (∃ type texts, cells = .others type texts ∧ error = .evaluation (.notNumeric name type)) ∨
      ∃ type integers, cells = .integers type integers ∧ integersToDoubles type integers = .error error := by
  cases cells with
  | others type texts => simp [Cells.toDoubles, eq_comm]
  | integers type integers => simp [Cells.toDoubles]
  | floats type doubles | decimals type digits => simp [Cells.toDoubles]
  | truths values => simp [Cells.toDoubles]

theorem lookup_of_fails {name : String} {error : Error} (fails : scope.Fails name error) :
    scope.lookup name = .error error := by
  rw [lookup]
  cases fails with
  | repeated several =>
    split
    next column unique => simp [unique] at several
    next unnamed => simp [unnamed] at several
    next => rfl
  | notNumeric unique other =>
    simp only [unique, other]
    rfl
  | outOfRange unique integers checked here refused first =>
    have found := find?_outOfRange_eq_some_iff.2 ⟨_, _, here, refused, first⟩
    have failed := integersToDoubles_eq_error_iff.2 ⟨_, _, checked, found, rfl⟩
    simp only [unique, integers, Cells.toDoubles, failed]
    rfl
  | inconvertible noColumn bound refused =>
    simp only [Table.named_eq_nil_iff.2 noColumn, bound, Scalar.evaluate, refused]
    rfl
  | undefined noColumn unbound =>
    simp only [Table.named_eq_nil_iff.2 noColumn, unbound]
    rfl

/-- Every name refers to something or fails. -/
theorem refers_or_fails (scope : Scope) (name : String) :
    (∃ value, scope.Refers name value) ∨ ∃ error, scope.Fails name error := by
  cases named : scope.table.named name with
  | nil =>
    have noColumn := Table.named_eq_nil_iff.1 named
    cases bound : scope.constants[name]? with
    | none => exact .inr ⟨_, .undefined noColumn bound⟩
    | some value =>
      cases converted : value.toFloat with
      | ok x => exact .inl ⟨_, .constant noColumn bound converted⟩
      | error problem => exact .inr ⟨_, .inconvertible noColumn bound converted⟩
  | cons column columns =>
    cases columns with
    | cons next columns => exact .inr ⟨_, .repeated (by simp [named])⟩
    | nil =>
      cases converted : column.cells.toDoubles name with
      | ok doubles => exact .inl ⟨_, .column named converted⟩
      | error error =>
        right
        rcases toDoubles_eq_error_iff.1 converted with
          ⟨type, texts, other, _⟩ | ⟨type, integers, isInteger, refused⟩
        · exact ⟨_, .notNumeric named other⟩
        · obtain ⟨least, value, checked, found, _⟩ := integersToDoubles_eq_error_iff.1 refused
          obtain ⟨before, after, here, outside, first⟩ := find?_outOfRange_eq_some_iff.1 found
          exact ⟨_, .outOfRange named isInteger checked here outside first⟩

/-- A name refers to something exactly if it does not fail. -/
theorem exists_refers_iff {name : String} :
    (∃ value, scope.Refers name value) ↔ ∀ error, ¬ scope.Fails name error := by
  constructor
  · rintro ⟨value, refers⟩ error fails
    have looked := lookup_of_refers refers
    rw [lookup_of_fails fails] at looked
    cases looked
  · intro sound
    rcases scope.refers_or_fails name with refers | ⟨error, fails⟩
    · exact refers
    · exact absurd fails (sound error)

/-! ## Resolving up to the first name that fails -/

/-- Some names are bound to what they refer to, and all others are bound or not as before. -/
def Binds (before after : Resolved scope) (names : String → Prop) : Prop :=
  ∀ name, (names name → ∃ value, scope.Refers name value ∧ after[name]? = some value) ∧
    (¬ names name → after[name]? = before[name]?)

theorem exists_resolve_binds {names : List String} (refer : ∀ name ∈ names, ∃ value, scope.Refers name value)
    (resolved : Resolved scope) :
    ∃ after, scope.resolve resolved names = (.ok (), after) ∧ Binds resolved after (· ∈ names) := by
  have meanings : ∀ name, ∃ value, name ∈ names → scope.Refers name value := by
    intro name
    by_cases member : name ∈ names
    · obtain ⟨value, refers⟩ := refer name member
      exact ⟨value, fun _ => refers⟩
    · exact ⟨.scalar 0, fun other => absurd other member⟩
  choose meaning bound using meanings
  obtain ⟨after, run, found⟩ := exists_resolve_eq bound resolved
  refine ⟨after, run, fun name => ⟨fun member => ⟨meaning name, bound name member, ?_⟩, fun other => ?_⟩⟩
  · rw [found, if_pos member]
  · rw [found, if_neg other]

theorem resolve_append {front rest : List String} {resolved after : Resolved scope}
    (run : scope.resolve resolved front = (.ok (), after)) :
    scope.resolve resolved (front ++ rest) = scope.resolve after rest := by
  induction front generalizing resolved with
  | nil =>
    cases run
    rfl
  | cons name front ih =>
    rw [resolve] at run
    rw [List.cons_append, resolve]
    cases looked : scope.lookup name with
    | ok value =>
      simp only [looked] at run
      exact ih run
    | error error =>
      simp only [looked] at run
      cases run

/-- All of some names refer to something, or there is a first one that fails. -/
theorem exists_first_failing (scope : Scope) (names : List String) :
    (∀ name ∈ names, ∃ value, scope.Refers name value) ∨
      ∃ front name rest error, names = front ++ name :: rest ∧ scope.Fails name error ∧
        ∀ earlier ∈ front, ∃ value, scope.Refers earlier value := by
  induction names with
  | nil => exact .inl (by simp)
  | cons first names ih =>
    rcases scope.refers_or_fails first with refers | ⟨error, fails⟩
    · rcases ih with all | ⟨front, name, rest, error, split, fails, earlier⟩
      · left
        exact List.forall_mem_cons.2 ⟨refers, all⟩
      · right
        refine ⟨first :: front, name, rest, error, ?_, fails, ?_⟩
        · rw [split, List.cons_append]
        · exact List.forall_mem_cons.2 ⟨refers, earlier⟩
    · right
      exact ⟨[], first, names, error, rfl, fails, by simp⟩

/-- In a sorted list the names before one are those that come before it in the order. -/
theorem mem_front_iff {front rest : List String} {name other : String}
    (sorted : (front ++ name :: rest).Pairwise fun name later => name.toList < later.toList) :
    other ∈ front ↔ other ∈ front ++ name :: rest ∧ other.toList < name.toList := by
  obtain ⟨_, back, across⟩ := List.pairwise_append.1 sorted
  obtain ⟨above, _⟩ := List.pairwise_cons.1 back
  constructor
  · intro member
    exact ⟨List.mem_append_left _ member, across other member name List.mem_cons_self⟩
  · rintro ⟨member, below⟩
    rcases List.mem_append.1 member with member | member
    · exact member
    · rcases List.mem_cons.1 member with same | member
      · subst same
        exact absurd below (List.lt_irrefl _)
      · exact absurd (above other member) (List.lt_asymm below)

/-- Sorted names are resolved up to the least one that fails, whose error is that of all. -/
theorem resolve_cases {names : List String}
    (sorted : names.Pairwise fun name later => name.toList < later.toList) (resolved : Resolved scope) :
    (∃ after, scope.resolve resolved names = (.ok (), after) ∧ Binds resolved after (· ∈ names)) ∨
      ∃ name error after, name ∈ names ∧ scope.Fails name error ∧
        scope.resolve resolved names = (.error error, after) ∧
        Binds resolved after fun other => other ∈ names ∧ other.toList < name.toList := by
  rcases scope.exists_first_failing names with refer | ⟨front, name, rest, error, rfl, fails, refer⟩
  · exact .inl (exists_resolve_binds refer resolved)
  · right
    obtain ⟨after, run, binds⟩ := exists_resolve_binds refer resolved
    refine ⟨name, error, after, by simp, fails, ?_, ?_⟩
    · rw [resolve_append run, resolve, lookup_of_fails fails]
    · simp only [← mem_front_iff sorted]
      exact binds

end Scope

variable {scope : Scope} {resolved : Resolved scope}

theorem BinaryOperator.compute_ne_undefined (op : BinaryOperator) (left right : Float) (name : String) :
    op.compute left right ≠ evaluationError (.undefinedVariable name) := by
  intro failed
  cases op with
  | divide =>
    rw [compute, quotient] at failed
    split at failed <;> cases failed
  | add | subtract | multiply | assign | unknown => cases failed

theorem BinaryOperator.evaluateRows_ne_undefined {rows : Nat} (op : BinaryOperator) (left right : Value rows)
    (name : String) : op.evaluateRows left right ≠ evaluationError (.undefinedVariable name) := by
  intro failed
  unfold evaluateRows at failed
  split at failed
  next => cases failed
  next =>
    cases left with
    | scalar x =>
      cases right with
      | scalar y =>
        cases computed : op.compute x y with
        | ok value =>
          simp only [computed] at failed
          cases failed
        | error error =>
          simp only [computed] at failed
          cases failed
          exact op.compute_ne_undefined x y name computed
      | column ys => cases known : op.arithmetic? <;> simp only [known] at failed <;> cases failed
    | column xs => cases known : op.arithmetic? <;> simp only [known] at failed <;> cases failed

/-- No name is undefined in an expression whose names have all been resolved. -/
theorem Tree.evaluateRowsWithin_ne_undefined {tree : Tree}
    (bound : ∀ name ∈ tree.identifiers, ∃ value, resolved[name]? = some value) (room : Nat) (name : String) :
    tree.evaluateRowsWithin resolved room ≠ evaluationError (.undefinedVariable name) := by
  intro failed
  induction tree generalizing room with
  | binary op left right ihl ihr =>
    rw [identifiers, List.forall_mem_append] at bound
    cases room with
    | zero => cases failed
    | succ room =>
      by_cases assigns : op = .assign
      · subst assigns
        cases failed
      · rw [evaluateRowsWithin_binary assigns] at failed
        rcases bind_eq_error_iff.1 failed with failed | ⟨leftValue, _, failed⟩
        · exact ihl bound.1 room failed
        · rcases bind_eq_error_iff.1 failed with failed | ⟨rightValue, _, failed⟩
          · exact ihr bound.2 room failed
          · exact op.evaluateRows_ne_undefined leftValue rightValue name failed
  | unary op operand ih =>
    cases room with
    | zero => cases failed
    | succ room =>
      rw [evaluateRowsWithin] at failed
      rcases bind_eq_error_iff.1 failed with failed | ⟨value, _, negated⟩
      · exact ih bound room failed
      · cases negated
  | literal text kind =>
    cases room with
    | zero => cases failed
    | succ room =>
      rw [evaluateRowsWithin] at failed
      by_cases isName : kind = .identifier
      · obtain ⟨value, found⟩ := bound text (by simp [identifiers, isName])
        rw [if_pos isName, found] at failed
        cases failed
      · rw [if_neg isName, numeralValue] at failed
        cases value : Number.floatOfText? text <;> rw [value] at failed <;> cases failed
  | foreign value => cases room <;> cases failed

theorem Value.finiteCells_ne_undefined {rows : Nat} (value : Value rows) (name : String) :
    value.finiteCells ≠ evaluationError (.undefinedVariable name) := by
  intro failed
  cases value with
  | scalar x =>
    rw [finiteCells] at failed
    split at failed <;> cases failed
  | column xs =>
    rw [finiteCells] at failed
    split at failed <;> cases failed

namespace Scope

/-- A bound name that is the name of a column is bound to that column. -/
theorem Binds.exists_column {after : Resolved scope} {names : String → Prop} (binds : Binds resolved after names)
    {name : String} (member : names name) (isColumn : name ∈ scope.table.names) :
    ∃ column doubles, scope.table.named name = [column] ∧ column.cells.toDoubles name = .ok doubles ∧
      after[name]? = some (.column doubles) := by
  obtain ⟨value, refers, found⟩ := (binds name).1 member
  cases refers with
  | column unique converted => exact ⟨_, _, unique, converted, found⟩
  | constant noColumn => exact absurd isColumn noColumn

/-- With its identifiers bound an expression, and the statement that it is in, has no undefined name. -/
theorem Binds.ne_undefined {after : Resolved scope} {expression : Tree}
    (binds : Binds resolved after (· ∈ expression.identifiers)) (target name : String) :
    expression.evaluateRows after ≠ evaluationError (.undefinedVariable name) ∧
      ((expression.evaluateRows after).bind fun value => value.finiteCells.bind fun cells => .ok (target, cells)) ≠
        evaluationError (.undefinedVariable name) := by
  have bound : ∀ name ∈ expression.identifiers, ∃ value, after[name]? = some value := by
    intro name member
    obtain ⟨value, _, found⟩ := (binds name).1 member
    exact ⟨value, found⟩
  have evaluated := Tree.evaluateRowsWithin_ne_undefined bound depthLimit name
  refine ⟨evaluated, fun failed => ?_⟩
  rcases bind_eq_error_iff.1 failed with failed | ⟨value, _, failed⟩
  · exact evaluated failed
  · rcases bind_eq_error_iff.1 failed with failed | ⟨cells, _, failed⟩
    · exact value.finiteCells_ne_undefined name failed
    · cases failed

/-- A statement without foreign values is nested too deeply, or a least name in it fails, or it comes to what
    its expression comes to with all names bound. -/
theorem interpret_cases {expression : Tree} (native : ∀ value, .foreign value ∉ expression.preorder)
    (resolved : Resolved scope) (target : String) :
    let answer := scope.interpret resolved (.binary .assign (.literal target .identifier) expression)
    answer.result = evaluationError .nestedTooDeeply ∨
      (∃ name ∈ expression.identifiers, ∃ error, scope.Fails name error ∧ answer.result = .error error ∧
        Binds resolved answer.resolved fun other =>
          other ∈ expression.identifiers ∧ other.toList < name.toList) ∨
      Binds resolved answer.resolved (· ∈ expression.identifiers) ∧
        answer.result = (expression.evaluateRows answer.resolved).bind fun value =>
          value.finiteCells.bind fun cells => .ok (target, cells) := by
  simp only [interpret, Tree.assignment]
  rcases Tree.references_of_native native with ⟨names, references⟩ | failed
  · have listed : ∀ {name}, name ∈ names ↔ name ∈ expression.identifiers := Tree.mem_references_iff references
    simp only [references, ← listed]
    rcases resolve_cases (Tree.pairwise_references references) resolved with
      ⟨after, run, binds⟩ | ⟨name, error, after, member, fails, run, binds⟩
    · simp only [run]
      exact .inr (.inr ⟨binds, rfl⟩)
    · simp only [run]
      exact .inr (.inl ⟨name, member, error, fails, rfl, binds⟩)
  · left
    rw [failed]
    rfl

/-- Unless it is nested too deeply, a statement whose names do not all refer to something has the error of
    the least name that fails, whatever its expression is, and just the names below that one are bound
    then. If all refer to something they are all bound, those of columns to their columns, and neither the
    expression nor the statement has an undefined name. What has been resolved before stays resolved. -/
theorem interpret_resolves {expression : Tree} (native : ∀ value, .foreign value ∉ expression.preorder)
    (resolved : Resolved scope) (target : String) :
    let answer := scope.interpret resolved (.binary .assign (.literal target .identifier) expression)
    answer.result ≠ evaluationError .nestedTooDeeply →
      ((∃ name ∈ expression.identifiers, ∃ error, scope.Fails name error) →
        ∃ name ∈ expression.identifiers, ∃ error, scope.Fails name error ∧ answer.result = .error error ∧
          (∀ other ∈ expression.identifiers, other.toList < name.toList → ∀ error, ¬ scope.Fails other error) ∧
          Binds resolved answer.resolved fun other =>
            other ∈ expression.identifiers ∧ other.toList < name.toList) ∧
      ((∀ name ∈ expression.identifiers, ∀ error, ¬ scope.Fails name error) →
        Binds resolved answer.resolved (· ∈ expression.identifiers) ∧
        (∀ name ∈ expression.identifiers, name ∈ scope.table.names →
          ∃ column doubles, scope.table.named name = [column] ∧ column.cells.toDoubles name = .ok doubles ∧
            answer.resolved[name]? = some (.column doubles)) ∧
        ∀ name, expression.evaluateRows answer.resolved ≠ evaluationError (.undefinedVariable name) ∧
          answer.result ≠ evaluationError (.undefinedVariable name)) ∧
      (scope.Coherent resolved → scope.Coherent answer.resolved ∧ Keeps resolved answer.resolved) := by
  intro answer shallow
  have kept : scope.Coherent resolved → scope.Coherent answer.resolved ∧ Keeps resolved answer.resolved :=
    fun coherent => coherent.interpret _
  rcases interpret_cases native resolved target with deep | ⟨name, member, error, fails, refused, binds⟩ |
    ⟨binds, evaluated⟩
  · exact absurd deep shallow
  · refine ⟨fun _ => ⟨name, member, error, fails, refused, ?_, binds⟩, fun sound => ?_, kept⟩
    · intro other member' below
      obtain ⟨value, refers, _⟩ := (binds other).1 ⟨member', below⟩
      exact exists_refers_iff.1 ⟨value, refers⟩
    · exact absurd fails (sound name member error)
  · refine ⟨?_, fun _ => ⟨binds, fun name => binds.exists_column, fun name => ?_⟩, kept⟩
    · rintro ⟨name, member, error, fails⟩
      obtain ⟨value, refers, _⟩ := (binds name).1 member
      exact absurd fails (exists_refers_iff.1 ⟨value, refers⟩ error)
    · have undefined := binds.ne_undefined target name
      rw [← evaluated] at undefined
      exact undefined

/-- A nested assignment with an undefined name and a division by zero fails for the text column `c`, which
    comes before them, and `a` has been resolved then. -/
theorem interpret_resolves_text_column :
    let scope : Scope := ⟨⟨1, [⟨"a", .floats .double #v[some 2]⟩, ⟨"c", .others "string" #v[none]⟩]⟩, ∅⟩
    let ratio : Tree := .binary .divide (.literal "z" .identifier) (.literal "0" .integer)
    let sum : Tree := .binary .add (.literal "c" .identifier) (.literal "a" .identifier)
    let answer := scope.interpret ∅ (.binary .assign (.literal "x" .identifier) (.binary .assign ratio sum))
    answer.result = .error (.evaluation (.notNumeric "c" "string")) ∧
      (∃ value, scope.Refers "a" value ∧ answer.resolved["a"]? = some value) ∧ answer.resolved["z"]? = none := by
  intro scope ratio sum answer
  have fails : scope.Fails "c" (.evaluation (.notNumeric "c" "string")) := .notNumeric rfl rfl
  have text : (match answer.result with | .error error => some error | .ok _ => none) =
      some (.evaluation (.notNumeric "c" "string")) := by
    decide +kernel
  have shallow : answer.result ≠ evaluationError .nestedTooDeeply := by
    intro deep
    rw [deep] at text
    cases text
  obtain ⟨least, _, _⟩ := interpret_resolves (by simp [ratio, sum, Tree.preorder]) ∅ "x" shallow
  obtain ⟨name, _, error, fails, refused, _, binds⟩ := least ⟨"c", by decide, _, fails⟩
  rw [refused] at text
  cases text
  cases fails
  refine ⟨refused, (binds "a").1 (by decide +kernel), ?_⟩
  rw [(binds "z").2 (by decide +kernel), Std.TreeMap.getElem?_emptyc]

end Scope
end Formulary
