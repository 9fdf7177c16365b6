import Formulary.Proofs.Finiteness
import Formulary.Proofs.Rowwise

/-!
# What has been resolved stays right

What the names of a scope have been resolved to is kept from one statement to the next, also when a
statement fails after some of its names. It is always what the scope has for these names. So a
statement has the outcome that it has where nothing has been resolved before, whatever came before
it, and an expression whose names have all been resolved has the value that it has right after these
names have been.
-/

namespace Formulary

namespace Tree

variable {scope : Scope} {tree : Tree} {names : List String}

/-- The names that are found in a tree are all its identifiers. -/
theorem identifiersWithin_eq_ok {room : Nat} (found : tree.identifiersWithin room = .ok names) :
    names = tree.identifiers := by
  induction tree generalizing room names with
  | binary op left right ihl ihr =>
    cases room with
    | zero => cases found
    | succ room =>
      rw [identifiersWithin] at found
      obtain ⟨first, readLeft, found⟩ := bind_eq_ok_iff.1 found
      obtain ⟨second, readRight, found⟩ := bind_eq_ok_iff.1 found
      cases found
      rw [identifiers, ihl readLeft, ihr readRight]
  | unary op operand ih =>
    cases room with
    | zero => cases found
    | succ room => exact ih found
  | literal text kind =>
    cases room with
    | zero => cases found
    | succ room =>
      cases found
      rfl
  | foreign value => cases room <;> cases found

theorem mem_references_iff (references : tree.references = .ok names) {name : String} :
    name ∈ names ↔ name ∈ tree.identifiers := by
  obtain ⟨found, read, same⟩ := bind_eq_ok_iff.1 references
  cases same
  rw [Std.TreeSet.mem_toList, Std.TreeSet.mem_ofList, List.contains_iff_mem, identifiersWithin_eq_ok read]

/-- An expression has the same value wherever its identifiers have been resolved alike. -/
theorem evaluateRowsWithin_congr {resolved other : Resolved scope}
    (agree : ∀ name ∈ tree.identifiers, resolved[name]? = other[name]?) (room : Nat) :
    tree.evaluateRowsWithin resolved room = tree.evaluateRowsWithin other room := by
  induction tree generalizing room with
  | binary op left right ihl ihr =>
    cases room with
    | zero => rfl
    | succ room =>
      rw [identifiers, List.forall_mem_append] at agree
      by_cases assigns : op = .assign
      · subst assigns
        rfl
      · rw [evaluateRowsWithin_binary assigns, evaluateRowsWithin_binary assigns, ihl agree.1, ihr agree.2]
  | unary op operand ih =>
    cases room with
    | zero => rfl
    | succ room => rw [evaluateRowsWithin, evaluateRowsWithin, ih agree]
  | literal text kind =>
    cases room with
    | zero => rfl
    | succ room =>
      rw [evaluateRowsWithin, evaluateRowsWithin]
      by_cases name : kind = .identifier
      · rw [if_pos name, if_pos name, agree text (by simp [identifiers, name])]
      · rw [if_neg name, if_neg name]
  | foreign value => cases room <;> rfl

end Tree

namespace Scope

/-- All that has been resolved is what the scope has for it. -/
def Coherent (scope : Scope) (resolved : Resolved scope) : Prop :=
  ∀ (name : String) value, resolved[name]? = some value → scope.lookup name = .ok value

/-- All that has been resolved before is still resolved, to the same values. -/
def Keeps {scope : Scope} (before after : Resolved scope) : Prop :=
  ∀ (name : String) value, before[name]? = some value → after[name]? = some value

theorem Keeps.trans {scope : Scope} {before middle after : Resolved scope} (first : Keeps before middle)
    (second : Keeps middle after) : Keeps before after :=
  fun name value found => second name value (first name value found)

section
variable {scope : Scope} {resolved other : Resolved scope} {names : List String}

theorem coherent_empty (scope : Scope) : scope.Coherent ∅ := by
  intro name value found
  rw [Std.TreeMap.getElem?_emptyc] at found
  cases found

/-- What two coherent states both have, they have alike. -/
theorem Coherent.getElem?_eq (coherent : scope.Coherent resolved) (coherent' : scope.Coherent other)
    {name : String} (known : ∃ value, resolved[name]? = some value) (known' : ∃ value, other[name]? = some value) :
    resolved[name]? = other[name]? := by
  obtain ⟨value, found⟩ := known
  obtain ⟨value', found'⟩ := known'
  have same : value = value' := Except.ok.inj ((coherent name value found).symm.trans (coherent' name value' found'))
  rw [found, found', same]

theorem Coherent.insert (coherent : scope.Coherent resolved) {name : String} {value : Value scope.table.rows}
    (looked : scope.lookup name = .ok value) :
    scope.Coherent (resolved.insert name value) ∧ Keeps resolved (resolved.insert name value) := by
  constructor
  · intro other found inserted
    rw [getElem?_insert_name] at inserted
    split at inserted
    next same =>
      cases inserted
      exact same ▸ looked
    next => exact coherent other found inserted
  · intro other found before
    rw [getElem?_insert_name]
    split
    next same =>
      subst same
      rw [coherent name found before] at looked
      cases looked
      rfl
    next => exact before

/-- Resolving names keeps a state coherent and keeps all that it has, also where it stops half-way. -/
theorem Coherent.resolve (coherent : scope.Coherent resolved) (names : List String) :
    scope.Coherent (scope.resolve resolved names).2 ∧ Keeps resolved (scope.resolve resolved names).2 := by
  induction names generalizing resolved with
  | nil => exact ⟨coherent, fun _ _ found => found⟩
  | cons name names ih =>
    rw [Scope.resolve]
    split
    next value looked =>
      obtain ⟨coherent', kept⟩ := coherent.insert looked
      obtain ⟨coherent'', kept'⟩ := ih coherent'
      exact ⟨coherent'', kept.trans kept'⟩
    next => exact ⟨coherent, fun _ _ found => found⟩

/-- Whether names can be resolved, and which error there is if not, does not depend on what has been. -/
theorem resolve_fst_eq (resolved other : Resolved scope) (names : List String) :
    (scope.resolve resolved names).1 = (scope.resolve other names).1 := by
  induction names generalizing resolved other with
  | nil => rfl
  | cons name names ih =>
    rw [resolve, resolve]
    cases scope.lookup name with
    | ok value => exact ih _ _
    | error error => rfl

theorem resolve_fst_eq_ok (looked : ∀ name ∈ names, ∃ value, scope.lookup name = .ok value) :
    (scope.resolve resolved names).1 = .ok () := by
  induction names generalizing resolved with
  | nil => rfl
  | cons name names ih =>
    rw [List.forall_mem_cons] at looked
    obtain ⟨⟨value, here⟩, later⟩ := looked
    rw [resolve, here]
    exact ih later

/-- Names that have all been resolved are all there. -/
theorem Coherent.exists_of_resolve (coherent : scope.Coherent resolved) {after : Resolved scope}
    (run : scope.resolve resolved names = (.ok (), after)) : ∀ name ∈ names, ∃ value, after[name]? = some value := by
  induction names generalizing resolved with
  | nil => simp
  | cons name names ih =>
    rw [Scope.resolve] at run
    cases looked : scope.lookup name with
    | error error =>
      rw [looked] at run
      cases run
    | ok value =>
      simp only [looked] at run
      obtain ⟨coherent', _⟩ := coherent.insert looked
      have kept := (coherent'.resolve names).2 name value
      rw [run, getElem?_insert_name, if_pos rfl] at kept
      exact List.forall_mem_cons.2 ⟨⟨value, kept rfl⟩, ih coherent' run⟩

/-- A statement has the same outcome on all coherent states. -/
theorem Coherent.result_interpret_eq (coherent : scope.Coherent resolved) (coherent' : scope.Coherent other)
    (statement : Tree) : (scope.interpret resolved statement).result = (scope.interpret other statement).result := by
  rw [Scope.interpret, Scope.interpret]
  cases statement.assignment with
  | error error => rfl
  | ok assigned =>
    obtain ⟨target, expression⟩ := assigned
    cases references : expression.references with
    | error error => simp only [references]
    | ok names =>
      have outcome := resolve_fst_eq resolved other names
      have after := (coherent.resolve names).1
      have after' := (coherent'.resolve names).1
      simp only [references]
      cases run : scope.resolve resolved names with
      | mk result state =>
        cases run' : scope.resolve other names with
        | mk result' state' =>
          simp only [run, run'] at outcome after after'
          subst outcome
          cases result with
          | error error => rfl
          | ok done =>
            have agree : ∀ name ∈ expression.identifiers, state[name]? = state'[name]? := by
              intro name member
              have listed := (Tree.mem_references_iff references).2 member
              exact after.getElem?_eq after' (coherent.exists_of_resolve run name listed)
                (coherent'.exists_of_resolve run' name listed)
            have same : expression.evaluateRows state = expression.evaluateRows state' :=
              Tree.evaluateRowsWithin_congr agree depthLimit
            simp only [same]

theorem Coherent.interpret (coherent : scope.Coherent resolved) (statement : Tree) :
    scope.Coherent (scope.interpret resolved statement).resolved ∧
      Keeps resolved (scope.interpret resolved statement).resolved := by
  have same : scope.Coherent resolved ∧ Keeps resolved resolved := ⟨coherent, fun _ _ found => found⟩
  rw [Scope.interpret]
  split
  next => exact same
  next =>
    split
    next => exact same
    next names _ =>
      have after := coherent.resolve names
      dsimp only
      split
      next run =>
        rw [run] at after
        exact after
      next run =>
        rw [run] at after
        exact after

/-! ## Queries one after the other -/

/-- What may be asked of a scope. -/
inductive Query where
  /-- Carries out a statement, and keeps what its names have been resolved to. -/
  | interpret (statement : Tree)
  /-- Evaluates an expression with what has been resolved. -/
  | evaluate (expression : Tree)

end

/-- What has been resolved after queries, each with what those before it have left. -/
def after (scope : Scope) (resolved : Resolved scope) : List Query → Resolved scope
  | [] => resolved
  | .interpret statement :: queries => scope.after (scope.interpret resolved statement).resolved queries
  | .evaluate _ :: queries => scope.after resolved queries

section
variable {scope : Scope} {resolved : Resolved scope}

theorem after_append (resolved : Resolved scope) (front back : List Query) :
    scope.after resolved (front ++ back) = scope.after (scope.after resolved front) back := by
  induction front generalizing resolved with
  | nil => rfl
  | cons query front ih =>
    cases query with
    | interpret statement => exact ih _
    | evaluate expression => exact ih _

theorem Coherent.after (coherent : scope.Coherent resolved) (queries : List Query) :
    scope.Coherent (scope.after resolved queries) ∧ Keeps resolved (scope.after resolved queries) := by
  induction queries generalizing resolved with
  | nil => exact ⟨coherent, fun _ _ found => found⟩
  | cons query queries ih =>
    cases query with
    | interpret statement =>
      obtain ⟨coherent', kept⟩ := coherent.interpret statement
      obtain ⟨coherent'', kept'⟩ := ih coherent'
      exact ⟨coherent'', kept.trans kept'⟩
    | evaluate expression => exact ih coherent

/-- An expression whose identifiers have all been resolved has the value that it has where these, in any
    order, have been resolved and nothing else; and there they can all be. -/
theorem Coherent.exists_resolve_evaluateRows (coherent : scope.Coherent resolved) {expression : Tree}
    {names : List String} (listed : ∀ name, name ∈ names ↔ name ∈ expression.identifiers)
    (known : ∀ name ∈ expression.identifiers, ∃ value, resolved[name]? = some value) :
    ∃ fresh, scope.resolve ∅ names = (.ok (), fresh) ∧
      expression.evaluateRows resolved = expression.evaluateRows fresh := by
  have looked : ∀ name ∈ names, ∃ value, scope.lookup name = .ok value := by
    intro name member
    obtain ⟨value, found⟩ := known name ((listed name).1 member)
    exact ⟨value, coherent name value found⟩
  have run : scope.resolve ∅ names = (.ok (), (scope.resolve ∅ names).2) :=
    Prod.ext (resolve_fst_eq_ok looked) rfl
  have fresh := ((coherent_empty scope).resolve names).1
  have there := (coherent_empty scope).exists_of_resolve run
  refine ⟨_, run, Tree.evaluateRowsWithin_congr (fun name member => ?_) depthLimit⟩
  exact coherent.getElem?_eq fresh (known name member) (there name ((listed name).2 member))

end

/-- After any queries, failed ones included, all that has been resolved is what the scope has for it, and
    stays resolved to it; a statement has the outcome that it has where nothing has been resolved; and an
    expression whose identifiers have all been resolved has the value that it has right after they alone
    have been. -/
theorem result_interpret_after (scope : Scope) (queries : List Query) :
    scope.Coherent (scope.after ∅ queries) ∧
      (∀ more, Keeps (scope.after ∅ queries) (scope.after ∅ (queries ++ more))) ∧
      (∀ statement, (scope.interpret (scope.after ∅ queries) statement).result =
        (scope.interpret ∅ statement).result) ∧
      ∀ (expression : Tree) (names : List String), (∀ name, name ∈ names ↔ name ∈ expression.identifiers) →
        (∀ name ∈ expression.identifiers, ∃ value, (scope.after ∅ queries)[name]? = some value) →
        ∃ fresh, scope.resolve ∅ names = (.ok (), fresh) ∧
          expression.evaluateRows (scope.after ∅ queries) = expression.evaluateRows fresh := by
  have empty := coherent_empty scope
  have coherent := (empty.after queries).1
  refine ⟨coherent, fun more => ?_, fun statement => coherent.result_interpret_eq empty statement, ?_⟩
  · rw [after_append]
    exact (coherent.after more).2
  · intro expression names listed known
    exact coherent.exists_resolve_evaluateRows listed known

/-- The text column `c` cannot be resolved, but `a` has been before it, and is used like in a fresh state. -/
theorem result_interpret_after_failure :
    let scope : Scope := ⟨⟨1, [⟨"a", .floats .double #v[some 2]⟩, ⟨"c", .others "string" #v[none]⟩]⟩, ∅⟩
    let sum : Tree := .binary .add (.literal "c" .identifier) (.literal "a" .identifier)
    let state := scope.after ∅ [.interpret (.binary .assign (.literal "x" .identifier) sum), .evaluate sum]
    (∃ value, state["a"]? = some value) ∧ state["c"]? = none ∧
      ∃ fresh, scope.resolve ∅ ["a"] = (.ok (), fresh) ∧
        (Tree.unary .negate (.literal "a" .identifier)).evaluateRows state =
          (Tree.unary .negate (.literal "a" .identifier)).evaluateRows fresh := by
  intro scope sum state
  have known : ∃ value, state["a"]? = some value := Option.isSome_iff_exists.1 (by decide +kernel)
  have unknown : state["c"]? = none := Option.isNone_iff_eq_none.1 (by decide +kernel)
  obtain ⟨_, _, _, evaluated⟩ := result_interpret_after scope
    [.interpret (.binary .assign (.literal "x" .identifier) sum), .evaluate sum]
  refine ⟨known, unknown, evaluated (.unary .negate (.literal "a" .identifier)) ["a"] (fun _ => Iff.rfl) ?_⟩
  exact List.forall_mem_singleton.2 known

end Scope
end Formulary
