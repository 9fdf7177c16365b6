import Formulary.Table.Evaluation
import Formulary.Proofs.Spelling

/-!
# The names of an expression

Before an expression over a table is evaluated each of its names is resolved, to a column or to a
constant. If all of them can be, what a name has been resolved to is what it refers to.
-/

namespace Formulary

namespace Tree

/-- The texts of the identifiers, from left to right. -/
def identifiers : Tree → List String
  | .binary _ left right => left.identifiers ++ right.identifiers
  | .unary _ operand => operand.identifiers
  | .literal text kind => if kind = .identifier then [text] else []
  | .foreign _ => []

/-- The number of nodes on the longest way down. -/
def depth : Tree → Nat
  | .binary _ left right => max left.depth right.depth + 1
  | .unary _ operand => operand.depth + 1
  | .literal _ _ | .foreign _ => 1

theorem IsExpression.identifiersWithin_eq {tree : Tree} (isExpression : tree.IsExpression) {room : Nat}
    (shallow : tree.depth ≤ room) : tree.identifiersWithin room = .ok tree.identifiers := by
  induction isExpression generalizing room with
  | binary _ _ _ ihl ihr =>
    obtain ⟨room, rfl⟩ := Nat.exists_eq_add_of_le' (Nat.le_of_add_left_le shallow)
    simp only [depth, Nat.add_le_add_iff_right, Nat.max_le] at shallow
    simp only [identifiersWithin, ihl shallow.1, ihr shallow.2, bind, Except.bind]
    rfl
  | negation _ ih =>
    obtain ⟨room, rfl⟩ := Nat.exists_eq_add_of_le' (Nat.le_of_add_left_le shallow)
    exact ih (Nat.le_of_succ_le_succ shallow)
  | literal =>
    obtain ⟨room, rfl⟩ := Nat.exists_eq_add_of_le' shallow
    rfl

/-- The names that an expression refers to are its identifiers. -/
theorem IsExpression.exists_references {tree : Tree} (isExpression : tree.IsExpression)
    (shallow : tree.depth ≤ depthLimit) :
    ∃ names, tree.references = .ok names ∧ ∀ name, name ∈ names ↔ name ∈ tree.identifiers := by
  refine ⟨(Std.TreeSet.ofList tree.identifiers).toList, ?_, ?_⟩
  · simp only [references, isExpression.identifiersWithin_eq shallow, bind, Except.bind]
    rfl
  · intro name
    rw [Std.TreeSet.mem_toList, Std.TreeSet.mem_ofList, List.contains_iff_mem]

end Tree

/-- A tree is no deeper than its derivation. -/
theorem Derivation.depth_tree_le {rule : Rule} (d : Derivation rule) (inside : rule ≠ .statement) :
    d.tree.depth ≤ d.depth := by
  induction d with
  | statement => exact absurd rfl inside
  | ofTerm _ ih | ofFactor _ ih | parenthesized _ ih => exact Nat.le_succ_of_le (ih (by simp))
  | sum _ _ _ _ ihl ihr | product _ _ _ _ ihl ihr =>
    have left := ihl (by simp)
    have right := ihr (by simp)
    simp only [tree, Tree.depth, depth]
    omega
  | integer | float | identifier => exact Nat.le_refl 1
  | negated _ ih => exact Nat.succ_le_succ (ih (by simp))

/-- What a source assigns is an expression that is not too deep to be evaluated. -/
theorem isExpression_of_parse {source target : String} {expression : Tree}
    (parsed : parse source = .ok (.binary .assign (.literal target .identifier) expression)) :
    expression.IsExpression ∧ expression.depth ≤ depthLimit := by
  obtain ⟨d, lexical, fits, same⟩ := exists_derivation_of_parse parsed
  cases d with
  | statement target' value =>
    simp only [Derivation.Lexical, Derivation.terminals, List.forall_mem_cons] at lexical
    simp only [Derivation.tree, Tree.binary.injEq, true_and] at same
    obtain ⟨_, rfl⟩ := same
    refine ⟨value.isExpression_tree (by simp) lexical.2.2, ?_⟩
    have shallow := value.depth_tree_le (by simp)
    simp only [Derivation.depth, ruleLimit] at fits
    unfold depthLimit
    omega

/-- The name that a source assigns, if it is parsed. -/
def assignedName? (source : String) : Option String :=
  match parse source with
  | .ok (.binary .assign (.literal name .identifier) _) => some name
  | _ => none

/-- The names that the right-hand side of a source reads, if it is parsed. -/
def readNames (source : String) : List String :=
  match parse source with
  | .ok (.binary .assign _ expression) => expression.identifiers
  | _ => []

theorem Table.named_eq_nil_iff {table : Table} {name : String} : table.named name = [] ↔ name ∉ table.names := by
  rw [named, List.filter_eq_nil_iff, names, List.mem_map]
  constructor
  · rintro unnamed ⟨column, member, same⟩
    exact unnamed column member (beq_iff_eq.2 same)
  · intro noColumn column member same
    exact noColumn ⟨column, member, beq_iff_eq.1 same⟩

namespace Scope

variable {scope : Scope}

/-- What a name refers to: the one column of that name, if its cells convert to doubles, or without
    such a column a constant that converts. -/
inductive Refers (scope : Scope) (name : String) : Value scope.table.rows → Prop where
  | column {column : Column scope.table.rows} {doubles : Doubles scope.table.rows}
      (unique : scope.table.named name = [column]) (converted : column.cells.toDoubles name = .ok doubles) :
      Refers scope name (.column doubles)
  | constant {value : Scalar} {x : Float} (noColumn : name ∉ scope.table.names)
      (bound : scope.constants[name]? = some value) (converted : value.toFloat = .ok x) :
      Refers scope name (.scalar x)

theorem lookup_of_refers {name : String} {value : Value scope.table.rows} (refers : scope.Refers name value) :
    scope.lookup name = .ok value := by
  cases refers with
  | column unique converted =>
    rw [lookup, unique]
    simp only [converted]
    rfl
  | constant noColumn bound converted =>
    rw [lookup, Table.named_eq_nil_iff.2 noColumn]
    simp only [bound, Scalar.evaluate, converted]
    rfl

/-- Names that all refer to something are all resolved, to what they refer to. -/
theorem exists_resolve_eq {names : List String} {meaning : String → Value scope.table.rows}
    (bound : ∀ name ∈ names, scope.Refers name (meaning name)) (resolved : Resolved scope) :
    ∃ after, scope.resolve resolved names = (.ok (), after) ∧
      ∀ name, after[name]? = if name ∈ names then some (meaning name) else resolved[name]? := by
  induction names generalizing resolved with
  | nil => exact ⟨resolved, rfl, fun _ => (if_neg List.not_mem_nil).symm⟩
  | cons first names ih =>
    rw [List.forall_mem_cons] at bound
    obtain ⟨after, run, found⟩ := ih bound.2 (resolved.insert first (meaning first))
    refine ⟨after, ?_, ?_⟩
    · rw [resolve, lookup_of_refers bound.1]
      exact run
    · intro name
      rw [found, getElem?_insert_name]
      by_cases later : name ∈ names
      · rw [if_pos later, if_pos (List.mem_cons_of_mem _ later)]
      · rw [if_neg later]
        by_cases same : first = name
        · subst same
          rw [if_pos rfl, if_pos List.mem_cons_self]
        · rw [if_neg same, if_neg (by simp [Ne.symm same, later])]

end Scope

end Formulary
