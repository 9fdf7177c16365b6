import Formulary.Proofs.Independence

/-!
# Expressions for names

An expression can be put in the place of a name: in a tree for each identifier of that name, and in a
derivation for each factor that is one, between parentheses. If the expression has a value, it makes
no difference to an outcome whether the expression stands in the place of the name, or the name is
bound to its value.
-/

namespace Formulary

namespace Tree

variable {symbols : SymbolTable} {name : String} {inner : Tree}

/-- A tree with an expression in the place of each identifier of a name. -/
def substitute : Tree → String → Tree → Tree
  | .binary op left right, name, inner => .binary op (left.substitute name inner) (right.substitute name inner)
  | .unary op operand, name, inner => .unary op (operand.substitute name inner)
  | .literal text kind, name, inner => if text = name ∧ kind = .identifier then inner else .literal text kind
  | .foreign value, _, _ => .foreign value

theorem depth_pos (tree : Tree) : 0 < tree.depth := by
  cases tree with
  | binary | unary => exact Nat.succ_pos _
  | literal | foreign => exact Nat.one_pos

/-- The outcome of an expression does not depend on the room there is, if that is enough for its depth. -/
theorem evaluateWithin_eq_of_depth_le {tree : Tree} {room other : Nat} (enough : tree.depth ≤ room)
    (enough' : tree.depth ≤ other) :
    tree.evaluateWithin symbols room = tree.evaluateWithin symbols other := by
  induction tree generalizing room other with
  | binary op left right ihl ihr =>
    obtain ⟨room, rfl⟩ := Nat.exists_eq_add_of_le' (Nat.le_of_add_left_le enough)
    obtain ⟨other, rfl⟩ := Nat.exists_eq_add_of_le' (Nat.le_of_add_left_le enough')
    by_cases assigns : op = .assign
    · subst assigns
      rfl
    · simp only [depth, Nat.add_le_add_iff_right, Nat.max_le] at enough enough'
      simp only [evaluateWithin_binary assigns, ihl enough.1 enough'.1, ihr enough.2 enough'.2]
  | unary op operand ih =>
    obtain ⟨room, rfl⟩ := Nat.exists_eq_add_of_le' (Nat.le_of_add_left_le enough)
    obtain ⟨other, rfl⟩ := Nat.exists_eq_add_of_le' (Nat.le_of_add_left_le enough')
    simp only [depth, Nat.add_le_add_iff_right] at enough enough'
    simp only [evaluateWithin_unary, ih enough enough']
  | literal | foreign =>
    obtain ⟨room, rfl⟩ := Nat.exists_eq_add_of_le' enough
    obtain ⟨other, rfl⟩ := Nat.exists_eq_add_of_le' enough'
    rfl

/-- The value of a name that is bound to a finite double is that double. -/
theorem evaluateWithin_identifier_insert {value : Float} (finite : value.isFinite) (room : Nat) :
    (Tree.literal name .identifier).evaluateWithin (symbols.insert name (.float value)) (room + 1) =
      .ok value := by
  have bound : literalValue (symbols.insert name (.float value)) name .identifier = .ok value := by
    rw [literalValue, getElem?_insert_name, if_pos rfl]
    rfl
  rw [evaluateWithin_literal, bound]
  exact requireFinite_eq_ok_iff.2 ⟨rfl, finite⟩

/-- An expression that has a value can stand for a name that is bound to it. -/
theorem evaluateWithin_substitute {tree : Tree} {value : Float} {limit room : Nat}
    (evaluated : inner.evaluateWithin symbols limit = .ok value) (shallow : inner.depth ≤ limit)
    (enough : (tree.substitute name inner).depth ≤ room) :
    (tree.substitute name inner).evaluateWithin symbols room =
      tree.evaluateWithin (symbols.insert name (.float value)) room := by
  have positive := depth_pos (tree.substitute name inner)
  obtain ⟨room, rfl⟩ := Nat.exists_eq_add_of_le' (Nat.lt_of_lt_of_le positive enough)
  induction tree generalizing room with
  | binary op left right ihl ihr =>
    simp only [substitute] at enough ⊢
    by_cases assigns : op = .assign
    · subst assigns
      rfl
    · simp only [depth, Nat.add_le_add_iff_right, Nat.max_le] at enough
      obtain ⟨room, rfl⟩ := Nat.exists_eq_add_of_le' (Nat.lt_of_lt_of_le (depth_pos _) enough.1)
      simp only [evaluateWithin_binary assigns, ihl (depth_pos _) _ enough.1, ihr (depth_pos _) _ enough.2]
  | unary op operand ih =>
    simp only [substitute, depth, Nat.add_le_add_iff_right] at enough ⊢
    obtain ⟨room, rfl⟩ := Nat.exists_eq_add_of_le' (Nat.lt_of_lt_of_le (depth_pos _) enough)
    simp only [evaluateWithin_unary, ih (depth_pos _) _ enough]
  | literal text kind =>
    rw [substitute] at enough ⊢
    split
    next chosen =>
      -- Here the expression has other room than where its value was found.
      obtain ⟨rfl, rfl⟩ := chosen
      rw [if_pos ⟨rfl, rfl⟩] at enough
      rw [evaluateWithin_eq_of_depth_le enough shallow, evaluated,
        evaluateWithin_identifier_insert (isFinite_of_evaluateWithin evaluated)]
    next kept =>
      apply evaluateWithin_congr
      intro other member
      rw [identifiers] at member
      split at member
      next isIdentifier =>
        rw [List.mem_singleton] at member
        subst member
        rw [getElem?_insert_name, if_neg fun same => kept ⟨same.symm, isIdentifier⟩]
      next => cases member
  | foreign value => rfl

end Tree

namespace Derivation

variable {name : String} {inner : Derivation .expression}

/-- A derivation with an expression between parentheses in the place of each identifier of a name that
    is a factor. -/
def substitute : {rule : Rule} → Derivation rule → String → Derivation .expression → Derivation rule
  | _, .statement target value, name, inner => .statement target (value.substitute name inner)
  | _, .ofTerm term, name, inner => .ofTerm (term.substitute name inner)
  | _, .sum left op isSum right, name, inner =>
    .sum (left.substitute name inner) op isSum (right.substitute name inner)
  | _, .ofFactor factor, name, inner => .ofFactor (factor.substitute name inner)
  | _, .product left op isProduct right, name, inner =>
    .product (left.substitute name inner) op isProduct (right.substitute name inner)
  | _, .integer text, _, _ => .integer text
  | _, .float text, _, _ => .float text
  | _, .identifier text, name, inner => if text = name then .parenthesized inner else .identifier text
  | _, .parenthesized operand, name, inner => .parenthesized (operand.substitute name inner)
  | _, .negated operand, name, inner => .negated (operand.substitute name inner)

/-- What stands for a terminal: the terminals of the expression and its parentheses if it is the
    identifier of the name, or the terminal itself. -/
def expand (name : String) (inner : Derivation .expression) (terminal : Terminal) : List Terminal :=
  if terminal = (.identifier, name) then (parenthesized inner).terminals else [terminal]

theorem expand_of_kind_ne {terminal : Terminal} (other : terminal.1 ≠ .identifier) :
    expand name inner terminal = [terminal] := by
  rw [expand, if_neg]
  rintro rfl
  exact other rfl

theorem terminals_substitute {rule : Rule} (d : Derivation rule) (inside : rule ≠ .statement) :
    (d.substitute name inner).terminals = d.terminals.flatMap (expand name inner) := by
  have operator : ∀ text, expand name inner (.operator, text) = [(.operator, text)] :=
    fun _ => expand_of_kind_ne (by simp)
  induction d with
  | statement => exact absurd rfl inside
  | ofTerm _ ih | ofFactor _ ih => exact ih (by simp)
  | sum _ op _ _ ihl ihr | product _ op _ _ ihl ihr =>
    simp only [substitute, terminals, List.flatMap_append, List.flatMap_cons, BinaryOperator.terminal, operator,
      ihl (by simp), ihr (by simp), List.cons_append, List.nil_append]
  | integer | float => simp [substitute, terminals, expand]
  | identifier text =>
    by_cases same : text = name
    · simp [substitute, expand, terminals, same]
    · simp [substitute, expand, terminals, same]
  | parenthesized _ ih =>
    simp only [substitute, terminals, List.flatMap_append, List.flatMap_cons, List.flatMap_nil, operator,
      ih (by simp), List.cons_append, List.nil_append]
  | negated _ ih =>
    simp only [substitute, terminals, List.flatMap_cons, operator, ih (by simp), List.cons_append, List.nil_append]

theorem tree_substitute {rule : Rule} (d : Derivation rule) (inside : rule ≠ .statement) :
    (d.substitute name inner).tree = d.tree.substitute name inner.tree := by
  induction d with
  | statement => exact absurd rfl inside
  | ofTerm _ ih | ofFactor _ ih | parenthesized _ ih => exact ih (by simp)
  | sum _ _ _ _ ihl ihr | product _ _ _ _ ihl ihr =>
    rw [substitute, tree, ihl (by simp), ihr (by simp)]
    rfl
  | integer | float => simp [substitute, tree, Tree.substitute]
  | identifier text =>
    by_cases same : text = name
    · simp [substitute, tree, Tree.substitute, same]
    · simp [substitute, tree, Tree.substitute, same]
  | negated _ ih =>
    rw [substitute, tree, ih (by simp)]
    rfl

end Derivation
end Formulary
