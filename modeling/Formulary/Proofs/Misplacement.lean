import Mathlib.Data.List.Basic
import Mathlib.Tactic.Tauto
import Formulary.Tree.Printer

/-!
# Assignments that are not written

A tree of checked nodes is written as a formula exactly if every assignment in it has a name as its
target and no operand of a binary operator is an assignment. A minus sign before an assignment is let
through. In a tree that has none of those, only the root may be an assignment.
-/

namespace Formulary.Tree

/-- A tree put together by the builders that check what they are given, without foreign values. -/
inductive IsBuilt : Tree → Prop where
  | binary {op : String} {left right tree : Tree} (isLeft : left.IsBuilt) (isRight : right.IsBuilt)
      (made : binary? op left right = .ok tree) : IsBuilt tree
  | unary {op : String} {operand tree : Tree} (isOperand : operand.IsBuilt)
      (made : unary? op operand = .ok tree) : IsBuilt tree
  | literal {text kind : String} {tree : Tree} (made : literal? text kind = .ok tree) : IsBuilt tree

section
variable {text kind : String} {left right operand tree : Tree}

theorem exists_of_binary?_eq_ok (made : binary? text left right = .ok tree) :
    ∃ op : BinaryOperator, (∀ other, op ≠ .unknown other) ∧ tree = .binary op left right := by
  rw [binary?] at made
  split at made
  next => cases made
  next op known =>
    cases made
    exact ⟨_, known, rfl⟩

theorem exists_of_unary?_eq_ok (made : unary? text operand = .ok tree) :
    ∃ op : UnaryOperator, (∀ other, op ≠ .unknown other) ∧ tree = .unary op operand := by
  rw [unary?] at made
  split at made
  next => cases made
  next op known =>
    cases made
    exact ⟨_, known, rfl⟩

theorem exists_of_literal?_eq_ok (made : literal? text kind = .ok tree) :
    ∃ known : LiteralKind, (∀ other, known ≠ .unknown other) ∧ tree = .literal text known := by
  rw [literal?] at made
  split at made
  next => cases made
  next op known =>
    cases made
    exact ⟨_, known, rfl⟩

end

def isAssignment : Tree → Bool
  | .binary .assign _ _ => true
  | _ => false

/-- The nodes right below a node. -/
def operands : Tree → List Tree
  | .binary _ left right => [left, right]
  | .unary _ operand => [operand]
  | .literal _ _ | .foreign _ => []

/-- The nodes of a tree are its root and those below. -/
theorem mem_preorder_iff {tree node : Tree} : node ∈ tree.preorder ↔ node = tree ∨ node ∈ tree.preorder.tail := by
  cases tree <;> simp [preorder]

/-- The nodes below the root are the operands of the nodes. -/
theorem mem_tail_preorder_iff {tree node : Tree} :
    node ∈ tree.preorder.tail ↔ ∃ parent ∈ tree.preorder, node ∈ parent.operands := by
  induction tree with
  | binary op left right ihl ihr =>
    simp only [preorder, List.tail_cons, List.mem_append, List.mem_cons, or_and_right, exists_or,
      exists_eq_left, ← ihl, ← ihr]
    rw [@mem_preorder_iff left, @mem_preorder_iff right, operands, List.mem_pair]
    tauto
  | unary op operand ih =>
    simp only [preorder, List.tail_cons, List.mem_cons, or_and_right, exists_or, exists_eq_left, ← ih]
    rw [mem_preorder_iff, operands, List.mem_singleton]
  | literal | foreign => simp [preorder, operands]

/-- What is asked of a node: the target of an assignment is a name, and no operand of a binary operator is
    an assignment. -/
def IsWritable : Tree → Prop
  | .binary op left right =>
    (op = .assign → ∃ name, left = .literal name .identifier) ∧ ¬ left.isAssignment ∧ ¬ right.isAssignment
  | .unary _ _ | .literal _ _ | .foreign _ => True

/-- Where no assignment is negated, what is asked of all nodes comes to this: the root alone may be an
    assignment, and then has a name as its target. -/
theorem forall_isWritable_iff {tree : Tree}
    (unnegated : ∀ op operand, .unary op operand ∈ tree.preorder → ¬ operand.isAssignment) :
    (∀ node ∈ tree.preorder, node.IsWritable) ↔
      (∀ node ∈ tree.preorder.tail, ¬ node.isAssignment) ∧
        ∀ target value, tree = .binary .assign target value → ∃ name, target = .literal name .identifier := by
  constructor
  · intro writable
    constructor
    · intro node below
      obtain ⟨parent, member, isOperand⟩ := mem_tail_preorder_iff.1 below
      have asked := writable parent member
      cases parent with
      | binary op left right =>
        simp only [operands, List.mem_cons, List.not_mem_nil, or_false] at isOperand
        rcases isOperand with rfl | rfl
        · exact asked.2.1
        · exact asked.2.2
      | unary op operand =>
        rw [operands, List.mem_singleton] at isOperand
        subst isOperand
        exact unnegated op node member
      | literal | foreign => cases isOperand
    · rintro target value rfl
      have asked := writable _ (mem_preorder_iff.2 (.inl rfl))
      exact asked.1 rfl
  · rintro ⟨below, root⟩ node member
    cases node with
    | binary op left right =>
      have isBelow : ∀ operand ∈ [left, right], ¬ operand.isAssignment := fun operand isOperand =>
        below operand (mem_tail_preorder_iff.2 ⟨_, member, isOperand⟩)
      refine ⟨?_, isBelow left (by simp), isBelow right (by simp)⟩
      rintro rfl
      rcases mem_preorder_iff.1 member with same | inner
      · exact root left right same.symm
      · exact absurd rfl (below _ inner)
    | unary | literal | foreign => trivial

/-- A text is written if a condition holds, and if not an assignment is complained of. -/
def Decides (result : Except Error String) (condition : Prop) : Prop :=
  (∃ text, result = .ok text) ∧ condition ∨
    (result = .error (.defect .misplacedAssignment) ∨ result = .error (.defect .targetNotWritable)) ∧ ¬ condition

section
variable {result : Except Error String} {next : String → Except Error String} {first second : Prop}

theorem Decides.ok (text : String) : Decides (.ok text) True :=
  .inl ⟨⟨text, rfl⟩, trivial⟩

theorem Decides.bind (decides : Decides result first) (decidesNext : ∀ text, Decides (next text) second) :
    Decides (result.bind next) (first ∧ second) := by
  rcases decides with ⟨⟨text, rfl⟩, holds⟩ | ⟨rfl | rfl, fails⟩
  · rcases decidesNext text with ⟨written, holds'⟩ | ⟨refused, fails⟩
    · exact .inl ⟨written, holds, holds'⟩
    · exact .inr ⟨refused, fun both => fails both.2⟩
  · exact .inr ⟨.inl rfl, fun both => fails both.1⟩
  · exact .inr ⟨.inr rfl, fun both => fails both.1⟩

theorem Decides.congr (decides : Decides result first) (same : first ↔ second) : Decides result second :=
  propext same ▸ decides

theorem Decides.exists_iff (decides : Decides result first) : (∃ text, result = .ok text) ↔ first := by
  rcases decides with ⟨written, holds⟩ | ⟨rfl | rfl, fails⟩
  · exact ⟨fun _ => holds, fun _ => written⟩
  · exact ⟨fun ⟨_, same⟩ => (nomatch same), fun holds => absurd holds fails⟩
  · exact ⟨fun ⟨_, same⟩ => (nomatch same), fun holds => absurd holds fails⟩

end

/-- An operand of a checked node is written unless it is an assignment. -/
theorem IsBuilt.decides_operandText {operand : Tree} (built : operand.IsBuilt) (outer : Nat) (side : Side)
    (text : String) : Decides (operandText outer side operand text) (¬ operand.isAssignment) := by
  cases built with
  | binary isLeft isRight made =>
    obtain ⟨op, known, rfl⟩ := exists_of_binary?_eq_ok made
    cases op with
    | assign => exact .inr ⟨.inl rfl, fun other => other rfl⟩
    | add | subtract | multiply | divide => exact .inl ⟨⟨_, rfl⟩, Bool.false_ne_true⟩
    | unknown other => exact absurd rfl (known other)
  | unary isOperand made =>
    obtain ⟨op, _, rfl⟩ := exists_of_unary?_eq_ok made
    exact .inl ⟨⟨_, rfl⟩, Bool.false_ne_true⟩
  | literal made =>
    obtain ⟨kind, _, rfl⟩ := exists_of_literal?_eq_ok made
    exact .inl ⟨⟨_, rfl⟩, Bool.false_ne_true⟩

theorem formula_of_unnamed {target value : Tree} (unnamed : ∀ name, target ≠ .literal name .identifier) :
    (Tree.binary .assign target value).formula = .error (.defect .targetNotWritable) := by
  rw [formula]
  exact unnamed

theorem formula_of_strength {op : BinaryOperator} {strength : Nat} (other : op ≠ .assign)
    (known : op.precedence? = some strength) (left right : Tree) :
    (Tree.binary op left right).formula =
      left.formula.bind fun leftText => (operandText strength .left left leftText).bind fun leftOperand =>
        right.formula.bind fun rightText => (operandText strength .right right rightText).bind fun rightOperand =>
          .ok (leftOperand ++ " " ++ op.text ++ " " ++ rightOperand) := by
  rw [formula, known]
  · rfl
  · exact other

/-- A tree of checked nodes is written exactly if every node is as it is asked to be. -/
theorem IsBuilt.decides_formula {tree : Tree} (built : tree.IsBuilt) :
    Decides tree.formula (∀ node ∈ tree.preorder, node.IsWritable) := by
  -- Each step of the writing asks for one thing; together they ask for what the root and the nodes below are to be.
  induction built with
  | @binary _ left right _ isLeft isRight made ihl ihr =>
    obtain ⟨op, known, rfl⟩ := exists_of_binary?_eq_ok made
    by_cases assigns : op = .assign
    · subst assigns
      by_cases named : ∃ name, left = .literal name .identifier
      · obtain ⟨name, rfl⟩ := named
        have steps : Decides (Tree.binary .assign (.literal name .identifier) right).formula _ :=
          ihr.bind fun text => (isRight.decides_operandText 0 .right text).bind fun _ => .ok _
        refine steps.congr ?_
        simp [preorder, IsWritable, isAssignment, and_comm]
      · have refused := @formula_of_unnamed left right (not_exists.1 named)
        refine .inr ⟨.inr refused, fun writable => named ?_⟩
        have asked := writable _ (mem_preorder_iff.2 (.inl rfl))
        exact asked.1 rfl
    · obtain ⟨strength, bound⟩ : ∃ strength, op.precedence? = some strength := by
        cases op with
        | assign | add | subtract | multiply | divide => exact ⟨_, rfl⟩
        | unknown other => exact absurd rfl (known other)
      rw [formula_of_strength assigns bound]
      refine (ihl.bind fun leftText => (isLeft.decides_operandText _ .left leftText).bind fun _ =>
        ihr.bind fun rightText => (isRight.decides_operandText _ .right rightText).bind fun _ => .ok _).congr ?_
      simp only [preorder, List.forall_mem_cons, List.forall_mem_append, IsWritable]
      tauto
  | @unary _ operand _ isOperand made ih =>
    obtain ⟨op, _, rfl⟩ := exists_of_unary?_eq_ok made
    have steps : Decides (Tree.unary op operand).formula _ := ih.bind fun _ => .ok _
    refine steps.congr ?_
    simp [preorder, IsWritable]
  | literal made =>
    obtain ⟨kind, _, rfl⟩ := exists_of_literal?_eq_ok made
    refine (Decides.ok _).congr ?_
    simp [preorder, IsWritable]

/-- A tree of checked nodes is either written or refused for an assignment. It is written exactly if each
    assignment in it has a name as its target and no operand of a binary operator is an assignment. If
    no operand of a minus sign is one either, this means that only the root may be an assignment. -/
theorem formula_eq_ok_iff_isWritable {tree : Tree} (built : tree.IsBuilt) :
    ((∃ text, tree.formula = .ok text) ∨ tree.formula = .error (.defect .misplacedAssignment) ∨
        tree.formula = .error (.defect .targetNotWritable)) ∧
      ((∃ text, tree.formula = .ok text) ↔ ∀ node ∈ tree.preorder, node.IsWritable) ∧
      ((∀ op operand, .unary op operand ∈ tree.preorder → ¬ operand.isAssignment) →
        ((∃ text, tree.formula = .ok text) ↔
          (∀ node ∈ tree.preorder.tail, ¬ node.isAssignment) ∧
            ∀ target value, tree = .binary .assign target value →
              ∃ name, target = .literal name .identifier)) := by
  have decides := built.decides_formula
  refine ⟨?_, decides.exists_iff, fun unnegated => ?_⟩
  · rcases decides with ⟨written, _⟩ | ⟨refused, _⟩
    · exact .inl written
    · exact .inr refused
  · exact decides.exists_iff.trans (forall_isWritable_iff unnegated)

private theorem isBuilt_assignment :
    (Tree.binary .assign (.literal "x" .identifier) (.literal "1" .integer)).IsBuilt :=
  @IsBuilt.binary "=" _ _ _ (@IsBuilt.literal "x" "IDENTIFIER" _ rfl) (@IsBuilt.literal "1" "INTEGER" _ rfl) rfl

/-- The sum below the minus sign has an assignment as an operand, two nodes below the root. -/
theorem formula_eq_ok_iff_isWritable_sum :
    let tree : Tree := .unary .negate (.binary .add (.literal "a" .identifier)
      (.binary .assign (.literal "x" .identifier) (.literal "1" .integer)))
    tree.IsBuilt ∧ (∀ op operand, .unary op operand ∈ tree.preorder → ¬ operand.isAssignment) ∧
      ¬ (∃ text, tree.formula = .ok text) ∧ ¬ ∀ node ∈ tree.preorder.tail, ¬ node.isAssignment := by
  intro tree
  have built : tree.IsBuilt :=
    @IsBuilt.unary "-" _ _
      (@IsBuilt.binary "+" _ _ _ (@IsBuilt.literal "a" "IDENTIFIER" _ rfl) isBuilt_assignment rfl) rfl
  have unnegated : ∀ op operand, .unary op operand ∈ tree.preorder → ¬ operand.isAssignment := by
    simp [tree, preorder, isAssignment]
  have inner : ¬ ∀ node ∈ tree.preorder.tail, ¬ node.isAssignment := by
    simp [tree, preorder, isAssignment]
  obtain ⟨_, _, only⟩ := formula_eq_ok_iff_isWritable built
  exact ⟨built, unnegated, fun written => inner ((only unnegated).1 written).1, inner⟩

/-- A negated assignment is written, although it stands below the root. -/
theorem formula_negated_assignment :
    let tree : Tree := .unary .negate (.binary .assign (.literal "x" .identifier) (.literal "1" .integer))
    tree.IsBuilt ∧ tree.formula = .ok "-(x = 1)" ∧ ¬ ∀ node ∈ tree.preorder.tail, ¬ node.isAssignment := by
  intro tree
  exact ⟨@IsBuilt.unary "-" _ _ isBuilt_assignment rfl, by decide +kernel, by simp [tree, preorder, isAssignment]⟩

end Formulary.Tree
