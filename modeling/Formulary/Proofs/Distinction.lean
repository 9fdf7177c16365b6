import Formulary.Proofs.Misplacement
import Formulary.Proofs.Unquoting

/-!
# Trees are told apart by their texts

The text of a tree as nested calls says which builder made each node, and stands the texts of its literals
between quote marks. So it is known where the text of a node ends, whatever comes after it, and two trees
of checked nodes with the same text are equal.
-/

namespace Formulary
open Formulary.Text

theorem BinaryOperator.eq_of_text {op op' : BinaryOperator} (known : ∀ other, op ≠ .unknown other)
    (known' : ∀ other, op' ≠ .unknown other) (same : op.text = op'.text) : op = op' := by
  cases op <;> cases op' <;> simp_all [text]

theorem UnaryOperator.eq_of_known {op op' : UnaryOperator} (known : ∀ other, op ≠ .unknown other)
    (known' : ∀ other, op' ≠ .unknown other) : op = op' := by
  cases op <;> cases op' <;> simp_all

/-- The name of a kind ends at the parenthesis after it. -/
theorem LiteralKind.text_append_cancel {kind kind' : LiteralKind} {rest rest' : List Char}
    (known : ∀ other, kind ≠ .unknown other) (known' : ∀ other, kind' ≠ .unknown other)
    (same : kind.text.toList ++ (")".toList ++ rest) = kind'.text.toList ++ (")".toList ++ rest')) :
    kind = kind' ∧ rest = rest' := by
  cases kind <;> cases kind' <;> simp_all [text]

namespace Tree

section
variable (rest : List Char)

theorem repr_binary_append (op : BinaryOperator) (left right : Tree) :
    (binary op left right).repr.toList ++ rest =
      "BinaryExpr(".toList ++ ((quoted op.text).toList ++ (", ".toList ++ (left.repr.toList ++
        (", ".toList ++ (right.repr.toList ++ (")".toList ++ rest)))))) := by
  simp only [repr, String.toList_append, List.append_assoc]

theorem repr_unary_append (op : UnaryOperator) (operand : Tree) :
    (unary op operand).repr.toList ++ rest =
      "UnaryExpr(".toList ++ ((quoted op.text).toList ++ (", ".toList ++ (operand.repr.toList ++
        (")".toList ++ rest)))) := by
  simp only [repr, String.toList_append, List.append_assoc]

theorem repr_literal_append (text : String) (kind : LiteralKind) :
    (literal text kind).repr.toList ++ rest =
      "Literal(".toList ++ ((quoted text).toList ++ (", ".toList ++ (kind.text.toList ++ (")".toList ++ rest)))) := by
  simp only [repr, String.toList_append, List.append_assoc]

end

/-- The text of a tree is that of one tree only, and ends in one place only. -/
theorem IsBuilt.repr_append_cancel {a b : Tree} (built : a.IsBuilt) (built' : b.IsBuilt) {rest rest' : List Char}
    (same : a.repr.toList ++ rest = b.repr.toList ++ rest') : a = b ∧ rest = rest' := by
  induction built generalizing b rest rest' with
  | binary isLeft isRight made ihl ihr =>
    obtain ⟨op, known, rfl⟩ := exists_of_binary?_eq_ok made
    cases built' with
    | binary isLeft' isRight' made' =>
      obtain ⟨op', known', rfl⟩ := exists_of_binary?_eq_ok made'
      rw [repr_binary_append, repr_binary_append] at same
      obtain ⟨text, operands⟩ := quoted_append_cancel (List.append_cancel_left same)
      obtain ⟨rfl, second⟩ := ihl isLeft' (List.append_cancel_left operands)
      obtain ⟨rfl, closing⟩ := ihr isRight' (List.append_cancel_left second)
      exact ⟨by rw [BinaryOperator.eq_of_text known known' text], List.append_cancel_left closing⟩
    | unary _ made' =>
      obtain ⟨op', _, rfl⟩ := exists_of_unary?_eq_ok made'
      rw [repr_binary_append, repr_unary_append] at same
      simp at same
    | literal made' =>
      obtain ⟨kind, _, rfl⟩ := exists_of_literal?_eq_ok made'
      rw [repr_binary_append, repr_literal_append] at same
      simp at same
  | unary isOperand made ih =>
    obtain ⟨op, known, rfl⟩ := exists_of_unary?_eq_ok made
    cases built' with
    | binary _ _ made' =>
      obtain ⟨op', _, rfl⟩ := exists_of_binary?_eq_ok made'
      rw [repr_unary_append, repr_binary_append] at same
      simp at same
    | unary isOperand' made' =>
      obtain ⟨op', known', rfl⟩ := exists_of_unary?_eq_ok made'
      rw [repr_unary_append, repr_unary_append] at same
      obtain ⟨_, operands⟩ := quoted_append_cancel (List.append_cancel_left same)
      obtain ⟨rfl, closing⟩ := ih isOperand' (List.append_cancel_left operands)
      exact ⟨by rw [UnaryOperator.eq_of_known known known'], List.append_cancel_left closing⟩
    | literal made' =>
      obtain ⟨kind, _, rfl⟩ := exists_of_literal?_eq_ok made'
      rw [repr_unary_append, repr_literal_append] at same
      simp at same
  | literal made =>
    obtain ⟨kind, known, rfl⟩ := exists_of_literal?_eq_ok made
    cases built' with
    | binary _ _ made' =>
      obtain ⟨op', _, rfl⟩ := exists_of_binary?_eq_ok made'
      rw [repr_literal_append, repr_binary_append] at same
      simp at same
    | unary _ made' =>
      obtain ⟨op', _, rfl⟩ := exists_of_unary?_eq_ok made'
      rw [repr_literal_append, repr_unary_append] at same
      simp at same
    | literal made' =>
      obtain ⟨kind', known', rfl⟩ := exists_of_literal?_eq_ok made'
      rw [repr_literal_append, repr_literal_append] at same
      obtain ⟨rfl, written⟩ := quoted_append_cancel (List.append_cancel_left same)
      obtain ⟨rfl, closing⟩ := LiteralKind.text_append_cancel known known' (List.append_cancel_left written)
      exact ⟨rfl, closing⟩

/-- A tree of checked nodes is the same as another one only if they are equal. -/
theorem IsBuilt.same_iff {a b : Tree} (built : a.IsBuilt) : a.same b ↔ a = b := by
  induction built generalizing b with
  | binary _ _ made ihl ihr =>
    obtain ⟨op, _, rfl⟩ := exists_of_binary?_eq_ok made
    cases b with
    | binary op' left right => simp [same, ihl, ihr, and_assoc]
    | unary | literal | foreign => simp [same]
  | unary _ made ih =>
    obtain ⟨op, _, rfl⟩ := exists_of_unary?_eq_ok made
    cases b with
    | unary op' operand => simp [same, ih]
    | binary | literal | foreign => simp [same]
  | literal made =>
    obtain ⟨kind, _, rfl⟩ := exists_of_literal?_eq_ok made
    cases b with
    | literal text kind' => simp [same]
    | binary | unary | foreign => simp [same]

/-- Two trees of checked nodes have the same text of nested calls exactly if they are the same. -/
theorem repr_eq_iff_same {a b : Tree} (built : a.IsBuilt) (built' : b.IsBuilt) : a.repr = b.repr ↔ a.same b := by
  rw [built.same_iff]
  constructor
  · intro written
    have same : a.repr.toList ++ [] = b.repr.toList ++ [] := by rw [written]
    exact (built.repr_append_cancel built' same).1
  · rintro rfl
    rfl

/-- A backslash before a letter is not taken for the line feed that is written with it. -/
theorem repr_line_feed_ne :
    let a : Tree := .unary .negate (.literal "\\n" .float)
    let b : Tree := .unary .negate (.literal "\n" .float)
    a.IsBuilt ∧ b.IsBuilt ∧ a.same b = false ∧ a.repr ≠ b.repr := by
  intro a b
  have built : a.IsBuilt := @IsBuilt.unary "-" _ _ (@IsBuilt.literal "\\n" "FLOAT" _ rfl) rfl
  have built' : b.IsBuilt := @IsBuilt.unary "-" _ _ (@IsBuilt.literal "\n" "FLOAT" _ rfl) rfl
  have differ : a.same b = false := by decide
  refine ⟨built, built', differ, fun written => ?_⟩
  rw [repr_eq_iff_same built built', differ] at written
  cases written

end Tree
end Formulary
