import Formulary.Proofs.Numerals
import Formulary.Proofs.Substitution

/-!
# Integers as names and as literals

An integer has the same double whether a name is bound to it or its digits stand in a formula. An integer
too great for a double is refused in both places, but not alike: as the value of a name it cannot be
converted, and as a literal it is a result that is not finite. So its digits can stand for the name in
every expression, but for that error.
-/

namespace Formulary
open Formulary.Lexeme Formulary.Number

theorem isInteger_intText (n : Nat) : IsInteger (intText n).toList := by
  have natural : ¬ (n : Int) < 0 := by omega
  rw [intText, if_neg natural, String.toList_ofList]
  exact ⟨Nat.toDigits_ne_nil, fun c member => Nat.isDigit_of_mem_toDigits (by decide) (by decide) member⟩

/-- The digits of an integer are a numeral, and its value is the double of the integer. -/
theorem numeralValue_intText (n : Nat) : numeralValue (intText n) = .ok (floatOfInt n) := by
  have isInteger := isInteger_intText n
  have natural : ¬ (n : Int) < 0 := by omega
  have digits : (intText n).toList = Nat.toDigits 10 n := by
    rw [intText, if_neg natural, String.toList_ofList]
    rfl
  have decimal : unsigned? (intText n).toList = some ⟨Nat.toDigits 10 n, 0⟩ := by
    obtain ⟨run, after⟩ := @takeWhile_append_of_head _ _ [] isInteger.2 (by simp)
    rw [List.append_nil] at run after
    rw [unsigned?, run, after]
    simp [splitFraction, scale?, digits]
  have value : (⟨Nat.toDigits 10 n, 0⟩ : Unsigned).value = floatOfInt n := by
    rw [Unsigned.value, Nat.ofDigitChars_ten_toDigits, floatOfInt, if_neg natural]
    rfl
  rw [numeralValue, isInteger.isNumber.floatOfText?_eq, decimal, Option.map_some, value]

/-- An integer with more than 310 digits is beyond all doubles. -/
theorem floatOfInt_of_large {n k : Nat} (large : 10 ^ k ≤ n) (many : 310 ≤ k) : floatOfInt n = infinity := by
  have natural : ¬ (n : Int) < 0 := by omega
  have digits : k < (Nat.toDigits 10 n).length := by
    rw [← Nat.not_le, Nat.length_toDigits_le_iff (by decide) (by omega)]
    exact Nat.not_lt.2 large
  have positive : 0 < n := Nat.lt_of_lt_of_le (Nat.pow_pos (by decide)) large
  rw [floatOfInt, if_neg natural, Int.natAbs_natCast, nearestFloat, if_neg (by omega), if_pos (by omega)]

theorem requireFinite_of_infinite {x : Float} (infinite : ¬ x.isFinite) :
    requireFinite x = evaluationError (.notFinite (.value x)) :=
  if_neg infinite

section
variable {symbols : SymbolTable} {name : String} {n : Nat}

theorem literalValue_intText (symbols : SymbolTable) (n : Nat) :
    literalValue symbols (intText n) .integer = .ok (floatOfInt n) :=
  numeralValue_intText n

theorem literalValue_of_isFinite (bound : symbols[name]? = some (.int n)) (finite : (floatOfInt n).isFinite) :
    literalValue symbols name .identifier = .ok (floatOfInt n) := by
  have converted : (Scalar.int n).toFloat = .ok (floatOfInt n) := if_pos finite
  rw [literalValue, bound]
  simp only [Scalar.evaluate, converted]

theorem literalValue_of_infinite (bound : symbols[name]? = some (.int n))
    (infinite : ¬ (floatOfInt n).isFinite) :
    literalValue symbols name .identifier = .error (.defect (.conversion .integerTooLarge)) := by
  have refused : (Scalar.int n).toFloat = .error .integerTooLarge := if_neg infinite
  rw [literalValue, bound]
  simp only [Scalar.evaluate, refused]

end

/-- An outcome where a name is bound to an integer and the one where its digits stand for the name: they are
    the same, or the integer is too great for a double and each is refused in its own way. -/
inductive AlikeButForSize (n : Nat) : Except Error Float → Except Error Float → Prop where
  | same (outcome : Except Error Float) : AlikeButForSize n outcome outcome
  | tooGreat (infinite : ¬ (floatOfInt n).isFinite) :
      AlikeButForSize n (.error (.defect (.conversion .integerTooLarge)))
        (evaluationError (.notFinite (.value (floatOfInt n))))

namespace AlikeButForSize
variable {n : Nat} {named written : Except Error Float}

theorem bind (alike : AlikeButForSize n named written) {next next' : Float → Except Error Float}
    (alikeNext : ∀ x, AlikeButForSize n (next x) (next' x)) :
    AlikeButForSize n (named.bind next) (written.bind next') := by
  cases alike with
  | same =>
    cases named with
    | ok x => exact alikeNext x
    | error error => exact .same (.error error)
  | tooGreat infinite => exact .tooGreat infinite

theorem eq_of_isFinite (alike : AlikeButForSize n named written) (finite : (floatOfInt n).isFinite) :
    written = named := by
  cases alike with
  | same => rfl
  | tooGreat infinite => exact absurd finite infinite

/-- The value of a name that is bound to an integer, against that of the digits of the integer. -/
theorem literalValue {symbols : SymbolTable} {name : String} (bound : symbols[name]? = some (.int n)) :
    AlikeButForSize n ((literalValue symbols name .identifier).bind requireFinite)
      ((Formulary.literalValue symbols (intText n) .integer).bind requireFinite) := by
  by_cases finite : (floatOfInt n).isFinite
  · rw [literalValue_of_isFinite bound finite, literalValue_intText]
    exact .same _
  · rw [literalValue_of_infinite bound finite, literalValue_intText]
    rw [Except.bind, Except.bind, requireFinite_of_infinite finite]
    exact .tooGreat finite

end AlikeButForSize

theorem Tree.alike_evaluateWithin {symbols : SymbolTable} {name : String} {n : Nat}
    (bound : symbols[name]? = some (.int n)) (tree : Tree) (room : Nat) :
    AlikeButForSize n (tree.evaluateWithin symbols room)
      ((tree.substitute name (.literal (intText n) .integer)).evaluateWithin symbols room) := by
  induction tree generalizing room with
  | binary op left right ihl ihr =>
    cases room with
    | zero => exact .same _
    | succ room =>
      rw [substitute]
      by_cases assigns : op = .assign
      · subst assigns
        exact .same _
      · rw [evaluateWithin_binary assigns, evaluateWithin_binary assigns]
        exact (ihl room).bind fun x => (ihr room).bind fun y => .same _
  | unary op operand ih =>
    cases room with
    | zero => exact .same _
    | succ room =>
      rw [substitute, evaluateWithin_unary, evaluateWithin_unary]
      exact (ih room).bind fun x => .same _
  | literal text kind =>
    cases room with
    | zero => exact .same _
    | succ room =>
      rw [substitute]
      split
      next chosen =>
        obtain ⟨rfl, rfl⟩ := chosen
        rw [evaluateWithin_literal, evaluateWithin_literal]
        exact .literalValue bound
      next => exact .same _
  | foreign value => exact .same _

/-- Let a name be bound to an integer. Its digits can stand for the name anywhere in an expression: the
    outcome is the same, a finite value or the same error, if the integer has a finite double. Otherwise it
    is the same too, or as the value of the name the integer is too large to be converted, and as a literal
    it is not finite. -/
theorem Tree.evaluate_substitute_intText {symbols : SymbolTable} {name : String} {n : Nat}
    (bound : symbols[name]? = some (.int n)) (tree : Tree) :
    ((floatOfInt n).isFinite →
        (tree.substitute name (.literal (intText n) .integer)).evaluate symbols = tree.evaluate symbols) ∧
      AlikeButForSize n (tree.evaluate symbols)
        ((tree.substitute name (.literal (intText n) .integer)).evaluate symbols) ∧
      ∀ value, tree.evaluate symbols = .ok value → value.isFinite := by
  have alike := alike_evaluateWithin bound tree depthLimit
  exact ⟨alike.eq_of_isFinite, alike, fun value => isFinite_of_evaluateWithin⟩

/-- The digits of an odd integer with more than 53 binary digits stand for a name that is bound to it. -/
theorem Tree.evaluate_substitute_odd_integer :
    let symbols : SymbolTable := (∅ : SymbolTable).insert "x" (.int 9007199254740993)
    let tree : Tree := .binary .subtract (.literal "x" .identifier) (.unary .negate (.literal "x" .identifier))
    (floatOfInt 9007199254740993).isFinite ∧
      (tree.substitute "x" (.literal (intText 9007199254740993) .integer)).evaluate symbols = .ok 18014398509481984 ∧
      tree.evaluate symbols = .ok 18014398509481984 := by
  intro symbols tree
  have bound : symbols["x"]? = some (.int (9007199254740993 : Nat)) := by decide +kernel
  have finite : (floatOfInt 9007199254740993).isFinite := by decide +kernel
  have value : tree.evaluate symbols = .ok 18014398509481984 := by decide +kernel
  have same := (Tree.evaluate_substitute_intText bound tree).1 finite
  exact ⟨finite, same.trans value, value⟩

/-- The integer `10 ^ 400` is too large to be converted as the value of a name, and as a literal it is
    infinite. -/
theorem Tree.evaluate_great_integer :
    let n : Nat := 10 ^ 400
    let symbols : SymbolTable := (∅ : SymbolTable).insert "x" (.int n)
    let tree : Tree := .literal "x" .identifier
    symbols["x"]? = some (.int n) ∧ tree.evaluate symbols = .error (.defect (.conversion .integerTooLarge)) ∧
      (tree.substitute "x" (.literal (intText n) .integer)).evaluate symbols =
        evaluationError (.notFinite (.value infinity)) := by
  intro n symbols tree
  have bound : symbols["x"]? = some (.int n) := by rw [getElem?_insert_name, if_pos rfl]
  have value : floatOfInt n = infinity := floatOfInt_of_large (Nat.le_refl n) (by decide)
  have infinite : ¬ infinity.isFinite := by decide
  refine ⟨bound, ?_, ?_⟩
  · rw [evaluate, depthLimit, evaluateWithin_literal, literalValue_of_infinite bound (value ▸ infinite)]
    rfl
  · rw [substitute, if_pos ⟨rfl, rfl⟩, evaluate, depthLimit, evaluateWithin_literal, literalValue_intText, value]
    exact requireFinite_of_infinite infinite

end Formulary
