import Mathlib.Algebra.Group.Nat.Defs
import Formulary.Evaluation
import Formulary.Table.Value

/-!
# Values are finite

Every value that an expression has is a finite double. Literals, names and the results of operations
are checked; a negation is not, but the negative of a finite double is finite.
-/

namespace Formulary.Number
open Float.Model.UnpackedFloat

section
variable {format : Float.Model.Format} {bits : BitVec format.numBits}

/-- An exponent is in reach of a format if with the bias it is less than the one with all bits set. -/
def InReach (format : Float.Model.Format) (exponent : Int) : Prop :=
  (exponent + format.exponentBias + format.mantissaBitsWithoutImplicit).toNat + 1 < 2 ^ format.exponentBits

theorem ofNat_ne_allOnes {width n : Nat} (small : n + 1 < 2 ^ width) :
    BitVec.ofNat width n ≠ BitVec.allOnes width := by
  intro same
  have value := congrArg BitVec.toNat same
  rw [BitVec.toNat_ofNat, Nat.mod_eq_of_lt (by omega), BitVec.toNat_allOnes] at value
  omega

theorem toNat_lt_of_ne_allOnes {width : Nat} {x : BitVec width} (other : x ≠ BitVec.allOnes width) :
    x.toNat + 1 < 2 ^ width := by
  have bound := x.isLt
  have differ : x.toNat ≠ 2 ^ width - 1 := by
    intro same
    exact other (BitVec.eq_of_toNat_eq (by rw [same, BitVec.toNat_allOnes]))
  omega

/-- Bits are finite only if their exponent is not full. -/
theorem unpackExponent_ne_of_isFinite (finite : (unpack format bits).isFinite) :
    unpackExponent bits ≠ BitVec.allOnes format.exponentBits := by
  intro full
  rw [← BitVec.neg_one_eq_allOnes] at full
  have unpacked : unpack format bits = _ := if_pos full
  rw [unpacked] at finite
  split at finite <;> cases finite

/-- Bits whose exponent is not full are a zero or a number whose exponent is in reach. -/
theorem unpack_cases (wide : 1 < format.exponentBits)
    (notFull : unpackExponent bits ≠ BitVec.allOnes format.exponentBits) :
    (∃ sign, unpack format bits = .zero sign) ∨
      ∃ sign significand exponent positive,
        unpack format bits = .finite sign significand exponent positive ∧ InReach format exponent := by
  have bound := toNat_lt_of_ne_allOnes notFull
  have spare : 2 ^ 2 ≤ 2 ^ format.exponentBits := Nat.pow_le_pow_right (by decide) wide
  rw [← BitVec.neg_one_eq_allOnes] at notFull
  have unpacked : unpack format bits = _ := if_neg notFull
  by_cases low : unpackExponent bits = BitVec.ofNat _ 0
  · have subnormal := unpacked.trans (if_pos low)
    by_cases blank : unpackMantissa bits = BitVec.ofNat _ 0
    · exact .inl ⟨_, subnormal.trans (dif_pos blank)⟩
    · refine .inr ⟨_, _, _, _, subnormal.trans (dif_neg blank), ?_⟩
      have least : (unpackExponent bits).toNat = 0 := by rw [low, BitVec.toNat_ofNat, Nat.zero_mod]
      unfold InReach
      omega
  · refine .inr ⟨_, _, _, _, unpacked.trans (if_neg low), ?_⟩
    unfold InReach
    omega

theorem isFinite_unpack (wide : 1 < format.exponentBits)
    (notFull : unpackExponent bits ≠ BitVec.allOnes format.exponentBits) : (unpack format bits).isFinite := by
  rcases unpack_cases wide notFull with ⟨_, unpacked⟩ | ⟨_, _, _, _, unpacked, _⟩
  · rw [unpacked]
    rfl
  · rw [unpacked]
    rfl

/-- A number whose exponent is in reach is packed with an exponent that is not full. -/
theorem unpackExponent_pack_ne {sign : Sign} {significand : Nat} {exponent : Int} {positive : 0 < significand}
    (inReach : InReach format exponent) :
    unpackExponent (pack format (.finite sign significand exponent positive)) ≠
      BitVec.allOnes format.exponentBits := by
  have packed : pack format (.finite sign significand exponent positive) = _ :=
    if_neg (Nat.not_le_of_lt inReach)
  rw [packed]
  split
  · rw [unpackExponent_packComponents]
    exact ofNat_ne_allOnes inReach
  · rw [unpackExponent_packComponents]
    have small := Nat.lt_of_le_of_lt (Nat.le_add_left 1 _) inReach
    exact ofNat_ne_allOnes small

/-- Negation leaves the exponent of a finite number as it is, and makes a zero of a zero. -/
theorem unpackExponent_pack_neg_ne (wide : 1 < format.exponentBits)
    (notFull : unpackExponent bits ≠ BitVec.allOnes format.exponentBits) :
    unpackExponent (pack format (unpack format bits).neg) ≠ BitVec.allOnes format.exponentBits := by
  rcases unpack_cases wide notFull with ⟨sign, unpacked⟩ | ⟨sign, _, _, _, unpacked, inReach⟩
  · have packed : pack format (neg (.zero sign)) = packComponents format (-sign) 0 0 := rfl
    have spare : 2 ^ 2 ≤ 2 ^ format.exponentBits := Nat.pow_le_pow_right (by decide) wide
    have small : 0 + 1 < 2 ^ format.exponentBits := by omega
    rw [unpacked, packed, unpackExponent_packComponents]
    exact ofNat_ne_allOnes small
  · rw [unpacked]
    exact unpackExponent_pack_ne inReach

end

/-- The negative of a finite double is finite. -/
theorem isFinite_neg {x : Float} (finite : x.isFinite) : (-x).isFinite := by
  have wide : 1 < Float.Model.Format.binary64.exponentBits := by decide
  have here : (unpack .binary64 x.toModel.toBits.toBitVec).isFinite := finite
  have notFull := unpackExponent_ne_of_isFinite here
  exact isFinite_unpack wide (unpackExponent_pack_neg_ne wide notFull)

end Formulary.Number

namespace Formulary
open Formulary.Number

/-- Two computations in a row have a value if the first one has one and the second one has one for it. -/
theorem bind_eq_ok_iff {ε α β : Type} {x : Except ε α} {f : α → Except ε β} {b : β} :
    x.bind f = .ok b ↔ ∃ a, x = .ok a ∧ f a = .ok b := by
  cases x with
  | error error => simp [Except.bind]
  | ok a => simp [Except.bind]

/-- Two computations in a row fail if the first one does, or the second one for the value of the first. -/
theorem bind_eq_error_iff {ε α β : Type} {x : Except ε α} {f : α → Except ε β} {error : ε} :
    x.bind f = .error error ↔ x = .error error ∨ ∃ a, x = .ok a ∧ f a = .error error := by
  cases x with
  | error error => simp [Except.bind]
  | ok a => simp [Except.bind]

theorem requireFinite_eq_ok_iff {x y : Float} : requireFinite x = .ok y ↔ x = y ∧ y.isFinite := by
  unfold requireFinite
  constructor
  · intro accepted
    split at accepted
    next finite =>
      cases accepted
      exact ⟨rfl, finite⟩
    next => cases accepted
  · rintro ⟨rfl, finite⟩
    rw [if_pos finite]

variable {symbols : SymbolTable} {op : BinaryOperator} {x y : Float}

/-- An operation on two doubles is its arithmetic, checked for being finite, unless it divides by zero. -/
theorem BinaryOperator.evaluate_of_known {operation : Float → Float → Float}
    (known : op.arithmetic? = some operation) (safe : ¬ (op = .divide ∧ y == 0)) :
    op.evaluate x y = requireFinite (operation x y) := by
  cases op with
  | add | subtract | multiply =>
    cases known
    rfl
  | divide =>
    cases known
    have nonzero : ¬ y == 0 := fun zero => safe ⟨rfl, zero⟩
    rw [evaluate, if_neg nonzero, quotient_of_ne_zero nonzero]
    rfl
  | assign | unknown => cases known

theorem BinaryOperator.divide_of_zero (zero : y == 0) :
    BinaryOperator.divide.evaluate x y = evaluationError (.divisionByZero .scalar) := by
  rw [evaluate, if_pos zero]

/-- What an operation that has a value has done. -/
theorem BinaryOperator.exists_of_evaluate_eq_ok {z : Float} (evaluated : op.evaluate x y = .ok z) :
    ∃ operation, op.arithmetic? = some operation ∧ ¬ (op = .divide ∧ y == 0) ∧ operation x y = z ∧
      z.isFinite := by
  have safe : ¬ (op = .divide ∧ y == 0) := by
    rintro ⟨rfl, zero⟩
    rw [divide_of_zero zero] at evaluated
    cases evaluated
  cases known : op.arithmetic? with
  | some operation =>
    rw [evaluate_of_known known safe] at evaluated
    exact ⟨operation, rfl, safe, requireFinite_eq_ok_iff.1 evaluated⟩
  | none =>
    cases op with
    | add | subtract | multiply | divide => cases known
    | assign | unknown => cases evaluated

namespace Tree

theorem evaluateWithin_binary (other : op ≠ .assign) (left right : Tree) (room : Nat) :
    (Tree.binary op left right).evaluateWithin symbols (room + 1) =
      (left.evaluateWithin symbols room).bind fun x =>
        (right.evaluateWithin symbols room).bind fun y => op.evaluate x y := by
  rw [evaluateWithin]
  · rfl
  · exact other

theorem evaluateWithin_unary (op : UnaryOperator) (operand : Tree) (room : Nat) :
    (Tree.unary op operand).evaluateWithin symbols (room + 1) =
      (operand.evaluateWithin symbols room).bind fun x => .ok (-x) := by
  rw [evaluateWithin]
  rfl

theorem evaluateWithin_literal (text : String) (kind : LiteralKind) (room : Nat) :
    (Tree.literal text kind).evaluateWithin symbols (room + 1) =
      (literalValue symbols text kind).bind requireFinite := by
  rw [evaluateWithin]
  rfl

/-- The value of an expression is finite. -/
theorem isFinite_of_evaluateWithin {tree : Tree} {room : Nat} {value : Float}
    (evaluated : tree.evaluateWithin symbols room = .ok value) : value.isFinite := by
  -- A negation is not checked, so its case is the one that needs the induction.
  induction tree generalizing room value with
  | binary op left right =>
    cases room with
    | zero => cases evaluated
    | succ room =>
      by_cases assigns : op = .assign
      · subst assigns
        cases evaluated
      · rw [evaluateWithin_binary assigns] at evaluated
        obtain ⟨x, _, evaluated⟩ := bind_eq_ok_iff.1 evaluated
        obtain ⟨y, _, evaluated⟩ := bind_eq_ok_iff.1 evaluated
        obtain ⟨_, _, _, _, finite⟩ := BinaryOperator.exists_of_evaluate_eq_ok evaluated
        exact finite
  | unary op operand ih =>
    cases room with
    | zero => cases evaluated
    | succ room =>
      rw [evaluateWithin_unary] at evaluated
      obtain ⟨x, read, negated⟩ := bind_eq_ok_iff.1 evaluated
      cases negated
      exact isFinite_neg (ih read)
  | literal text kind =>
    cases room with
    | zero => cases evaluated
    | succ room =>
      rw [evaluateWithin_literal] at evaluated
      obtain ⟨x, _, checked⟩ := bind_eq_ok_iff.1 evaluated
      exact (requireFinite_eq_ok_iff.1 checked).2
  | foreign =>
    cases room with
    | zero => cases evaluated
    | succ room => cases evaluated

end Tree

/-- A statement that is carried out gives its target a finite value. -/
theorem exists_of_interpret_eq_ok {statement : Tree} {name : String} {value : Float}
    (performed : interpret symbols statement = .ok (name, value)) :
    ∃ expression, statement.assignment = .ok (name, expression) ∧
      expression.evaluateWithin symbols depthLimit = .ok value ∧ value.isFinite := by
  obtain ⟨⟨target, expression⟩, assignment, performed⟩ := bind_eq_ok_iff.1 performed
  obtain ⟨result, evaluated, same⟩ := bind_eq_ok_iff.1 performed
  cases same
  exact ⟨expression, assignment, evaluated, Tree.isFinite_of_evaluateWithin evaluated⟩

end Formulary
