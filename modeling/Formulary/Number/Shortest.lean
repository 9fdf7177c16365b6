import Formulary.Number.Binary

/-!
# The shortest decimal of a double

Many decimals read back as the same double. The one chosen has the fewest digits; of two with
equally few it is the nearer, and of two equally near the one that ends in an even digit.
-/

namespace Formulary.Number

/-- The number `digits * 10 ^ exponent`. -/
structure Decimal where
  digits : Nat
  exponent : Int
deriving Repr, DecidableEq

/-- A number seen on a decimal grid: it is `significand * step / unit` grid steps from zero. -/
structure OnGrid where
  significand : Nat
  step : Nat
  unit : Nat

/-- A binary number on the grid of the multiples of `10 ^ exponent`. -/
def Binary.onGrid (x : Binary) (exponent : Int) : OnGrid where
  significand := x.significand
  step := Nat.pow 2 x.exponent.toNat * Nat.pow 10 (-exponent).toNat
  unit := Nat.pow 2 (-x.exponent).toNat * Nat.pow 10 exponent.toNat

/-- The double below a power of two is only half as far away as the double above it. -/
def Binary.narrowBelow (x : Binary) : Bool :=
  x.significand == Nat.pow 2 52 && x.exponent != -1074

/-- A grid point reads back as the double when it lies between the halfway points to the two
    neighbouring doubles; a halfway point itself belongs to the double with the even significand. -/
def OnGrid.readsBack (x : OnGrid) (narrowBelow : Bool) (point : Nat) : Bool :=
  let here := 4 * (point * x.unit)
  let below := 4 * (x.significand * x.step) - (if narrowBelow then x.step else 2 * x.step)
  let above := 4 * (x.significand * x.step) + 2 * x.step
  if x.significand % 2 = 0 then below ≤ here && here ≤ above else below < here && here < above

/-- The grid point that reads back, if the grid has one: of two the nearer, of two equally near
    the even one. -/
def OnGrid.point? (x : OnGrid) (narrowBelow : Bool) : Option Nat :=
  let lower := x.significand * x.step / x.unit
  match x.readsBack narrowBelow lower, x.readsBack narrowBelow (lower + 1) with
  | true, true => some (roundQuotient (x.significand * x.step) x.unit)
  | true, false => some lower
  | false, true => some (lower + 1)
  | false, false => none

/-- An exponent that is at least that of the leading decimal digit. -/
def Binary.leadingExponent (x : Binary) : Int :=
  (x.exponent + x.significand.log2) * 30103 / 100000 + 2

/-- The coarsest grid with a point that reads back, among so many from `exponent` downwards. -/
def Binary.searchGrids (x : Binary) : Nat → Int → Option Decimal
  | 0, _ => none
  | room + 1, exponent =>
    match (x.onGrid exponent).point? x.narrowBelow with
    | some digits => some ⟨digits, exponent⟩
    | none => x.searchGrids room (exponent - 1)

def Binary.exactDecimal (x : Binary) : Decimal :=
  ⟨x.significand * Nat.pow 2 x.exponent.toNat * Nat.pow 5 (-x.exponent).toNat, min x.exponent 0⟩

/-- The shortest decimal. Seventeen digits always read back, so the search ends in its range. -/
def Binary.shortest (x : Binary) : Decimal :=
  if x.significand = 0 then ⟨0, 0⟩
  else (x.searchGrids 24 x.leadingExponent).getD x.exactDecimal

end Formulary.Number
