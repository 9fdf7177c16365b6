/-!
# Doubles as exact binary numbers

A finite double is a whole number times a power of two. Exact work on doubles (their digits, their
rounding to a narrower format, their comparison with integers) is done on that form.
-/

namespace Formulary.Number

def infinity : Float := 1 / 0

/-- The double that is no number. -/
def notANumber : Float := 0 / 0

/-- The number `significand * 2 ^ exponent`. -/
structure Binary where
  significand : Nat
  exponent : Int
deriving Repr, DecidableEq

/-- The sign bit of a double, also of a zero. -/
def isNegative (x : Float) : Bool :=
  x.toBits >>> 63 == 1

/-- The distance of a finite double from zero. -/
def magnitude (x : Float) : Binary :=
  let scale := ((x.toBits >>> 52) &&& 0x7FF).toNat
  let fraction := (x.toBits &&& 0xFFFFFFFFFFFFF).toNat
  if scale = 0 then ⟨fraction, -1074⟩ else ⟨Nat.pow 2 52 + fraction, scale - 1075⟩

/-- The integer that a binary number is equal to, if there is one. -/
def Binary.toNat? (x : Binary) : Option Nat :=
  if 0 ≤ x.exponent then some (x.significand * Nat.pow 2 x.exponent.toNat)
  else
    let divisor := Nat.pow 2 (-x.exponent).toNat
    if x.significand % divisor = 0 then some (x.significand / divisor) else none

/-- The integer that a double is equal to, if there is one. -/
def toInt? (x : Float) : Option Int :=
  if x.isFinite then
    (magnitude x).toNat?.map fun n => if isNegative x then -(n : Int) else n
  else none

/-! ## Rounding -/

/-- The whole number nearest to a quotient, and of two equally near the even one. -/
def roundQuotient (dividend divisor : Nat) : Nat :=
  let quotient := dividend / divisor
  let excess := 2 * (dividend % divisor)
  if excess < divisor then quotient
  else if divisor < excess then quotient + 1
  else if quotient % 2 = 0 then quotient
  else quotient + 1

/-- A binary format narrower than a double: so many binary digits in the significand, least
    exponent, and the power of two from which on a number is out of reach. -/
structure Format where
  precision : Nat
  leastExponent : Int
  reach : Nat
deriving Repr, DecidableEq

/-- The double equal to a number with at most 53 binary digits and an exponent in a double's range. -/
def Binary.toFloat (x : Binary) : Float :=
  if 0 ≤ x.exponent then Float.ofNat (x.significand * Nat.pow 2 x.exponent.toNat)
  else Float.ofNat x.significand / Float.ofNat (Nat.pow 2 (-x.exponent).toNat)

/-- The exponent at which a format cuts a number off. -/
def Format.cut (format : Format) (x : Binary) : Int :=
  max format.leastExponent (x.exponent + (x.significand.log2 + 1) - format.precision)

/-- The number of a format nearest to the given one, before its reach is considered. -/
def Format.nearest (format : Format) (x : Binary) : Binary :=
  let exponent := format.cut x
  if exponent ≤ x.exponent then x
  else ⟨roundQuotient x.significand (Nat.pow 2 (exponent - x.exponent).toNat), exponent⟩

/-- A number out of a format's reach counts as infinite. -/
def Format.exceeds (format : Format) (x : Binary) : Bool :=
  Nat.pow 2 (format.reach + (-x.exponent).toNat) ≤ x.significand * Nat.pow 2 x.exponent.toNat

/-- A double rounded to a narrower format. -/
def Format.round (format : Format) (x : Float) : Float :=
  if x.isFinite then
    let rounded := format.nearest (magnitude x)
    let distance := if format.exceeds rounded then infinity else rounded.toFloat
    if isNegative x then -distance else distance
  else x

def single : Format := ⟨24, -149, 128⟩

def half : Format := ⟨11, -24, 16⟩

end Formulary.Number
