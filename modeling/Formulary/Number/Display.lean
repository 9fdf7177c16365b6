import Formulary.Number.Shortest

/-!
# The text of a number

A double is written with its shortest digits: with a point and at least one decimal place when its
leading digit stands between the fourth place after the point and the sixteenth before it, else as
digits with a power of ten. The sign of a zero shows; that of a value that is no number does not.
-/

namespace Formulary.Number

def digitsOf (n : Nat) : List Char :=
  Nat.toDigits 10 n

/-- An integer with a minus sign if it is negative. -/
def intText (i : Int) : String :=
  String.ofList (if i < 0 then '-' :: digitsOf i.natAbs else digitsOf i.natAbs)

/-- Digits with a point after the first `places` of them, zeros filling both sides. -/
def positional (digits : List Char) (places : Int) : List Char :=
  let whole := digits.take places.toNat ++ List.replicate (places.toNat - digits.length) '0'
  let fraction := List.replicate (-places).toNat '0' ++ digits.drop places.toNat
  (if whole.isEmpty then ['0'] else whole) ++ '.' :: (if fraction.isEmpty then ['0'] else fraction)

/-- A power of ten after its mark: always with a sign, and with at least two digits. -/
def exponentText (exponent : Int) : List Char :=
  let digits := digitsOf exponent.natAbs
  'e' :: (if exponent < 0 then '-' else '+') :: List.replicate (2 - digits.length) '0' ++ digits

/-- Digits with a point after the first one, unless it is the only one, and a power of ten. -/
def scientific (digits : List Char) (exponent : Int) : List Char :=
  let fraction := digits.drop 1
  digits.take 1 ++ (if fraction.isEmpty then [] else '.' :: fraction) ++ exponentText exponent

/-- A decimal in the notation that its leading digit asks for. -/
def Decimal.chars (x : Decimal) : List Char :=
  let digits := digitsOf x.digits
  let places := x.exponent + digits.length
  if -4 < places ∧ places ≤ 16 then positional digits places
  else scientific digits (places - 1)

def floatText (x : Float) : String :=
  if x.isNaN then "nan"
  else
    let sign := if isNegative x then "-" else ""
    if x.isFinite then sign ++ String.ofList (magnitude x).shortest.chars else sign ++ "inf"

end Formulary.Number
