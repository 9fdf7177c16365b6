import Formulary.Text.Blank
import Formulary.Text.DecimalDigit
import Formulary.Number.Binary

/-!
# Reading numbers

A numeral is a decimal, with a point and a power of ten where wanted, or the word for an infinity
or for no number, with an optional sign and with margins around it. Digits of every script count,
and an underscore may stand between two digits. The value is the nearest double.
-/

namespace Formulary.Number
open Formulary.Text

/-- A decimal as written: its digits without the point, and the power of ten. -/
structure Unsigned where
  digits : List Char
  exponent : Int
deriving Repr, DecidableEq

/-! ## Grammar -/

/-- A sign, if there is one, and what follows it. -/
def splitSign : List Char → Bool × List Char
  | '-' :: rest => (true, rest)
  | '+' :: rest => (false, rest)
  | cs => (false, cs)

/-- The integer of some characters: an optional sign and at least one digit. -/
def intOfChars? (cs : List Char) : Option Int :=
  let (negative, digits) := splitSign cs
  if digits ≠ [] ∧ digits.all Char.isDigit then
    let value : Int := Nat.ofDigitChars 10 digits 0
    some (if negative then -value else value)
  else none

/-- The power of ten that ends a numeral; without one it is zero. -/
def scale? : List Char → Option Int
  | [] => some 0
  | mark :: rest => if mark = 'e' ∨ mark = 'E' then intOfChars? rest else none

/-- The digits after a point and what follows them, or nothing read where there is no point. -/
def splitFraction : List Char → List Char × List Char
  | '.' :: rest => (rest.takeWhile Char.isDigit, rest.dropWhile Char.isDigit)
  | cs => ([], cs)

/-- A decimal without sign: digits with at most one point among them, at least one digit, and
    perhaps a power of ten. -/
def unsigned? (cs : List Char) : Option Unsigned :=
  let whole := cs.takeWhile Char.isDigit
  let (fraction, rest) := splitFraction (cs.dropWhile Char.isDigit)
  if whole ++ fraction = [] then none
  else (scale? rest).map fun scale => ⟨whole ++ fraction, scale - fraction.length⟩

/-- A text without its underscores, provided that each stands between two digits. The flag says
    whether a digit has just been passed. -/
def dropUnderscores : Bool → List Char → Option (List Char)
  | _, [] => some []
  | afterDigit, c :: rest =>
    if c = '_' then
      if afterDigit && rest.head?.any Char.isDigit then dropUnderscores false rest else none
    else (dropUnderscores c.isDigit rest).map (c :: ·)

/-! ## Value -/

/-- The double nearest to `n * 10 ^ exponent`, infinite when that is out of reach. Exponents far
    outside the range of doubles are settled by their size alone. -/
def nearestFloat (n : Nat) (exponent : Int) : Float :=
  let places := exponent + (Nat.toDigits 10 n).length
  if n = 0 ∨ places < -330 then 0
  else if 310 < places then infinity
  else Float.ofScientific n (exponent < 0) exponent.natAbs

def Unsigned.value (x : Unsigned) : Float :=
  nearestFloat (Nat.ofDigitChars 10 x.digits 0) x.exponent

/-- The value of one of the words that stand for a number, in any mix of cases. -/
def wordValue? (cs : List Char) : Option Float :=
  let word := String.ofList (cs.map Char.toLower)
  if word = "inf" ∨ word = "infinity" then some infinity
  else if word = "nan" then some notANumber
  else none

/-- The value of a numeral that has common digits and no margins or underscores. -/
def plainValue? (cs : List Char) : Option Float :=
  let (negative, body) := splitSign cs
  let value? := (wordValue? body).or ((unsigned? body).map Unsigned.value)
  value?.map fun value => if negative then -value else value

/-- The value of a numeral, or nothing for a text that is no numeral. -/
def floatOfChars? (cs : List Char) : Option Float :=
  (dropUnderscores false ((trimMargins cs).map commonDigit)).bind plainValue?

/-- The value of a numeral, or nothing for a text that is no numeral. -/
def floatOfText? (text : String) : Option Float :=
  floatOfChars? text.toList

/-- The double nearest to an integer, infinite when that is out of reach. -/
def floatOfInt (i : Int) : Float :=
  let distance := nearestFloat i.natAbs 0
  if i < 0 then -distance else distance

end Formulary.Number
