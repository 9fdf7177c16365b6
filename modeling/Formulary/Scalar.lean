import Formulary.Text.Quoted
import Formulary.Number.Display
import Formulary.Number.Numeral

/-!
# Scalars

The values that a name may be bound to before any formula has run. Formulas compute with doubles
only, so each use of a scalar goes through its conversion to a double, which may fail.
-/

namespace Formulary
open Formulary.Text Formulary.Number

/-- A value bound to a name. -/
inductive Scalar where
  | int (value : Int)
  | float (value : Float)
  | bool (value : Bool)
  | text (value : String)
  | absent
deriving DecidableEq

/-- Why a scalar has no double. -/
inductive ConversionError where
  | notANumeral (text : String)
  | integerTooLarge
  | noValue
deriving DecidableEq

def ConversionError.message : ConversionError → String
  | .notANumeral text => "could not convert string to float: " ++ quoted text
  | .integerTooLarge => "int too large to convert to float"
  | .noValue => "float() argument must be a string or a real number, not 'NoneType'"

namespace Scalar

/-- The double that a scalar stands for: the nearest one for an integer, one or zero for a truth
    value, the value of a numeral for a text. -/
def toFloat : Scalar → Except ConversionError Float
  | .int value =>
    let nearest := floatOfInt value
    if nearest.isFinite then .ok nearest else .error .integerTooLarge
  | .float value => .ok value
  | .bool value => .ok (if value then 1 else 0)
  | .text value =>
    match floatOfText? value with
    | some x => .ok x
    | none => .error (.notANumeral value)
  | .absent => .error .noValue

/-- A scalar as a message shows it, with texts quoted. Printing a value is taken not to fail: an integer
    has its text here however many digits it has. -/
def repr : Scalar → String
  | .int value => intText value
  | .float value => floatText value
  | .bool value => if value then "True" else "False"
  | .text value => quoted value
  | .absent => "None"

/-- A scalar as it stands inside other text: a text as it is, all else as in a message. -/
def display : Scalar → String
  | .text value => value
  | other => other.repr

/-- The integer of an integer or a truth value. -/
def integer? : Scalar → Option Int
  | .int value => some value
  | .bool value => some (if value then 1 else 0)
  | _ => none

/-- Equality of values: numbers are compared as exact numbers whatever their kind, a truth value
    counting as one or zero, and the double that is no number differs from itself. -/
def same : Scalar → Scalar → Bool
  | .text s, .text t => s == t
  | .absent, .absent => true
  | .float x, .float y => x == y
  | .float x, other => other.integer?.any fun i => toInt? x == some i
  | other, .float x => other.integer?.any fun i => toInt? x == some i
  | first, second => first.integer?.any fun i => second.integer? == some i

end Scalar
end Formulary
