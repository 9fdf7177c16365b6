import Formulary.Error

/-!
# The cells of a column

All cells of a column are of one type, and any of them may be empty. Integers, floats, truth
values and decimals are numeric: their cells convert to doubles. Cells of any other type are kept
as text and take no part in formulas.

Columns are kept by a library. `Cells.toDoubles` stands for its cast to doubles, of which this is
assumed: an empty cell stays empty and every other one becomes the double nearest to it, except
that a column of 64-bit integers is refused if one of them lies beyond the reach up to which all
integers are doubles, and a type that is not numeric is not cast at all.
-/

namespace Formulary
open Formulary.Number

/-! ## Types -/

/-- The integer types: signed or not, by the number of bits. -/
structure IntegerType where
  signed : Bool
  bits : Nat
deriving DecidableEq

inductive FloatType where
  | half
  | single
  | double
deriving DecidableEq

/-- The decimal types: the number of bits, of digits, and of digits after the point. -/
structure DecimalType where
  bits : Nat
  precision : Nat
  scale : Int
deriving DecidableEq

def IntegerType.name (type : IntegerType) : String :=
  (if type.signed then "int" else "uint") ++ toString type.bits

def FloatType.name : FloatType → String
  | .half => "halffloat"
  | .single => "float"
  | .double => "double"

def DecimalType.name (type : DecimalType) : String :=
  "decimal" ++ toString type.bits ++ "(" ++ toString type.precision ++ ", " ++ intText type.scale ++ ")"

/-- A column type, by what its cells hold. -/
inductive ColumnType where
  | integer (type : IntegerType)
  | float (type : FloatType)
  | truth
  | decimal (type : DecimalType)
  | other (name : String)
deriving DecidableEq

def ColumnType.name : ColumnType → String
  | .integer type => type.name
  | .float type => type.name
  | .truth => "bool"
  | .decimal type => type.name
  | .other name => name

/-! ## Cells -/

/-- The cells of a column with so many rows. A decimal cell holds its digits without the point. -/
inductive Cells (rows : Nat) where
  | integers (type : IntegerType) (cells : Vector (Option Int) rows)
  | floats (type : FloatType) (cells : Vector (Option Float) rows)
  | truths (cells : Vector (Option Bool) rows)
  | decimals (type : DecimalType) (cells : Vector (Option Int) rows)
  | others (typeName : String) (cells : Vector (Option String) rows)

/-- A column of doubles, as formulas compute with. -/
abbrev Doubles (rows : Nat) := Vector (Option Float) rows

variable {rows : Nat}

/-- The type of a column's cells. -/
def Cells.type : Cells rows → ColumnType
  | .integers type _ => .integer type
  | .floats type _ => .float type
  | .truths _ => .truth
  | .decimals type _ => .decimal type
  | .others name _ => .other name

/-! ## Conversion to doubles -/

/-- The greatest power of two up to which every integer has a double. -/
def exactReach : Int := 9007199254740992

/-- The least integer that converts: integers wider than a double's digits are checked, and the
    narrower ones all convert. -/
def IntegerType.least? (type : IntegerType) : Option Int :=
  if type.bits = 64 then some (if type.signed then -exactReach else 0) else none

/-- An integer cell out of the range that converts. -/
def outOfRange (least : Int) : Option Int → Bool
  | some value => value < least || exactReach < value
  | none => false

/-- The double of a decimal with the given digits after its point. -/
def decimalToFloat (scale : Int) (digits : Int) : Float :=
  let distance := nearestFloat digits.natAbs (-scale)
  if digits < 0 then -distance else distance

/-- The doubles of integer cells; the first cell out of range is an error. -/
def integersToDoubles (type : IntegerType) (cells : Vector (Option Int) rows) :
    Except Error (Doubles rows) :=
  let doubles := cells.map (·.map floatOfInt)
  match type.least? with
  | none => .ok doubles
  | some least =>
    match cells.toList.find? (outOfRange least) with
    | some (some value) => .error (.defect (.integerOutOfRange value least))
    | _ => .ok doubles

/-- The doubles of the cells of a named column, empty cells staying empty. -/
def Cells.toDoubles (name : String) : Cells rows → Except Error (Doubles rows)
  | .integers type cells => integersToDoubles type cells
  | .floats _ cells => .ok cells
  | .truths cells => .ok (cells.map (·.map fun value => if value then 1 else 0))
  | .decimals type cells => .ok (cells.map (·.map (decimalToFloat type.scale)))
  | .others typeName _ => .error (.evaluation (.notNumeric name typeName))

end Formulary
