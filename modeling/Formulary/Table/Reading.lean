import Formulary.Table

/-!
# Reading tables

Column types are known by their names, and cells are read from text: each is rounded to the type
of its column when it is read. A column type of an unknown name keeps its cells as text.
-/

namespace Formulary
open Formulary.Number

/-! ## Types -/

/-- The numeric types whose names stand alone. -/
def plainTypes : List ColumnType :=
  ([8, 16, 32, 64].map fun bits => .integer ⟨true, bits⟩)
    ++ ([8, 16, 32, 64].map fun bits => .integer ⟨false, bits⟩)
    ++ [.float .half, .float .single, .float .double, .truth]

/-- The natural number at the head of a text, and what follows it. -/
def splitNat (cs : List Char) : Nat × List Char :=
  (Nat.ofDigitChars 10 (cs.takeWhile Char.isDigit) 0, cs.dropWhile Char.isDigit)

/-- The decimal type of a name: the number of bits, then the number of digits and the number of
    digits after the point, between parentheses. -/
def decimalType? (name : String) : Option DecimalType := do
  let (bits, afterBits) := splitNat (name.toList.drop "decimal".length)
  let (precision, afterPrecision) := splitNat (afterBits.drop 1)
  let scale ← intOfChars? ((afterPrecision.drop 2).takeWhile (· != ')'))
  let type : DecimalType := ⟨bits, precision, scale⟩
  if type.name = name then some type else none

def ColumnType.ofName (name : String) : ColumnType :=
  match plainTypes.find? (·.name == name) with
  | some type => type
  | none =>
    match decimalType? name with
    | some type => .decimal type
    | none => .other name

/-! ## Cells -/

/-- A double as a float type holds it. -/
def FloatType.round : FloatType → Float → Float
  | .half => Number.half.round
  | .single => Number.single.round
  | .double => id

def truthOfText? (text : String) : Option Bool :=
  if text = "true" then some true else if text = "false" then some false else none

/-- The digits of a decimal with so many of them after the point. -/
def decimalOfText? (scale : Int) (text : String) : Option Int := do
  let (negative, body) := splitSign text.toList
  let number ← unsigned? body
  let digits := Nat.ofDigitChars 10 number.digits 0
  let shift := number.exponent + scale
  let digits := digits * Nat.pow 10 shift.toNat / Nat.pow 10 (-shift).toNat
  return if negative then -(digits : Int) else digits

variable {rows : Nat}

/-- Reads every cell that is not empty. -/
def readCells {α : Type} (read? : String → Option α) (texts : Vector (Option String) rows) :
    Option (Vector (Option α) rows) :=
  texts.mapM fun
    | some text => (read? text).map some
    | none => some none

/-- The cells of a column of the given type, from their texts. -/
def Cells.ofTexts? (type : ColumnType) (texts : Vector (Option String) rows) :
    Option (Cells rows) :=
  match type with
  | .integer type => (readCells (fun text => intOfChars? text.toList) texts).map (.integers type)
  | .float type =>
    (readCells (fun text => (floatOfText? text).map type.round) texts).map (.floats type)
  | .truth => (readCells truthOfText? texts).map .truths
  | .decimal type => (readCells (decimalOfText? type.scale) texts).map (.decimals type)
  | .other name => some (.others name texts)

/-! ## Tables -/

/-- A column as it is read: its name, the name of its type, and the texts of its cells. -/
structure WrittenColumn where
  name : String
  type : String
  cells : Array (Option String)

/-- A column with so many rows, from its texts. -/
def WrittenColumn.read? (rows : Nat) (column : WrittenColumn) : Option (Column rows) :=
  if fits : column.cells.size = rows then
    (Cells.ofTexts? (.ofName column.type) ⟨column.cells, fits⟩).map (⟨column.name, ·⟩)
  else none

/-- A table from its columns, which must have equally many rows; without columns there are none. -/
def Table.ofColumns? (columns : List WrittenColumn) : Option Table :=
  let rows := (columns.head?.map (·.cells.size)).getD 0
  (columns.mapM (WrittenColumn.read? rows)).map (⟨rows, ·⟩)

end Formulary
