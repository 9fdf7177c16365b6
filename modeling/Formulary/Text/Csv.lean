import Formulary.Text.Quoted

/-!
# Comma-separated rows

Fields are parted by commas and rows end with a carriage return and a line feed. A field that
holds a comma, a double quote mark or one of the two line characters stands between double quote
marks, and a quote mark inside it is written twice.
-/

namespace Formulary.Text.Csv

/-- A field with such a character would be taken apart by a reader. -/
def isSpecial (c : Char) : Bool :=
  c == ',' || c == doubleQuote || c == '\r' || c == '\n'

/-- The characters of a field between quote marks, each quote mark twice. -/
def doubled : List Char → List Char
  | [] => []
  | c :: rest => if c = doubleQuote then c :: c :: doubled rest else c :: doubled rest

/-- A field as it stands in a row. -/
def field (cs : List Char) : List Char :=
  if cs.any isSpecial then doubleQuote :: doubled cs ++ [doubleQuote] else cs

def row (fields : List (List Char)) : List Char :=
  List.intercalate [','] (fields.map field) ++ ['\r', '\n']

def render (rows : List (List String)) : String :=
  String.ofList (rows.flatMap fun fields => row (fields.map String.toList))

end Formulary.Text.Csv
