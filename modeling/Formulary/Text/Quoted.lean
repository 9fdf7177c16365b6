import Formulary.Text.Printable

/-!
# Quoted texts

A text in a message stands between quote marks, with everything that would be invisible or
ambiguous there written as an escape that starts with a backslash.
-/

namespace Formulary.Text

def singleQuote : Char := Char.ofNat 0x27

def doubleQuote : Char := Char.ofNat 0x22

/-- The character that starts an escape. -/
def backslash : Char := Char.ofNat 0x5C

/-- A digit of a hexadecimal numeral, in lower case. -/
def hexDigit (value : Nat) : Char :=
  Char.ofNat (if value < 10 then 0x30 + value else 0x57 + value)

/-- The last `width` digits of a hexadecimal numeral. -/
def hexDigits : Nat → Nat → List Char
  | 0, _ => []
  | width + 1, value => hexDigits width (value / 16) ++ [hexDigit (value % 16)]

/-- The escape of an invisible character: two, four or eight hexadecimal digits, as few as do. -/
def escapeCode (c : Char) : List Char :=
  let code := c.toNat
  if code < 0x100 then backslash :: 'x' :: hexDigits 2 code
  else if code < 0x10000 then backslash :: 'u' :: hexDigits 4 code
  else backslash :: 'U' :: hexDigits 8 code

/-- A character as it stands between two of the given quote marks. -/
def escape (mark c : Char) : List Char :=
  if c = mark ∨ c = backslash then [backslash, c]
  else if c = '\n' then [backslash, 'n']
  else if c = '\r' then [backslash, 'r']
  else if c = '\t' then [backslash, 't']
  else if isPrintable c then [c]
  else escapeCode c

/-- Single quote marks, except around a text that has one and no double quote mark. -/
def quoteMark (cs : List Char) : Char :=
  if singleQuote ∈ cs ∧ doubleQuote ∉ cs then doubleQuote else singleQuote

/-- The characters of a quoted text, quote marks included. -/
def quotedChars (cs : List Char) : List Char :=
  let mark := quoteMark cs
  mark :: cs.flatMap (escape mark) ++ [mark]

def quoted (text : String) : String :=
  String.ofList (quotedChars text.toList)

/-- A list of texts: quoted, parted by commas, between brackets. -/
def quotedList (texts : List String) : String :=
  "[" ++ ", ".intercalate (texts.map quoted) ++ "]"

end Formulary.Text
