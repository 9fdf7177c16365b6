import Formulary.Symbols
import Formulary.Token
import Formulary.Tree

/-!
# Traces

What is reported while a formula is carried out, in the order in which it happens.
-/

namespace Formulary
open Formulary.Text

/-- One report. -/
inductive Event where
  | input (source : String)
  | tokenizing
  | tokens (found : List Token)
  | parsing
  | parsed (tree : Tree)
  | interpreting
  | symbols (table : SymbolTable)
  | references (names : List String)
  | assigning (name : String) (rows : Nat)

def Event.message : Event → String
  | .input source => "Input code: " ++ source
  | .tokenizing => "Tokenizing..."
  | .tokens found => "Tokens: " ++ quotedList (found.map Token.display)
  | .parsing => "Parsing..."
  | .parsed tree => "AST: " ++ tree.display
  | .interpreting => "Interpreting..."
  | .symbols table => "Symbols:\n" ++ table.csv
  | .references names => "Formula references: " ++ quotedList names
  | .assigning name rows =>
    "Assigning column " ++ quoted name ++ " (" ++ toString rows ++ " rows)"

/-- A trace is a list of reports, the earliest first. -/
abbrev Trace := List Event

end Formulary
