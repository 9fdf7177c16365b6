import Formulary.Evaluation
import Formulary.Trace
import Formulary.Tree.Parser

/-!
# Sessions on a symbol table

A session carries out one step after the other on a symbol table. A step that assigns a value
binds one name; a step that fails, and one that only reads, leave the table as it was.
-/

namespace Formulary

/-- The outcome of a step on a symbol table, the table after it, and what was reported. -/
structure Outcome (α : Type) where
  result : Except Error α
  symbols : SymbolTable
  trace : Trace := []

/-- Carries out a statement: its value is bound to its target. -/
def SymbolTable.perform (symbols : SymbolTable) (statement : Tree) : Outcome (String × Float) :=
  match interpret symbols statement with
  | .ok (name, value) =>
    { result := .ok (name, value), symbols := symbols.insert name (.float value) }
  | .error error => { result := .error error, symbols }

/-- Runs a source: tokens, tree, value, binding, with a report before and after each. The last report
    prints the table, and printing a value that is bound there is taken not to fail. -/
def SymbolTable.run (symbols : SymbolTable) (source : String) : Outcome (String × Float) :=
  let opened : Trace := [.input source, .tokenizing]
  match tokenize source with
  | .error error => { result := .error error, symbols, trace := opened }
  | .ok tokens =>
    let lexed := opened ++ [.tokens tokens, .parsing]
    match parseTokens tokens with
    | .error error => { result := .error error, symbols, trace := lexed }
    | .ok tree =>
      let parsed := lexed ++ [.parsed tree, .interpreting]
      let performed := symbols.perform tree
      match performed.result with
      | .error error => { result := .error error, symbols := performed.symbols, trace := parsed }
      | .ok assigned =>
        { result := .ok assigned, symbols := performed.symbols
          trace := parsed ++ [.symbols performed.symbols] }

def run (source : String) : Outcome (String × Float) :=
  SymbolTable.run ∅ source

/-! ## Steps -/

/-- A step of a session. -/
inductive Step where
  /-- Reads a source and carries out its statement. -/
  | formula (source : String)
  /-- Carries out a statement. -/
  | interpret (statement : Tree)
  /-- Evaluates an expression. -/
  | evaluate (expression : Tree)
  /-- Runs a source. -/
  | run (source : String)
  /-- Writes out the table. -/
  | csv
  /-- Binds a name from outside. -/
  | set (name : String) (value : Scalar)
  /-- Frees a name from outside. -/
  | delete (name : String)

/-- The answer to a step that succeeds. -/
inductive Reply where
  | assigned (name : String) (value : Float)
  | value (value : Float)
  | text (text : String)
  | done

def Outcome.reply (outcome : Outcome (String × Float)) : Outcome Reply :=
  { outcome with result := outcome.result.map fun (name, value) => .assigned name value }

def SymbolTable.step (symbols : SymbolTable) : Step → Outcome Reply
  | .formula source =>
    match parse source with
    | .ok statement => (symbols.perform statement).reply
    | .error error => { result := .error error, symbols }
  | .interpret statement => (symbols.perform statement).reply
  | .evaluate expression => { result := (expression.evaluate symbols).map .value, symbols }
  | .run source => (symbols.run source).reply
  | .csv => { result := .ok (.text symbols.csv), symbols }
  | .set name value => { result := .ok .done, symbols := symbols.insert name value }
  | .delete name => { result := .ok .done, symbols := symbols.erase name }

end Formulary
