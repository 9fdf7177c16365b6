import Formulary.Session
import Formulary.Table.Formula
import Formulary.Table.Reading
import Formulary.Tree.Printer
import Formulary.Proofs.Grammar
import Formulary.Proofs.Reading
import Formulary.Proofs.Parsing
import Formulary.Proofs.Lexemes
import Formulary.Proofs.Scanning
import Formulary.Proofs.Rejection
import Formulary.Proofs.Spelling
import Formulary.Proofs.Printing
import Formulary.Proofs.Numerals
import Formulary.Proofs.Names
import Formulary.Proofs.Rowwise
import Formulary.Proofs.Finiteness
import Formulary.Proofs.Agreement
import Formulary.Proofs.Sessions
import Formulary.Proofs.LongestMatch
import Formulary.Proofs.Complaints
import Formulary.Proofs.Columns
import Formulary.Proofs.Independence
import Formulary.Proofs.Coherence
import Formulary.Proofs.Inlining
import Formulary.Proofs.Absorption
import Formulary.Proofs.Coverage
import Formulary.Proofs.Parentheses
import Formulary.Proofs.OpenRules
import Formulary.Proofs.Misplacement
import Formulary.Proofs.Integers
import Formulary.Proofs.Resolution
import Formulary.Proofs.Moves
import Formulary.Proofs.Joining
import Formulary.Proofs.Rows
import Formulary.Proofs.Unquoting
import Formulary.Proofs.Distinction
