import ModalLanguage.Automaton.Engine
import ModalLanguage.Automaton.Machine
import ModalLanguage.Automaton.Simulation
import ModalLanguage.Automaton.Table
import ModalLanguage.Datum
import ModalLanguage.Facts
import ModalLanguage.Formula.Basic
import ModalLanguage.Formula.Equality
import ModalLanguage.Formula.Fault
import ModalLanguage.Formula.Flattened
import ModalLanguage.Formula.Head
import ModalLanguage.Formula.ModalDepth
import ModalLanguage.Formula.Printer
import ModalLanguage.Formula.Row
import ModalLanguage.Formula.Store
import ModalLanguage.Formula.Subformula
import ModalLanguage.Formula.Vocabulary
import ModalLanguage.Grammar
import ModalLanguage.Log
import ModalLanguage.Parser.Apparatus
import ModalLanguage.Parser.Basic
import ModalLanguage.Parser.Configuration
import ModalLanguage.Parser.Demand
import ModalLanguage.Parser.Error
import ModalLanguage.Parser.Limit
import ModalLanguage.Parser.Lookahead
import ModalLanguage.Parser.Step
import ModalLanguage.Parser.Trace
import ModalLanguage.Proofs.BlankSplit
import ModalLanguage.Proofs.Calls
import ModalLanguage.Proofs.Coordinates
import ModalLanguage.Proofs.Coverage
import ModalLanguage.Proofs.Cutting
import ModalLanguage.Proofs.Demand
import ModalLanguage.Proofs.Derivation
import ModalLanguage.Proofs.ErrorAnchors
import ModalLanguage.Proofs.Expectation
import ModalLanguage.Proofs.FarthestScope
import ModalLanguage.Proofs.GreaterLimit
import ModalLanguage.Proofs.Lockstep
import ModalLanguage.Proofs.LogLines
import ModalLanguage.Proofs.LongestMatch
import ModalLanguage.Proofs.ModalDepth
import ModalLanguage.Proofs.Nesting
import ModalLanguage.Proofs.NestingBound
import ModalLanguage.Proofs.Online
import ModalLanguage.Proofs.OperatorEnd
import ModalLanguage.Proofs.Outline
import ModalLanguage.Proofs.Printing
import ModalLanguage.Proofs.Reading
import ModalLanguage.Proofs.Recognition
import ModalLanguage.Proofs.Reuse
import ModalLanguage.Proofs.Roles
import ModalLanguage.Proofs.RoundTrip
import ModalLanguage.Proofs.RowReading
import ModalLanguage.Proofs.Scope
import ModalLanguage.Proofs.StackLayout
import ModalLanguage.Proofs.StackReading
import ModalLanguage.Proofs.Strata
import ModalLanguage.Proofs.Streams
import ModalLanguage.Proofs.StructuralEquality
import ModalLanguage.Proofs.Subformulas
import ModalLanguage.Proofs.SyntaxError
import ModalLanguage.Proofs.TableItems
import ModalLanguage.Proofs.Trace
import ModalLanguage.Proofs.TreeReading
import ModalLanguage.Proofs.WellFormed
import ModalLanguage.Session
import ModalLanguage.Text.Decimal
import ModalLanguage.Text.Position
import ModalLanguage.Text.Printable
import ModalLanguage.Text.Quoted
import ModalLanguage.Text.SingleLine
import ModalLanguage.Text.Sorted
import ModalLanguage.Token.Basic
import ModalLanguage.Token.Kind
import ModalLanguage.Token.Lexeme
import ModalLanguage.Token.Longest
import ModalLanguage.Token.Role
import ModalLanguage.Token.Stream
import ModalLanguage.Tokenizer
