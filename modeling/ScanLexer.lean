import ScanLexer.Automaton.Basic
import ScanLexer.Automaton.Dot
import ScanLexer.Automaton.Parts
import ScanLexer.Automaton.Picture
import ScanLexer.Automaton.Printed
import ScanLexer.Automaton.Restart
import ScanLexer.Automaton.Run
import ScanLexer.Behaviour
import ScanLexer.BuildConfig
import ScanLexer.Contract
import ScanLexer.Datum.Basic
import ScanLexer.Datum.Number
import ScanLexer.Datum.Printed
import ScanLexer.Datum.Reading
import ScanLexer.Datum.Value
import ScanLexer.Decimal
import ScanLexer.Decimal.Arithmetic
import ScanLexer.Decimal.Shortest
import ScanLexer.Fault
import ScanLexer.Interner
import ScanLexer.Lexeme
import ScanLexer.Lexer.Basic
import ScanLexer.Lexer.Catalogue
import ScanLexer.Lexer.Report
import ScanLexer.Lexer.Scan
import ScanLexer.Lexer.Tables
import ScanLexer.Main
import ScanLexer.Memory
import ScanLexer.Memory.Ordinary
import ScanLexer.MergeTable.Basic
import ScanLexer.MergeTable.Buffers
import ScanLexer.MergeTable.Rows
import ScanLexer.Method
import ScanLexer.Numeral
import ScanLexer.Position
import ScanLexer.Proofs.Automaton.Alphabet
import ScanLexer.Proofs.Automaton.Built
import ScanLexer.Proofs.Automaton.Cutting
import ScanLexer.Proofs.Automaton.Drawing
import ScanLexer.Proofs.Automaton.Following
import ScanLexer.Proofs.Automaton.Growing
import ScanLexer.Proofs.Automaton.Histories
import ScanLexer.Proofs.Automaton.Labelling
import ScanLexer.Proofs.Automaton.Parts
import ScanLexer.Proofs.Automaton.Prolonging
import ScanLexer.Proofs.Automaton.Reading
import ScanLexer.Proofs.Automaton.Restarting
import ScanLexer.Proofs.Automaton.Shuffling
import ScanLexer.Proofs.Automaton.Spelling
import ScanLexer.Proofs.Behaviour.Algebra
import ScanLexer.Proofs.Behaviour.Laws
import ScanLexer.Proofs.Behaviour.Printing
import ScanLexer.Proofs.Calls
import ScanLexer.Proofs.Catalogue.Bound
import ScanLexer.Proofs.Catalogue.Closing
import ScanLexer.Proofs.Catalogue.Counting
import ScanLexer.Proofs.Catalogue.Lockstep
import ScanLexer.Proofs.Catalogue.Progress
import ScanLexer.Proofs.Contract.Acceptance
import ScanLexer.Proofs.Contract.Checks
import ScanLexer.Proofs.Distinct
import ScanLexer.Proofs.Lexer.ArcOrder
import ScanLexer.Proofs.Lexer.Building
import ScanLexer.Proofs.Lexer.Checking
import ScanLexer.Proofs.Lexer.Compiled
import ScanLexer.Proofs.Lexer.Composition
import ScanLexer.Proofs.Lexer.Configuration
import ScanLexer.Proofs.Lexer.Exporting
import ScanLexer.Proofs.Lexer.Initial
import ScanLexer.Proofs.Lexer.Machines
import ScanLexer.Proofs.Lexer.Padding
import ScanLexer.Proofs.Lexer.Patching
import ScanLexer.Proofs.Lexer.Pieces
import ScanLexer.Proofs.Lexer.Prefixes
import ScanLexer.Proofs.Lexer.Remerging
import ScanLexer.Proofs.Lexer.Renumbering
import ScanLexer.Proofs.Lexer.Rounds
import ScanLexer.Proofs.Lexer.Scanning
import ScanLexer.Proofs.Lexer.Semigroup
import ScanLexer.Proofs.Lexer.Twins
import ScanLexer.Proofs.Lexer.Verdict
import ScanLexer.Proofs.MergeTable.Buffers
import ScanLexer.Proofs.MergeTable.Cells
import ScanLexer.Proofs.MergeTable.Forgetting
import ScanLexer.Proofs.MergeTable.History
import ScanLexer.Proofs.MergeTable.Layout
import ScanLexer.Proofs.MergeTable.Room
import ScanLexer.Proofs.Outcome
import ScanLexer.Proofs.Registry.Firsts
import ScanLexer.Proofs.Registry.Interning
import ScanLexer.Proofs.Registry.Ledger
import ScanLexer.Proofs.Registry.Numbering
import ScanLexer.Proofs.Sample.Arithmetic
import ScanLexer.Proofs.Sample.Keywords
import ScanLexer.Proofs.Sample.Kinds
import ScanLexer.Proofs.Sample.Runs
import ScanLexer.Proofs.Token.Numbering
import ScanLexer.Random.Digest
import ScanLexer.Random.Twister
import ScanLexer.Registry
import ScanLexer.Sample.Basic
import ScanLexer.Sample.Random
import ScanLexer.Summary
import ScanLexer.Symbol
import ScanLexer.Symbol.Spelling
import ScanLexer.Text.Digit
import ScanLexer.Text.Markup
import ScanLexer.Text.Printable
import ScanLexer.Text.Quoted
import ScanLexer.Text.Size
import ScanLexer.Text.Whole
import ScanLexer.Token.Basic
import ScanLexer.Token.Mapping
import ScanLexer.Transition
import ScanLexer.Walkthrough
import ScanLexer.Word
