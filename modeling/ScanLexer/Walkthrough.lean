import ScanLexer.Lexer.Report
import ScanLexer.Lexer.Scan
import ScanLexer.Memory.Ordinary
import ScanLexer.Sample.Basic

/-!
# A walk through a scan

The arithmetic automaton is compiled, its tables are checked, and a text is cut into its lexemes by
the summaries of its prefixes.
-/
namespace ScanLexer.Walkthrough

def text : List Symbol := "12 + (3*45)".toList.filterMap fun c => Symbol.ofInt? c.toNat

/-- What is shown of an accepted lexeme. -/
def shown : Option Lexeme → String
  | some lexeme => lexeme.shown
  | none => "None"

/-- The lexemes of the text, one on a line, and what is accepted at its end. -/
def lexemes (L : Lexer) : Except Fault String := do
  let prefixes ← L.prefixes (text.map fun a => (a.val : Int))
  let final ← L.accepted prefixes
  let pieces := Lexer.pieces (text.zip (prefixes.map Summary.emits))
  return String.join (pieces.map fun piece => "  " ++ Text.quotedBytes piece ++ "\n") ++
    "final lexeme: " ++ shown final ++ "\n"

def transcript : Except Fault String := do
  let A := Sample.arith
  let L ← Lexer.compile A BuildConfig.usual.growth
  let report := L.report true
  let _ ← report.verdict
  return "Automaton: " ++ toString A.size ++ " state(s)\n\n" ++ L.printed ++ "\n" ++ L.sizes ++
    "\n" ++ report.printed ++ "\n" ++ (← lexemes L)

end ScanLexer.Walkthrough
