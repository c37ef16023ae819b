import ScanLexer.Datum.Printed
import ScanLexer.Token.Basic

/-!
# Lexemes

A state may be labelled with what it accepts: a token, or a value such as a text or a number.
-/
namespace ScanLexer

inductive Lexeme where
  | datum (value : Datum)
  | token (value : Token)
deriving DecidableEq, Repr

def Lexeme.shown : Lexeme → String
  | datum d => d.shown
  | token t => t.text

end ScanLexer
