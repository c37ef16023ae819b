import ScanLexer.Datum.Printed
import ScanLexer.Fault

/-!
# Spellings of a symbol

A byte may be written as a number, as a text of one character or as a byte string of one byte.
-/
namespace ScanLexer.Symbol

/-- The symbol that a value spells, if it spells one. -/
def ofDatum? : Datum → Option Symbol
  | .text s =>
    match s.toList with
    | [c] => ofInt? c.toNat
    | _ => none
  | .bytes content | .buffer content =>
    match content with
    | [a] => some a
    | _ => none
  | d => d.integer?.bind ofInt?

def read (d : Datum) : Except Fault Symbol :=
  orFault .notASymbol (ofDatum? d)

/-- The number that a value spells, which need not be a byte: a number is itself, and a text of one
character is its code point. -/
def code (d : Datum) : Except Fault Int :=
  match d with
  | .text s =>
    match s.toList with
    | [c] => .ok c.toNat
    | _ => .error .notASymbol
  | d =>
    match d.integer? with
    | some n => .ok n
    | none => return (← read d).val

end ScanLexer.Symbol
