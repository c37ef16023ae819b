import ScanLexer.Lexer.Basic

/-!
# Scanning

The scan operator joins the summaries of two adjacent stretches by one look-up. The summaries of all
prefixes of a text say where its lexemes end and what is accepted at its end.
-/
namespace ScanLexer.Lexer

/-- The summary of two adjacent stretches, given by their ids. -/
def combineIds (L : Lexer) (left right : Datum) : Except Fault Summary := L.table.get left right

def combine (L : Lexer) (left right : Summary) : Except Fault Summary :=
  L.combineIds (.int left.id) (.int right.id)

/-- The summaries of a stretch followed by each prefix of the symbols that is not empty. -/
def prefixesAfter (L : Lexer) (stretch : Summary) : List Int → Except Fault (List Summary)
  | [] => .ok []
  | a :: rest => do
    let next ← L.initialAt a
    let stretch ← L.combine stretch next
    return stretch :: (← L.prefixesAfter stretch rest)

/-- The summaries of all prefixes that are not empty, in order. -/
def prefixes (L : Lexer) : List Int → Except Fault (List Summary)
  | [] => .ok []
  | a :: rest => do
    let stretch ← L.initialAt a
    return stretch :: (← L.prefixesAfter stretch rest)

/-- What is accepted after a text, given the summaries of its prefixes. -/
def accepted (L : Lexer) (prefixes : List Summary) : Except Fault (Option Lexeme) :=
  match prefixes.getLast? with
  | some s => L.finalAt s.id
  | none => .ok none

/-- The symbols up to the next flag, and the pieces from there on. -/
def cut : List (Symbol × Bool) → List Symbol × List (List Symbol)
  | [] => ([], [])
  | (a, emits) :: rest =>
    let (piece, others) := cut rest
    if emits then ([], (a :: piece) :: others) else (a :: piece, others)

/-- The pieces of a text. A new piece begins at every flagged symbol but the first. -/
def pieces : List (Symbol × Bool) → List (List Symbol)
  | [] => [[]]
  | (a, _) :: rest =>
    let (piece, others) := cut rest
    (a :: piece) :: others

end ScanLexer.Lexer
