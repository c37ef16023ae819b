import ScanLexer.Lexer.Basic
import ScanLexer.MergeTable.Rows

/-!
# Tables for a scan runtime

A scan runtime is handed the tables as plain arrays, ids and flags apart. The arrays of the bytes
have an entry for each byte, those of the merge table a row for each first operand.
-/
namespace ScanLexer.Lexer

structure Tables where
  initialIds : List Int
  initialFlags : List Bool
  mergedIds : List (List Int)
  mergedFlags : List (List Bool)
  finals : List (Option Lexeme)
  identity : Nat
deriving DecidableEq, Repr

/-- The tables as arrays. Ids of bytes have to fit 32 bits, as those in the merge table do. -/
def tables (L : Lexer) : Except Fault Tables := do
  let initialIds ← L.initial.mapM fun s => Summary.storable s.id
  return {
    initialIds := initialIds
    initialFlags := L.initial.map Summary.emits
    mergedIds := L.table.idRows
    mergedFlags := L.table.flagRows
    finals := L.finals
    identity := L.identity }

end ScanLexer.Lexer
