import ScanLexer.MergeTable.Basic

/-!
# The merge table as rows

A scan runtime takes the table as a square of rows. The flat row is cut into columns, one per second
operand, and the columns are turned into rows, one per first operand.
-/
namespace ScanLexer

/-- The cells in use of a square that lies in one flat row: it is cut into columns, one per second
operand, and the columns are turned into rows. -/
def transposed {α : Type} (row : Array α) (blank : α) (used stride : Nat) : List (List α) :=
  let columns := (List.range used).map fun j => row.extract (j * stride) (j * stride + used)
  (List.range used).map fun i => columns.map fun column => column[i]?.getD blank

namespace MergeTable

/-- The cells in use, one row per first operand. -/
def rows (t : MergeTable) : List (List Summary) := transposed t.cells .unset t.states t.capacity

def idRows (t : MergeTable) : List (List Int) := t.rows.map fun row => row.map Summary.id

def flagRows (t : MergeTable) : List (List Bool) := t.rows.map fun row => row.map Summary.emits

end MergeTable

end ScanLexer
