import ScanLexer.Method
import ScanLexer.MergeTable.Rows
import ScanLexer.Position

/-!
# The merge table as it is stored

The cells lie in two flat rows, one for the ids and one for the flags, and a summary is stored in
two steps, one for each row. The rows are looked up and stored into apart from each other, so
nothing but their lengths keeps a store from breaking off halfway.
-/
namespace ScanLexer

/-- A merge table as two rows of cells. -/
structure Buffers where
  growth : Growth
  extent : Datum
  capacity : Nat
  ids : Array Int
  flags : Array Bool
deriving DecidableEq, Repr

namespace Buffers

open Method

def empty (growth : Growth) : Buffers := ⟨growth, .int 0, 0, #[], #[]⟩

def make (least factor : Datum) : Except Fault Buffers :=
  orFault .badGrowth ((Growth.ofChoices? least factor).map empty)

/-- A row may be taken as a square if it has as many cells. -/
def checkSquare (cells side : Nat) : Except Fault Unit :=
  if cells = side * side then .ok () else .error (.noSquare cells side)

/-- How many rows and columns of a square are in use. A decimal cannot be counted up to. -/
def used (extent : Datum) : Except Fault Nat := orFault .notASlice (extent.integer?.map Int.toNat)

/-- How much of both rows is in use, once they may be taken as squares. Of a table without ids
nothing is. -/
def corner : Method Buffers Nat := do
  let b ← now
  if b.extent.truth then
    demand (checkSquare b.ids.size b.capacity)
    demand (checkSquare b.flags.size b.capacity)
    demand (used b.extent)
  else return 0

/-- The rows at a larger capacity. There has to be room for both of them before a cell is moved. -/
def grow [Memory] (requested : Datum) (capacity : Nat) : Method Buffers Unit := do
  demand (Memory.row (capacity * capacity))
  demand (Memory.cells 1 (capacity * capacity))
  let n ← corner
  modify fun b => { b with
    extent := requested
    capacity := capacity
    ids := spread b.ids Summary.unset.id n b.capacity capacity
    flags := spread b.flags Summary.unset.emits n b.capacity capacity }

def ensure [Memory] (requested : Datum) : Method Buffers Unit := do
  let b ← now
  if !requested.isNumber then throw (.unordered requested.typeName b.extent.typeName)
  else if requested.atMost b.extent then return
  else if requested.ceil.toNat ≤ b.capacity then modify fun b => { b with extent := requested }
  else grow requested (b.growth.next requested.ceil.toNat b.capacity)

/-- The place of a cell in either row, as a number. -/
def index (i j : Datum) : Method Buffers Datum := do
  let b ← now
  demand (MergeTable.checkId b.extent i)
  demand (MergeTable.checkId b.extent j)
  return i.plus (j.times (.int b.capacity))

/-- The cell of a row that a number names. It counts back from the end if it is negative. -/
def seat (cells : Nat) (k : Datum) : Except Fault Nat :=
  match k.integer? with
  | none => .error .betweenPlaces
  | some i => orFault (.outsideRow i cells) (position cells i)

def get (i j : Datum) : Method Buffers Summary := do
  let k ← index i j
  let b ← now
  let id ← demand (seat b.ids.size k)
  let emits ← demand (seat b.flags.size k)
  return ⟨b.ids[id]?.getD Summary.unset.id, b.flags[emits]?.getD Summary.unset.emits⟩

def putId (k id : Datum) : Method Buffers Unit := do
  let b ← now
  let place ← demand (seat b.ids.size k)
  let stored ← demand (Summary.storedId id)
  modify fun b => { b with ids := b.ids.setIfInBounds place stored }

def putFlag (k emits : Datum) : Method Buffers Unit := do
  let b ← now
  let place ← demand (seat b.flags.size k)
  modify fun b => { b with flags := b.flags.setIfInBounds place emits.truth }

/-- A summary, given by its parts, is put into a cell: its id first, and then its flag. -/
def set (i j : Datum) (parts : List Datum) : Method Buffers Unit := do
  let (id, emits) ← demand (Summary.parts parts)
  let k ← index i j
  putId k id
  putFlag k emits

/-- The cells in use of both rows, one row per first operand. -/
def arrays : Method Buffers (List (List Int) × List (List Bool)) := do
  let b ← now
  demand (checkSquare b.ids.size b.capacity)
  let n ← demand (used b.extent)
  demand (checkSquare b.flags.size b.capacity)
  return (transposed b.ids Summary.unset.id n b.capacity,
    transposed b.flags Summary.unset.emits n b.capacity)

end Buffers

end ScanLexer
