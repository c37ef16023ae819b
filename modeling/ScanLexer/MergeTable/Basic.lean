import ScanLexer.BuildConfig
import ScanLexer.Memory
import ScanLexer.Summary

/-!
# The merge table

A square table that grows while ids are still being handed out. Cells are addressed by two ids, the
first and the second operand. The table is one flat row of cells with a stride, the capacity; when
it grows, every cell in use moves to its place at the new stride. A cell that was never set reads
as unset.
-/
namespace ScanLexer

/-- The cells in use of a square that lies in one flat row, at the stride of a larger square. -/
def spread {α : Type} (row : Array α) (blank : α) (used stride larger : Nat) : Array α :=
  Array.ofFn fun k : Fin (larger * larger) =>
    let i := k.val % larger
    let j := k.val / larger
    if i < used ∧ j < used then row[i + j * stride]?.getD blank else blank

/-- A growing table of summaries over pairs of ids. The ids are the numbers from zero on that are
below `extent`, which is kept as it was asked for. -/
structure MergeTable where
  growth : Growth
  extent : Datum
  capacity : Nat
  cells : Array Summary
deriving Repr

namespace MergeTable

def empty (growth : Growth) : MergeTable := ⟨growth, .int 0, 0, #[]⟩

def states (t : MergeTable) : Nat := t.extent.ceil.toNat

def make (least factor : Datum) : Except Fault MergeTable :=
  orFault .badGrowth ((Growth.ofChoices? least factor).map empty)

/-- The capacity as it is written. A capacity of one is the least capacity, as it was chosen. -/
def room (t : MergeTable) : Numeral :=
  ⟨t.capacity, if t.capacity = 1 then t.growth.leastStyle else .digits⟩

def offset (t : MergeTable) (i j : Nat) : Nat := i + j * t.capacity

def cell (t : MergeTable) (k : Nat) : Summary := t.cells[k]?.getD .unset

/-- The same cells in use, at the stride of a larger capacity. -/
def resized (t : MergeTable) (capacity : Nat) : Array Summary :=
  spread t.cells .unset t.states t.capacity capacity

/-- The table with room for at least the requested number of ids. It never shrinks. -/
def ensure [Memory] (t : MergeTable) (requested : Datum) : Except Fault MergeTable :=
  if !requested.isNumber then .error (.unordered requested.typeName t.extent.typeName)
  else if requested.atMost t.extent then .ok t
  else
    let n := requested.ceil.toNat
    if n ≤ t.capacity then .ok { t with extent := requested }
    else
      let capacity := t.growth.next n t.capacity
      (Memory.row (capacity * capacity)).map fun _ =>
        { t with extent := requested, capacity := capacity, cells := t.resized capacity }

/-- A request for a whole number is met already, or the capacity covers it, or the table grows. -/
theorem ensure_int [Memory] (t : MergeTable) (n : Int) : t.ensure (.int n) =
    if n ≤ t.extent.floor then .ok t
    else if n.toNat ≤ t.capacity then .ok { t with extent := .int n }
    else
      let capacity := t.growth.next n.toNat t.capacity
      (Memory.row (capacity * capacity)).map fun _ =>
        { t with extent := .int n, capacity := capacity, cells := t.resized capacity } := by
  simp only [ensure, Datum.isNumber_int, Bool.not_true, Bool.false_eq_true, if_false,
    Datum.int_atMost, decide_eq_true_eq]
  rfl

/-- The number of ids becomes the requested one unless it is larger already. -/
theorem states_ensure [Memory] {t t' : MergeTable} {n : Int} (h : t.ensure (.int n) = .ok t') :
    t'.states = max t.states n.toNat := by
  have near := t.extent.floor_le_ceil
  have whole : Datum.ceil (.int n) = n := rfl
  rw [ensure_int] at h
  split at h
  · cases h
    simp only [states]
    omega
  · split at h
    · cases h
      simp only [states, whole]
      omega
    · simp only at h
      generalize t.growth.next n.toNat t.capacity = capacity at h
      generalize Memory.row (capacity * capacity) = room at h
      cases room with
      | error fault => contradiction
      | ok _ =>
        cases h
        simp only [states, whole]
        omega

/-- An id is a number from zero on that is below the number of ids. -/
def checkId (extent i : Datum) : Except Fault Unit :=
  if !i.isNumber then .error (.unordered "int" i.typeName)
  else if i.within extent then .ok ()
  else .error (.outsideTable i.printed extent.printed)

def check (t : MergeTable) (i : Datum) : Except Fault Unit := checkId t.extent i

/-- A whole number from zero on that is below the number of ids is an id. -/
theorem check_int (t : MergeTable) {i : Nat} (h : i < t.states) : t.check (.int i) = .ok () := by
  have below : (i : Int) < t.extent.ceil := by unfold states at h; omega
  simp [check, checkId, Datum.within_int, below]

/-- The place of a cell in the flat row, as a number. The first id is checked before the second. -/
def place (t : MergeTable) (i j : Datum) : Except Fault Datum := do
  t.check i
  t.check j
  return i.plus (j.times (.int t.capacity))

/-- Two ids below their count have a place in the flat row. -/
theorem place_int (t : MergeTable) {i j : Nat} (hi : i < t.states) (hj : j < t.states) :
    t.place (.int i) (.int j) = .ok (.int (t.offset i j)) := by
  have same : (i : Int) + j * t.capacity = t.offset i j := by simp [offset]
  simp [place, t.check_int hi, t.check_int hj, bind, Except.bind, pure, Except.pure, same]

def index (t : MergeTable) (i j : Datum) : Except Fault Nat := do
  orFault .betweenPlaces ((← t.place i j).integer?.map Int.toNat)

theorem index_int (t : MergeTable) {i j : Nat} (hi : i < t.states) (hj : j < t.states) :
    t.index (.int i) (.int j) = .ok (t.offset i j) := by
  simp [index, t.place_int hi hj, bind, Except.bind, orFault, Datum.integer?]

def get (t : MergeTable) (i j : Datum) : Except Fault Summary :=
  return t.cell (← t.index i j)

/-- Where a summary is to be stored, and under which id. The place is found before the id is
read. -/
def slot (t : MergeTable) (i j id : Datum) : Except Fault (Nat × Int) := do
  let k ← t.index i j
  return (k, ← Summary.storedId id)

/-- The table with another summary at a place in the flat row. -/
def write (t : MergeTable) (k : Nat) (s : Summary) : MergeTable :=
  { t with cells := t.cells.setIfInBounds k s }

def store (t : MergeTable) (i j : Nat) (s : Summary) : Except Fault MergeTable :=
  match t.slot (.int i) (.int j) (.int s.id) with
  | .ok (k, id) => .ok (t.write k ⟨id, s.emits⟩)
  | .error fault => .error fault

/-- The table with another summary, given by its parts, in a cell. -/
def set (t : MergeTable) (i j : Datum) (parts : List Datum) : Except Fault MergeTable := do
  let (id, emits) ← Summary.parts parts
  let (k, id) ← t.slot i j id
  return t.write k ⟨id, emits.truth⟩

def printed (t : MergeTable) : String :=
  "<MergeTable states=" ++ t.extent.printed ++ " capacity=" ++ t.room.printed ++ ">"

end MergeTable

end ScanLexer
