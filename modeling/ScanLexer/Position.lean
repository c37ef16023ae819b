/-!
# Signed positions

A position in a sequence is a whole number. Counting starts at zero, and a negative number counts
back from the end, so `-1` is the last entry.
-/
namespace ScanLexer

/-- The place that a signed position names among `size` entries, if it names one. -/
def position (size : Nat) (i : Int) : Option Nat :=
  if 0 ≤ i then
    if i < size then some i.toNat else none
  else if 0 ≤ i + size then some (i + size).toNat
  else none

def entryAt {α : Type} (xs : List α) (i : Int) : Option α :=
  (position xs.length i).bind (xs[·]?)

theorem position_lt {size : Nat} {i : Int} {k : Nat} (h : position size i = some k) : k < size := by
  unfold position at h
  grind

@[simp] theorem position_natCast (size k : Nat) :
    position size k = if k < size then some k else none := by
  unfold position
  grind

@[simp] theorem entryAt_natCast {α : Type} (xs : List α) (k : Nat) : entryAt xs k = xs[k]? := by
  unfold entryAt
  by_cases h : k < xs.length <;> simp [h]

end ScanLexer
