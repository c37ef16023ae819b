import ScanLexer.Fault

/-!
# Room in memory

Sizes are counted in 64 bits, and a size that cannot be counted is refused on every machine. How
much of what can be counted can be had as well is up to the machine.
-/
namespace ScanLexer

/-- A machine, as far as it hands out memory: whether so many bytes can be had at once. With a size
every smaller one can be had, and to ask for nothing is always granted. -/
class Memory where
  has : Nat → Bool
  has_zero : has 0 = true
  has_of_le {size more : Nat} : size ≤ more → has more = true → has size = true

namespace Memory

/-- A machine that hands out whatever takes fewer bytes than a limit. -/
@[reducible]
def below (limit : Nat) (positive : 0 < limit) : Memory where
  has size := decide (size < limit)
  has_zero := decide_eq_true positive
  has_of_le le more := decide_eq_true (Nat.lt_of_le_of_lt le (of_decide_eq_true more))

section
variable [Memory]

/-- Room for `n` entries that take `size` bytes in all. A number below zero asks for nothing. -/
def ask (n size : Int) : Except Fault Unit :=
  if !fitsWord 64 n then .error .sizeTooLarge
  else if !has size.toNat then .error .noMemory
  else .ok ()

def buffer (n : Int) : Except Fault Unit :=
  if fitsWord 64 n && n < 0 then .error .negativeCount else ask n n

/-- Room for a fixed byte string. It takes 33 bytes more than it holds, and its size is counted with
them. -/
def bytes (n : Int) : Except Fault Unit :=
  if fitsWord 64 n && !fitsWord 64 (n + 33) then .error .bytesTooLong else buffer n

/-- Room for a list. Each entry takes eight bytes. -/
def list (n : Int) : Except Fault Unit := ask n (8 * n)

/-- Room for a row of cells, each of which takes so many bytes. -/
def cells (width count : Nat) : Except Fault Unit :=
  if !fitsWord 64 count then .error .tooManyCells
  else if !fitsWord 64 (width * count) then .error .tooManyBytes
  else if !has (width * count) then .error (.outOfMemory width count)
  else .ok ()

/-- Room for a row of ids. Each takes four bytes. -/
def row (count : Nat) : Except Fault Unit := cells 4 count

end

end Memory

end ScanLexer
