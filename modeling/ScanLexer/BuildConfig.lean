import ScanLexer.Datum.Number
import ScanLexer.Datum.Printed
import ScanLexer.Fault

/-!
# Build configuration

A table grows by a fixed factor from a least capacity. Both are fixed when the table is made.
-/
namespace ScanLexer

structure Growth where
  least : Nat
  factor : Nat
  leastStyle : Numeral.Style
  one_le_least : 1 ≤ least
  two_le_factor : 2 ≤ factor
deriving DecidableEq, Repr

namespace Growth

/-- The growth with a given least capacity and factor, if they are large enough. -/
def ofChoices? (least factor : Datum) : Option Growth :=
  if h : 1 ≤ least.floor ∧ 2 ≤ factor.floor then
    some ⟨least.floor.toNat, factor.floor.toNat, least.style, by omega, by omega⟩
  else none

/-- Growing from a capacity by the factor until it covers a need. -/
def reach (g : Growth) (need capacity : Nat) (positive : 0 < capacity) : Nat :=
  if capacity < need then
    g.reach need (capacity * g.factor) (Nat.mul_pos positive (by have := g.two_le_factor; omega))
  else capacity
termination_by need - capacity
decreasing_by
  have := Nat.mul_le_mul_left capacity g.two_le_factor
  omega

/-- The next capacity that covers a need, from the present one on. -/
def next (g : Growth) (need capacity : Nat) : Nat :=
  g.reach need (max g.least capacity) (by have := g.one_le_least; omega)

end Growth

/-- What may be chosen when a lexer is built, and the growth that follows from it. Progress may be
reported; that changes no result. -/
structure BuildConfig where
  least : Datum
  factor : Datum
  progress : Datum
  growth : Growth
deriving Repr

namespace BuildConfig

def usualLeast : Datum := .int 8

def usualFactor : Datum := .int 2

/-- No progress is reported unless asked for. -/
def usualProgress : Datum := .bool false

/-- The configuration with given choices. Of two faults the least capacity's comes first. -/
def ofChoices (least factor progress : Datum) : Except Fault BuildConfig :=
  if least.floor < 1 then .error (.tooSmall least.printed)
  else
    match Growth.ofChoices? least factor with
    | some growth => .ok ⟨least, factor, progress, growth⟩
    | none => .error (.tooSmall factor.printed)

def usual : BuildConfig :=
  ⟨usualLeast, usualFactor, usualProgress, ⟨8, 2, .digits, by decide, by decide⟩⟩

def printed (c : BuildConfig) : String :=
  "BuildConfig(min_capacity=" ++ c.least.printed ++ ", grow_factor=" ++ c.factor.printed ++
    ", progress=" ++ c.progress.printed ++ ")"

end BuildConfig

end ScanLexer
