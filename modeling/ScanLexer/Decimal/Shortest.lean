import ScanLexer.Decimal

/-!
# Machine numbers as decimals

A machine number is the nearest one to every size in a small span around it. It is written as the
decimal in that span that has the fewest digits; of several such decimals the nearest one is taken,
and halfway between two of them the even one.
-/
namespace ScanLexer.Decimal

/-- The size of a machine number, with the span of the sizes that it is nearest to. All three
count units of `2 ^ exponent`, a quarter of the machine number's last bit. The ends belong to the
span if it is closed. -/
structure Span where
  low : Nat
  size : Nat
  high : Nat
  closed : Bool
  exponent : Int
deriving Repr

namespace Span

/-- The span of a machine number from the two parts that encode its size. Below a power of two
machine numbers lie twice as close. -/
def ofParts (power fraction : Nat) : Span :=
  let count := if power = 0 then fraction else fraction + Nat.pow 2 52
  let below := if fraction = 0 ∧ 1 < power then 1 else 2
  { low := 4 * count - below
    size := 4 * count
    high := 4 * count + 2
    closed := count % 2 = 0
    exponent := (max 1 power : Nat) - (1077 : Int) }

/-- So many units on the scale that makes both units and steps of `10 ^ power` whole. -/
def scaled (s : Span) (power : Int) (n : Nat) : Nat :=
  n * Nat.pow 2 s.exponent.toNat * Nat.pow 10 (-power).toNat

/-- A step of `10 ^ power` on the same scale. -/
def step (s : Span) (power : Int) : Nat :=
  Nat.pow 10 power.toNat * Nat.pow 2 (-s.exponent).toNat

/-- Whether so many steps of `10 ^ power` lie in the span. -/
def holds (s : Span) (power : Int) (count : Nat) : Bool :=
  let place := count * s.step power
  if s.closed then s.scaled power s.low ≤ place && place ≤ s.scaled power s.high
  else s.scaled power s.low < place && place < s.scaled power s.high

/-- The number of steps of `10 ^ power` that is nearest to the machine number among those that lie
in the span. Only the two counts around the machine number come into question. -/
def count? (s : Span) (power : Int) : Option Nat :=
  let below := s.scaled power s.size / s.step power
  let twice := 2 * (s.scaled power s.size % s.step power)
  let nearer := s.step power < twice || (s.step power = twice && below % 2 = 1)
  match s.holds power below, s.holds power (below + 1) with
  | true, true => some (if nearer then below + 1 else below)
  | true, false => some below
  | false, true => some (below + 1)
  | false, false => none

/-- A power of ten above the machine number. -/
def top (s : Span) : Int := (s.size.log2 + s.exponent + 1) * 30103 / 100000 + 1

/-- The decimal in the span with the fewest digits. Seventeen digits always do. -/
def shortest (s : Span) (negative : Bool) : Decimal :=
  let found := (List.range 20).findSome? fun k : Nat =>
    (s.count? (s.top - k)).map fun count => (⟨negative, count, s.top - k⟩ : Decimal)
  found.getD ⟨negative, 0, 0⟩

end Span

def isNegative (x : Float) : Bool := x.toBits.toNat / Nat.pow 2 63 = 1

/-- The span of a machine number, from its encoding. -/
def spanOf (x : Float) : Span :=
  let bits := x.toBits.toNat
  .ofParts (bits / Nat.pow 2 52 % 2048) (bits % Nat.pow 2 52)

def ofFloat (x : Float) : Decimal :=
  let span := spanOf x
  if x.isInf then infinite (isNegative x)
  else if span.size = 0 then ⟨isNegative x, 0, 0⟩
  else span.shortest (isNegative x)

end ScanLexer.Decimal
