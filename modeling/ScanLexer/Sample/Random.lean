import ScanLexer.Datum.Number
import ScanLexer.Random.Digest
import ScanLexer.Random.Twister
import ScanLexer.Sample.Basic

/-!
# Random automata

An automaton whose arcs, flags and labels are drawn from a seeded generator.
-/
namespace ScanLexer

/-- The number that a value stands for as a threshold. -/
def Datum.toFloat : Datum → Float
  | .decimal d => d.toFloat
  | d => Float.ofInt (d.integer?.getD 0)

/-- The seed that an infinite value gives. -/
def Decimal.infiniteSeed : Nat := 314159

/-- The seed that a decimal gives: the remainder of its value modulo `2 ^ 61 - 1`, where 61
doublings change nothing. With a minus sign it counts back from `2 ^ 64`, and never by one. -/
def Decimal.seed (d : Decimal) : Int :=
  let span := Decimal.spanOf d.toFloat
  let doublings := (span.exponent % 61).toNat
  let remainder :=
    if d.isInfinite then infiniteSeed else span.size * Nat.pow 2 doublings % (Nat.pow 2 61 - 1)
  if d.negative ∧ remainder ≠ 0 then Nat.pow 2 64 - max 2 remainder else remainder

/-- The seed that bytes give: the number that they write with their digest behind them. -/
def Digest.seed (message : List UInt8) : Nat := number (message ++ digest message)

/-- The seed that a value gives. A text gives that of its encoding in bytes. -/
def Datum.seed : Datum → Int
  | .decimal d => d.seed
  | .text s => Digest.seed (s.toList.flatMap String.utf8EncodeChar)
  | .bytes content | .buffer content => Digest.seed (content.map fun a => UInt8.ofNat a.val)
  | d => d.truncated

namespace Sample

/-- How a random automaton is drawn: the chance of an arc and that of a label. -/
structure Chances where
  arc : Float
  label : Float

abbrev Draw := StateT Twister (Except Fault)

def chance (p : Float) : Draw Bool := do
  let (x, g) := (← get).fraction
  set g
  return x < p

def number (n : Nat) : Draw Nat := do
  let (k, g) := (← get).below n
  set g
  return k

/-- Perhaps draw an arc of a state on a symbol: whether there is one, then where it leads, then
whether it emits. -/
def drawArc (chances : Chances) (i : Nat) (A : Automaton) (a : Datum) : Draw Automaton := do
  if ← chance chances.arc then
    let j ← number A.size
    let emits ← chance 0.3
    A.add (.int i) a (.int j) emits
  else return A

def drawState (chances : Chances) (alphabet : List Datum) (A : Automaton) (i : Nat) :
    Draw Automaton := do
  let A ← if ← chance chances.label then
      A.setLexeme (.int i) (token ("tok" ++ toString i))
    else pure A
  alphabet.foldlM (drawArc chances i) A

/-- A random automaton of `n` states over an alphabet. -/
def random (n : Int) (alphabet : List Datum) (seed : Int) (chances : Chances) :
    Except Fault Automaton := do
  let A ← Automaton.ofSize n
  ((List.range A.size).foldlM (drawState chances alphabet) A).run' (.ofSeed seed)

end Sample

end ScanLexer
