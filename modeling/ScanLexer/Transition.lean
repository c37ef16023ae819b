/-!
# Transitions

Reading a symbol in a state leads to a state, or nowhere, and may close the lexeme read so far.
-/
namespace ScanLexer

/-- A state, or nothing once the input has been rejected. -/
abbrev Target := Option Int

namespace Target

def rejected : Int := -1

/-- The state with a given number; `-1` stands for none. -/
def ofInt (i : Int) : Target := if i = rejected then none else some i

def toInt : Target → Int
  | none => rejected
  | some i => i

@[simp] theorem ofInt_natCast (k : Nat) : ofInt k = some (k : Int) := by
  unfold ofInt rejected
  grind

end Target

/-- Where a step leads, and whether it closes a lexeme. -/
structure Transition where
  target : Target
  emits : Bool
deriving DecidableEq, Repr

namespace Transition

/-- The step that leads nowhere and closes nothing. -/
def reject : Transition := ⟨none, false⟩

/-- Staying in a state closes nothing. -/
def stay (target : Target) : Transition := ⟨target, false⟩

end Transition

end ScanLexer
