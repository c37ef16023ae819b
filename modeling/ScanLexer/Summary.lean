import ScanLexer.Datum.Reading

/-!
# Summaries

A scan knows a stretch of input by two things: the id of its behaviour, and whether its last step
closes a lexeme when the stretch is read from the start.
-/
namespace ScanLexer

structure Summary where
  id : Int
  emits : Bool
deriving DecidableEq, Repr

namespace Summary

def unset : Summary := ⟨-1, false⟩

/-- The two parts that make a summary: what its id is read from, and what its flag is the truth
of. -/
def parts : List Datum → Except Fault (Datum × Datum)
  | [id, emits] => .ok (id, emits)
  | [] => .error (.tooFewParts 0 2)
  | [_] => .error (.tooFewParts 1 2)
  | _ => .error (.tooManyParts 2)

/-- An id is stored in 32 bits. -/
def storable (id : Int) : Except Fault Int :=
  if fitsWord 32 id then .ok id
  else if fitsWord 64 id then .error (.outside32Bits id)
  else .error .outside64Bits

/-- The fault that storing a value ends in. Of a list, and of a byte string that may change, it is
told that one number is stored at a time, whatever went wrong. -/
def storeFault : Datum → Fault → Fault
  | .list _, _ | .buffer _, _ => .listForNumber
  | _, fault => fault

/-- The id that is stored for a value. -/
def storedId (d : Datum) : Except Fault Int :=
  (do storable (← d.read)).mapError (storeFault d)

end Summary

end ScanLexer
