import ScanLexer.Datum.Number
import ScanLexer.Datum.Printed
import ScanLexer.Memory

/-!
# Data read as numbers and as bytes

Where a whole number is needed, a text or a byte string is read by its digits and a decimal is cut
toward zero; any other value is refused unless it stands for a whole number. Where a byte string is
needed, it is made of numbers, or of so many zeros.
-/
namespace ScanLexer

namespace Datum

/-- The whole number that figures stand for. A fault shows them as they are written. -/
def readFigures (figures written : String) : Except Fault Int :=
  match Text.readWhole figures with
  | .number i => .ok i
  | .tooLong digits => .error (.tooManyDigits digits)
  | .malformed => .error (.noWholeNumber written)

/-- A byte as a figure. A byte beyond the first 128 is none, and no blank. -/
def figure (a : Symbol) : Char := if a.val < 128 then a.char else '\x00'

def read : Datum → Except Fault Int
  | text s => readFigures s (Text.quoted s)
  | bytes content | buffer content =>
    readFigures (String.ofList (content.map figure)) (Text.quotedBytes (content.take 200))
  | decimal d => if d.isInfinite then .error .infinite else .ok d.truncated
  | d => orFault (.notConvertible d.typeName) d.integer?

@[simp] theorem read_int (n : Int) : read (int n) = .ok n := rfl

/-- The bytes that a value stands for: a number stands for so many zeros, for which there has to be
room, and a sequence for its numbers. -/
def readBytes (room : Int → Except Fault Unit) (fault : Fault) (d : Datum) :
    Except Fault (List Symbol) :=
  match d.integer? with
  | some n => (room n).map fun _ => List.replicate n.toNat 0
  | none => d.elements.mapM fun a => orFault fault (Symbol.ofInt? a.truncated)

/-- The fixed byte string that a value stands for. -/
def readFixed [Memory] (d : Datum) : Except Fault Datum :=
  (d.readBytes Memory.bytes .byteOfFixed).map bytes

/-- The byte string that may change that a value stands for. -/
def readBuffer [Memory] (d : Datum) : Except Fault Datum :=
  (d.readBytes Memory.buffer .byteOfBuffer).map buffer

end Datum

end ScanLexer
