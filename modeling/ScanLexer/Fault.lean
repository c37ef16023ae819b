import ScanLexer.Text.Size
import ScanLexer.Text.Whole
import ScanLexer.Word

/-!
# Faults

Everything that can go wrong, by cause. A fault carries what its message shows; values that a
caller wrote are kept in their written form.
-/
namespace ScanLexer

inductive Fault.Kind where
  | value
  | assertion
  | position
  | key
  | overflow
  | memory
  | type
deriving DecidableEq, Repr

/-- Why an operation failed. -/
inductive Fault where
  | noStartState
  | unknownState (written : String)
  | notASymbol
  | arcExists (state symbol : String)
  /-- A list has no entry at the position. -/
  | noListEntry
  /-- A list has no entry at the position to be replaced. -/
  | noListPlace
  /-- A behaviour has no entry for the state. -/
  | noBehaviourEntry
  /-- A position needs more than 64 bits. -/
  | positionTooLarge
  | negativeState
  | lengthsDiffer (left right : Nat)
  | outsideTable (position states : String)
  /-- A cell lies between the places of the table. -/
  | betweenPlaces
  /-- A value that is taken apart has too few parts. -/
  | tooFewParts (count expected : Nat)
  /-- A value that is taken apart has too many parts. -/
  | tooManyParts (expected : Nat)
  | noWholeNumber (written : String)
  | tooManyDigits (count : Nat)
  /-- An infinite value stands where a whole number is needed. -/
  | infinite
  /-- A number in a fixed byte string is no byte. -/
  | byteOfFixed
  /-- A number in a byte string that may change is no byte. -/
  | byteOfBuffer
  /-- A byte string of a negative length was asked for. -/
  | negativeCount
  /-- A fixed byte string was asked for that is longer than can be counted. -/
  | bytesTooLong
  /-- A sequence stands where one number is stored. -/
  | listForNumber
  /-- No number can be made of a value of this type. -/
  | notConvertible (type : String)
  /-- Values of these types have no order. -/
  | unordered (left right : String)
  /-- A value of this type is no place in a row. -/
  | notAPlace (type : String)
  /-- A row cannot be made so many times as long, given by a value of this type. -/
  | notALength (type : String)
  /-- A row cannot be cut at a place that is no whole number. -/
  | notASlice
  /-- A place is outside a row of so many cells. -/
  | outsideRow (place : Int) (cells : Nat)
  /-- A row of cells has not as many as a square. -/
  | noSquare (cells side : Nat)
  | outside32Bits (value : Int)
  | outside64Bits
  | unknownKind (written : String)
  | unknownToken (token : String)
  /-- More ids are in use than any backing type can count. -/
  | tooManyIds (count : String)
  /-- A least capacity or a growth factor is too small. -/
  | tooSmall (written : String)
  /-- A table was asked for with a least capacity or a growth factor that is too small. -/
  | badGrowth
  | emptyAutomaton
  /-- An arc's symbol is no byte. -/
  | arcSymbol (written : String)
  /-- An arc leads to no state of the automaton. -/
  | arcTarget (source : Nat) (target : String)
  | arcsConflict (source : Nat) (symbol : String)
  | sizeTooLarge
  /-- More was asked for than can be had. -/
  | noMemory
  /-- A table would have more cells than can be counted. -/
  | tooManyCells
  /-- A table would take more bytes than can be counted. -/
  | tooManyBytes
  /-- A row of cells, each of so many bytes, would take more than can be had. -/
  | outOfMemory (width cells : Nat)
  /-- The merge table does not cover the ids that were handed out. -/
  | closureIncomplete
  | checkFailed
deriving DecidableEq, Repr

namespace Fault

def kind : Fault → Kind
  | noStartState | unknownState _ | notASymbol | arcExists .. | tooFewParts .. | tooManyParts _
  | noWholeNumber _ | tooManyDigits _ | byteOfFixed | byteOfBuffer | negativeCount | listForNumber
  | unknownKind _ | tooManyCells | tooManyBytes | noSquare .. => .value
  | noListEntry | noListPlace | noBehaviourEntry | positionTooLarge | betweenPlaces
  | outsideRow .. => .position
  | unknownToken _ => .key
  | outside32Bits _ | outside64Bits | infinite | tooManyIds _ | bytesTooLong | sizeTooLarge =>
    .overflow
  | noMemory | outOfMemory .. => .memory
  | notConvertible _ | unordered .. | notAPlace _ | notALength _ | notASlice => .type
  | negativeState | lengthsDiffer .. | outsideTable .. | tooSmall _ | badGrowth | emptyAutomaton
  | arcSymbol _ | arcTarget .. | arcsConflict .. | closureIncomplete | checkFailed => .assertion

/-- The text that a reader sees. Numbers in it are written out, whatever their size. -/
def message : Fault → String
  | noStartState => "Need at least the start state"
  | unknownState written => "Unknown state " ++ written
  | notASymbol => "Symbol out of range 0..255"
  | arcExists state symbol =>
    "State " ++ state ++ " already has a transition on " ++ symbol ++ "; not deterministic"
  | noListEntry => "list index out of range"
  | noListPlace => "list assignment index out of range"
  | noBehaviourEntry => "tuple index out of range"
  | positionTooLarge => "cannot fit 'int' into an index-sized integer"
  | negativeState => "use apply() to look up REJECT"
  | lengthsDiffer left right => "(" ++ toString left ++ ", " ++ toString right ++ ")"
  | outsideTable position states => "(" ++ position ++ ", " ++ states ++ ")"
  | betweenPlaces =>
    "only integers, slices (`:`), ellipsis (`...`), numpy.newaxis (`None`) and integer or " ++
      "boolean arrays are valid indices"
  | tooFewParts count expected =>
    "not enough values to unpack (expected " ++ toString expected ++
      ", got " ++ toString count ++ ")"
  | tooManyParts expected => "too many values to unpack (expected " ++ toString expected ++ ")"
  | noWholeNumber written =>
    "invalid literal for int() with base 10: " ++ String.ofList (written.toList.take 200)
  | tooManyDigits count =>
    "Exceeds the limit (" ++ toString Text.mostDigits ++
      " digits) for integer string conversion: " ++
      "value has " ++ toString count ++
      " digits; use sys.set_int_max_str_digits() to increase the limit"
  | infinite => "cannot convert float infinity to integer"
  | byteOfFixed => "bytes must be in range(0, 256)"
  | byteOfBuffer => "byte must be in range(0, 256)"
  | negativeCount => "negative count"
  | bytesTooLong => "byte string is too large"
  | listForNumber => "setting an array element with a sequence."
  | notConvertible type =>
    "int() argument must be a string, a bytes-like object or a real number, not '" ++ type ++ "'"
  | unordered left right =>
    "'<=' not supported between instances of '" ++ left ++ "' and '" ++ right ++ "'"
  | notAPlace type => "tuple indices must be integers or slices, not " ++ type
  | notALength type => "can't multiply sequence by non-int of type '" ++ type ++ "'"
  | outsideRow place cells =>
    "index " ++ toString place ++ " is out of bounds for axis 0 with size " ++ toString cells
  | notASlice => "slice indices must be integers or None or have an __index__ method"
  | noSquare cells side =>
    "cannot reshape array of size " ++ toString cells ++ " into shape (" ++ toString side ++ "," ++
      toString side ++ ")"
  | outside32Bits value => "Python integer " ++ toString value ++ " out of bounds for int32"
  | outside64Bits => "Python int too large to convert to C long"
  | unknownKind written => written ++ " is not a valid TokenType"
  | unknownToken token => "Unknown token " ++ token
  | tooManyIds count => count
  | tooSmall written => written
  | badGrowth => ""
  | emptyAutomaton => "automaton has no start state"
  | arcSymbol written => "symbol " ++ written ++ " out of range"
  | arcTarget source target =>
    "transition " ++ toString source ++ " -> " ++ target ++ " leaves the automaton"
  | arcsConflict source symbol =>
    "two transitions from " ++ toString source ++ " on " ++ symbol ++ "; not a DFA"
  | sizeTooLarge => "cannot fit 'int' into an index-sized integer"
  | noMemory => ""
  | tooManyCells => "Maximum allowed dimension exceeded"
  | tooManyBytes =>
    "array is too big; `arr.size * arr.dtype.itemsize` is larger than the maximum possible size."
  | outOfMemory width cells =>
    "Unable to allocate " ++ Text.size (width * cells) ++ " for an array with shape (" ++
      toString cells ++ ",) and data type " ++ (if width = 1 then "bool" else "int32")
  | closureIncomplete => ""
  | checkFailed => ""

/-- The fault that a missing entry means. Positions take 64 bits; one that needs more is a fault of
its own. -/
def ofPosition (missing : Fault) (i : Int) : Fault :=
  if fitsWord 64 i then missing else positionTooLarge

end Fault

/-- The value, or the fault that its absence means. -/
def orFault {α : Type} (fault : Fault) : Option α → Except Fault α
  | some a => .ok a
  | none => .error fault

end ScanLexer
