import ScanLexer.Text.Digit

/-!
# Whole numbers in texts

A text may hold a whole number: decimal digits of any script, with a sign in front if need be.
Blanks around it do not count, and an underscore may stand between two digits. Too many digits are
refused before what stands behind them is looked at.
-/
namespace ScanLexer.Text

/-- The code points of the blanks beyond the first 128 characters. -/
def wideBlanks : List Nat := [
  0x85, 0xa0, 0x1680, 0x2000, 0x2001, 0x2002, 0x2003, 0x2004, 0x2005, 0x2006, 0x2007, 0x2008,
  0x2009, 0x200a, 0x2028, 0x2029, 0x202f, 0x205f, 0x3000]

/-- A space, one of the controls that move on across a page, or a blank of another width. -/
def isBlank (c : Char) : Bool := c = ' ' || ('\t' ≤ c && c ≤ '\r') || wideBlanks.contains c.toNat

def isFigure (c : Char) : Bool := c = '_' || (digit? c).isSome

/-- What a text that stands for a whole number turns out to be. -/
inductive Reading where
  | number (value : Int)
  | tooLong (digits : Nat)
  | malformed
deriving DecidableEq, Repr

/-- A text that is made a number has at most so many digits. Zeros in front count. A number that is
written down may have more. -/
def mostDigits : Nat := 4300

/-- Digits read one after another, put in front of those read before. -/
def moreDigits? (done : List Nat) : List Char → Option (List Nat)
  | [] => some done
  | '_' :: c :: rest => do moreDigits? ((← digit? c) :: done) rest
  | c :: rest => do moreDigits? ((← digit? c) :: done) rest

/-- The digits of a number from the last to the first. There is at least one. -/
def digits? : List Char → Option (List Nat)
  | [] => none
  | c :: rest => do moreDigits? [← digit? c] rest

/-- The number that digits write, given from the last to the first. -/
def ofDigits (digits : List Nat) : Nat := digits.foldr (fun d n => 10 * n + d) 0

/-- The size of a number that is followed by nothing but blanks, with a sign put on it. -/
def readSize (sign : Nat → Int) (cs : List Char) : Reading :=
  match digits? (cs.takeWhile isFigure) with
  | none => .malformed
  | some digits =>
    if mostDigits < digits.length then .tooLong digits.length
    else if (cs.dropWhile isFigure).all isBlank then .number (sign (ofDigits digits))
    else .malformed

def readWhole (s : String) : Reading :=
  match s.toList.dropWhile isBlank with
  | '-' :: cs => readSize (fun n => -n) cs
  | '+' :: cs => readSize (fun n => n) cs
  | cs => readSize (fun n => n) cs

end ScanLexer.Text
