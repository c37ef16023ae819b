import ScanLexer.Decimal

/-!
# Numerals

A number is mostly written in digits, but zero and one may also be written as truth values, and a
decimal may stand for the whole number that it is cut to. All ways mean the number; messages and
printed forms show the way that was taken. A number of any size is written in digits: the bound on
digits (`Text.mostDigits`) is one on what is read, and writing keeps to none.
-/
namespace ScanLexer

inductive Numeral.Style where
  | digits
  | truth
  | decimal (written : Decimal)
deriving DecidableEq, Repr

/-- A number and how it is written. -/
structure Numeral where
  value : Int
  style : Numeral.Style
deriving DecidableEq, Repr

namespace Numeral

def ofInt (n : Int) : Numeral := ⟨n, .digits⟩

def ofNat (n : Nat) : Numeral := ⟨n, .digits⟩

def ofBool (b : Bool) : Numeral := ⟨b.toInt, .truth⟩

/-- The number that a decimal is cut to. -/
def ofDecimal (d : Decimal) : Numeral := ⟨d.truncated, .decimal d⟩

/-- Whether the number is what a decimal was cut to. -/
def isDecimal (n : Numeral) : Bool :=
  match n.style with
  | .decimal _ => true
  | .digits | .truth => false

/-- The written form. As a truth value, every number but zero is true. -/
def printed (n : Numeral) : String :=
  match n.style with
  | .digits => toString n.value
  | .truth => if n.value = 0 then "False" else "True"
  | .decimal d => d.printed

@[simp] theorem value_ofInt (n : Int) : (ofInt n).value = n := rfl

@[simp] theorem value_ofNat (n : Nat) : (ofNat n).value = n := rfl

end Numeral

end ScanLexer
