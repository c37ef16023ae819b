import ScanLexer.Decimal.Shortest

/-!
# Arithmetic on decimals

Decimals are compared exactly: two of them are brought to a common power of ten by counting both in
units of the smaller one. They are added and multiplied as machine numbers, so each result is
rounded to the nearest machine number.
-/
namespace ScanLexer.Decimal

/-- So many units of `10 ^ exponent`. -/
def ofUnits (count exponent : Int) : Decimal := ⟨count < 0, count.natAbs, exponent⟩

def ofInt (n : Int) : Decimal := ofUnits n 0

/-- The value in units of `10 ^ exponent`, for an exponent that is not above the decimal's own. -/
def units (d : Decimal) (exponent : Int) : Int :=
  d.signed (d.digits * Nat.pow 10 (d.exponent - exponent).toNat)

/-- The smaller of two powers of ten. -/
def common (a b : Decimal) : Int := min a.exponent b.exponent

def atMost (a b : Decimal) : Bool := a.units (common a b) ≤ b.units (common a b)

def plus (a b : Decimal) : Decimal := .ofFloat (a.toFloat + b.toFloat)

def times (a b : Decimal) : Decimal := .ofFloat (a.toFloat * b.toFloat)

end ScanLexer.Decimal
