/-!
# Decimals

Numbers with a decimal point or a power of ten. They are kept as they were written, the sign of zero
included. Where a machine number is needed, the nearest one is taken.
-/
namespace ScanLexer

/-- A number of the size `digits * 10 ^ exponent`. Zero has a sign too. -/
structure Decimal where
  negative : Bool
  digits : Nat
  exponent : Int
deriving DecidableEq, Repr

namespace Decimal

def toFloat (d : Decimal) : Float :=
  let size := Float.ofScientific d.digits (d.exponent < 0) d.exponent.natAbs
  if d.negative then -size else size

def signed (d : Decimal) (size : Nat) : Int := if d.negative then -size else size

/-- The number of zeros at the end of the digits of a number. -/
def zeros (n : Nat) : Nat := ((toString n).toList.reverse.takeWhile (· = '0')).length

/-- The same value without zeros at the end of its digits. -/
def reduced (d : Decimal) : Decimal :=
  let count := zeros d.digits
  { d with digits := d.digits / Nat.pow 10 count, exponent := d.exponent + count }

/-- The number nearest to `n` that has 53 significant bits. Halfway between two of them it is the
one whose last bit is zero. -/
def nearest (n : Nat) : Nat :=
  let step := Nat.pow 2 (n.log2 + 1 - 53)
  let count := n / step
  let twice := 2 * (n % step)
  if step < twice ∨ (twice = step ∧ count % 2 = 1) then (count + 1) * step else count * step

/-- Whether a value has more places before the point than any machine number, which is at most 309.
Such a value counts as infinite. -/
def isInfinite (d : Decimal) : Bool :=
  d.digits ≠ 0 && 309 < ((toString d.digits).length : Int) + d.exponent

/-- An infinite value. It is above every number that can be read. -/
def infinite (negative : Bool) : Decimal := ⟨negative, 1, 5000⟩

/-- The whole number that the nearest machine number is, if it is whole. -/
def whole? (d : Decimal) : Option Int :=
  let r := d.reduced
  if r.digits = 0 then some 0
  else if r.exponent < 0 then none
  else some (r.signed (nearest (r.digits * Nat.pow 10 r.exponent.natAbs)))

/-- The largest whole number that is not above the value. -/
def floor (d : Decimal) : Int :=
  d.whole?.getD (d.signed d.digits / (Nat.pow 10 d.exponent.natAbs : Int))

/-- The smallest whole number that is not below the value. -/
def ceil (d : Decimal) : Int :=
  d.whole?.getD (d.signed d.digits / (Nat.pow 10 d.exponent.natAbs : Int) + 1)

/-- No whole number lies strictly between the two that enclose a value. -/
theorem floor_le_ceil (d : Decimal) : d.floor ≤ d.ceil ∧ d.ceil ≤ d.floor + 1 := by
  unfold floor ceil
  cases d.whole? with
  | none => simp only [Option.getD_none]; omega
  | some n => simp only [Option.getD_some]; omega

/-- The value cut toward zero to a whole number. -/
def truncated (d : Decimal) : Int := if d.negative then d.ceil else d.floor

/-- Digits with the point after the first `whole` of them. At least one digit stands on either
side of the point. -/
def pointed (digits : List Char) (whole : Int) : String :=
  if whole ≤ 0 then
    "0." ++ String.ofList (List.replicate (-whole).toNat '0' ++ digits)
  else
    let left := digits.take whole.toNat
    let right := digits.drop whole.toNat
    String.ofList (left ++ List.replicate (whole.toNat - left.length) '0') ++ "." ++
      (if right = [] then "0" else String.ofList right)

/-- Digits with the point after the first one, and the power of ten that puts it right. The power
has a sign and at least two digits. -/
def scientific (digits : List Char) (power : Int) : String :=
  let left := String.ofList (digits.take 1)
  let right := digits.drop 1
  let size := toString power.natAbs
  left ++ (if right = [] then "" else "." ++ String.ofList right) ++
    (if power < 0 then "e-" else "e+") ++ (if size.length < 2 then "0" ++ size else size)

/-- The written form. Zeros at the end are dropped; a value below one ten-thousandth or from ten to
the sixteenth on is written with a power of ten, and an infinite one by name. -/
def printed (d : Decimal) : String :=
  let r := d.reduced
  let digits := (toString r.digits).toList
  let whole : Int := digits.length + r.exponent
  let size :=
    if r.digits = 0 then "0.0"
    else if d.isInfinite then "inf"
    else if -4 < whole ∧ whole ≤ 16 then pointed digits whole
    else scientific digits (whole - 1)
  if d.negative then "-" ++ size else size

end Decimal

end ScanLexer
