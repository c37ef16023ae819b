import ScanLexer.Decimal

/-!
# Sizes in bytes

A size is written in the largest unit that it fills, with three digits. A size of a thousand units
or more keeps all its digits.
-/
namespace ScanLexer.Text

/-- The units of size, each 1024 times the one before. -/
def sizeUnits : List String := ["bytes", "KiB", "MiB", "GiB", "TiB", "PiB", "EiB"]

/-- The whole number nearest to a quotient. Halfway between two of them it is the even one. -/
def nearestQuotient (n d : Nat) : Nat :=
  let twice := 2 * (n % d)
  if d < twice ∨ (twice = d ∧ n / d % 2 = 1) then n / d + 1 else n / d

/-- A number of hundredths or tenths with its point, or of ones with a point at the end. -/
def withPlaces (places n : Nat) : String :=
  let digits := (toString (n % Nat.pow 10 places)).toList
  toString (n / Nat.pow 10 places) ++ "." ++
    (if places = 0 then ""
    else String.ofList (List.replicate (places - digits.length) '0' ++ digits))

/-- A quotient with as many places as leave it three digits. -/
def threeDigits (n d : Nat) : String :=
  let hundredths := nearestQuotient (100 * n) d
  let tenths := nearestQuotient (10 * n) d
  if hundredths < 1000 then withPlaces 2 hundredths
  else if tenths < 1000 then withPlaces 1 tenths
  else withPlaces 0 (nearestQuotient n d)

def size (bytes : Nat) : String :=
  let n := Decimal.nearest bytes
  let filled := bytes.log2 / 10
  let k := if nearestQuotient n (Nat.pow 1024 filled) = 1024 then filled + 1 else filled
  let number := if k = 0 then toString bytes else threeDigits n (Nat.pow 1024 k)
  number ++ " " ++ sizeUnits.getD k ""

end ScanLexer.Text
