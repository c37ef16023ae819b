/-!
# Signed words

A signed word of `bits` bits holds the numbers from `-2 ^ (bits - 1)` up to, but not including,
`2 ^ (bits - 1)`.
-/
namespace ScanLexer

def fitsWord (bits : Nat) (n : Int) : Bool :=
  let half : Int := Nat.pow 2 (bits - 1)
  n < half && -half ≤ n

end ScanLexer
