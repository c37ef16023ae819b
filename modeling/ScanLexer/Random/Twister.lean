/-!
# The Mersenne twister

A generator of 32-bit words with 624 words of state, seeded by a number of any size. It draws
fractions of 53 bits and numbers below a bound.
-/
namespace ScanLexer

/-- The state of the generator, and the place of the next word. -/
structure Twister where
  words : Array UInt32
  next : Nat

namespace Twister

def size : Nat := 624

/-- How far apart the words are that are mixed. -/
def distance : Nat := 397

def word (words : Array UInt32) (i : Nat) : UInt32 := words.getD i 0

/-- A word folded onto its upper bits. -/
def folded (w : UInt32) : UInt32 := w ^^^ (w >>> 30)

/-- The state that a single word spreads to. -/
def spread (seed : UInt32) : Array UInt32 :=
  (List.range (size - 1)).foldl
    (fun words i => words.push (1812433253 * folded (word words i) + UInt32.ofNat (i + 1)))
    #[seed]

/-- The place after a place from one on; the last place is followed by the first but one. -/
def after (i : Nat) : Nat := if i + 1 = size then 1 else i + 1

/-- Put a word in its place. A word in the last place is also put first. -/
def put (words : Array UInt32) (i : Nat) (w : UInt32) : Array UInt32 :=
  let words := words.setIfInBounds i w
  if i + 1 = size then words.setIfInBounds 0 w else words

/-- The state seeded by a list of words. -/
def seedWords (key : List UInt32) : Array UInt32 :=
  let rounds := max size key.length
  let (words, i) := (List.range rounds).foldl
    (fun (words, i) round =>
      let j := round % key.length
      let mixed := word words i ^^^ (folded (word words (i - 1)) * 1664525)
      (put words i (mixed + key.getD j 0 + UInt32.ofNat j), after i))
    (spread 19650218, 1)
  let (words, _) := (List.range (size - 1)).foldl
    (fun (words, i) _ =>
      let mixed := word words i ^^^ (folded (word words (i - 1)) * 1566083941)
      (put words i (mixed - UInt32.ofNat i), after i))
    (words, i)
  words.setIfInBounds 0 0x80000000

/-- The 32-bit words of a number, least significant first. -/
def digits (n : Nat) : List UInt32 :=
  if n < 0x100000000 then [UInt32.ofNat n] else UInt32.ofNat n :: digits (n / 0x100000000)
termination_by n
decreasing_by omega

/-- The generator seeded by a number. Its sign is ignored. -/
def ofSeed (seed : Int) : Twister := ⟨seedWords (digits seed.natAbs), size⟩

/-- The state after every word has been mixed. -/
def mixed (words : Array UInt32) : Array UInt32 :=
  (List.range size).foldl
    (fun words i =>
      let joined :=
        (word words i &&& 0x80000000) ||| (word words ((i + 1) % size) &&& 0x7fffffff)
      let odd : UInt32 := if joined &&& 1 = 0 then 0 else 0x9908b0df
      words.setIfInBounds i (word words ((i + distance) % size) ^^^ (joined >>> 1) ^^^ odd))
    words

/-- A word of the state as it is handed out. -/
def tempered (w : UInt32) : UInt32 :=
  let w := w ^^^ (w >>> 11)
  let w := w ^^^ ((w <<< 7) &&& 0x9d2c5680)
  let w := w ^^^ ((w <<< 15) &&& 0xefc60000)
  w ^^^ (w >>> 18)

def draw (g : Twister) : UInt32 × Twister :=
  if g.next < size then (tempered (word g.words g.next), ⟨g.words, g.next + 1⟩)
  else
    let words := mixed g.words
    (tempered (word words 0), ⟨words, 1⟩)

/-- A fraction of 53 bits, at least zero and below one. -/
def fraction (g : Twister) : Float × Twister :=
  let (a, g) := g.draw
  let (b, g) := g.draw
  let bits := (a >>> 5).toNat <<< 26 + (b >>> 6).toNat
  (Float.ofNat bits / Float.ofNat (1 <<< 53), g)

/-- A number below `n`, which is positive: words are cut to as many bits as `n` has until one is
below it. A cut word that begins with a zero always is, and of the words' leading bits no more than
19937 in a row are ones, so 19938 draws are enough. -/
def below (g : Twister) (n : Nat) : Nat × Twister :=
  let bits := Nat.log2 n + 1
  attempt 19938 g bits
where
  /-- The first of at most so many words that is small enough. -/
  attempt : Nat → Twister → Nat → Nat × Twister
    | 0, g, _ => (0, g)
    | tries + 1, g, bits =>
      let (w, g) := g.draw
      let k := w.toNat >>> (32 - bits)
      if k < n then (k, g) else attempt tries g bits

end Twister

end ScanLexer
