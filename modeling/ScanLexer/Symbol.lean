/-!
# Symbols

The input alphabet is the 256 byte values.
-/
namespace ScanLexer

abbrev Symbol := Fin 256

namespace Symbol

def all : List Symbol := List.finRange 256

/-- The character whose code point is the byte. -/
def char (a : Symbol) : Char := Char.ofNat a.val

def ofInt? (n : Int) : Option Symbol :=
  if h : n.toNat < 256 then
    if 0 ≤ n then some ⟨n.toNat, h⟩ else none
  else none

theorem mem_all (a : Symbol) : a ∈ all := List.mem_finRange a

theorem ofInt?_eq_some_iff {n : Int} {a : Symbol} : ofInt? n = some a ↔ n = a.val := by
  unfold ofInt?
  constructor
  · intro h
    split at h
    · split at h
      · have := congrArg Fin.val (Option.some.inj h)
        simp only at this
        omega
      · simp at h
    · simp at h
  · intro h
    have small : n.toNat < 256 := by omega
    have positive : 0 ≤ n := by omega
    have same : n.toNat = a.val := by omega
    simp [positive, same]

end Symbol

end ScanLexer
