import ScanLexer.Datum.Number
import ScanLexer.Datum.Printed
import Std.Data.TreeMap

/-!
# Values

Data are told apart by their values and not by how they are written: one, a decimal one and the
truth value `true` have the same value, and a text has never that of a number.
-/
namespace ScanLexer

namespace Datum

mutual

/-- The same value with every number in it written in digits if it is whole. -/
def uniform : Datum → Datum
  | list items => list (uniformAll items)
  | record keys values => record keys (uniformAll values)
  | d => (d.whole?.map int).getD d

def uniformAll : List Datum → List Datum
  | [] => []
  | d :: rest => uniform d :: uniformAll rest

end

end Datum

/-- What data are told apart by. The value of a number is `mantissa / 10 ^ places`, with as few
places as possible; that of a compound is the written form with every number in it written in one
way. -/
inductive Value where
  | absent
  | text (content : String)
  | number (mantissa : Int) (places : Nat)
  | compound (written : String)
deriving DecidableEq, Repr

namespace Value

def ofInt (n : Int) : Value := number n 0

/-- The value of a decimal. One that is whole has the value of the whole number. -/
def ofDecimal (d : Decimal) : Value :=
  match d.whole? with
  | some n => ofInt n
  | none => number (d.signed d.reduced.digits) d.reduced.exponent.natAbs

def ofDatum : Datum → Value
  | .null => absent
  | .bool b => ofInt b.toInt
  | .int n => ofInt n
  | .decimal d => ofDecimal d
  | .text s => text s
  | d => compound d.uniform.printed

/-- Data that equal a whole number have its value. -/
theorem ofDatum_of_whole? {d : Datum} {n : Int} (h : d.whole? = some n) : ofDatum d = ofInt n := by
  cases d with
  | decimal d =>
    have whole : d.whole? = some n := h
    simp [ofDatum, ofDecimal, whole]
  | bool b =>
    cases h
    rfl
  | int m =>
    cases h
    rfl
  | _ => contradiction

/-- The parts that tell values apart. -/
def parts : Value → Nat × String × Int × Nat
  | absent => (0, "", 0, 0)
  | text s => (1, s, 0, 0)
  | number mantissa places => (2, "", mantissa, places)
  | compound s => (3, s, 0, 0)

instance : Ord Value :=
  ⟨compareLex (compareOn fun v => v.parts.1) (compareLex (compareOn fun v => v.parts.2.1)
    (compareLex (compareOn fun v => v.parts.2.2.1) (compareOn fun v => v.parts.2.2.2)))⟩

instance : Std.TransOrd Value :=
  inferInstanceAs (Std.TransCmp (compareLex (compareOn _) (compareLex (compareOn _)
    (compareLex (compareOn _) (compareOn _)))))

instance : Std.LawfulEqOrd Value where
  eq_of_compare {v w} h := by
    obtain ⟨kinds, rest⟩ := compareLex_eq_eq.mp h
    obtain ⟨texts, rest⟩ := compareLex_eq_eq.mp rest
    obtain ⟨mantissas, places⟩ := compareLex_eq_eq.mp rest
    have first : v.parts.1 = w.parts.1 := Std.LawfulEqCmp.eq_of_compare kinds
    have second : v.parts.2.1 = w.parts.2.1 := Std.LawfulEqCmp.eq_of_compare texts
    have third : v.parts.2.2.1 = w.parts.2.2.1 := Std.LawfulEqCmp.eq_of_compare mantissas
    have fourth : v.parts.2.2.2 = w.parts.2.2.2 := Std.LawfulEqCmp.eq_of_compare places
    cases v <;> cases w <;> simp_all [parts]

end Value

end ScanLexer
