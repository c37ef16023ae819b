import ScanLexer.Datum.Basic
import ScanLexer.Decimal.Arithmetic

/-!
# Numbers among data

A value may be a number in digits, a truth value or a decimal. Numbers are compared by value,
however they are written. What is worked out from whole numbers is a whole number; what is worked
out from a decimal is a decimal. A value that is no number counts as zero.
-/
namespace ScanLexer.Datum

def toDecimal : Datum → Decimal
  | decimal d => d
  | d => .ofInt (d.integer?.getD 0)

/-- The whole number that the value equals, however it is written. -/
def whole? : Datum → Option Int
  | decimal d => d.whole?
  | d => d.integer?

/-- What stands for a whole number equals it. -/
theorem whole?_of_integer? {d : Datum} {i : Int} (h : d.integer? = some i) : d.whole? = some i := by
  cases d with
  | decimal d => contradiction
  | _ => exact h

def floor : Datum → Int
  | decimal d => d.floor
  | d => d.integer?.getD 0

def ceil : Datum → Int
  | decimal d => d.ceil
  | d => d.integer?.getD 0

/-- No whole number lies strictly between the two that enclose a value. -/
theorem floor_le_ceil (d : Datum) : d.floor ≤ d.ceil ∧ d.ceil ≤ d.floor + 1 := by
  cases d with
  | decimal d => exact d.floor_le_ceil
  | _ => simp only [floor, ceil]; omega

/-- The value cut toward zero to a whole number. -/
def truncated : Datum → Int
  | decimal d => d.truncated
  | d => d.integer?.getD 0

/-- However a numeral is written, it equals its number. -/
@[simp] theorem whole?_ofNumeral (n : Numeral) : (ofNumeral n).whole? = some n.value := by
  rcases n with ⟨i, style⟩
  cases style with
  | digits => rfl
  | truth =>
    by_cases none : i = 0
    · simp [ofNumeral, none, whole?, integer?]
    · by_cases one : i = 1 <;> simp [ofNumeral, none, one, whole?, integer?]
  | decimal d => by_cases same : d.whole? = some i <;> simp [ofNumeral, same, whole?, integer?]

/-- A numeral that is not cut from a decimal stands for its number. -/
theorem integer?_ofNumeral {n : Numeral} (h : n.isDecimal = false) :
    (ofNumeral n).integer? = some n.value := by
  rcases n with ⟨i, style⟩
  cases style with
  | digits => rfl
  | truth =>
    by_cases none : i = 0
    · simp [ofNumeral, none, integer?]
    · by_cases one : i = 1 <;> simp [ofNumeral, none, one, integer?]
  | decimal d => contradiction

def atMost (a b : Datum) : Bool :=
  match a.integer?, b.integer? with
  | _, some n => a.ceil ≤ n
  | some m, none => m ≤ b.floor
  | none, none => a.toDecimal.atMost b.toDecimal

/-- Whether a number is below a bound and not below zero. -/
def within (d bound : Datum) : Bool := (int 0).atMost d && !bound.atMost d

def plus (a b : Datum) : Datum :=
  match a.integer?, b.integer? with
  | some m, some n => int (m + n)
  | _, _ => decimal (a.toDecimal.plus b.toDecimal)

def times (a b : Datum) : Datum :=
  match a.integer?, b.integer? with
  | some m, some n => int (m * n)
  | _, _ => decimal (a.toDecimal.times b.toDecimal)

/-- A whole number is at most a bound if it is at most the last whole number up to the bound. -/
theorem int_atMost (n : Int) (bound : Datum) : (int n).atMost bound = decide (n ≤ bound.floor) := by
  cases bound <;> rfl

@[simp] theorem atMost_int (m n : Int) : atMost (int m) (int n) = decide (m ≤ n) := rfl

/-- A whole number is below a bound if it is below the next whole number from the bound on. -/
theorem within_int (i : Int) (bound : Datum) :
    (int i).within bound = decide (0 ≤ i ∧ i < bound.ceil) := by
  have below : bound.atMost (int i) = decide (bound.ceil ≤ i) := rfl
  rw [Bool.eq_iff_iff, within, below, atMost_int]
  simp only [Bool.and_eq_true, Bool.not_eq_true', decide_eq_true_eq, decide_eq_false_iff_not]
  omega

@[simp] theorem plus_int (m n : Int) : plus (int m) (int n) = int (m + n) := rfl

@[simp] theorem times_int (m n : Int) : times (int m) (int n) = int (m * n) := rfl

end ScanLexer.Datum
