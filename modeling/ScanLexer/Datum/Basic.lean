import ScanLexer.Numeral
import ScanLexer.Symbol

/-!
# Data

Callers hand over symbols, states and flags as loosely typed values: a byte may be written as a
number, a one-character text or a one-byte string, and a flag as any value that counts as true.
A `Datum` is such a value.
-/
namespace ScanLexer

/-- A loosely typed value. `bytes` is a fixed byte string and `buffer` one that may change; they
read alike. A record pairs its keys with its values in order. -/
inductive Datum where
  | null
  | bool (value : Bool)
  | int (value : Int)
  | decimal (value : Decimal)
  | text (value : String)
  | bytes (content : List Symbol)
  | buffer (content : List Symbol)
  | list (items : List Datum)
  | record (keys : List String) (values : List Datum)
deriving Repr, Inhabited

namespace Datum

mutual

def decEq : (a b : Datum) → Decidable (a = b)
  | null, b => match b with
    | null => isTrue rfl
    | bool _ | int _ | decimal _ | text _ | bytes _ | buffer _ | list _ | record .. => isFalse nofun
  | bool v, b => match b with
    | bool w => decidable_of_iff (v = w) (by simp)
    | null | int _ | decimal _ | text _ | bytes _ | buffer _ | list _ | record .. => isFalse nofun
  | int v, b => match b with
    | int w => decidable_of_iff (v = w) (by simp)
    | null | bool _ | decimal _ | text _ | bytes _ | buffer _ | list _ | record .. => isFalse nofun
  | decimal v, b => match b with
    | decimal w => decidable_of_iff (v = w) (by simp)
    | null | bool _ | int _ | text _ | bytes _ | buffer _ | list _ | record .. => isFalse nofun
  | text v, b => match b with
    | text w => decidable_of_iff (v = w) (by simp)
    | null | bool _ | int _ | decimal _ | bytes _ | buffer _ | list _ | record .. => isFalse nofun
  | bytes v, b => match b with
    | bytes w => decidable_of_iff (v = w) (by simp)
    | null | bool _ | int _ | decimal _ | text _ | buffer _ | list _ | record .. => isFalse nofun
  | buffer v, b => match b with
    | buffer w => decidable_of_iff (v = w) (by simp)
    | null | bool _ | int _ | decimal _ | text _ | bytes _ | list _ | record .. => isFalse nofun
  | list v, b => match b with
    | list w =>
      have := decEqAll v w
      decidable_of_iff (v = w) (by simp)
    | null | bool _ | int _ | decimal _ | text _ | bytes _ | buffer _ | record .. => isFalse nofun
  | record keys v, b => match b with
    | record others w =>
      have := decEqAll v w
      decidable_of_iff (keys = others ∧ v = w) (by simp)
    | null | bool _ | int _ | decimal _ | text _ | bytes _ | buffer _ | list _ => isFalse nofun

def decEqAll : (a b : List Datum) → Decidable (a = b)
  | [], [] => isTrue rfl
  | [], _ :: _ | _ :: _, [] => isFalse nofun
  | v :: vs, w :: ws =>
    have := decEq v w
    have := decEqAll vs ws
    decidable_of_iff (v = w ∧ vs = ws) (by simp)

end

instance : DecidableEq Datum := decEq

/-- A numeral as a value. A number that its style cannot write is written in digits. -/
def ofNumeral (n : Numeral) : Datum :=
  match n.style with
  | .digits => int n.value
  | .truth => if n.value = 0 then bool false else if n.value = 1 then bool true else int n.value
  | .decimal d => if d.whole? = some n.value then decimal d else int n.value

/-- Whether the value counts as true: it is neither empty nor zero nor absent. -/
def truth : Datum → Bool
  | null => false
  | bool b => b
  | int n => n ≠ 0
  | decimal d => d.digits ≠ 0
  | text s => s ≠ ""
  | bytes content => content ≠ []
  | buffer content => content ≠ []
  | list items => !items.isEmpty
  | record keys _ => keys ≠ []

/-- The whole number that the value stands for. A truth value stands for zero or one. -/
def integer? : Datum → Option Int
  | int n => some n
  | bool b => some b.toInt
  | _ => none

/-- How a number that the value stands for is written. -/
def style : Datum → Numeral.Style
  | bool _ => .truth
  | decimal d => .decimal d
  | _ => .digits

/-- What kind of value it is, as messages name it. -/
def typeName : Datum → String
  | null => "NoneType"
  | bool _ => "bool"
  | int _ => "int"
  | decimal _ => "float"
  | text _ => "str"
  | bytes _ => "bytes"
  | buffer _ => "bytearray"
  | list _ => "list"
  | record .. => "dict"

def numeral? : Datum → Option Numeral
  | int n => some (.ofInt n)
  | bool b => some (.ofBool b)
  | decimal d => some (.ofDecimal d)
  | _ => none

def isNumber (d : Datum) : Bool := d.numeral?.isSome

@[simp] theorem isNumber_int (n : Int) : (int n).isNumber = true := rfl

/-- A value that stands for a whole number is a number. -/
theorem isNumber_of_integer? {d : Datum} {i : Int} (h : d.integer? = some i) :
    d.isNumber = true := by
  cases d with
  | int n => rfl
  | bool b => rfl
  | _ => contradiction

/-- The values that reading the value as a sequence yields. A text yields its characters and a byte
string its numbers; a value that is no sequence yields nothing. -/
def elements : Datum → List Datum
  | text s => s.toList.map fun c => text (String.singleton c)
  | bytes content => content.map fun a => int a.val
  | buffer content => content.map fun a => int a.val
  | list items => items
  | record keys _ => keys.map text
  | _ => []

end Datum

end ScanLexer
