import Std.Data.TreeMap

/-!
# Interning

An interner hands out dense ids: the first value seen gets zero, each new value the next number, and
a value like one seen before that one's number. Values are alike if they have the same key; the
first of them stands for all. Ids never change.
-/
namespace ScanLexer

/-- The values that were given an id, in the order of their ids, and the id of each key. -/
structure Interner {α κ : Type} [Ord κ] (key : α → κ) where
  items : Array α
  index : Std.TreeMap κ Nat
  index_iff : ∀ (k : κ) (i : Nat), index[k]? = some i ↔ items[i]?.map key = some k

namespace Interner

variable {α κ : Type} [Ord κ] {key : α → κ}

def size (s : Interner key) : Nat := s.items.size

/-- The values in the order of their ids. -/
def toList (s : Interner key) : List α := s.items.toList

def id? (s : Interner key) (k : κ) : Option Nat := s.index[k]?

def value? (s : Interner key) (i : Nat) : Option α := s.items[i]?

theorem id?_eq_some_iff (s : Interner key) (k : κ) (i : Nat) :
    s.id? k = some i ↔ (s.value? i).map key = some k := s.index_iff k i

variable [Std.TransOrd κ] [Std.LawfulEqOrd κ]

def empty : Interner key := ⟨#[], {}, by simp⟩

theorem index_push (s : Interner key) (a : α) (absent : s.index[key a]? = none) (k : κ) (i : Nat) :
    (s.index.insert (key a) s.items.size)[k]? = some i ↔ (s.items.push a)[i]?.map key = some k := by
  have fresh : ∀ j : Nat, s.items[j]?.map key ≠ some (key a) := by
    intro j h
    simp [(s.index_iff (key a) j).mpr h] at absent
  rw [Std.TreeMap.getElem?_insert, Array.getElem?_push]
  by_cases same : key a = k
  · subst same
    by_cases last : i = s.items.size
    · simp [last]
    · have elsewhere := fresh i
      simp only [last, if_false, elsewhere, iff_false]
      simp [Ne.symm last]
  · have differ : compare (key a) k ≠ .eq := fun h => same (Std.LawfulEqCmp.eq_of_compare h)
    by_cases last : i = s.items.size
    · simp [differ, last, same, s.index_iff]
    · simp [differ, last, s.index_iff]

/-- The id of a value, and the interner that knows it. -/
def intern (s : Interner key) (a : α) : Interner key × Nat :=
  match h : s.index[key a]? with
  | some i => (s, i)
  | none =>
    let i := s.items.size
    (⟨s.items.push a, s.index.insert (key a) i, index_push s a h⟩, i)

def internAll (s : Interner key) (values : List α) : Interner key :=
  values.foldl (fun s a => (s.intern a).1) s

end Interner

end ScanLexer
