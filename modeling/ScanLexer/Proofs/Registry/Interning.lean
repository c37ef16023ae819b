import ScanLexer.Proofs.Outcome
import ScanLexer.Registry

/-!
# Interning keeps ids

A registered item keeps its id for ever, and no two ids have items of one key. Registering a
behaviour either finds the id of its key, and then changes nothing, or appends one item under the
next id (`intern_cases`).
-/
namespace ScanLexer

namespace Interner

variable {α κ : Type} [Ord κ] {key : α → κ} {s : Interner key}

theorem value?_eq_some_lt {i : Nat} {a : α} (h : s.value? i = some a) : i < s.size :=
  (Array.getElem?_eq_some_iff.mp h).1

theorem exists_value? {i : Nat} (h : i < s.size) : ∃ a, s.value? i = some a :=
  ⟨_, Array.getElem?_eq_getElem h⟩

/-- No two ids have values of one key. -/
theorem eq_of_key_eq {i j : Nat} {a b : α} (ha : s.value? i = some a) (hb : s.value? j = some b)
    (same : key a = key b) : i = j := by
  have hi : s.id? (key a) = some i := (s.id?_eq_some_iff _ _).mpr (by rw [ha, Option.map_some])
  have hj : s.id? (key a) = some j :=
    (s.id?_eq_some_iff _ _).mpr (by rw [hb, Option.map_some, same])
  exact Option.some.inj (hi.symm.trans hj)

variable [Std.TransOrd κ] [Std.LawfulEqOrd κ]

theorem intern_of_known {a : α} {i : Nat} (h : s.id? (key a) = some i) : s.intern a = (s, i) := by
  unfold intern
  split
  next j hj => rw [Option.some.inj (hj.symm.trans h)]
  next none => exact absurd (none.symm.trans h) nofun

theorem intern_of_new {a : α} (h : s.id? (key a) = none) :
    (s.intern a).2 = s.size ∧ (s.intern a).1.items = s.items.push a := by
  unfold intern
  split
  next j hj => exact absurd (hj.symm.trans h) nofun
  next => exact ⟨rfl, rfl⟩

end Interner

namespace Registry

/-- The item that is registered under an id. -/
def item? (r : Registry) (i : Nat) : Option Item := r.known.value? i

variable {r : Registry}

theorem lt_size_of_item? {i : Nat} {item : Item} (h : r.item? i = some item) : i < r.size :=
  Interner.value?_eq_some_lt h

theorem exists_item? {i : Nat} (h : i < r.size) : ∃ item, r.item? i = some item :=
  Interner.exists_value? h

theorem id_eq_of_key_eq {i j : Nat} {a b : Item} (ha : r.item? i = some a) (hb : r.item? j = some b)
    (same : a.key = b.key) : i = j :=
  Interner.eq_of_key_eq ha hb same

theorem behaviour_of_item? {i : Nat} {item : Item} (h : r.item? i = some item) :
    r.behaviour (i : Int) = .ok item.behaviour := by
  have found : r.known.value? i = some item := h
  rw [behaviour, orFault_eq_ok, behaviour?, position_natCast, if_pos (lt_size_of_item? h)]
  simp [found]

theorem behaviours_length (r : Registry) : r.behaviours.length = r.size := by
  simp [behaviours, Interner.toList, size, Interner.size]

theorem behaviours_of_item? {i : Nat} {item : Item} (h : r.item? i = some item) :
    r.behaviours[i]? = some item.behaviour := by
  have found : r.known.items[i]? = some item := h
  simp [behaviours, Interner.toList, found]

@[simp] theorem size_empty : empty.size = 0 := rfl

/-- Everything that `r` has registered, `r'` has registered under the same id. -/
def Extends (r r' : Registry) : Prop := ∀ i item, r.item? i = some item → r'.item? i = some item

theorem Extends.refl (r : Registry) : r.Extends r := fun _ _ h => h

theorem Extends.trans {r r' r'' : Registry} (h : r.Extends r') (h' : r'.Extends r'') :
    r.Extends r'' := fun i item found => h' i item (h i item found)

theorem Extends.size_le {r r' : Registry} (h : r.Extends r') : r.size ≤ r'.size := by
  by_contra less
  obtain ⟨item, found⟩ := exists_item? (r := r) (i := r'.size) (by omega)
  exact Nat.lt_irrefl _ (lt_size_of_item? (h _ _ found))

/-- Registering a behaviour finds its key or appends an item. -/
theorem intern_cases (r : Registry) (f : Behaviour) (tag : Option Value) :
    (∃ id item, r.intern f tag = (r, id, false) ∧ r.item? id = some item ∧
      item.key = ⟨tag, f.key⟩) ∨
    ∃ r', r.intern f tag = (r', r.size, true) ∧ r'.size = r.size + 1 ∧
      (∀ i, r'.item? i = if i = r.size then some ⟨tag, f⟩ else r.item? i) ∧
      ∀ i item, r.item? i = some item → item.key ≠ ⟨tag, f.key⟩ := by
  cases known : r.known.id? (Item.key ⟨tag, f⟩) with
  | some id =>
    left
    obtain ⟨item, found, same⟩ := Option.map_eq_some_iff.mp ((r.known.id?_eq_some_iff _ _).mp known)
    have old : id ≠ r.size := Nat.ne_of_lt (Interner.value?_eq_some_lt found)
    refine ⟨id, item, ?_, found, same⟩
    simp [intern, Interner.intern_of_known known, old]
  | none =>
    right
    obtain ⟨last, items⟩ := Interner.intern_of_new known
    refine ⟨⟨(r.known.intern ⟨tag, f⟩).1⟩, ?_, ?_, ?_, ?_⟩
    · simp [intern, last, size]
    · simp [size, Interner.size, items]
    · intro i
      simp only [item?, Interner.value?, items, Array.getElem?_push]
      rfl
    · intro i item found same
      have mapped : (r.known.value? i).map Item.key = some (Item.key ⟨tag, f⟩) := by
        have value : r.known.value? i = some item := found
        rw [value, Option.map_some, same]
        rfl
      rw [(r.known.id?_eq_some_iff _ _).mpr mapped] at known
      contradiction

/-- A behaviour is registered under a tag, itself or as one that it is like. -/
def Knows (R : Registry) (f : Behaviour) (tag : Option Value) (id : Nat) : Prop :=
  ∃ item, R.item? id = some item ∧ item.key = ⟨tag, f.key⟩

theorem Knows.unique {R : Registry} {f : Behaviour} {tag : Option Value} {i j : Nat}
    (hi : R.Knows f tag i) (hj : R.Knows f tag j) : i = j := by
  obtain ⟨a, ha, key⟩ := hi
  obtain ⟨b, hb, key'⟩ := hj
  exact id_eq_of_key_eq ha hb (key.trans key'.symm)

section
variable {R : Registry} {f : Behaviour} {tag : Option Value} {id : Nat}

/-- To register what is known changes nothing. -/
theorem intern_of_knows (h : R.Knows f tag id) : R.intern f tag = (R, id, false) := by
  obtain ⟨id', item, interned, found, key⟩ | ⟨-, -, -, -, new⟩ := R.intern_cases f tag
  · have same : id' = id := Knows.unique ⟨item, found, key⟩ h
    rw [interned, same]
  · obtain ⟨item, found, key⟩ := h
    exact absurd key (new id item found)

/-- Looking up finds the id of an untagged behaviour. -/
theorem lookup_eq_some_iff : R.lookup f = some id ↔ R.Knows f none id :=
  (R.known.id?_eq_some_iff _ _).trans Option.map_eq_some_iff

end

end Registry

end ScanLexer
