import ScanLexer.MergeTable.Basic
import ScanLexer.Proofs.Outcome

/-!
# The cells of a merge table

A table is sound if its flat row has the length of the square of its capacity, its ids fit its
capacity, and the cells beyond its ids were never set. The table is then a map from pairs of ids:
growing keeps every cell and shows new ones as unset (`view_ensure`), and writing a cell changes
that cell alone (`view_write`).
-/
namespace ScanLexer

namespace Growth

theorem reach_covers (g : Growth) (need capacity : Nat) (positive : 0 < capacity) :
    need ≤ g.reach need capacity positive ∧ capacity ≤ g.reach need capacity positive := by
  fun_induction g.reach need capacity positive with
  | case1 capacity positive less ih =>
    have := Nat.mul_le_mul_left capacity g.two_le_factor
    omega
  | case2 capacity positive enough => omega

theorem next_covers (g : Growth) (need capacity : Nat) :
    need ≤ g.next need capacity ∧ capacity ≤ g.next need capacity := by
  have := g.reach_covers need (max g.least capacity) (by have := g.one_le_least; omega)
  unfold next
  omega

end Growth

theorem fitsWord_32 {r : Int} : fitsWord 32 r = true ↔ -2147483648 ≤ r ∧ r < 2147483648 := by
  have half : (Nat.pow 2 (32 - 1) : Int) = 2147483648 := rfl
  simp only [fitsWord, half, Bool.and_eq_true, decide_eq_true_eq]
  exact and_comm

namespace Summary

/-- An id is stored as it was read if it fits 32 bits, and refused if not. -/
theorem storedId_eq_ok {id : Datum} {r : Int} :
    storedId id = .ok r ↔ id.read = .ok r ∧ fitsWord 32 r = true := by
  rw [storedId, mapError_eq_ok, bind_eq_ok]
  constructor
  · rintro ⟨n, read, stored⟩
    unfold storable at stored
    split at stored
    next fits =>
      cases stored
      exact ⟨read, fits⟩
    next => split at stored <;> cases stored
  · rintro ⟨read, fits⟩
    exact ⟨r, read, if_pos fits⟩

end Summary

namespace MergeTable

/-- The summary in the cell of two ids. -/
def view (t : MergeTable) (i j : Nat) : Summary := t.cell (t.offset i j)

structure Sound (t : MergeTable) : Prop where
  fits : t.states ≤ t.capacity
  area : t.cells.size = t.capacity * t.capacity
  spare : ∀ i j, i < t.capacity → j < t.capacity → ¬ (i < t.states ∧ j < t.states) →
    t.view i j = .unset

theorem offset_lt {t : MergeTable} {i j : Nat} (hi : i < t.capacity) (hj : j < t.capacity) :
    t.offset i j < t.capacity * t.capacity := by
  have : (j + 1) * t.capacity ≤ t.capacity * t.capacity := Nat.mul_le_mul_right _ hj
  unfold offset
  rw [Nat.succ_mul] at this
  omega

/-- Within the capacity no two pairs of ids share a place. -/
theorem offset_inj {t : MergeTable} {i j i' j' : Nat} (hi : i < t.capacity) (hi' : i' < t.capacity)
    (same : t.offset i j = t.offset i' j') : i = i' ∧ j = j' := by
  have positive : 0 < t.capacity := by omega
  unfold offset at same
  constructor
  · have rests := congrArg (· % t.capacity) same
    simpa [Nat.add_mul_mod_self_right, Nat.mod_eq_of_lt, hi, hi'] using rests
  · have quotients := congrArg (· / t.capacity) same
    simpa [Nat.add_mul_div_right, positive, Nat.div_eq_of_lt, hi, hi'] using quotients

theorem get_eq_view {t : MergeTable} {i j : Nat} (hi : i < t.states) (hj : j < t.states) :
    t.get (.int i) (.int j) = .ok (t.view i j) := by
  simp [get, view, t.index_int hi hj]

theorem sound_empty (growth : Growth) : (empty growth).Sound :=
  ⟨Nat.le_refl 0, rfl, fun _ _ hi => absurd hi (Nat.not_lt_zero _)⟩

theorem view_write {t : MergeTable} (ht : t.Sound) {i j i' j' : Nat} (hi : i < t.states)
    (hj : j < t.states) (hi' : i' < t.capacity) (s : Summary) :
    (t.write (t.offset i j) s).view i' j' = if i' = i ∧ j' = j then s else t.view i' j' := by
  have fits := ht.fits
  have bound : t.offset i j < t.cells.size := ht.area ▸ offset_lt (by omega) (by omega)
  simp only [view, write, cell, offset, Array.getElem?_setIfInBounds] at bound ⊢
  by_cases same : i' = i ∧ j' = j
  · obtain ⟨rfl, rfl⟩ := same
    simp [bound]
  · have apart : i + j * t.capacity ≠ i' + j' * t.capacity := fun eq => by
      have := offset_inj (t := t) (by omega) hi' eq
      omega
    simp [same, apart]

theorem sound_write {t : MergeTable} (ht : t.Sound) {i j : Nat} (hi : i < t.states)
    (hj : j < t.states) (s : Summary) : (t.write (t.offset i j) s).Sound := by
  refine ⟨ht.fits, by simpa [write] using ht.area, ?_⟩
  intro i' j' hi' hj' outside
  have other : ¬ (i' = i ∧ j' = j) := fun same => outside ⟨same.1 ▸ hi, same.2 ▸ hj⟩
  rw [view_write ht hi hj hi', if_neg other]
  exact ht.spare i' j' hi' hj' outside

/-- In the cell of two ids, what is stored is the summary itself, if its id may be stored at all. -/
theorem store_eq {t : MergeTable} {i j : Nat} (hi : i < t.states) (hj : j < t.states)
    (s : Summary) :
    t.store i j s = (Summary.storedId (.int s.id)).map fun _ => t.write (t.offset i j) s := by
  cases stored : Summary.storedId (.int s.id) with
  | error fault => simp [store, slot, t.index_int hi hj, stored, Except.map]
  | ok id =>
    have kept : s.id = id := Except.ok.inj (Summary.storedId_eq_ok.mp stored).1
    simp [store, slot, t.index_int hi hj, stored, Except.map, ← kept]

theorem store_eq_ok {t t' : MergeTable} {i j : Nat} (hi : i < t.states) (hj : j < t.states)
    {s : Summary} (h : t.store i j s = .ok t') : t' = t.write (t.offset i j) s := by
  rw [store_eq hi hj] at h
  obtain ⟨-, -, written⟩ := map_eq_ok.mp h
  exact written.symm

theorem view_resized (t : MergeTable) (extent : Datum) {capacity i j : Nat} (hi : i < capacity)
    (hj : j < capacity) :
    view { t with extent := extent, capacity := capacity, cells := t.resized capacity } i j =
      if i < t.states ∧ j < t.states then t.view i j else .unset := by
  have bound : i + j * capacity < capacity * capacity :=
    offset_lt (t := { t with capacity := capacity }) hi hj
  have row : (i + j * capacity) % capacity = i := by
    rw [Nat.add_mul_mod_self_right, Nat.mod_eq_of_lt hi]
  have column : (i + j * capacity) / capacity = j := by
    rw [Nat.add_mul_div_right _ _ (by omega), Nat.div_eq_of_lt hi, Nat.zero_add]
  simp only [view, cell, offset, resized, spread, Array.getElem?_ofFn, bound, dif_pos, row, column,
    Option.getD_some]

/-- A request is already met, or the capacity covers it, or the cells move to a larger capacity. -/
theorem ensure_cases [Memory] {t t' : MergeTable} {n : Int} (h : t.ensure (.int n) = .ok t') :
    (n ≤ t.extent.floor ∧ t' = t) ∨
    (t.extent.floor < n ∧ n.toNat ≤ t.capacity ∧ t' = { t with extent := .int n }) ∨
    (t.extent.floor < n ∧ t.capacity < n.toNat ∧ ∃ capacity,
      capacity = t.growth.next n.toNat t.capacity ∧ n.toNat ≤ capacity ∧ t.capacity ≤ capacity ∧
      t' = { t with extent := .int n, capacity := capacity, cells := t.resized capacity }) := by
  rw [ensure_int] at h
  split at h
  next enough => exact .inl ⟨enough, (Except.ok.inj h).symm⟩
  next less =>
    split at h
    next fits => exact .inr (.inl ⟨by omega, fits, (Except.ok.inj h).symm⟩)
    next more =>
      obtain ⟨-, -, grown⟩ := map_eq_ok.mp h
      obtain ⟨covers, keeps⟩ := t.growth.next_covers n.toNat t.capacity
      exact .inr (.inr ⟨by omega, by omega, _, rfl, covers, keeps, grown.symm⟩)

theorem extent_ensure [Memory] {t t' : MergeTable} {m n : Int} (extent : t.extent = .int m)
    (less : m < n) (h : t.ensure (.int n) = .ok t') : t'.extent = .int n := by
  have whole : t.extent.floor = m := by rw [extent]; rfl
  obtain ⟨enough, -⟩ | ⟨-, -, rfl⟩ | ⟨-, -, capacity, -, -, -, rfl⟩ := ensure_cases h
  · omega
  · rfl
  · rfl

theorem sound_ensure [Memory] {t t' : MergeTable} (ht : t.Sound) {n : Int}
    (h : t.ensure (.int n) = .ok t') : t'.Sound := by
  have grown := states_ensure h
  have near := t.extent.floor_le_ceil
  obtain ⟨-, rfl⟩ | ⟨less, fits, rfl⟩ | ⟨less, -, capacity, -, covers, keeps, rfl⟩ := ensure_cases h
  · exact ht
  · refine ⟨?_, ht.area, ?_⟩
    · rw [grown]
      exact Nat.max_le.mpr ⟨ht.fits, fits⟩
    · intro i j hi hj outside
      exact ht.spare i j hi hj fun inside => outside (by rw [grown]; omega)
  · refine ⟨?_, by simp [resized, spread], ?_⟩
    · rw [grown]
      exact Nat.max_le.mpr ⟨Nat.le_trans ht.fits keeps, covers⟩
    · intro i j hi hj outside
      rw [view_resized t _ hi hj, if_neg]
      exact fun inside => outside (by rw [grown]; omega)

/-- Growing keeps the cells of the ids so far; the cells of new ids are unset. -/
theorem view_ensure [Memory] {t t' : MergeTable} (ht : t.Sound) {n : Int}
    (h : t.ensure (.int n) = .ok t') {i j : Nat} (hi : i < t'.states) (hj : j < t'.states) :
    t'.view i j = if i < t.states ∧ j < t.states then t.view i j else .unset := by
  have fits := (sound_ensure ht h).fits
  obtain ⟨-, rfl⟩ | ⟨-, -, rfl⟩ | ⟨-, -, capacity, -, -, -, rfl⟩ := ensure_cases h
  · rw [if_pos ⟨hi, hj⟩]
  · split
    next => rfl
    next outside =>
      exact ht.spare i j (Nat.lt_of_lt_of_le hi fits) (Nat.lt_of_lt_of_le hj fits) outside
  · exact view_resized t _ (Nat.lt_of_lt_of_le hi fits) (Nat.lt_of_lt_of_le hj fits)

end MergeTable

end ScanLexer
