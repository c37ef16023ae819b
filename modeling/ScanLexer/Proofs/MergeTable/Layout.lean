import ScanLexer.Memory.Ordinary
import ScanLexer.Proofs.MergeTable.Buffers
import ScanLexer.Proofs.MergeTable.Forgetting

/-!
# How a merge table lies in its row

A table asked for a few more ids takes them into its capacity as it is and clears nothing: it relies
on no cell beyond the ids ever having been set at this stride. The row is told by its places,
numbered from zero, and not by pairs of ids: the remainder of a place by the capacity is the first
id, and the quotient the second. Whatever is asked of a table, and whatever of it is refused, the
places that belong to no pair of ids are unset, and each pair of ids has a place of its own
(`stays_laid_out`). So it is in both rows that a table is kept in.
-/
namespace ScanLexer

namespace MergeTable

/-- The table lies in its row as it should. -/
structure LaidOut (t : MergeTable) : Prop where
  /-- The number of ids is a whole number, from zero to the capacity. -/
  extent : ∃ n : Nat, t.extent = .int n ∧ n ≤ t.capacity
  area : t.cells.size = t.capacity * t.capacity
  /-- A place whose first or whose second id is not in use is unset. -/
  spare : ∀ k, k < t.capacity * t.capacity →
    t.states ≤ k % t.capacity ∨ t.states ≤ k / t.capacity → t.cells[k]? = some .unset
  /-- Two ids in use have a place in the row. -/
  index : ∀ i j : Nat, i < t.states → j < t.states →
    t.index (.int i) (.int j) = .ok (i + j * t.capacity) ∧
      i + j * t.capacity < t.capacity * t.capacity
  /-- No two pairs of ids share a place. -/
  apart : ∀ (i j i' j' : Int) (k : Nat), t.index (.int i) (.int j) = .ok k →
    t.index (.int i') (.int j') = .ok k → i = i' ∧ j = j'

section
variable {t : MergeTable}

/-- Every place in the row is that of a pair of ids within the capacity. -/
theorem offset_mod_div (t : MergeTable) (k : Nat) :
    t.offset (k % t.capacity) (k / t.capacity) = k := by
  unfold offset
  rw [Nat.mul_comm]
  exact Nat.mod_add_div k t.capacity

/-- A place is told by its two ids. Whoever finds it has given two ids in use. -/
theorem index_eq_ok {i j : Int} {k : Nat} (found : t.index (.int i) (.int j) = .ok k) :
    ∃ i' j' : Nat, i = i' ∧ j = j' ∧ i' < t.states ∧ j' < t.states ∧ k = t.offset i' j' := by
  obtain ⟨i', j', hi, hj, first, second, place⟩ | ⟨-, fault, -, refused⟩ := t.index_cases i j
  · exact ⟨i', j', hi, hj, first, second, Except.ok.inj (found.symm.trans place)⟩
  · cases found.symm.trans refused

theorem Sound.unset_of_spare (ht : t.Sound) {k : Nat} (inside : k < t.capacity * t.capacity)
    (spare : t.states ≤ k % t.capacity ∨ t.states ≤ k / t.capacity) :
    t.cells[k]? = some .unset := by
  have positive : 0 < t.capacity := Nat.pos_of_mul_pos_left (Nat.zero_lt_of_lt inside)
  have first : k % t.capacity < t.capacity := Nat.mod_lt k positive
  have second : k / t.capacity < t.capacity := Nat.div_lt_of_lt_mul inside
  have unset : t.cell k = .unset := by
    rw [← ht.spare _ _ first second (by omega), view, offset_mod_div]
  have bound : k < t.cells.size := ht.area ▸ inside
  rw [cell, Array.getElem?_eq_getElem bound] at unset
  rw [Array.getElem?_eq_getElem bound]
  exact congrArg some unset

/-- What a table shows of its granted calls, cell by cell, puts its row in order. -/
theorem Shows.laidOut {calls : List Call} (h : t.Shows calls) : t.LaidOut where
  extent := ⟨Call.largest calls, h.extent, h.states ▸ h.sound.fits⟩
  area := h.sound.area
  spare _ inside spare := h.sound.unset_of_spare inside spare
  index i j hi hj := by
    have fits := h.sound.fits
    exact ⟨t.index_int hi hj, offset_lt (by omega) (by omega)⟩
  apart i j i' j' k found found' := by
    have fits := h.sound.fits
    obtain ⟨i, j, rfl, rfl, hi, -, rfl⟩ := index_eq_ok found
    obtain ⟨i', j', rfl, rfl, hi', -, same⟩ := index_eq_ok found'
    obtain ⟨rfl, rfl⟩ := offset_inj (by omega) (by omega) same
    exact ⟨rfl, rfl⟩

end

end MergeTable

/-- Both rows of a table lie as they should. -/
structure Buffers.LaidOut (b : Buffers) : Prop where
  extent : ∃ n : Nat, b.extent = .int n ∧ n ≤ b.capacity
  ids : b.ids.size = b.capacity * b.capacity
  flags : b.flags.size = b.capacity * b.capacity
  /-- A place whose first or whose second id is not in use is unset in both. -/
  spare : ∀ n : Nat, b.extent = .int n → ∀ k, k < b.capacity * b.capacity →
    n ≤ k % b.capacity ∨ n ≤ k / b.capacity → b.ids[k]? = some (-1) ∧ b.flags[k]? = some false

theorem Buffers.Mirrors.laidOut {b : Buffers} {t : MergeTable} (h : b.Mirrors t)
    (laid : t.LaidOut) :
    b.LaidOut := by
  obtain ⟨rfl, -, -⟩ := h
  refine ⟨laid.extent, Array.size_map.trans laid.area, Array.size_map.trans laid.area, ?_⟩
  intro n extent k inside spare
  have states : t.states = n := by
    have whole : t.extent = .int n := extent
    rw [MergeTable.states, whole]
    rfl
  have unset := laid.spare k inside (states ▸ spare)
  simp only [MergeTable.stored, Array.getElem?_map, unset]
  exact ⟨rfl, rfl⟩

namespace MergeTable

/-- **A merge table stays laid out.** After any calls, granted or refused, the row has the square of
the capacity for its length, the places of ids not in use are unset, and each pair of ids in use has
a place of its own in the row. The rows that the table is kept in lie in the same way. -/
theorem stays_laid_out [Memory] {least factor : Int} (hl : 1 ≤ least) (hf : 2 ≤ factor) :
    ∃ t b, make (.int least) (.int factor) = .ok t ∧
      Buffers.make (.int least) (.int factor) = .ok b ∧
      ∀ calls, (t.replay calls).LaidOut ∧ (b.replay calls).LaidOut := by
  obtain ⟨least, rfl⟩ := Int.eq_ofNat_of_zero_le (Int.le_trans (by decide) hl)
  obtain ⟨factor, rfl⟩ := Int.eq_ofNat_of_zero_le (Int.le_trans (by decide) hf)
  have made :
    make (.int least) (.int factor) = .ok (.empty ⟨least, factor, .digits, by omega, by omega⟩) :=
    make_int (by omega) (by omega)
  obtain ⟨growth, chosen, empty⟩ := Option.map_eq_some_iff.mp (orFault_eq_ok.mp made)
  refine ⟨_, .empty growth, made, by rw [Buffers.make, chosen]; rfl, fun calls => ?_⟩
  rw [← empty]
  have laid := ((shows_empty growth).replay calls).laidOut
  exact ⟨laid, ((Buffers.mirrors_empty growth).replay calls).2.laidOut laid⟩

/-- The row moves to a stride of four with three ids in use, and takes in the fourth as it is. Until
then the last place of the first column is unset, and when the fourth id opens it nothing is there.
Two of the calls are refused. -/
theorem stays_laid_out_widened :
    (1 : Int) ≤ 2 ∧ (2 : Int) ≤ 2 ∧ ∃ t, make (.int 2) (.int 2) = .ok t ∧
    let calls : List Call := [.ensure 1, .set 0 1 [.int 7, .int 0], .ensure 2,
      .set 1 1 [.int 5, .int 1], .ensure 3, .set 3 0 [.int 9, .int 1], .set 2 0 [.int 6, .int 0]]
    (t.granted calls).length = 5 ∧ (t.replay calls).cells.size = 16 ∧
      (t.replay calls).cells[3]? = some .unset ∧
      (t.replay (calls ++ [.ensure 4])).index (.int 3) (.int 0) = .ok 3 ∧
      (t.replay (calls ++ [.ensure 4])).cells[3]? = some .unset := by
  have least : (1 : Int) ≤ 2 := by decide
  have factor : (2 : Int) ≤ 2 := by decide
  obtain ⟨t, b, made, -, laid⟩ := stays_laid_out least factor
  cases made
  refine ⟨least, factor, _, rfl, by decide +kernel, ?_, ?_, ?_, by decide +kernel⟩
  · exact (laid _).1.area.trans (by decide +kernel)
  · exact (laid _).1.spare 3 (by decide +kernel) (by decide +kernel)
  · refine ((laid _).1.index 3 0 (by decide +kernel) (by decide +kernel)).1.trans
      (congrArg Except.ok ?_)
    decide +kernel

end MergeTable

end ScanLexer
