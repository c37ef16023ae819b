import ScanLexer.Lexer.Tables
import ScanLexer.Memory.Ordinary
import ScanLexer.Proofs.Lexer.Building
import ScanLexer.Proofs.Lexer.Scanning
import ScanLexer.Proofs.MergeTable.Forgetting
import ScanLexer.Proofs.MergeTable.History

/-!
# What a scan runtime is handed

Arrays are read by row and column, cells by a place in a flat row with a stride. Both show the same
(`Displays`): a sound table does (`Sound.displays`), whatever calls were made and however much of
its capacity is spare, and so does the table of a lexer. Its ids fit the arrays, as a table with
more ids would have found no room (`Granted.capacity_lt`).
-/
namespace ScanLexer

/-- Two square arrays that show, for every two of so many ids, what is looked up for them. The first
id chooses the row. -/
structure Displays (n : Nat) (look : Nat → Nat → Except Fault Summary) (ids : List (List Int))
    (flags : List (List Bool)) : Prop where
  rows : ids.length = n ∧ flags.length = n
  columns : (∀ row ∈ ids, row.length = n) ∧ ∀ row ∈ flags, row.length = n
  cells : ∀ i j, i < n → j < n → ∃ s, look i j = .ok s ∧
    (ids[i]?.bind fun row => row[j]?) = some s.id ∧
    (flags[i]?.bind fun row => row[j]?) = some s.emits

namespace MergeTable

variable {t : MergeTable}

theorem Sound.length_rows (ht : t.Sound) :
    t.rows.length = t.states ∧ ∀ row ∈ t.rows, row.length = t.states := by
  rw [rows_eq ht]
  refine ⟨by simp, ?_⟩
  intro row member
  obtain ⟨i, -, rfl⟩ := List.mem_map.mp member
  simp

/-- The entry of an array of parts of summaries is that part of the cell. -/
theorem Sound.entry_rows (ht : t.Sound) {α : Type} (part : Summary → α) {i j : Nat}
    (hi : i < t.states) (hj : j < t.states) :
    ((t.rows.map fun row => row.map part)[i]?.bind fun row => row[j]?) =
      some (part (t.view i j)) := by
  simp [rows_eq ht, hi, hj]

theorem Sound.displays (ht : t.Sound) :
    Displays t.states (fun i j => t.get (.int i) (.int j)) t.idRows t.flagRows := by
  obtain ⟨height, width⟩ := ht.length_rows
  have widths {α : Type} (part : Summary → α) :
      ∀ row ∈ t.rows.map fun row => row.map part, row.length = t.states := by
    intro row member
    obtain ⟨whole, among, rfl⟩ := List.mem_map.mp member
    rw [List.length_map]
    exact width whole among
  refine ⟨⟨?_, ?_⟩, ⟨widths Summary.id, widths Summary.emits⟩, ?_⟩
  · rw [idRows, List.length_map, height]
  · rw [flagRows, List.length_map, height]
  · intro i j hi hj
    exact ⟨t.view i j, get_eq_view hi hj, ht.entry_rows Summary.id hi hj,
      ht.entry_rows Summary.emits hi hj⟩

/-- The bytes of a table whose ids would not fit 32 bits cannot be counted. -/
theorem Granted.capacity_lt [Memory] (ht : t.Granted) : t.capacity < 2147483648 := by
  obtain ⟨counted, -⟩ := Memory.row_eq_ok_iff.mp ht
  by_contra large
  have cells := Nat.mul_le_mul (Nat.not_lt.mp large) (Nat.not_lt.mp large)
  omega

end MergeTable

theorem Catalogue.underway_close [Memory] {A : Automaton} {growth : Growth} {c c' : Catalogue}
    {e n : Nat} (hu : Underway A growth c) (h : Closing A e c [] fun _ _ => False)
    (run : c.close e n = .ok c') : Underway A growth c' := by
  obtain ⟨⟨last, done⟩, drained, run⟩ := bind_eq_ok.mp run
  have drained := underway_drain hu h.untaken drained
  simp only at run
  split at run
  · cases run
    exact drained
  · nomatch run

namespace Lexer

variable {A : Automaton} {L : Lexer}

/-- What a lexer was compiled to was under way once. -/
theorem underway_of_compile [Memory] (hA : A.Closed) {growth : Growth}
    (compiled : compile A growth = .ok L) :
    Catalogue.Underway A growth L.catalogue := by
  rw [compile_eq] at compiled
  obtain ⟨⟨c, initial, e⟩, gathered, compiled⟩ := bind_eq_ok.mp compiled
  obtain ⟨last, closed, compiled⟩ := bind_eq_ok.mp compiled
  obtain ⟨closing, underway⟩ := closing_of_gather hA gathered
  cases compiled
  exact Catalogue.underway_close underway closing closed

/-- The ids of a lexer fit 32 bits. -/
theorem Compiled.storable [Memory] (hL : L.Compiled A) (granted : L.table.Granted) {id : Nat}
    (known : id < L.registry.size) : Summary.storable id = .ok (id : Int) := by
  have states : L.table.states = L.registry.size := hL.complete.counted.states
  have fits : L.table.states ≤ L.table.capacity := hL.complete.counted.table.fits
  have small := granted.capacity_lt
  have stored : fitsWord 32 id = true := by
    rw [fitsWord_32]
    omega
  exact if_pos stored

/-- The arrays of a lexer. Those of the merge table show what ids are combined to, whatever flags
they come with, and those of the bytes what each byte starts with. -/
structure Exports (L : Lexer) (T : Tables) : Prop where
  merged : ∀ p q : Bool, Displays L.registry.size (fun i j => L.combine ⟨i, p⟩ ⟨j, q⟩) T.mergedIds
    T.mergedFlags
  bytes : T.initialIds.length = 256 ∧ T.initialFlags.length = 256
  initial : ∀ a : Symbol, ∃ s, L.byte a = .ok s ∧ T.initialIds[a.val]? = some s.id ∧
    T.initialFlags[a.val]? = some s.emits

theorem Compiled.exports [Memory] (hL : L.Compiled A) (granted : L.table.Granted) :
    ∃ T, L.tables = .ok T ∧ L.Exports T := by
  have stored :
      L.initial.mapM (fun s => Summary.storable s.id) = .ok (L.initial.map Summary.id) := by
    rw [mapM_eq_ok, List.forall₂_map_right_iff, List.forall₂_same]
    intro s member
    obtain ⟨⟨k, hk⟩, rfl⟩ := List.get_of_mem member
    obtain ⟨id, item, stands⟩ := hL.initial.get (hL.initial.length_eq ▸ hk) hk
    rw [stands.id_eq]
    exact hL.storable granted (Registry.lt_size_of_item? stands.found)
  refine ⟨_, by rw [tables, stored, ok_bind]; rfl, ?_⟩
  have states : L.table.states = L.registry.size := hL.complete.counted.states
  have bytes : L.initial.length = 256 := by
    rw [← hL.initial.length_eq]
    simp [Symbol.all]
  refine ⟨fun p q => ?_, ⟨by simpa using bytes, by simpa using bytes⟩, ?_⟩
  · rw [← states]
    exact hL.complete.counted.table.displays
  · intro a
    obtain ⟨s, id, item, byte, -⟩ := hL.stands_byte a
    have found : L.initial[a.val]? = some s := by
      rwa [Lexer.byte, initialAt, orFault_eq_ok, entryAt_natCast] at byte
    exact ⟨s, byte, by simp [found], by simp [found]⟩

/-- **What is handed out is what is looked up.** The arrays of a merge table have a row and a column
for each id and show its cells, after any calls. The arrays of a lexer show what any two ids are
combined to, and what each of the 256 bytes starts with. -/
theorem arrays_show_cells [Memory] :
    (∀ (least factor : Datum) (t : MergeTable), MergeTable.make least factor = .ok t →
      ∀ calls, ∃ n : Nat, (t.replay calls).extent = .int n ∧
        Displays n (fun i j => (t.replay calls).get (.int i) (.int j)) (t.replay calls).idRows
          (t.replay calls).flagRows) ∧
    ∀ (C : Contract) (config : BuildConfig) (L : Lexer), build C config = .ok L →
      L.table.extent = .int L.registry.size ∧ ∃ T, L.tables = .ok T ∧ L.Exports T := by
  constructor
  · intro least factor t made calls
    obtain ⟨growth, -, rfl⟩ := Option.map_eq_some_iff.mp (orFault_eq_ok.mp made)
    have shows := (MergeTable.shows_empty growth).replay calls
    refine ⟨_, shows.extent, ?_⟩
    rw [← shows.states]
    exact shows.sound.displays
  · intro C config L built
    obtain ⟨A, accepted, -, hL⟩ := compiled_of_build built
    refine ⟨hL.complete.counted.extent, hL.exports ?_⟩
    obtain ⟨A, accepted, built⟩ := bind_eq_ok.mp built
    obtain ⟨made, compiled, built⟩ := bind_eq_ok.mp built
    cases built
    exact (underway_of_compile (Contract.closed_of_automaton accepted).1 compiled).granted

/-- Rows stand for first operands, in a table of capacity four with three ids as in a lexer. -/
theorem arrays_show_cells_singleA :
    (∃ t calls, MergeTable.make (.int 2) (.int 2) = .ok t ∧
      calls = [.ensure 3, .set 0 2 [.int 7, .bool true]] ∧ (t.replay calls).capacity = 4 ∧
      Displays 3 (fun i j => (t.replay calls).get (.int i) (.int j))
        [[-1, -1, 7], [-1, -1, -1], [-1, -1, -1]]
        [[false, false, true], [false, false, false], [false, false, false]]) ∧
    ∃ L T, build (Sample.singleA true).contract .usual = .ok L ∧ L.tables = .ok T ∧ L.Exports T ∧
      T.mergedIds.length = 3 := by
  obtain ⟨ofCalls, ofLexer⟩ := arrays_show_cells
  constructor
  · refine ⟨_, _, rfl, rfl, by decide +kernel, ?_⟩
    obtain ⟨n, extent, displays⟩ := ofCalls (.int 2) (.int 2) _ rfl
      [.ensure 3, .set 0 2 [.int 7, .bool true]]
    have three : Datum.int n = .int 3 := extent.symm.trans (by decide +kernel)
    cases Int.ofNat.inj (Datum.int.inj three)
    convert displays using 1 <;> decide +kernel
  · obtain ⟨L, built, size, -⟩ := exists_lexer_singleA
    obtain ⟨-, T, exported, exports⟩ := ofLexer _ _ L built
    exact ⟨L, T, built, exported, exports, size ▸ (exports.merged false false).rows.1⟩

end Lexer

end ScanLexer
