import ScanLexer.Memory.Ordinary
import ScanLexer.MergeTable.Buffers
import ScanLexer.Proofs.MergeTable.History

/-!
# A merge table kept in two rows

A summary is stored in two steps, one for each row, and room for more ids is asked for twice. The
rows stay in step with a table of summaries (`Mirrors`): a call is granted by both or refused by
both, and a refused call has changed neither row (`Mirrors.perform`). So whatever is called, a table
that is kept in two rows remembers the calls that were granted and nothing else (`table_is_a_map`).
-/
namespace ScanLexer

/-- A table as it is stored. -/
def MergeTable.stored (t : MergeTable) : Buffers :=
  ⟨t.growth, t.extent, t.capacity, t.cells.map Summary.id, t.cells.map Summary.emits⟩

section
variable {α β : Type} (f : α → β) (row : Array α) (blank : α) (used stride larger : Nat)

theorem spread_map : spread (row.map f) (f blank) used stride larger =
    (spread row blank used stride larger).map f := by
  unfold spread
  rw [Array.map_ofFn]
  congr 1
  funext k
  simp only [Function.comp_apply, Array.getElem?_map]
  split
  · exact Option.getD_map f blank _
  · rfl

theorem transposed_map : transposed (row.map f) (f blank) used stride =
    (transposed row blank used stride).map fun line => line.map f := by
  simp only [transposed, List.map_map]
  apply List.map_congr_left
  intro i _
  simp only [Function.comp_apply, List.map_map]
  apply List.map_congr_left
  intro j _
  simp only [Function.comp_apply, ← Array.map_extract, Array.getElem?_map]
  exact Option.getD_map f blank _

end

/-- Where there is room for a row of ids, there is room for one of flags. -/
theorem Memory.flags_of_row [Memory] {count : Nat} (h : row count = .ok ()) :
    cells 1 count = .ok () := by
  obtain ⟨counted, had⟩ := row_eq_ok_iff.mp h
  exact (cells_eq_ok_iff Nat.one_pos).mpr ⟨by omega, has_of_le (by omega) had⟩

namespace Buffers

open Method MergeTable

/-- What is left in the rows of a table, and answered, where the table comes out so. -/
def left {α : Type} (t : MergeTable) (made : Except Fault (MergeTable × α)) :
    Buffers × Except Fault α :=
  match made with
  | .ok (t', a) => (t'.stored, .ok a)
  | .error fault => (t.stored, .error fault)

section
variable {t t' : MergeTable}

theorem seat_natCast {cells k : Nat} (inside : k < cells) : seat cells (.int k) = .ok k := by
  simp [seat, Datum.integer?, inside, orFault]

theorem outcome_index (t : MergeTable) (i j : Datum) :
    outcome (index i j) t.stored = (t.stored, t.place i j) := by
  have extent : t.stored.extent = t.extent := rfl
  simp only [index, outcome_now_bind, place, check, extent]
  cases checkId t.extent i with
  | error fault => rfl
  | ok _ =>
    rw [outcome_ok_bind, ok_bind]
    cases checkId t.extent j <;> rfl

/-- Both rows have a cell at the place of two ids. -/
theorem offset_lt_rows (sound : t.Sound) {i j : Nat} (hi : i < t.states) (hj : j < t.states) :
    t.offset i j < t.stored.ids.size ∧ t.offset i j < t.stored.flags.size := by
  have fits := sound.fits
  have inside : t.offset i j < t.cells.size := sound.area ▸ offset_lt (by omega) (by omega)
  have ids : t.stored.ids.size = t.cells.size := Array.size_map
  have flags : t.stored.flags.size = t.cells.size := Array.size_map
  exact ⟨ids ▸ inside, flags ▸ inside⟩

theorem outcome_get (sound : t.Sound) (i j : Int) :
    outcome (get (.int i) (.int j)) t.stored = (t.stored, t.get (.int i) (.int j)) := by
  rw [Buffers.get, outcome_bind_of_kept (outcome_index t (.int i) (.int j)), MergeTable.get]
  obtain ⟨i, j, rfl, rfl, hi, hj, found⟩ | ⟨-, fault, -, refused⟩ := t.place_cases i j
  · obtain ⟨ids, flags⟩ := offset_lt_rows sound hi hj
    have cell : Summary.mk (t.stored.ids[t.offset i j]?.getD Summary.unset.id)
        (t.stored.flags[t.offset i j]?.getD Summary.unset.emits) = t.cell (t.offset i j) := by
      simp only [stored, Array.getElem?_map, Option.getD_map]
      rfl
    rw [found, outcome_ok_bind, outcome_now_bind, seat_natCast ids, outcome_ok_bind,
      seat_natCast flags, outcome_ok_bind, outcome_pure, cell, t.index_int hi hj]
    rfl
  · rw [refused, MergeTable.index, refused]
    rfl

section
variable {b : Buffers} {k : Nat}

theorem outcome_putId (inside : k < b.ids.size) (id : Datum) :
    outcome (putId (.int k) id) b = match Summary.storedId id with
      | .ok r => ({ b with ids := b.ids.setIfInBounds k r }, .ok ())
      | .error fault => (b, .error fault) := by
  rw [putId, outcome_now_bind, seat_natCast inside, outcome_ok_bind]
  cases Summary.storedId id <;> rfl

/-- A flag is stored wherever there is a place for it. -/
theorem outcome_putFlag (inside : k < b.flags.size) (emits : Datum) :
    outcome (putFlag (.int k) emits) b =
      ({ b with flags := b.flags.setIfInBounds k emits.truth }, .ok ()) := by
  rw [putFlag, outcome_now_bind, seat_natCast inside, outcome_ok_bind, outcome_modify]

end

/-- A summary is stored in two steps, but the second one never fails where the first one did not. -/
theorem outcome_set (sound : t.Sound) (i j : Int) (parts : List Datum) :
    outcome (set (.int i) (.int j) parts) t.stored =
      left t ((t.set (.int i) (.int j) parts).map (·, ())) := by
  unfold Buffers.set MergeTable.set
  cases Summary.parts parts with
  | error fault => rfl
  | ok told =>
    obtain ⟨id, emits⟩ := told
    simp only [outcome_ok_bind, ok_bind, slot]
    rw [outcome_bind_of_kept (outcome_index t (.int i) (.int j))]
    obtain ⟨i, j, rfl, rfl, hi, hj, found⟩ | ⟨-, fault, -, refused⟩ := t.place_cases i j
    · obtain ⟨ids, flags⟩ := offset_lt_rows sound hi hj
      have first := outcome_putId ids id
      rw [found, outcome_ok_bind, t.index_int hi hj, ok_bind]
      cases read : Summary.storedId id with
      | error fault =>
        rw [read] at first
        rw [outcome_bind_of_error first]
        rfl
      | ok r =>
        rw [read] at first
        rw [outcome_bind_of_ok first]
        refine (outcome_putFlag (k := t.offset i j) ?_ emits).trans ?_
        · exact flags
        simp only [ok_bind, pure_eq_ok, Except.map, left, stored, write, Array.map_setIfInBounds]
    · rw [refused, MergeTable.index, refused]
      rfl

theorem outcome_corner (sound : t.Sound) {n : Int} (whole : t.extent = .int n) :
    outcome corner t.stored = (t.stored, .ok t.states) := by
  have extent : t.stored.extent = .int n := whole
  have states : t.states = n.toNat := by rw [MergeTable.states, whole]; rfl
  have ids : checkSquare t.stored.ids.size t.stored.capacity = .ok () :=
    if_pos (Array.size_map.trans sound.area)
  have flags : checkSquare t.stored.flags.size t.stored.capacity = .ok () :=
    if_pos (Array.size_map.trans sound.area)
  rw [corner, outcome_now_bind, extent]
  by_cases none : n = 0
  · subst none
    rw [states]
    rfl
  · rw [if_pos (by simpa [Datum.truth] using none), ids, outcome_ok_bind, flags, outcome_ok_bind,
      outcome_demand, states]
    rfl

/-- Room is asked for twice, but it is not refused to the flags where it was granted to the ids. -/
theorem outcome_grow [Memory] (sound : t.Sound) {n : Int} (whole : t.extent = .int n)
    (requested : Datum) (capacity : Nat) : outcome (grow requested capacity) t.stored =
      left t ((Memory.row (capacity * capacity)).map fun _ =>
        ({ t with extent := requested, capacity := capacity, cells := t.resized capacity },
          ())) := by
  rw [grow]
  cases room : Memory.row (capacity * capacity) with
  | error fault => rfl
  | ok _ =>
    rw [outcome_ok_bind, Memory.flags_of_row room, outcome_ok_bind,
      outcome_bind_of_ok (outcome_corner sound whole), outcome_modify]
    simp only [left, Except.map, stored, resized, ← spread_map]

theorem outcome_ensure [Memory] (sound : t.Sound) {n : Int} (whole : t.extent = .int n)
    (requested : Int) :
    outcome (ensure (.int requested)) t.stored =
      left t ((t.ensure (.int requested)).map (·, ())) := by
  have extent : t.stored.extent = t.extent := rfl
  have capacity : t.stored.capacity = t.capacity := rfl
  have growth : t.stored.growth = t.growth := rfl
  have count : (Datum.int requested).ceil = requested := rfl
  rw [Buffers.ensure, outcome_now_bind, ensure_int, extent, capacity, growth, count,
    Datum.int_atMost]
  simp only [Datum.isNumber_int, Bool.not_true, Bool.false_eq_true, if_false, decide_eq_true_eq]
  split
  · rfl
  · split
    · rfl
    · simp only [outcome_grow sound whole, map_map]

theorem outcome_arrays (sound : t.Sound) {n : Int} (whole : t.extent = .int n) :
    outcome arrays t.stored = (t.stored, .ok (t.idRows, t.flagRows)) := by
  have extent : t.stored.extent = .int n := whole
  have states : t.states = n.toNat := by rw [MergeTable.states, whole]; rfl
  have inUse : used t.stored.extent = .ok t.states := by rw [extent, states]; rfl
  have ids : checkSquare t.stored.ids.size t.stored.capacity = .ok () :=
    if_pos (Array.size_map.trans sound.area)
  have flags : checkSquare t.stored.flags.size t.stored.capacity = .ok () :=
    if_pos (Array.size_map.trans sound.area)
  rw [arrays, outcome_now_bind, ids, outcome_ok_bind, inUse, outcome_ok_bind, flags,
    outcome_ok_bind, outcome_pure]
  simp only [stored, transposed_map]
  rfl

end

/-- What a call to a table is answered by. -/
inductive Answer where
  | done
  | cell (s : Summary)
  | place (k : Datum)
  | arrays (ids : List (List Int)) (flags : List (List Bool))
deriving DecidableEq

/-- The steps of a call. -/
def method [Memory] : Call → Method Buffers Answer
  | .ensure n => do
    ensure (.int n)
    return .done
  | .set i j parts => do
    set (.int i) (.int j) parts
    return .done
  | .get i j => do
    let s ← get (.int i) (.int j)
    return .cell s
  | .index i j => do
    let k ← index (.int i) (.int j)
    return .place k
  | .rows => do
    let (ids, flags) ← arrays
    return .arrays ids flags

def perform [Memory] (b : Buffers) (call : Call) : Buffers × Except Fault Answer :=
  outcome (method call) b

def replay [Memory] (b : Buffers) (calls : List Call) : Buffers := Calls.replay perform b calls

/-- Those of the calls that are granted when they are made in turn. -/
def granted [Memory] (b : Buffers) (calls : List Call) : List Call := Calls.granted perform b calls

/-- The table that a call leads to, and its answer. -/
def serve [Memory] (t : MergeTable) : Call → Except Fault (MergeTable × Answer)
  | .ensure n => (t.ensure (.int n)).map (·, .done)
  | .set i j parts => (t.set (.int i) (.int j) parts).map (·, .done)
  | .get i j => (t.get (.int i) (.int j)).map fun s => (t, .cell s)
  | .index i j => (t.place (.int i) (.int j)).map fun k => (t, .place k)
  | .rows => .ok (t, .arrays t.idRows t.flagRows)

/-- Two rows that hold what a table holds. -/
structure Mirrors (b : Buffers) (t : MergeTable) : Prop where
  stored : b = t.stored
  sound : t.Sound
  whole : ∃ n : Int, t.extent = .int n

section
variable {b : Buffers} {t : MergeTable} {call : Call}

theorem mirrors_empty (growth : Growth) : (empty growth).Mirrors (.empty growth) :=
  ⟨by simp [empty, MergeTable.empty, MergeTable.stored], sound_empty growth, ⟨0, rfl⟩⟩

theorem outcome_change {m : Method Buffers Unit} {changed : Except Fault MergeTable}
    (h : outcome m t.stored = left t (changed.map (·, ()))) :
    outcome (do m; return Answer.done) t.stored = left t (changed.map (·, .done)) := by
  cases changed with
  | ok t' => exact outcome_bind_of_ok h _
  | error fault => exact outcome_bind_of_error h _

theorem outcome_read {α : Type} {m : Method Buffers α} {read : Except Fault α}
    (h : outcome m t.stored = (t.stored, read)) (encode : α → Answer) :
    outcome (do let a ← m; return encode a) t.stored =
      left t (read.map fun a => (t, encode a)) := by
  cases read with
  | ok a => exact outcome_bind_of_ok h _
  | error fault => exact outcome_bind_of_error h _

/-- **The rows come out as the table does,** and so does the answer. -/
theorem Mirrors.perform [Memory] (h : b.Mirrors t) (call : Call) :
    b.perform call = left t (serve t call) := by
  obtain ⟨rfl, sound, n, whole⟩ := h
  cases call with
  | ensure n => exact outcome_change (outcome_ensure sound whole n)
  | set i j parts => exact outcome_change (outcome_set sound i j parts)
  | get i j => exact outcome_read (outcome_get sound i j) Answer.cell
  | index i j => exact outcome_read (outcome_index t _ _) Answer.place
  | rows => exact outcome_read (outcome_arrays sound whole) fun (ids, flags) => .arrays ids flags

/-- A table serves a call by what the call leads to. -/
theorem map_fst_serve [Memory] (t : MergeTable) (call : Call) :
    (serve t call).map Prod.fst = t.perform call := by
  cases call with
  | ensure n =>
    simp only [serve, MergeTable.perform]
    cases t.ensure (.int n) <;> rfl
  | set i j parts =>
    simp only [serve, MergeTable.perform]
    cases t.set (.int i) (.int j) parts <;> rfl
  | get i j =>
    simp only [serve, MergeTable.perform]
    cases t.get (.int i) (.int j) <;> rfl
  | index i j =>
    simp only [serve, MergeTable.perform, MergeTable.index]
    obtain ⟨i, j, rfl, rfl, -, -, found⟩ | ⟨-, fault, -, refused⟩ := t.place_cases i j
    · rw [found]
      rfl
    · rw [refused]
      rfl
  | rows => rfl

/-- A refused call has left both rows as they were. -/
theorem Mirrors.refused [Memory] (h : b.Mirrors t) {fault : Fault}
    (failed : (b.perform call).2 = .error fault) : (b.perform call).1 = b := by
  rw [h.perform] at failed ⊢
  cases served : serve t call with
  | ok pair =>
    rw [served] at failed
    contradiction
  | error fault => exact h.stored.symm

/-- A call is granted by both or refused by both, and leaves them in step. -/
theorem Mirrors.step [Memory] (h : b.Mirrors t) (call : Call) :
    (b.perform call).2.isOk = (Calls.settle MergeTable.perform t call).2.isOk ∧
      (b.perform call).1.Mirrors (Calls.settle MergeTable.perform t call).1 := by
  have led := map_fst_serve t call
  rw [h.perform]
  cases served : serve t call with
  | ok pair =>
    obtain ⟨t', a⟩ := pair
    rw [served] at led
    have kept := sound_perform h.sound h.whole led.symm
    rw [Calls.settle_of_ok led.symm]
    exact ⟨rfl, rfl, kept.1, kept.2⟩
  | error fault =>
    rw [served] at led
    rw [Calls.settle_of_error led.symm]
    exact ⟨rfl, rfl, h.sound, h.whole⟩

theorem Mirrors.replay [Memory] (h : b.Mirrors t) (calls : List Call) :
    b.granted calls = t.granted calls ∧ (b.replay calls).Mirrors (t.replay calls) :=
  Calls.granted_inStep (fun _ _ call mirrors => mirrors.step call) h calls

end

/-- What can be asked of a table to which calls were granted. -/
structure Behaves [Memory] (b : Buffers) (calls : List Call) : Prop where
  /-- There are as many ids as were asked for. -/
  extent : b.extent = .int (Call.largest calls)
  /-- A cell has what was last put into it. -/
  get : ∀ i j : Nat, i < Call.largest calls → j < Call.largest calls →
    b.perform (.get i j) = (b, .ok (.cell (Call.last calls i j)))
  rows : b.perform .rows = (b, .ok (.arrays
    ((List.range (Call.largest calls)).map fun i =>
      (List.range (Call.largest calls)).map fun j => (Call.last calls i j).id)
    ((List.range (Call.largest calls)).map fun i =>
      (List.range (Call.largest calls)).map fun j => (Call.last calls i j).emits)))
  index : ∀ i j : Nat, i < Call.largest calls → j < Call.largest calls →
    b.perform (.index i j) = (b, .ok (.place (.int ↑(i + j * b.capacity))))
  /-- No cell outside the table can be read, placed or set. -/
  outside : ∀ i j : Int,
    ¬ ((0 ≤ i ∧ i < Call.largest calls) ∧ 0 ≤ j ∧ j < Call.largest calls) →
    ∃ fault, fault.kind = .assertion ∧ (b.perform (.get i j)).2 = .error fault ∧
      (b.perform (.index i j)).2 = .error fault ∧
      ∀ id emits, (b.perform (.set i j [id, emits])).2 = .error fault
  /-- What is no pair is refused before the ids are looked at. -/
  unpaired : ∀ (i j : Int) (parts : List Datum), (∀ id emits, parts ≠ [id, emits]) →
    ∃ fault, fault.kind = .value ∧ (b.perform (.set i j parts)).2 = .error fault
  /-- A cell is set to what can be stored as an id. If it cannot, this is what is told. -/
  set : ∀ i j : Nat, i < Call.largest calls → j < Call.largest calls → ∀ id emits,
    (b.perform (.set i j [id, emits])).2 = (Summary.storedId id).map fun _ => .done
  /-- More ids are refused if the capacity that covers them is larger and its cells cannot be
  had. -/
  ensure : ∀ n fault, (b.perform (.ensure n)).2 = .error fault ↔ b.capacity < n ∧
    Memory.row (b.growth.next n.toNat b.capacity * b.growth.next n.toNat b.capacity) = .error fault
  /-- Room is refused by its size or for want of memory. -/
  room : ∀ n fault, (b.perform (.ensure n)).2 = .error fault →
    fault.kind = .value ∨ fault.kind = .memory
  /-- A refused call has changed neither row. -/
  refused : ∀ call fault, (b.perform call).2 = .error fault → (b.perform call).1 = b

section
variable {b : Buffers} {t : MergeTable} {calls : List Call}

theorem left_error {α : Type} {made : Except Fault (MergeTable × α)} {fault : Fault} :
    (left t made).2 = .error fault ↔ made = .error fault := by
  cases made <;> simp [left]

theorem Mirrors.behaves [Memory] (h : b.Mirrors t) (shows : t.Shows calls) : b.Behaves calls where
  extent := by
    rw [h.stored]
    exact shows.extent
  get i j hi hj := by
    have cell := get_eq_view (shows.states ▸ hi) (shows.states ▸ hj)
    rw [h.perform, serve, cell, shows.cells i j hi hj, h.stored]
    rfl
  rows := by
    have entries : t.rows = (List.range (Call.largest calls)).map fun i =>
        (List.range (Call.largest calls)).map fun j => Call.last calls i j := by
      rw [rows_eq shows.sound, shows.states]
      apply List.map_congr_left
      intro i hi
      apply List.map_congr_left
      intro j hj
      exact shows.cells i j (List.mem_range.mp hi) (List.mem_range.mp hj)
    rw [h.perform, serve, idRows, flagRows, entries, h.stored]
    simp only [left, List.map_map, Function.comp_def]
  index i j hi hj := by
    rw [h.perform, serve, t.place_int (shows.states ▸ hi) (shows.states ▸ hj), h.stored]
    rfl
  outside i j out := by
    obtain ⟨i, j, rfl, rfl, hi, hj, -⟩ | ⟨-, fault, kind, refused⟩ := t.place_cases i j
    · rw [shows.states] at hi hj
      omega
    · have index : t.index (.int i) (.int j) = .error fault := by
        rw [MergeTable.index, refused, error_bind]
      refine ⟨fault, kind, ?_, ?_, ?_⟩
      · rw [h.perform, left_error, serve, map_eq_error, MergeTable.get, index, error_bind]
      · rw [h.perform, left_error, serve, map_eq_error, refused]
      · intro id emits
        rw [h.perform, left_error, serve, map_eq_error]
        simp [MergeTable.set, Summary.parts, slot, index]
  unpaired i j parts unpaired := by
    have failed : ∃ fault, fault.kind = .value ∧ Summary.parts parts = .error fault := by
      unfold Summary.parts
      split
      next id emits => exact absurd rfl (unpaired id emits)
      all_goals exact ⟨_, rfl, rfl⟩
    obtain ⟨fault, kind, failed⟩ := failed
    refine ⟨fault, kind, ?_⟩
    rw [h.perform, left_error, serve, map_eq_error, MergeTable.set, failed, error_bind]
  set i j hi hj id emits := by
    have place := t.index_int (shows.states ▸ hi) (shows.states ▸ hj)
    simp only [h.perform, serve, MergeTable.set, Summary.parts, slot, place, ok_bind]
    cases Summary.storedId id <;> rfl
  ensure n fault := by
    have floor : t.extent.floor = t.states := by rw [shows.states, shows.extent]; rfl
    have fits := shows.sound.fits
    have capacity : b.capacity = t.capacity := congrArg Buffers.capacity h.stored
    have growth : b.growth = t.growth := congrArg Buffers.growth h.stored
    rw [h.perform, left_error, serve, map_eq_error, ensure_eq_error, floor, capacity, growth]
    constructor
    · rintro ⟨-, more, refused⟩
      exact ⟨by omega, refused⟩
    · rintro ⟨more, refused⟩
      exact ⟨by omega, by omega, refused⟩
  room n fault refused := by
    rw [h.perform, left_error, serve, map_eq_error] at refused
    exact Memory.kind_of_row (ensure_eq_error.mp refused).2.2
  refused _ _ failed := h.refused failed

/-- **A merge table is a map.** After any calls, of which some may have been refused, a table has as
many ids as the largest of the requests that were granted, and the cell of two ids has what the last
granted call put there, or is unset. -/
theorem table_is_a_map [Memory] {least factor : Int} (hl : 1 ≤ least) (hf : 2 ≤ factor) :
    ∃ b, make (.int least) (.int factor) = .ok b ∧
      (∀ calls, (b.replay calls).Behaves (b.granted calls)) ∧
      ∀ r : Int, Summary.storedId (.int r) =
        if -2147483648 ≤ r ∧ r < 2147483648 then .ok r
        else if -9223372036854775808 ≤ r ∧ r < 9223372036854775808 then .error (.outside32Bits r)
        else .error .outside64Bits := by
  have growth : ∃ g, Growth.ofChoices? (.int least) (.int factor) = some g := by
    rw [Growth.ofChoices?, dif_pos ⟨hl, hf⟩]
    exact ⟨_, rfl⟩
  obtain ⟨g, chosen⟩ := growth
  refine ⟨empty g, ?_, ?_, ?_⟩
  · rw [make, chosen]
    rfl
  · intro calls
    obtain ⟨granted, mirrors⟩ := (mirrors_empty g).replay calls
    rw [granted]
    exact mirrors.behaves ((shows_empty g).replay calls)
  · intro r
    simp only [Summary.storedId, Datum.read_int, ok_bind, Summary.storable, fitsWord_32,
      fitsWord_64]
    split
    · rfl
    · split <;> rfl

/-- A cell keeps what was put into it when the table grows and when a call on it is refused. Nothing
can be stored for the absent value. -/
theorem table_is_a_map_growing :
    (1 : Int) ≤ 2 ∧ (2 : Int) ≤ 2 ∧ ∃ b, make (.int 2) (.int 2) = .ok b ∧
      ((b.replay [.ensure 2, .set 0 1 [.int 5, .int 7], .set 0 1 [.null, .bool false],
        .set 0 1 [.int 9], .ensure 3]).perform (.get 0 1)).2 = .ok (.cell ⟨5, true⟩) := by
  have least : (1 : Int) ≤ 2 := by decide
  have factor : (2 : Int) ≤ 2 := by decide
  obtain ⟨b, made, behaves, -⟩ := table_is_a_map least factor
  cases made
  refine ⟨least, factor, _, rfl, ?_⟩
  have known := (behaves [.ensure 2, .set 0 1 [.int 5, .int 7], .set 0 1 [.null, .bool false],
    .set 0 1 [.int 9], .ensure 3]).get 0 1 (by decide +kernel) (by decide +kernel)
  refine (congrArg Prod.snd known).trans (congrArg (fun s => Except.ok (Answer.cell s)) ?_)
  decide +kernel

/-- If the row of flags were shorter, a summary would be stored by half. -/
example : ((⟨⟨1, 2, .digits, by decide, by decide⟩, .int 1, 1, #[-1], #[]⟩ : Buffers).perform
    (.set 0 0 [.int 5, .bool true])) =
      (⟨⟨1, 2, .digits, by decide, by decide⟩, .int 1, 1, #[5], #[]⟩,
        .error (.outsideRow 0 0)) := by
  decide

/-- A request for which there is no room is not granted, though it is the largest so far. The parts
of a summary are counted before the ids are checked. -/
theorem table_short_of_room : ∃ b, make (.int 2) (.int 1099511627776) = .ok b ∧
    Call.largest [.ensure 2, .ensure 3] = 3 ∧
    (b.replay [.ensure 2, .ensure 3]).extent = .int 2 ∧
    ∃ fault, fault.kind = .value ∧
      ((b.replay [.ensure 2, .ensure 3]).perform (.set 9 0 [.int 1])).2 = .error fault :=
  ⟨_, rfl, rfl, by decide +kernel, .tooFewParts 1 2, rfl, rfl⟩

end

end Buffers

end ScanLexer
