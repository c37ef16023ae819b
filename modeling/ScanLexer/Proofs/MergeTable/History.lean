import ScanLexer.MergeTable.Rows
import ScanLexer.Proofs.Calls
import ScanLexer.Proofs.MergeTable.Room

/-!
# What a merge table remembers

A table is asked for room, for cells to be set and for cells to be read, in any order, and some
calls are refused. What it shows depends on the calls that were granted alone (`Shows`): it has as
many ids as the largest request, and each cell has the summary that was put there last. One call
keeps this (`Shows.perform`), so any row of calls does (`Shows.replay`).
-/
namespace ScanLexer

namespace Summary

theorem parts_eq_ok {ds : List Datum} {id emits : Datum} :
    parts ds = .ok (id, emits) ↔ ds = [id, emits] := by
  unfold parts
  split <;> simp_all

end Summary

namespace MergeTable

/-- A call to a table. Summaries come in parts. -/
inductive Call where
  | ensure (n : Int)
  | set (i j : Int) (parts : List Datum)
  | get (i j : Int)
  | index (i j : Int)
  | rows

namespace Call

/-- How many ids a call asks for. -/
def requested : Call → Nat
  | ensure n => n.toNat
  | _ => 0

/-- The largest number of ids that calls ask for. -/
def largest (calls : List Call) : Nat := (calls.map requested).foldl max 0

/-- The summary that a call puts into the cell of two ids. -/
def stored? (i j : Nat) : Call → Option Summary
  | set i' j' [id, emits] =>
    if i' = i ∧ j' = j then (Summary.storedId id).toOption.map (⟨·, emits.truth⟩) else none
  | _ => none

/-- What was last put into the cell of two ids. If nothing was, the cell is unset. -/
def last (calls : List Call) (i j : Nat) : Summary :=
  (calls.filterMap (stored? i j)).getLast?.getD .unset

@[simp] theorem largest_concat (calls : List Call) (call : Call) :
    largest (calls ++ [call]) = max (largest calls) call.requested := by
  simp [largest]

theorem last_concat (calls : List Call) (call : Call) (i j : Nat) :
    last (calls ++ [call]) i j = (call.stored? i j).getD (last calls i j) := by
  unfold last
  cases stored : call.stored? i j <;> simp [stored]

end Call

/-- The table that a call leads to, unless the call is refused. Reading changes nothing. -/
def perform [Memory] (t : MergeTable) : Call → Except Fault MergeTable
  | .ensure n => t.ensure (.int n)
  | .set i j parts => t.set (.int i) (.int j) parts
  | .get i j => (t.get (.int i) (.int j)).map fun _ => t
  | .index i j => (t.index (.int i) (.int j)).map fun _ => t
  | .rows => .ok t

def replay [Memory] (t : MergeTable) (calls : List Call) : MergeTable :=
  Calls.replay (Calls.settle perform) t calls

/-- Those of the calls that are granted when they are made in turn. -/
def granted [Memory] (t : MergeTable) (calls : List Call) : List Call :=
  Calls.granted (Calls.settle perform) t calls

/-- A table that stands for the calls that were granted. Only cells of ids have been set. -/
structure Shows (t : MergeTable) (calls : List Call) : Prop where
  sound : t.Sound
  extent : t.extent = .int (Call.largest calls)
  cells : ∀ i j, i < Call.largest calls → j < Call.largest calls → t.view i j = Call.last calls i j
  beyond : ∀ i j, ¬ (i < Call.largest calls ∧ j < Call.largest calls) → Call.last calls i j = .unset

section
variable {t t' : MergeTable} {calls : List Call}

theorem Shows.states (h : t.Shows calls) : t.states = Call.largest calls := by
  unfold MergeTable.states
  rw [h.extent]
  rfl

theorem shows_empty (growth : Growth) : (empty growth).Shows [] :=
  ⟨sound_empty growth, rfl, fun _ _ hi => absurd hi (Nat.not_lt_zero _), fun _ _ _ => rfl⟩

/-- A call that asks for no ids and sets no cell is not remembered. -/
theorem Shows.skip (h : t.Shows calls) {call : Call} (requested : call.requested = 0)
    (stored : ∀ i j, call.stored? i j = none) : t.Shows (calls ++ [call]) := by
  have same : Call.largest (calls ++ [call]) = Call.largest calls := by simp [requested]
  have kept (i j : Nat) : Call.last (calls ++ [call]) i j = Call.last calls i j := by
    rw [Call.last_concat, stored, Option.getD_none]
  refine ⟨h.sound, same ▸ h.extent, ?_, ?_⟩
  · intro i j hi hj
    rw [same] at hi hj
    rw [kept, h.cells i j hi hj]
  · intro i j outside
    rw [same] at outside
    rw [kept, h.beyond i j outside]

theorem Shows.ensure [Memory] (h : t.Shows calls) {n : Int} (grown : t.ensure (.int n) = .ok t') :
    t'.Shows (calls ++ [.ensure n]) := by
  have states : t'.states = max (Call.largest calls) n.toNat := h.states ▸ states_ensure grown
  have size : Call.largest (calls ++ [.ensure n]) = max (Call.largest calls) n.toNat :=
    Call.largest_concat calls _
  have kept (i j : Nat) : Call.last (calls ++ [.ensure n]) i j = Call.last calls i j :=
    Call.last_concat calls _ i j
  refine ⟨sound_ensure h.sound grown, ?_, ?_, ?_⟩
  · by_cases more : Call.largest calls < n
    · rw [extent_ensure h.extent more grown, size]
      congr 1
      omega
    · have floor : t.extent.floor = Call.largest calls := by rw [h.extent]; rfl
      obtain ⟨-, rfl⟩ | ⟨less, -⟩ | ⟨less, -⟩ := ensure_cases grown
      · rw [h.extent, size]
        congr 1
        omega
      · omega
      · omega
  · intro i j hi hj
    rw [size, ← states] at hi hj
    rw [kept, view_ensure h.sound grown hi hj, h.states]
    -- A cell of a new id shows as unset, and nothing was put there while it was outside.
    split
    next inside => exact h.cells i j inside.1 inside.2
    next outside => exact (h.beyond i j outside).symm
  · intro i j outside
    rw [kept]
    apply h.beyond
    rw [size] at outside
    omega

theorem check_eq (t : MergeTable) (i : Int) : t.check (.int i) =
    if 0 ≤ i ∧ i < t.states then .ok ()
    else .error (.outsideTable (Datum.int i).printed t.extent.printed) := by
  have same : (0 ≤ i ∧ i < t.extent.ceil) ↔ (0 ≤ i ∧ i < t.states) := by unfold states; omega
  simp only [check, checkId, Datum.isNumber_int, Bool.not_true, Bool.false_eq_true, if_false,
    Datum.within_int, same, decide_eq_true_eq]

/-- The place of a cell is found if both ids are in use. -/
theorem place_cases (t : MergeTable) (i j : Int) :
    (∃ i' j' : Nat, i = i' ∧ j = j' ∧ i' < t.states ∧ j' < t.states ∧
      t.place (.int i) (.int j) = .ok (.int (t.offset i' j'))) ∨
    (¬ ((0 ≤ i ∧ i < t.states) ∧ 0 ≤ j ∧ j < t.states) ∧
      ∃ fault, fault.kind = .assertion ∧ t.place (.int i) (.int j) = .error fault) := by
  by_cases hi : 0 ≤ i ∧ i < t.states
  · by_cases hj : 0 ≤ j ∧ j < t.states
    · left
      obtain ⟨i, rfl⟩ := Int.eq_ofNat_of_zero_le hi.1
      obtain ⟨j, rfl⟩ := Int.eq_ofNat_of_zero_le hj.1
      have hi' : i < t.states := by omega
      have hj' : j < t.states := by omega
      exact ⟨i, j, rfl, rfl, hi', hj', t.place_int hi' hj'⟩
    · right
      refine ⟨fun inside => hj inside.2, .outsideTable (Datum.int j).printed t.extent.printed, rfl,
        ?_⟩
      rw [place, check_eq, if_pos hi, ok_bind, check_eq, if_neg hj]
      rfl
  · right
    refine ⟨fun inside => hi inside.1, .outsideTable (Datum.int i).printed t.extent.printed, rfl,
      ?_⟩
    rw [place, check_eq, if_neg hi]
    rfl

theorem index_cases (t : MergeTable) (i j : Int) :
    (∃ i' j' : Nat, i = i' ∧ j = j' ∧ i' < t.states ∧ j' < t.states ∧
      t.index (.int i) (.int j) = .ok (t.offset i' j')) ∨
    (¬ ((0 ≤ i ∧ i < t.states) ∧ 0 ≤ j ∧ j < t.states) ∧
      ∃ fault, fault.kind = .assertion ∧ t.index (.int i) (.int j) = .error fault) := by
  obtain ⟨i, j, rfl, rfl, hi, hj, -⟩ | ⟨outside, fault, kind, refused⟩ := t.place_cases i j
  · exact .inl ⟨i, j, rfl, rfl, hi, hj, t.index_int hi hj⟩
  · exact .inr ⟨outside, fault, kind, by rw [index, refused, error_bind]⟩

/-- What a granted call to `set` has done. The row of cells changes in one place. -/
theorem set_eq_ok {i j : Int} {parts : List Datum} : t.set (.int i) (.int j) parts = .ok t' ↔
    ∃ (i' j' : Nat) (id emits : Datum) (r : Int), i = i' ∧ j = j' ∧ i' < t.states ∧ j' < t.states ∧
      parts = [id, emits] ∧ Summary.storedId id = .ok r ∧
      t' = t.write (t.offset i' j') ⟨r, emits.truth⟩ := by
  constructor
  · intro h
    obtain ⟨⟨id, emits⟩, two, h⟩ := bind_eq_ok.mp h
    obtain ⟨⟨k, r⟩, slot, h⟩ := bind_eq_ok.mp h
    obtain ⟨k, index, slot⟩ := bind_eq_ok.mp slot
    obtain ⟨r, stored, slot⟩ := bind_eq_ok.mp slot
    cases slot
    cases h
    obtain ⟨i, j, rfl, rfl, hi, hj, found⟩ | ⟨-, fault, -, refused⟩ := t.index_cases i j
    · cases index.symm.trans found
      exact ⟨i, j, id, emits, r, rfl, rfl, hi, hj, Summary.parts_eq_ok.mp two, stored, rfl⟩
    · cases index.symm.trans refused
  · rintro ⟨i, j, id, emits, r, rfl, rfl, hi, hj, rfl, stored, rfl⟩
    simp [MergeTable.set, Summary.parts, slot, t.index_int hi hj, stored]

theorem Shows.set (h : t.Shows calls) {i j : Int} {parts : List Datum}
    (changed : t.set (.int i) (.int j) parts = .ok t') : t'.Shows (calls ++ [.set i j parts]) := by
  obtain ⟨i, j, id, emits, r, rfl, rfl, hi, hj, rfl, stored, rfl⟩ := set_eq_ok.mp changed
  have size : Call.largest (calls ++ [.set i j [id, emits]]) = Call.largest calls := by
    rw [Call.largest_concat]
    exact Nat.max_zero _
  have put (i' j' : Nat) : Call.last (calls ++ [.set i j [id, emits]]) i' j' =
      if i' = i ∧ j' = j then ⟨r, emits.truth⟩ else Call.last calls i' j' := by
    rw [Call.last_concat]
    by_cases same : i' = i ∧ j' = j
    · obtain ⟨rfl, rfl⟩ := same
      have put : Call.stored? i' j' (.set i' j' [id, emits]) = some ⟨r, emits.truth⟩ := by
        rw [Call.stored?, if_pos ⟨rfl, rfl⟩, stored]
        rfl
      rw [put, if_pos ⟨rfl, rfl⟩, Option.getD_some]
    · have other : Call.stored? i' j' (.set i j [id, emits]) = none := if_neg (by omega)
      rw [other, if_neg same, Option.getD_none]
  refine ⟨sound_write h.sound hi hj _, by rw [size]; exact h.extent, ?_, ?_⟩
  · intro i' j' hi' hj'
    rw [size, ← h.states] at hi' hj'
    rw [put, view_write h.sound hi hj (Nat.lt_of_lt_of_le hi' h.sound.fits)]
    split
    · rfl
    · exact h.cells i' j' (h.states ▸ hi') (h.states ▸ hj')
  · intro i' j' outside
    rw [size] at outside
    rw [h.states] at hi hj
    rw [put, if_neg (by omega), h.beyond i' j' outside]

/-- A granted call changes a table as it changes what the table stands for. -/
theorem Shows.perform [Memory] (h : t.Shows calls) {call : Call} (done : t.perform call = .ok t') :
    t'.Shows (calls ++ [call]) := by
  cases call with
  | ensure n => exact h.ensure done
  | set i j parts => exact h.set done
  | get i j =>
    obtain ⟨-, -, rfl⟩ := map_eq_ok.mp done
    exact h.skip rfl fun _ _ => rfl
  | index i j =>
    obtain ⟨-, -, rfl⟩ := map_eq_ok.mp done
    exact h.skip rfl fun _ _ => rfl
  | rows =>
    cases done
    exact h.skip rfl fun _ _ => rfl

/-- A call keeps a table sound, and the number of its ids a whole number. -/
theorem sound_perform [Memory] (sound : t.Sound) (whole : ∃ n : Int, t.extent = .int n)
    {call : Call} (done : t.perform call = .ok t') : t'.Sound ∧ ∃ n : Int, t'.extent = .int n := by
  cases call with
  | ensure n =>
    refine ⟨sound_ensure sound done, ?_⟩
    obtain ⟨-, rfl⟩ | ⟨-, -, rfl⟩ | ⟨-, -, capacity, -, -, -, rfl⟩ := ensure_cases done
    · exact whole
    · exact ⟨n, rfl⟩
    · exact ⟨n, rfl⟩
  | set i j parts =>
    obtain ⟨i, j, id, emits, r, rfl, rfl, hi, hj, -, -, rfl⟩ := set_eq_ok.mp done
    exact ⟨sound_write sound hi hj _, whole⟩
  | get i j =>
    obtain ⟨-, -, rfl⟩ := map_eq_ok.mp done
    exact ⟨sound, whole⟩
  | index i j =>
    obtain ⟨-, -, rfl⟩ := map_eq_ok.mp done
    exact ⟨sound, whole⟩
  | rows =>
    cases done
    exact ⟨sound, whole⟩

theorem sound_replay [Memory] (sound : t.Sound) (whole : ∃ n : Int, t.extent = .int n)
    (calls : List Call) :
    (t.replay calls).Sound ∧ ∃ n : Int, (t.replay calls).extent = .int n := by
  refine Calls.replay_settle_induction
    (P := fun t : MergeTable => t.Sound ∧ ∃ n : Int, t.extent = .int n)
    ?_ ⟨sound, whole⟩ calls
  intro t call t' done kept
  exact sound_perform kept.1 kept.2 done

theorem Shows.replay [Memory] {done : List Call} (h : t.Shows done) (calls : List Call) :
    (t.replay calls).Shows (done ++ t.granted calls) := by
  refine Calls.granted_settle_induction
    (P := fun (t : MergeTable) more => t.Shows (done ++ more)) ?_
    (by rwa [List.append_nil]) calls
  intro t more call t' made shown
  rw [← List.append_assoc]
  exact shown.perform made

/-- Taken as rows, a table shows its cells, the first operand's rows one after another. -/
theorem rows_eq (ht : t.Sound) : t.rows =
    (List.range t.states).map fun i => (List.range t.states).map fun j => t.view i j := by
  unfold rows transposed
  apply List.map_congr_left
  intro i hi
  rw [List.map_map]
  apply List.map_congr_left
  intro j hj
  rw [List.mem_range] at hi hj
  have fits := ht.fits
  have inside : t.offset i j < t.cells.size := ht.area ▸ offset_lt (by omega) (by omega)
  have place : j * t.capacity + i = t.offset i j := by unfold offset; omega
  have within : i < min (j * t.capacity + t.states) t.cells.size - j * t.capacity := by omega
  rw [Function.comp_apply, Array.getElem?_extract, if_pos within, place]
  rfl

end

end MergeTable

end ScanLexer
