import ScanLexer.Proofs.Automaton.Reading
import ScanLexer.Proofs.Catalogue.Counting

/-!
# Closing a catalogue

While a catalogue is being closed, its ids are those of the identity and of behaviours that the
bytes generate; the cells of the pairs recorded so far hold the ids of their compositions, and all
other cells are unset (`Closing`). Recording one pair keeps this (`closing_record`), so does
composing an id with all taken before it (`closing_sweep`), and so does taking ids from the queue
(`closing_drain`). Once the queue is empty, every pair is recorded (`complete_of_close`).
-/
namespace ScanLexer

namespace Registry

variable {A : Automaton} {e : Nat} {R R' : Registry}

/-- The id `r` is that of first `i`, then `j`. The identity `e` leaves the other one as it is. -/
structure Joins (R : Registry) (e i j r : Nat) : Prop where
  left : i = e → r = j
  right : j = e → r = i
  both : i ≠ e → j ≠ e → r ≠ e ∧ ∃ first second item f, R.item? i = some first ∧
    R.item? j = some second ∧ R.item? r = some item ∧
    first.behaviour.compose second.behaviour = .ok f ∧ item.behaviour.key = f.key

theorem Joins.of_extends (h : R.Extends R') {i j r : Nat} (hr : R.Joins e i j r) :
    R'.Joins e i j r := by
  refine ⟨hr.left, hr.right, fun hi hj => ?_⟩
  obtain ⟨apart, first, second, item, f, hfirst, hsecond, found, made, same⟩ := hr.both hi hj
  exact ⟨apart, first, second, item, f, h i first hfirst, h j second hsecond, h r item found, made,
    same⟩

/-- The id of two ids together is one of the ids. -/
theorem Joins.lt_size {i j r : Nat} (h : R.Joins e i j r) (hi : i < R.size) (hj : j < R.size) :
    r < R.size := by
  by_cases first : i = e
  · rw [h.left first]
    exact hj
  · by_cases second : j = e
    · rw [h.right second]
      exact hi
    · obtain ⟨-, -, -, item, -, -, -, found, -⟩ := h.both first second
      exact lt_size_of_item? found

/-- The ids that behaviours have which the bytes generate, beside the one of the identity. -/
structure Generated (A : Automaton) (e : Nat) (R : Registry) : Prop where
  identity : R.item? e = some ⟨some Lexer.identityTag, .identity A.size⟩
  others : ∀ i item, R.item? i = some item → i ≠ e → item.tag = none ∧ A.Generates item.behaviour

theorem Generated.fits (h : R.Generated A e) (hA : A.Closed) {i : Nat} {item : Item}
    (found : R.item? i = some item) : item.behaviour.Over A.size := by
  by_cases unit : i = e
  · subst unit
    cases found.symm.trans h.identity
    exact Behaviour.over_identity A.size
  · exact (h.others i item found unit).2.fits hA

end Registry

namespace Catalogue

variable {A : Automaton} {e : Nat} {c c' : Catalogue} {done : List Nat}

/-- The cell of a pair holds the id of its composition, with the flag of that id. -/
def Records (c : Catalogue) (e i j : Nat) : Prop :=
  ∃ r : Nat, c.registry.Joins e i j r ∧ c.summary (r : Int) = .ok (c.table.view i j)

/-- A catalogue on its way to be closed, with the pairs of ids that have been recorded. -/
structure Closing (A : Automaton) (e : Nat) (c : Catalogue) (done : List Nat)
    (taken : Nat → Nat → Prop) : Prop where
  counted : c.Counted done
  generated : c.registry.Generated A e
  known : ∀ i j, taken i j → i < c.registry.size ∧ j < c.registry.size
  recorded : ∀ i j, taken i j → c.Records e i j
  blank : ∀ i j, i < c.registry.size → j < c.registry.size → ¬ taken i j →
    c.table.view i j = .unset

theorem Closing.congr {taken taken' : Nat → Nat → Prop} (h : Closing A e c done taken)
    (same : ∀ i j, taken i j ↔ taken' i j) : Closing A e c done taken' := by
  have equal : taken = taken' := funext fun i => funext fun j => propext (same i j)
  exact equal ▸ h

/-- Before an id is taken, no two ids have been composed. -/
theorem Closing.untaken (h : Closing A e c [] fun _ _ => False) :
    Closing A e c [] fun i j => i ∈ ([] : List Nat) ∧ j ∈ ([] : List Nat) :=
  h.congr fun i j => by simp

/-- A request for the id of a generated behaviour keeps all that is so while closing. -/
theorem Closing.enqueue [Memory] {taken : Nat → Nat → Prop} (h : Closing A e c done taken)
    {f : Behaviour} (hf : A.Generates f) {id : Nat} (run : c.enqueue f none = (c', .ok id)) :
    Closing A e c' done taken ∧ c.Enqueued f none c' id := by
  obtain ⟨counted, asked⟩ := enqueue_spec h.counted run
  have larger := asked.knows.size_le
  refine ⟨⟨counted, ⟨asked.knows _ _ h.generated.identity, ?_⟩, ?_, ?_, ?_⟩, asked⟩
  · intro i item found other
    obtain old | ⟨-, rfl⟩ := asked.origin i item found
    · exact h.generated.others i item old other
    · exact ⟨rfl, hf⟩
  · intro i j hij
    obtain ⟨hi, hj⟩ := h.known i j hij
    exact ⟨by omega, by omega⟩
  · intro i j hij
    obtain ⟨hi, hj⟩ := h.known i j hij
    obtain ⟨r, joins, cell⟩ := h.recorded i j hij
    refine ⟨r, joins.of_extends asked.knows, ?_⟩
    rw [asked.cells i j (by omega) (by omega), if_pos ⟨hi, hj⟩]
    exact summary_of_extends asked.knows cell
  · intro i j hi hj free
    exact asked.unset hi hj fun hi hj => h.blank i j hi hj free

/-- The composition of two ids has an id, and finding it keeps all that is so while closing. -/
theorem closing_composite [Memory] {taken : Nat → Nat → Prop} (h : Closing A e c done taken)
    {i j : Nat} {id : Int} (run : c.composite e i j = (c', .ok id)) :
    Closing A e c' done taken ∧ c.registry.Extends c'.registry ∧
      ∃ r : Nat, id = r ∧ c'.registry.Joins e i j r := by
  unfold composite at run
  split at run
  next first =>
    cases run
    refine ⟨h, .refl _, j, rfl, fun _ => rfl, fun second => ?_, fun other => ?_⟩
    · omega
    · omega
  next first =>
    split at run
    next second =>
      cases run
      exact ⟨h, .refl _, i, rfl, fun hi => by omega, fun _ => rfl, fun _ other => by omega⟩
    next second =>
      split at run
      next => cases run
      next f made =>
        obtain ⟨left, right, hleft, hright, joined⟩ := composed_eq_ok.mp made
        have hf : A.Generates f :=
          .compose (h.generated.others i left hleft (by omega)).2
            (h.generated.others j right hright (by omega)).2 joined
        rcases asked : c.enqueue f none with ⟨larger, fault | r⟩
        · simp [asked, Except.map] at run
        · simp only [asked, Except.map, Prod.mk.injEq, Except.ok.injEq] at run
          obtain ⟨rfl, rfl⟩ := run
          obtain ⟨closing, enqueued⟩ := h.enqueue hf asked
          obtain ⟨item, found, key⟩ := enqueued.found
          refine ⟨closing, enqueued.knows, r, rfl, fun _ => by omega, fun _ => by omega, ?_⟩
          intro _ _
          refine ⟨?_, left, right, item, f, enqueued.knows i left hleft,
            enqueued.knows j right hright, found, joined, congrArg Registry.Key.content key⟩
          -- The identity is registered under its tag, so no untagged key is its own.
          rintro rfl
          cases found.symm.trans closing.generated.identity
          exact absurd (congrArg Registry.Key.tag key) nofun

/-- Writing what belongs into the cell of a pair adds that pair. -/
theorem Closing.write {taken : Nat → Nat → Prop} (h : Closing A e c done taken) {i j r : Nat}
    {s : Summary} (hi : i < c.registry.size) (hj : j < c.registry.size)
    (joins : c.registry.Joins e i j r) (summary : c.summary (r : Int) = .ok s) :
    Closing A e { c with table := c.table.write (c.table.offset i j) s } done
      fun x y => taken x y ∨ x = i ∧ y = j := by
  have states := h.counted.states
  have hi' : i < c.table.states := states ▸ hi
  have hj' : j < c.table.states := states ▸ hj
  have fits := h.counted.table.fits
  have view {x : Nat} (hx : x < c.registry.size) (y : Nat) :
      (c.table.write (c.table.offset i j) s).view x y =
        if x = i ∧ y = j then s else c.table.view x y :=
    MergeTable.view_write h.counted.table hi' hj' (Nat.lt_of_lt_of_le (states.symm ▸ hx) fits) s
  refine ⟨⟨MergeTable.sound_write h.counted.table hi' hj' s, h.counted.extent, h.counted.queue⟩,
    h.generated, ?_, ?_, ?_⟩
  · rintro x y (old | ⟨rfl, rfl⟩)
    · exact h.known x y old
    · exact ⟨hi, hj⟩
  · intro x y hxy
    by_cases same : x = i ∧ y = j
    · obtain ⟨rfl, rfl⟩ := same
      refine ⟨r, joins, ?_⟩
      simp only [view hi, and_self, if_true]
      exact summary
    · have old := hxy.resolve_right same
      obtain ⟨k, joined, cell⟩ := h.recorded x y old
      refine ⟨k, joined, ?_⟩
      simp only [view (h.known x y old).1, if_neg same]
      exact cell
  · intro x y hx hy free
    simp only [not_or] at free
    simp only [view hx, if_neg free.2]
    exact h.blank x y hx hy free.1

/-- Recording a pair adds that pair, and every pair recorded before stays. -/
theorem closing_record [Memory] {taken : Nat → Nat → Prop} (h : Closing A e c done taken)
    {i j : Nat} (hi : i < c.registry.size) (hj : j < c.registry.size)
    (run : c.record e i j = .ok c') :
    Closing A e c' done (fun x y => taken x y ∨ x = i ∧ y = j) ∧
      c.registry.Extends c'.registry := by
  obtain ⟨larger, s, stored, merged, written, rfl⟩ := record_eq_ok run
  obtain ⟨id, found, summary⟩ := merge_eq_ok.mp merged
  obtain ⟨closing, knows, r, rfl, joins⟩ := closing_composite h found
  have grown := knows.size_le
  have states := closing.counted.states
  obtain rfl := MergeTable.store_eq_ok (by omega) (by omega) written
  exact ⟨closing.write (by omega) (by omega) joins summary, knows⟩

/-- Composing an id with others, both ways, adds these pairs. -/
theorem closing_sweep [Memory] {taken : Nat → Nat → Prop} {i : Nat} {ids : List Nat}
    (h : Closing A e c done taken) (hi : i < c.registry.size)
    (hids : ∀ j ∈ ids, j < c.registry.size) (run : c.sweep e i ids = .ok c') :
    Closing A e c' done (fun x y => taken x y ∨ x = i ∧ y ∈ ids ∨ y = i ∧ x ∈ ids) ∧
      c.registry.Extends c'.registry := by
  induction ids generalizing c taken with
  | nil =>
    cases run
    exact ⟨h.congr fun x y => by simp, .refl _⟩
  | cons j ids ih =>
    obtain ⟨swept, both, run⟩ := bind_eq_ok.mp run
    obtain ⟨half, first, second⟩ := bind_eq_ok.mp both
    have hj := hids j (by simp)
    obtain ⟨once, knows⟩ := closing_record h hi hj first
    have grown := knows.size_le
    obtain ⟨twice, knows'⟩ := closing_record once (by omega) (by omega) second
    have grown' := knows'.size_le
    obtain ⟨rest, knows''⟩ := ih twice (by omega)
      (fun k hk => by have := hids k (List.mem_cons_of_mem j hk); omega) run
    refine ⟨rest.congr ?_, (knows.trans knows').trans knows''⟩
    intro x y
    simp only [List.mem_cons]
    tauto

/-- An id moves from the queue to the ids taken, so these are all ids together as before. -/
theorem Closing.take {registry : Registry} {table : MergeTable} {i : Nat} {pending : List Nat}
    {taken : Nat → Nat → Prop} (h : Closing A e ⟨registry, table, i :: pending⟩ done taken) :
    Closing A e ⟨registry, table, pending⟩ (done ++ [i]) taken ∧
      ∀ j ∈ done ++ [i], j < registry.size := by
  have queue : (done ++ [i]) ++ pending = List.range registry.size := by
    rw [List.append_assoc, List.singleton_append]
    exact h.counted.queue
  refine ⟨⟨⟨h.counted.table, h.counted.extent, queue⟩, h.generated, h.known, h.recorded, h.blank⟩,
    ?_⟩
  intro j hj
  rw [← List.mem_range, ← queue]
  exact List.mem_append_left pending hj

/-- One round takes an id from the queue and records it with all ids taken before it. -/
theorem closing_round [Memory] {registry : Registry} {table : MergeTable} {i : Nat}
    {pending : List Nat}
    (h : Closing A e ⟨registry, table, i :: pending⟩ done fun x y => x ∈ done ∧ y ∈ done)
    (run : sweep ⟨registry, table, pending⟩ e i (done ++ [i]) = .ok c') :
    Closing A e c' (done ++ [i]) (fun x y => x ∈ done ++ [i] ∧ y ∈ done ++ [i]) ∧
      registry.Extends c'.registry := by
  obtain ⟨popped, inside⟩ := h.take
  obtain ⟨swept, knows⟩ := closing_sweep popped (inside i (by simp)) inside run
  refine ⟨swept.congr ?_, knows⟩
  intro x y
  simp only [List.mem_append, List.mem_singleton]
  tauto

/-- Taking ids from the queue keeps every pair of ids taken so far recorded. -/
theorem closing_drain [Memory] {fuel : Nat} {done' : List Nat}
    (h : Closing A e c done fun i j => i ∈ done ∧ j ∈ done)
    (run : drain e fuel c done = .ok (c', done')) :
    Closing A e c' done' (fun i j => i ∈ done' ∧ j ∈ done') ∧
      c.registry.Extends c'.registry := by
  induction fuel generalizing c done with
  | zero =>
    cases run
    exact ⟨h, .refl _⟩
  | succ fuel ih =>
    rcases c with ⟨registry, table, _ | ⟨i, pending⟩⟩
    · cases run
      exact ⟨h, .refl _⟩
    · obtain ⟨after, round, run⟩ := bind_eq_ok.mp run
      obtain ⟨taken, knows⟩ := closing_round h round
      obtain ⟨rest, knows'⟩ := ih taken run
      exact ⟨rest, knows.trans knows'⟩

/-- A closed catalogue: nothing waits, and the cell of every pair of ids is recorded. -/
structure Complete (A : Automaton) (e : Nat) (c : Catalogue) : Prop where
  counted : c.Counted (List.range c.registry.size)
  generated : c.registry.Generated A e
  recorded : ∀ i j, i < c.registry.size → j < c.registry.size → c.Records e i j

theorem complete_of_close [Memory] {n : Nat} (h : Closing A e c [] fun _ _ => False)
    (run : c.close e n = .ok c') : Complete A e c' ∧ c.registry.Extends c'.registry := by
  obtain ⟨⟨last, done⟩, drained, run⟩ := bind_eq_ok.mp run
  obtain ⟨closing, knows⟩ := closing_drain h.untaken drained
  simp only at run
  split at run
  next all =>
    cases run
    have queue := closing.counted.queue
    -- As many ids were taken as there are, so none waits.
    have empty : c'.pending = [] := by
      have lengths := congrArg List.length queue
      simp only [List.length_append, List.length_range] at lengths
      exact List.eq_nil_of_length_eq_zero (by omega)
    rw [empty, List.append_nil] at queue
    subst queue
    refine ⟨⟨closing.counted, closing.generated, fun i j hi hj => ?_⟩, knows⟩
    exact closing.recorded i j ⟨List.mem_range.mpr hi, List.mem_range.mpr hj⟩
  next => contradiction

end Catalogue

end ScanLexer
