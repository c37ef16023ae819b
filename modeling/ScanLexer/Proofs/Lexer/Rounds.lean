import ScanLexer.Memory.Ordinary
import ScanLexer.Proofs.Lexer.Exporting
import ScanLexer.Proofs.Lexer.Remerging

/-!
# Between two rounds of closing

Each round of closing takes one id from the queue and merges it both ways with all ids taken so far.
On the way the registry, the queue and the table may grow. Whatever a round finds, before the next
one and after the last the ids taken and those that wait are all ids in order, and the table holds
the merges of the ids taken and nothing else (`Closing.betweenRounds`). A round fails only where a
pair of ids is recorded (`exists_record_of_drain_eq_error`), and there only for want of room
(`Closing.kind_of_record`). The check that comes after the rounds is always passed
(`close_eq_drain`).
-/
namespace ScanLexer

theorem Transition.Proper.cases {n : Nat} {t : Transition} (h : t.Proper n) :
    t = .reject ∨ ∃ k : Nat, k < n ∧ t.target = some (k : Int) := by
  obtain none | ⟨k, hk, state⟩ := h.within.cases
  · exact .inl (h.silent none)
  · exact .inr ⟨k, hk, state⟩

/-- What a registered behaviour does from a state is a transition over the states. -/
theorem Registry.Generated.proper {A : Automaton} {e : Nat} {R : Registry} (h : R.Generated A e)
    (hA : A.Closed) {i : Nat} {item : Item} (found : R.item? i = some item) {s : Nat}
    (hs : s < A.size) : (item.behaviour.act (some (s : Int))).Proper A.size := by
  by_cases unit : i = e
  · subst unit
    cases found.symm.trans h.identity
    have inside := Target.within_natCast.mpr hs
    rw [Behaviour.act_identity inside]
    exact ⟨inside, nofun⟩
  · exact (h.others i item found unit).2.proper hA hs

namespace Catalogue

variable [Memory]
variable {A : Automaton} {growth : Growth} {e : Nat} {c : Catalogue} {done : List Nat}
variable {taken : Nat → Nat → Prop} {fault : Fault}

/-- What is so of a catalogue over an automaton whenever no round is going on. -/
structure BetweenRounds (A : Automaton) (e : Nat) (c : Catalogue) (done : List Nat) :
    Prop where
  /-- The ids taken and those that wait are all ids in order: none is lost, and none comes twice. -/
  queue : done ++ c.pending = List.range c.registry.size
  extent : c.table.extent = .int c.registry.size
  /-- A behaviour has an entry for each state. -/
  size : ∀ f ∈ c.registry.behaviours, f.size = A.size
  /-- An entry rejects and closes nothing, or it leads to a state. -/
  entries : ∀ f ∈ c.registry.behaviours, ∀ entry ∈ f.entries, entry.Plain ∧
    (entry.transition = .reject ∨ ∃ s : Nat, s < A.size ∧ entry.transition.target = some (s : Int))
  /-- The cell of two ids taken holds their merge, which is known, with the flag that it has from
  the start state. -/
  recorded : ∀ i ∈ done, ∀ j ∈ done, ∃ s, c.table.get (.int i) (.int j) = .ok s ∧
    c.merge e i j = (c, .ok s) ∧ c.summary s.id = .ok s
  /-- No other cell has been set, -/
  blank : ∀ i j : Nat, i < c.registry.size → j < c.registry.size → ¬ (i ∈ done ∧ j ∈ done) →
    c.table.get (.int i) (.int j) = .ok .unset
  /-- not even within the capacity. -/
  spare : ∀ i j : Nat, i < c.table.capacity → j < c.table.capacity → ¬ (i ∈ done ∧ j ∈ done) →
    c.table.view i j = .unset

theorem Closing.betweenRounds (hA : A.Closed)
    (h : Closing A e c done fun i j => i ∈ done ∧ j ∈ done) : BetweenRounds A e c done := by
  have unset {i j : Nat} (hi : i < c.table.capacity) (hj : j < c.table.capacity)
      (free : ¬ (i ∈ done ∧ j ∈ done)) : c.table.view i j = .unset := by
    -- among the ids nothing was recorded, and beyond them nothing could be
    by_cases inside : i < c.registry.size ∧ j < c.registry.size
    · exact h.blank i j inside.1 inside.2 free
    · exact h.counted.table.spare i j hi hj (h.counted.states.symm ▸ inside)
  have item {f : Behaviour} (hf : f ∈ c.registry.behaviours) :
      ∃ i item, c.registry.item? i = some item ∧ item.behaviour = f := by
    obtain ⟨i, hi, rfl⟩ := List.getElem_of_mem hf
    obtain ⟨item, found⟩ := Registry.exists_item? (c.registry.behaviours_length ▸ hi)
    refine ⟨i, item, found, ?_⟩
    have same := Registry.behaviours_of_item? found
    rw [List.getElem?_eq_getElem hi] at same
    exact (Option.some.inj same).symm
  refine ⟨h.counted.queue, h.counted.extent, ?_, ?_, ?_, ?_, fun i j => unset⟩
  · intro f hf
    obtain ⟨i, item, found, rfl⟩ := item hf
    exact (h.generated.fits hA found).size
  · intro f hf entry hentry
    obtain ⟨i, item, found, rfl⟩ := item hf
    have fits := h.generated.fits hA found
    obtain ⟨s, hs, rfl⟩ := List.getElem_of_mem hentry
    have proper := h.generated.proper hA found (fits.size ▸ hs : s < A.size)
    rw [Behaviour.act_of_entry (List.getElem?_eq_getElem hs)] at proper
    exact ⟨fits.plain _ hentry, proper.cases⟩
  · intro i hi j hj
    obtain ⟨known, known'⟩ := h.known i j ⟨hi, hj⟩
    have recorded := h.recorded i j ⟨hi, hj⟩
    refine ⟨c.table.view i j, h.counted.get_eq_view known known',
      merge_of_records h.generated recorded, ?_⟩
    obtain ⟨r, -, summary⟩ := recorded
    obtain ⟨item, start, found, first, same⟩ := summary_eq_ok.mp summary
    rw [same] at summary ⊢
    exact summary
  · intro i j hi hj free
    have fits := h.counted.table.fits
    have states := h.counted.states
    rw [h.counted.get_eq_view hi hj, unset (by omega) (by omega) free]

/-- The id of a behaviour is refused only if its room is. -/
theorem kind_of_grant {f : Behaviour} {tag : Option Value} (h : c.grant f tag = .error fault) :
    fault.kind = .value ∨ fault.kind = .memory := by
  rcases c with ⟨registry, table, pending⟩
  rcases interned : registry.intern f tag with ⟨larger, id, fresh⟩
  simp only [grant, enqueue, interned] at h
  cases fresh with
  | false => simp [Except.map] at h
  | true =>
    rcases grown : table.ensure (.int (id + 1)) with fault' | table'
    · simp only [grown, if_true, Except.map, Except.error.injEq] at h
      subst h
      exact Memory.kind_of_row (MergeTable.ensure_eq_error.mp grown).2.2
    · simp [grown, Except.map] at h

/-- A pair of ids cannot be recorded only if there is no room for a new id. There are never so many
ids that one could not be stored: room for their table is refused before. -/
theorem Closing.kind_of_record (hA : A.Closed) (h : Closing A e c done taken)
    (hu : Underway A growth c) {i j : Nat} (hi : i < c.registry.size) (hj : j < c.registry.size)
    (failed : c.record e i j = .error fault) : fault.kind = .value ∨ fault.kind = .memory := by
  rw [record_eq] at failed
  obtain unjoined | ⟨⟨larger, id⟩, joined, failed⟩ := bind_eq_error.mp failed
  · unfold join at unjoined
    split at unjoined
    next => contradiction
    next first =>
      split at unjoined
      next => contradiction
      next second =>
        obtain ⟨f, made⟩ := h.exists_composed hA hi hj
        rw [made, ok_bind] at unjoined
        exact kind_of_grant unjoined
  · have found := join_eq_ok.mp joined
    obtain ⟨closing, knows, r, same, joins⟩ := closing_composite h found
    cases same
    have grown := knows.size_le
    have known := joins.lt_size (by omega) (by omega)
    obtain ⟨s, summary, named⟩ := closing.exists_summary hA known
    have next := hu.merge i j h.generated.identity
    rw [merge_eq_ok.mpr ⟨_, found, summary⟩] at next
    -- the id found has a row of its own in a table that there was room for
    have small : larger.table.capacity < 2147483648 := next.granted.capacity_lt
    have covers := closing.counted.table.fits
    have states := closing.counted.states
    have fits : fitsWord 32 s.id = true := by
      rw [named]
      exact fitsWord_32.mpr (by omega)
    obtain ⟨table, stored⟩ :=
      MergeTable.exists_store (i := i) (j := j) (t := larger.table) (by omega) (by omega) fits
    simp [summary, stored] at failed

/-- A fault of a round is that of one of its pairs, at a point on the way to be closed. -/
theorem exists_record_of_sweep_eq_error {i : Nat} {ids : List Nat} (h : Closing A e c done taken)
    (hu : Underway A growth c) (hi : i < c.registry.size) (hids : ∀ j ∈ ids, j < c.registry.size)
    (failed : c.sweep e i ids = .error fault) :
    ∃ c' taken' i' j', Closing A e c' done taken' ∧ Underway A growth c' ∧
      i' < c'.registry.size ∧ j' < c'.registry.size ∧ c'.record e i' j' = .error fault := by
  induction ids generalizing c taken with
  | nil => contradiction
  | cons j ids ih =>
    have hj := hids j (by simp)
    rw [sweep, List.foldlM_cons] at failed
    obtain failed | ⟨swept, both, failed⟩ := bind_eq_error.mp failed
    · obtain first | ⟨half, first, second⟩ := bind_eq_error.mp failed
      · exact ⟨c, taken, i, j, h, hu, hi, hj, first⟩
      · obtain ⟨once, knows⟩ := closing_record h hi hj first
        have grown := knows.size_le
        exact ⟨half, _, j, i, once, underway_record hu h first, by omega, by omega, second⟩
    · obtain ⟨half, first, second⟩ := bind_eq_ok.mp both
      obtain ⟨once, knows⟩ := closing_record h hi hj first
      have grown := knows.size_le
      obtain ⟨twice, knows'⟩ := closing_record once (by omega) (by omega) second
      have grown' := knows'.size_le
      exact ih twice (underway_record (underway_record hu h first) once second) (by omega)
        (fun k hk => by have := hids k (List.mem_cons_of_mem j hk); omega) failed

/-- A fault of closing is that of a pair, whichever round it comes up in. -/
theorem exists_record_of_drain_eq_error {fuel : Nat}
    (h : Closing A e c done fun i j => i ∈ done ∧ j ∈ done) (hu : Underway A growth c)
    (failed : drain e fuel c done = .error fault) :
    ∃ c' done' taken' i j, Closing A e c' done' taken' ∧ Underway A growth c' ∧
      i < c'.registry.size ∧ j < c'.registry.size ∧ c'.record e i j = .error fault := by
  induction fuel generalizing c done with
  | zero => contradiction
  | succ fuel ih =>
    rcases c with ⟨registry, table, _ | ⟨i, pending⟩⟩
    · contradiction
    · obtain ⟨popped, inside⟩ := h.take
      obtain failed | ⟨after, round, failed⟩ := bind_eq_error.mp failed
      · obtain ⟨c', taken', i', j', found⟩ :=
          exists_record_of_sweep_eq_error popped hu.take (inside i (by simp)) inside failed
        exact ⟨c', done ++ [i], taken', i', j', found⟩
      · exact ih (closing_round h round).1
          (underway_sweep hu.take popped (inside i (by simp)) inside round) failed

/-- After the rounds no id waits, so there is nothing for the last check to find. -/
theorem close_eq_drain (hA : A.Closed) (h : Closing A e c [] fun _ _ => False)
    (hu : Underway A growth c) : c.close e A.size = (drain e (most A.size) c []).map Prod.fst := by
  rw [close]
  rcases run : drain e (most A.size) c [] with fault | ⟨last, done⟩
  · rfl
  · have idle := pending_eq_nil_of_drain hA (Nat.le_refl _) h hu run
    have counted := (closing_drain h.untaken run).1.counted
    have lengths := congrArg List.length counted.queue
    rw [idle, List.append_nil, List.length_range] at lengths
    simp only [ok_bind, lengths, counted.states, and_self, if_true]
    rfl

end Catalogue

namespace Lexer

open Catalogue

variable {A : Automaton} {growth : Growth} {fault : Fault}

theorem kind_of_gather [Memory] (hA : A.Closed) (failed : gather A growth = .error fault) :
    fault.kind = .value ∨ fault.kind = .memory := by
  have settles : Settles A growth (gather A growth) := settles_gather hA
  rw [failed] at settles
  obtain ⟨ready, gathered⟩ | ⟨fault', ⟨c, -, refused⟩, same⟩ := settles
  · cases gathered
  · cases same
    exact Memory.kind_of_row refused

theorem kind_of_compile [Memory] (hA : A.Closed) (failed : compile A growth = .error fault) :
    fault.kind = .value ∨ fault.kind = .memory := by
  rw [compile_eq] at failed
  obtain ungathered | ⟨⟨c, initial, e⟩, gathered, failed⟩ := bind_eq_error.mp failed
  · exact kind_of_gather hA ungathered
  · obtain ⟨closing, hu⟩ := closing_of_gather hA gathered
    obtain unclosed | ⟨last, -, made⟩ := bind_eq_error.mp failed
    · rw [close_eq_drain hA closing hu, map_eq_error] at unclosed
      obtain ⟨c', done', taken', i, j, closing', hu', hi, hj, unrecorded⟩ :=
        exists_record_of_drain_eq_error closing.untaken hu unclosed
      exact closing'.kind_of_record hA hu' hi hj unrecorded
    · cases made

/-- **Closing keeps its books.** After any number of rounds, all ids are taken or wait in order, the
table has as many rows as there are ids, and its cells hold the merges of the ids taken and nothing
else. When the rounds end no id waits, and the catalogue is closed: the check that makes sure of it
never fails. All that can keep a lexer from being built is want of room. -/
theorem between_rounds [Memory] {C : Contract} (config : BuildConfig)
    (accepted : C.automaton = .ok A) :
    (∀ c initial e, gather A config.growth = .ok (c, initial, e) →
      (∀ rounds last done, drain e rounds c [] = .ok (last, done) → BetweenRounds A e last done) ∧
      (∀ last done, drain e (most A.size) c [] = .ok (last, done) → last.pending = []) ∧
      c.close e A.size = (drain e (most A.size) c []).map Prod.fst) ∧
    ∀ fault, build C config = .error fault → fault.kind = .value ∨ fault.kind = .memory := by
  have hA := (Contract.closed_of_automaton accepted).1
  constructor
  · intro c initial e gathered
    obtain ⟨closing, hu⟩ := closing_of_gather hA gathered
    refine ⟨fun rounds last done run => ?_, fun last done run => ?_, close_eq_drain hA closing hu⟩
    · exact (closing_drain closing.untaken run).1.betweenRounds hA
    · exact pending_eq_nil_of_drain hA (Nat.le_refl _) closing hu run
  · intro fault failed
    rw [build, accepted, ok_bind] at failed
    obtain failed | ⟨L, -, made⟩ := bind_eq_error.mp failed
    · exact kind_of_compile hA failed
    · cases made

/-- Two letters in a row, of which the second one closes a lexeme. -/
def chain : Automaton :=
  ⟨[⟨Sample.arcs "a" 1, none⟩, ⟨Sample.emitting (Sample.arcs "a" 2), none⟩,
    .bare (Sample.token "a")]⟩

theorem two_rounds_chain : ∃ c initial e last,
    gather chain BuildConfig.usual.growth = .ok (c, initial, e) ∧
      drain e 2 c [] = .ok (last, [0, 1]) ∧ last.registry.size = 4 ∧
        last.summary 3 = .ok ⟨3, true⟩ := by
  have seen : (gather chain BuildConfig.usual.growth >>= fun ready =>
      drain ready.2.2 2 ready.1 []).toOption.map
        (fun ran => (ran.2, ran.1.registry.size, (ran.1.summary 3).toOption)) =
      some ([0, 1], 4, some ⟨3, true⟩) := by decide +kernel
  rcases gathered : gather chain BuildConfig.usual.growth with fault | ⟨c, initial, e⟩
  · rw [gathered] at seen
    cases seen
  rcases drained : drain e 2 c [] with fault | ⟨last, done⟩
  · simp only [gathered, ok_bind, drained] at seen
    cases seen
  simp only [gathered, ok_bind, drained, Except.toOption, Option.map_some, Option.some.injEq,
    Prod.mk.injEq] at seen
  obtain ⟨rfl, size, summary⟩ := seen
  refine ⟨c, initial, e, last, rfl, drained, size, ?_⟩
  rcases found : last.summary 3 with fault | s
  · simp [found] at summary
  · simpa [found] using summary

/-- Of the ids of the chain, two are taken in two rounds. The second round finds the id of both
letters, which closes a lexeme and joins the queue behind the identity. -/
theorem between_rounds_chain : chain.contract.automaton = .ok chain ∧
    ∃ c initial e last, gather chain BuildConfig.usual.growth = .ok (c, initial, e) ∧
      drain e 2 c [] = .ok (last, [0, 1]) ∧ last.pending = [2, 3] ∧ last.table.extent = .int 4 ∧
      (∃ s, last.table.get (.int 1) (.int 1) = .ok s ∧ last.merge e 1 1 = (last, .ok s)) ∧
      last.summary 3 = .ok ⟨3, true⟩ ∧ last.table.get (.int 1) (.int 2) = .ok .unset := by
  have accepted : chain.contract.automaton = .ok chain := by decide +kernel
  obtain ⟨c, initial, e, last, gathered, drained, size, third⟩ := two_rounds_chain
  have books := ((between_rounds .usual accepted).1 c initial e gathered).1 2 last [0, 1] drained
  have queue : [0, 1] ++ last.pending = [0, 1] ++ [2, 3] := by
    rw [books.queue, size]
    rfl
  obtain ⟨s, cell, merged, -⟩ := books.recorded 1 (by decide) 1 (by decide)
  refine ⟨accepted, c, initial, e, last, gathered, drained, List.append_cancel_left queue, ?_,
    ⟨s, cell, merged⟩, third, ?_⟩
  · rw [books.extent, size]
    rfl
  · exact books.blank 1 2 (by omega) (by omega) (by decide)

end Lexer

end ScanLexer
