import ScanLexer.Proofs.Catalogue.Bound

/-!
# Closing comes to an end

Each round of closing takes one id from the queue, and no id is queued twice, so there are no more
rounds than there can be ids; further rounds change nothing (`drain_of_most_le`). As long as ids fit
32 bits, a step can only fail when the table has to grow and room for it is refused (`Settles`):
this holds of recording a pair, of a round and of all rounds together (`settles_close`).
-/
namespace ScanLexer

namespace Catalogue

variable {A : Automaton} {growth : Growth} {e : Nat} {c c' : Catalogue} {done done' : List Nat}
variable {taken : Nat → Nat → Prop}

theorem most_eq (n : Nat) : most n = (2 * n + 1) ^ n + 1 := rfl

theorem Closing.exists_summary (hA : A.Closed) (h : Closing A e c done taken) {r : Nat}
    (hr : r < c.registry.size) : ∃ s, c.summary (r : Int) = .ok s ∧ s.id = r := by
  obtain ⟨item, found⟩ := Registry.exists_item? hr
  obtain ⟨start, -, first⟩ := (h.generated.fits hA found).entry_of_lt hA.start
  exact ⟨_, summary_eq_ok.mpr ⟨item, start, found, Behaviour.entry_natCast.mpr first, rfl⟩, rfl⟩

theorem Closing.exists_composed (hA : A.Closed) (h : Closing A e c done taken) {i j : Nat}
    (hi : i < c.registry.size) (hj : j < c.registry.size) : ∃ f, c.composed i j = .ok f := by
  obtain ⟨left, hleft⟩ := Registry.exists_item? hi
  obtain ⟨right, hright⟩ := Registry.exists_item? hj
  obtain ⟨f, made⟩ := (h.generated.fits hA hleft).exists_compose (h.generated.fits hA hright)
  exact ⟨f, composed_eq_ok.mpr ⟨left, right, hleft, hright, made⟩⟩

variable [Memory]

/-- At some point on the way there are more ids than room can be had for. -/
def Refused (A : Automaton) (growth : Growth) (fault : Fault) : Prop :=
  ∃ c, Underway A growth c ∧
    Memory.row (growth.next c.registry.size 0 * growth.next c.registry.size 0) = .error fault

/-- A step succeeds unless room is refused. -/
def Settles (A : Automaton) (growth : Growth) {α : Type} (x : Except Fault α) : Prop :=
  (∃ a, x = .ok a) ∨ ∃ fault, Refused A growth fault ∧ x = .error fault

theorem settles_ok {α : Type} (a : α) : Settles A growth (.ok a) := .inl ⟨a, rfl⟩

theorem Settles.bind {α β : Type} {x : Except Fault α} {f : α → Except Fault β}
    (hx : Settles A growth x) (hf : ∀ a, x = .ok a → Settles A growth (f a)) :
    Settles A growth (x >>= f) := by
  obtain ⟨a, rfl⟩ | ⟨fault, refused, rfl⟩ := hx
  · exact hf a rfl
  · exact .inr ⟨fault, refused, rfl⟩

theorem settles_grant (hc : c.Counted done) (hu : Underway A growth c) {f : Behaviour}
    {tag : Option Value} (next : Underway A growth (c.enqueue f tag).1) :
    Settles A growth (c.grant f tag) := by
  obtain ⟨id, -, asked⟩ | ⟨-, size, ⟨larger, asked, -⟩ | ⟨fault, asked, refused⟩⟩ :=
    grant_cases hc hu f tag
  · rw [asked]
    exact settles_ok (c, id)
  · rw [asked]
    exact settles_ok (larger, c.registry.size)
  · rw [← size] at refused
    exact .inr ⟨fault, ⟨_, next, refused⟩, asked⟩

theorem settles_join (hA : A.Closed) (h : Closing A e c done taken) (hu : Underway A growth c)
    {i j : Nat} (hi : i < c.registry.size) (hj : j < c.registry.size) :
    Settles A growth (c.join e i j) := by
  unfold join
  split
  next => exact settles_ok (c, j)
  next first =>
    split
    next => exact settles_ok (c, i)
    next second =>
      obtain ⟨f, made⟩ := h.exists_composed hA hi hj
      rw [made, ok_bind]
      exact settles_grant h.counted hu (hu.composed h.generated.identity first second made)

theorem settles_record (hA : A.Closed) (few : most A.size ≤ 2 ^ 31) (h : Closing A e c done taken)
    (hu : Underway A growth c) {i j : Nat} (hi : i < c.registry.size) (hj : j < c.registry.size) :
    Settles A growth (c.record e i j) := by
  rw [record_eq]
  refine (settles_join hA h hu hi hj).bind fun ⟨larger, id⟩ joined => ?_
  have found := join_eq_ok.mp joined
  obtain ⟨closing, knows, r, same, joins⟩ := closing_composite h found
  cases same
  have grown := knows.size_le
  have known := joins.lt_size (by omega) (by omega)
  obtain ⟨s, summary, named⟩ := closing.exists_summary hA known
  have next := hu.merge i j h.generated.identity
  rw [merge_eq_ok.mpr ⟨_, found, summary⟩] at next
  have bound : larger.registry.size ≤ most A.size := next.size_le hA
  have fits : fitsWord 32 s.id = true := by
    rw [named]
    exact fitsWord_32.mpr (by omega)
  have states := closing.counted.states
  obtain ⟨table, stored⟩ :=
    MergeTable.exists_store (i := i) (j := j) (t := larger.table) (by omega) (by omega) fits
  simp only [summary, stored, ok_bind]
  exact settles_ok _

theorem underway_record (hu : Underway A growth c) (h : Closing A e c done taken) {i j : Nat}
    (run : c.record e i j = .ok c') : Underway A growth c' := by
  obtain ⟨larger, s, table, merged, written, rfl⟩ := record_eq_ok run
  have next := hu.merge i j h.generated.identity
  rw [merged] at next
  exact next.store written

theorem underway_sweep (hu : Underway A growth c) (h : Closing A e c done taken) {i : Nat}
    {ids : List Nat} (hi : i < c.registry.size) (hids : ∀ j ∈ ids, j < c.registry.size)
    (run : c.sweep e i ids = .ok c') : Underway A growth c' := by
  induction ids generalizing c taken with
  | nil =>
    cases run
    exact hu
  | cons j ids ih =>
    obtain ⟨swept, both, run⟩ := bind_eq_ok.mp run
    obtain ⟨half, first, second⟩ := bind_eq_ok.mp both
    have hj := hids j (by simp)
    obtain ⟨once, knows⟩ := closing_record h hi hj first
    have grown := knows.size_le
    obtain ⟨twice, knows'⟩ := closing_record once (by omega) (by omega) second
    have grown' := knows'.size_le
    have next := underway_record (underway_record hu h first) once second
    exact ih next twice (by omega)
      (fun k hk => by have := hids k (List.mem_cons_of_mem j hk); omega) run

theorem settles_sweep (hA : A.Closed) (few : most A.size ≤ 2 ^ 31) (h : Closing A e c done taken)
    (hu : Underway A growth c) {i : Nat} {ids : List Nat} (hi : i < c.registry.size)
    (hids : ∀ j ∈ ids, j < c.registry.size) : Settles A growth (c.sweep e i ids) := by
  induction ids generalizing c taken with
  | nil => exact settles_ok c
  | cons j ids ih =>
    have hj := hids j (by simp)
    simp only [sweep, List.foldlM_cons, bind_assoc]
    refine (settles_record hA few h hu hi hj).bind fun half first => ?_
    obtain ⟨once, knows⟩ := closing_record h hi hj first
    have grown := knows.size_le
    have midway := underway_record hu h first
    refine (settles_record hA few once midway (by omega) (by omega)).bind fun both second => ?_
    obtain ⟨twice, knows'⟩ := closing_record once (by omega) (by omega) second
    have grown' := knows'.size_le
    exact ih twice (underway_record midway once second) (by omega)
      (fun k hk => by have := hids k (List.mem_cons_of_mem j hk); omega)

theorem underway_drain {fuel : Nat} (hu : Underway A growth c)
    (h : Closing A e c done fun i j => i ∈ done ∧ j ∈ done)
    (run : drain e fuel c done = .ok (c', done')) : Underway A growth c' := by
  induction fuel generalizing c done with
  | zero =>
    cases run
    exact hu
  | succ fuel ih =>
    rcases c with ⟨registry, table, _ | ⟨i, pending⟩⟩
    · cases run
      exact hu
    · obtain ⟨after, round, run⟩ := bind_eq_ok.mp run
      obtain ⟨popped, inside⟩ := h.take
      exact ih (underway_sweep hu.take popped (inside i (by simp)) inside round)
        (closing_round h round).1 run

theorem settles_drain (hA : A.Closed) (few : most A.size ≤ 2 ^ 31) {fuel : Nat}
    (h : Closing A e c done fun i j => i ∈ done ∧ j ∈ done) (hu : Underway A growth c) :
    Settles A growth (drain e fuel c done) := by
  induction fuel generalizing c done with
  | zero => exact settles_ok (c, done)
  | succ fuel ih =>
    rcases c with ⟨registry, table, _ | ⟨i, pending⟩⟩
    · exact settles_ok _
    · obtain ⟨popped, inside⟩ := h.take
      have round := settles_sweep hA few popped hu.take (inside i (by simp)) inside
      refine round.bind fun after swept => ?_
      exact ih (closing_round h swept).1
        (underway_sweep hu.take popped (inside i (by simp)) inside swept)

theorem drain_of_pending_eq_nil {fuel : Nat} (idle : c.pending = []) :
    drain e fuel c done = .ok (c, done) := by
  rcases c with ⟨registry, table, pending⟩
  simp only at idle
  subst idle
  cases fuel <;> rfl

/-- More rounds go on where fewer left off. -/
theorem drain_add (e fuel more : Nat) (c : Catalogue) (done : List Nat) :
    drain e (fuel + more) c done =
      drain e fuel c done >>= fun (c, done) => drain e more c done := by
  induction fuel generalizing c done with
  | zero => rw [Nat.zero_add]; rfl
  | succ fuel ih =>
    rcases c with ⟨registry, table, _ | ⟨i, pending⟩⟩
    · rw [drain_of_pending_eq_nil rfl, drain_of_pending_eq_nil rfl, ok_bind]
      exact (drain_of_pending_eq_nil rfl).symm
    · rw [Nat.add_right_comm]
      simp only [drain, ih, bind_assoc]

/-- Each round takes an id, as long as one waits. -/
theorem length_of_drain {fuel : Nat} (run : drain e fuel c done = .ok (c', done')) :
    c'.pending = [] ∨ done'.length = done.length + fuel := by
  induction fuel generalizing c done with
  | zero =>
    cases run
    exact .inr rfl
  | succ fuel ih =>
    rcases c with ⟨registry, table, _ | ⟨i, pending⟩⟩
    · cases run
      exact .inl rfl
    · obtain ⟨after, -, run⟩ := bind_eq_ok.mp run
      obtain idle | length := ih run
      · exact .inl idle
      · rw [List.length_append, List.length_singleton] at length
        exact .inr (by omega)

/-- After as many rounds as there can be ids, none waits. -/
theorem pending_eq_nil_of_drain (hA : A.Closed) {fuel : Nat} (enough : most A.size ≤ fuel)
    (h : Closing A e c [] fun _ _ => False) (hu : Underway A growth c)
    (run : drain e fuel c [] = .ok (c', done')) : c'.pending = [] := by
  obtain ⟨closing, -⟩ := closing_drain h.untaken run
  have bound := (underway_drain hu h.untaken run).size_le hA
  rw [most_eq] at enough
  obtain idle | length := length_of_drain run
  · exact idle
  · have lengths := congrArg List.length closing.counted.queue
    rw [List.length_append, List.length_range] at lengths
    rw [List.length_nil] at length
    exact List.eq_nil_of_length_eq_zero (by omega)

/-- **Closing ends by itself.** Once there were as many rounds as there can be ids, further rounds
change nothing. -/
theorem drain_of_most_le (hA : A.Closed) {fuel : Nat} (enough : most A.size ≤ fuel)
    (h : Closing A e c [] fun _ _ => False) (hu : Underway A growth c) :
    drain e fuel c [] = drain e (most A.size) c [] := by
  obtain ⟨more, rfl⟩ := Nat.le.dest enough
  rw [drain_add]
  cases run : drain e (most A.size) c [] with
  | error fault => rfl
  | ok last =>
    rw [ok_bind]
    exact drain_of_pending_eq_nil (pending_eq_nil_of_drain hA (Nat.le_refl _) h hu run)

theorem settles_close (hA : A.Closed) (few : most A.size ≤ 2 ^ 31)
    (h : Closing A e c [] fun _ _ => False) (hu : Underway A growth c) :
    Settles A growth (c.close e A.size) := by
  refine (settles_drain hA few h.untaken hu).bind fun ⟨last, done⟩ run => ?_
  have idle := pending_eq_nil_of_drain hA (Nat.le_refl _) h hu run
  have counted := (closing_drain h.untaken run).1.counted
  have lengths := congrArg List.length counted.queue
  rw [idle, List.append_nil, List.length_range] at lengths
  simp only [lengths, counted.states, and_self, if_true]
  exact settles_ok last

end Catalogue

end ScanLexer
