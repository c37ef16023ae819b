import ScanLexer.Memory.Ordinary
import ScanLexer.Proofs.Lexer.Patching

/-!
# When a check comes to a verdict

A check looks up a behaviour for each cell, whether or not the id in it is one. A negative number
counts back from the last id, so a check comes to a verdict as long as no cell is beyond the ids on
either side (`verdict_unless_beyond`); it fails then if any cell holds a negative number. A number
beyond the ids ends the check in a fault of position, and there is no verdict at all
(`cell_beyond_ids_faults`).
-/
namespace ScanLexer

/-- A signed position that names one of `n` entries. -/
def Names (n : Nat) (i : Int) : Prop := -(n : Int) ≤ i ∧ i < n

theorem position_eq_none_iff {n : Nat} {i : Int} : position n i = none ↔ ¬ Names n i := by
  unfold position Names
  grind

theorem MergeTable.states_perform [Memory] {t t' : MergeTable} {call : Call}
    (done : t.perform call = .ok t') :
    t.states ≤ t'.states := by
  cases call with
  | ensure n =>
    rw [states_ensure done]
    exact Nat.le_max_left _ _
  | set i j parts =>
    obtain ⟨i, j, id, emits, r, -, -, -, -, -, -, -, rfl⟩ := set_eq_ok.mp done
    exact Nat.le_refl _
  | get i j | index i j =>
    obtain ⟨-, -, rfl⟩ := map_eq_ok.mp done
    exact Nat.le_refl _
  | rows =>
    cases done
    exact Nat.le_refl _

/-- No call takes an id away. -/
theorem MergeTable.states_replay [Memory] (t : MergeTable) (calls : List Call) :
    t.states ≤ (t.replay calls).states :=
  Calls.replay_settle_induction (P := fun s : MergeTable => t.states ≤ s.states)
    (fun _ _ _ made le => Nat.le_trans le (states_perform made)) (Nat.le_refl _) calls

/-- A signed position finds a behaviour, unless it is beyond the ids on either side. -/
theorem Registry.behaviour_cases (R : Registry) (i : Int) :
    (Names R.size i ∧ ∃ k item, R.item? k = some item ∧ R.behaviour i = .ok item.behaviour) ∨
    ¬ Names R.size i ∧ ∃ fault, fault.kind = .position ∧ R.behaviour i = .error fault := by
  by_cases named : Names R.size i
  · left
    obtain ⟨k, place⟩ := Option.ne_none_iff_exists'.mp fun h => position_eq_none_iff.mp h named
    obtain ⟨item, found⟩ := exists_item? (position_lt place)
    have known : R.known.value? k = some item := found
    refine ⟨named, k, item, found, ?_⟩
    rw [behaviour, orFault_eq_ok, behaviour?, place, Option.bind_some, known, Option.map_some]
  · right
    have missing : R.behaviour? i = none := by
      rw [behaviour?, position_eq_none_iff.mpr named, Option.bind_none]
    refine ⟨named, .ofPosition .noListEntry i, ?_, orFault_eq_error.mpr ⟨missing, rfl⟩⟩
    unfold Fault.ofPosition
    split <;> rfl

namespace Lexer

variable {A : Automaton} {L : Lexer}

/-- A lexer of an automaton, but for its table, which has cells for all ids. -/
structure Legible (A : Automaton) (L : Lexer) : Prop where
  closed : A.Closed
  generated : L.registry.Generated A L.identity
  room : L.registry.size ≤ L.table.states

theorem Compiled.legible [Memory] (hL : L.Compiled A) (calls : List MergeTable.Call) :
    (L.patched calls).Legible A where
  closed := hL.closed
  generated := hL.complete.generated
  room := hL.complete.counted.states ▸ L.table.states_replay calls

namespace Legible

theorem get (hL : L.Legible A) {i j : Nat} (hi : i < L.registry.size) (hj : j < L.registry.size) :
    L.table.get (.int i) (.int j) = .ok (L.table.view i j) :=
  MergeTable.get_eq_view (Nat.lt_of_lt_of_le hi hL.room) (Nat.lt_of_lt_of_le hj hL.room)

theorem exists_unital (hL : L.Legible A) : ∃ good, L.unital = .ok good := by
  have known := Registry.lt_size_of_item? hL.generated.identity
  apply exists_allM_eq_ok
  intro x hx
  have hx := List.mem_range.mp hx
  rw [hL.get known hx, ok_bind]
  split
  · rw [hL.get hx known]
    exact ⟨_, rfl⟩
  · exact ⟨false, rfl⟩

theorem exists_expected (hL : L.Legible A) {i j : Nat} (hi : i < L.registry.size)
    (hj : j < L.registry.size) : ∃ g, L.expected i j = .ok g := by
  obtain ⟨a, ha⟩ := Registry.exists_item? hi
  obtain ⟨b, hb⟩ := Registry.exists_item? hj
  simp only [expected_eq_ok]
  by_cases first : i = L.identity
  · exact ⟨_, .inl ⟨first, b, hb, rfl⟩⟩
  · by_cases second : j = L.identity
    · exact ⟨_, .inr (.inl ⟨first, second, a, ha, rfl⟩)⟩
    · obtain ⟨f, made⟩ := (hL.generated.fits hL.closed ha).exists_compose
        (hL.generated.fits hL.closed hb)
      exact ⟨f, .inr (.inr ⟨first, second, a, b, ha, hb, made⟩)⟩

/-- A cell is compared with composition, unless it is beyond the ids. -/
theorem agrees_cases (hL : L.Legible A) {i j : Nat} (hi : i < L.registry.size)
    (hj : j < L.registry.size) :
    (Names L.registry.size (L.table.view i j).id ∧ ∃ good, L.agrees i j = .ok good) ∨
    ¬ Names L.registry.size (L.table.view i j).id ∧
      ∃ fault, fault.kind = .position ∧ L.agrees i j = .error fault := by
  rw [agrees, hL.get hi hj, ok_bind]
  obtain ⟨inside, k, item, found, named⟩ | ⟨beyond, fault, kind, named⟩ :=
    L.registry.behaviour_cases (L.table.view i j).id
  · left
    refine ⟨inside, ?_⟩
    obtain ⟨e, -, first⟩ := (hL.generated.fits hL.closed found).entry_of_lt hL.closed.start
    have start : item.behaviour.entry 0 = .ok e := Behaviour.entry_natCast.mpr first
    rw [named, ok_bind, start, ok_bind]
    split
    · obtain ⟨g, wanted⟩ := hL.exists_expected hi hj
      rw [wanted]
      exact ⟨_, rfl⟩
    · exact ⟨false, rfl⟩
  · right
    rw [named]
    exact ⟨beyond, fault, kind, rfl⟩

/-- All cells are compared with composition, unless one of them is beyond the ids. -/
theorem mismatches_cases (hL : L.Legible A) :
    ((∀ i j : Nat, i < L.registry.size → j < L.registry.size →
        Names L.registry.size (L.table.view i j).id) ∧ ∃ bad, L.mismatches = .ok bad) ∨
    (∃ i j : Nat, i < L.registry.size ∧ j < L.registry.size ∧
        ¬ Names L.registry.size (L.table.view i j).id) ∧
      ∃ fault, fault.kind = .position ∧ L.mismatches = .error fault := by
  have pairs {i j : Nat} : (i, j) ∈ (List.range L.registry.size).flatMap
      (fun i => (List.range L.registry.size).map fun j => (i, j)) ↔
        i < L.registry.size ∧ j < L.registry.size := by
    simp
  unfold mismatches
  obtain ⟨all, bad, filtered⟩ | ⟨⟨i, j⟩, cell, fault, failed, refused⟩ :=
    filterM_cases (fun cell : Nat × Nat => do return !(← L.agrees cell.1 cell.2))
      ((List.range L.registry.size).flatMap fun i =>
        (List.range L.registry.size).map fun j => (i, j))
  · left
    refine ⟨?_, bad, filtered⟩
    intro i j hi hj
    obtain ⟨inside, -⟩ | ⟨-, fault, -, failed⟩ := hL.agrees_cases hi hj
    · exact inside
    · obtain ⟨b, tested⟩ := all (i, j) (pairs.mpr ⟨hi, hj⟩)
      simp only [failed, error_bind] at tested
      contradiction
  · right
    obtain ⟨hi, hj⟩ := pairs.mp cell
    obtain ⟨-, good, compared⟩ | ⟨beyond, fault', kind, failed'⟩ := hL.agrees_cases hi hj
    · simp only [compared, ok_bind] at failed
      contradiction
    · simp only [failed', error_bind, Except.error.injEq] at failed
      subst failed
      exact ⟨⟨i, j, hi, hj, beyond⟩, fault', kind, refused⟩

theorem closed_eq_false (hL : L.Legible A) {i j : Nat} (hi : i < L.registry.size)
    (hj : j < L.registry.size) (negative : (L.table.view i j).id < 0) : L.closed = false := by
  apply Bool.eq_false_iff.mpr
  intro closed
  obtain ⟨cell, got, positive, -⟩ := (closed_eq_true.mp closed).2 i j hi hj
  cases got.symm.trans (hL.get hi hj)
  omega

end Legible

/-- **A check comes to a verdict, unless a cell is beyond the ids.** The verdict is bad if a cell
counts back from the last id; a strict check is refused exactly if the verdict is bad. -/
theorem verdict_unless_beyond [Memory] {C : Contract} {config : BuildConfig}
    (built : build C config = .ok L) (calls : List MergeTable.Call) :
    let P := L.patched calls
    let n := L.registry.size
    ∃ cell : Nat → Nat → Summary,
      (∀ i j : Nat, i < n → j < n → P.table.get (.int i) (.int j) = .ok (cell i j)) ∧
      ((∀ i j : Nat, i < n → j < n → Names n (cell i j).id) →
        ∃ sound, (P.report false).verdict = .ok sound ∧
          (P.report true).verdict = (if sound then .ok true else .error .checkFailed) ∧
          ((∃ i j : Nat, i < n ∧ j < n ∧ (cell i j).id < 0) → sound = false)) ∧
      ((∃ i j : Nat, i < n ∧ j < n ∧ ¬ Names n (cell i j).id) →
        ∃ fault, fault.kind = .position ∧ ∀ strict, (P.report strict).verdict = .error fault) := by
  intro P n
  obtain ⟨A, -, -, hL⟩ := compiled_of_build built
  have hP : P.Legible A := hL.legible calls
  obtain ⟨unital, first⟩ := hP.exists_unital
  refine ⟨P.table.view, fun i j => hP.get, ?_, ?_⟩
  · intro inside
    obtain ⟨-, bad, second⟩ | ⟨⟨i, j, hi, hj, beyond⟩, -⟩ := hP.mismatches_cases
    · refine ⟨P.closed && unital && bad.isEmpty && P.distinct, ?_, ?_, ?_⟩
      · simp [report, first, second]
      · simp only [report, first, second, Bool.true_and]
        cases P.closed && unital && bad.isEmpty && P.distinct <;> rfl
      · rintro ⟨i, j, hi, hj, negative⟩
        simp [hP.closed_eq_false hi hj negative]
    · exact absurd (inside i j hi hj) beyond
  · rintro ⟨i, j, hi, hj, beyond⟩
    obtain ⟨inside, -⟩ | ⟨-, fault, kind, second⟩ := hP.mismatches_cases
    · exact absurd (inside i j hi hj) beyond
    · exact ⟨fault, kind, fun strict => by simp [report, first, second]⟩

/-- Over the sample of one letter, two cells are changed. One of them counts back from the last
id. -/
theorem verdict_unless_beyond_singleA :
    ∃ L, build (Sample.singleA true).contract .usual = .ok L ∧
      let P := L.patched [.set 0 0 [.int (-1), .bool false], .set 2 1 [.int 0, .bool true]]
      (P.report false).verdict = .ok false ∧ (P.report true).verdict = .error .checkFailed := by
  have checks : (build (Sample.singleA true).contract .usual).toOption.map (fun L =>
      let P := L.patched [.set 0 0 [.int (-1), .bool false], .set 2 1 [.int 0, .bool true]]
      ((P.table.get (.int 0) (.int 0)).map Summary.id, (List.range 3).all fun i : Nat =>
        (List.range 3).all fun j : Nat => (P.table.get (.int i) (.int j)).toOption.all fun s =>
          -3 ≤ s.id && s.id < 3)) = some (.ok (-1), true) := by decide +kernel
  obtain ⟨L, built, size, -⟩ := exists_lexer_singleA
  simp only [built, Except.toOption, Option.map_some, Option.some.injEq, Prod.mk.injEq] at checks
  obtain ⟨first, all⟩ := checks
  simp only [List.all_eq_true, List.mem_range] at all
  obtain ⟨cell, got, ends, -⟩ := verdict_unless_beyond built
    [.set 0 0 [.int (-1), .bool false], .set 2 1 [.int 0, .bool true]]
  rw [size] at got ends
  have named (i j : Nat) (hi : i < 3) (hj : j < 3) : Names 3 (cell i j).id := by
    have inside := all i hi j hj
    simp only [got i j hi hj, Option.all_some, Bool.and_eq_true, decide_eq_true_eq] at inside
    exact inside
  obtain ⟨sound, lenient, strict, bad⟩ := ends named
  have negative : (cell 0 0).id < 0 := by
    have same := got 0 0 (by decide) (by decide)
    obtain ⟨s, told, id⟩ := map_eq_ok.mp first
    cases told.symm.trans same
    omega
  obtain rfl := bad ⟨0, 0, by decide, by decide, negative⟩
  exact ⟨L, built, lenient, strict⟩

/-- The sample of one letter has three ids. With the number three in a cell, the check finds out
that the table is not closed, and looks the number up all the same. -/
theorem cell_beyond_ids_faults :
    ∃ L, build (Sample.singleA true).contract .usual = .ok L ∧ L.registry.size = 3 ∧
      let P := L.patched [.set 0 0 [.int 3, .bool false]]
      P.table.get (.int 0) (.int 0) = .ok ⟨3, false⟩ ∧ P.closed = false ∧
        (P.report false).verdict = .error .noListEntry ∧
        (P.report true).verdict = .error .noListEntry := by
  have checks : (build (Sample.singleA true).contract .usual).toOption.map (fun L =>
      let P := L.patched [.set 0 0 [.int 3, .bool false]]
      (P.table.get (.int 0) (.int 0), P.closed, (P.report false).verdict,
        (P.report true).verdict)) =
      some (.ok ⟨3, false⟩, false, .error .noListEntry, .error .noListEntry) := by decide +kernel
  obtain ⟨L, built, size, -⟩ := exists_lexer_singleA
  simp only [built, Except.toOption, Option.map_some, Option.some.injEq, Prod.mk.injEq] at checks
  exact ⟨L, built, size, checks⟩

end Lexer

end ScanLexer
