import ScanLexer.Lexer.Report
import ScanLexer.Memory.Ordinary
import ScanLexer.Proofs.Lexer.Composition

/-!
# What a check finds out

A check passes exactly if each of its four tests does (`verdict_eq_ok_true`). Apart from the
identity, no behaviour of a generated registry has two ids, so the last test always passes, and the
other three pass exactly if the table is consistent: every cell holds an id of the right content
with its flag, and the identity changes nothing (`passes_iff_consistent`). A consistent cell need
not hold the right id, since the identity may have the content of another id. A lexer that was just
built passes (`fresh_lexer_passes`).
-/
namespace ScanLexer

namespace Registry

variable {A : Automaton} {e : Nat} {R : Registry}

/-- The id `r` has the content of first `i`, then `j`, whichever id of that content it is. -/
structure Means (R : Registry) (e i j r : Nat) : Prop where
  left : i = e → r = j
  right : j = e → r = i
  both : i ≠ e → j ≠ e → ∃ first second item f, R.item? i = some first ∧ R.item? j = some second ∧
    R.item? r = some item ∧ first.behaviour.compose second.behaviour = .ok f ∧
    item.behaviour.key = f.key

/-- The id of a composition is one that has its content and is not the identity's. -/
theorem joins_iff_means {i j r : Nat} :
    R.Joins e i j r ↔ R.Means e i j r ∧ (i ≠ e → j ≠ e → r ≠ e) := by
  constructor
  · intro h
    exact ⟨⟨h.left, h.right, fun hi hj => (h.both hi hj).2⟩, fun hi hj => (h.both hi hj).1⟩
  · rintro ⟨h, apart⟩
    exact ⟨h.left, h.right, fun hi hj => ⟨apart hi hj, h.both hi hj⟩⟩

theorem behaviours_getElem? {i : Nat} {f : Behaviour} :
    R.behaviours[i]? = some f ↔ ∃ item, R.item? i = some item ∧ item.behaviour = f := by
  constructor
  · intro found
    have known : i < R.size := R.behaviours_length ▸ (List.getElem?_eq_some_iff.mp found).1
    obtain ⟨item, hitem⟩ := exists_item? known
    exact ⟨item, hitem, Option.some.inj ((behaviours_of_item? hitem).symm.trans found)⟩
  · rintro ⟨item, found, rfl⟩
    exact behaviours_of_item? found

/-- Apart from the identity, all contents differ. -/
theorem Generated.nodup (h : R.Generated A e) :
    ((R.behaviours.map Behaviour.key).eraseIdx e).Nodup := by
  -- What is left are the contents of the ids before the identity and, one place up, those after it.
  have entry {k : Nat} {key : List Behaviour.Entry.Key}
      (left : ((R.behaviours.map Behaviour.key).eraseIdx e)[k]? = some key) :
      ∃ item, R.item? (if k < e then k else k + 1) = some item ∧ item.behaviour.key = key := by
    have found : R.behaviours[if k < e then k else k + 1]?.map Behaviour.key = some key := by
      rw [← left, List.getElem?_eraseIdx, List.getElem?_map, List.getElem?_map]
      split <;> rfl
    obtain ⟨f, listed, rfl⟩ := Option.map_eq_some_iff.mp found
    obtain ⟨item, hitem, rfl⟩ := behaviours_getElem?.mp listed
    exact ⟨item, hitem, rfl⟩
  rw [List.nodup_iff_getElem?_ne_getElem?]
  intro i j less bound same
  obtain ⟨key, found⟩ : ∃ key, ((R.behaviours.map Behaviour.key).eraseIdx e)[j]? = some key :=
    ⟨_, List.getElem?_eq_getElem bound⟩
  obtain ⟨a, ha, keyed⟩ := entry (same.trans found)
  obtain ⟨b, hb, keyed'⟩ := entry found
  have ids := h.id_eq ha hb (by split <;> omega) (by split <;> omega) (keyed.trans keyed'.symm)
  split at ids <;> split at ids <;> omega

/-- An id of the right content leads where the two ids lead, one after the other, the identity's
among them. -/
theorem Means.target (h : R.Generated A e) (hA : A.Closed) {i j r : Nat} (means : R.Means e i j r)
    {a b item : Item} (ha : R.item? i = some a) (hb : R.item? j = some b)
    (found : R.item? r = some item) {t : Target} (ht : t.Within A.size) :
    (item.behaviour.act t).target = (b.behaviour.act (a.behaviour.act t).target).target := by
  by_cases hi : i = e
  · obtain rfl := means.left hi
    subst hi
    cases hb.symm.trans found
    cases ha.symm.trans h.identity
    rw [Behaviour.act_identity ht]
    rfl
  · by_cases hj : j = e
    · obtain rfl := means.right hj
      subst hj
      cases ha.symm.trans found
      cases hb.symm.trans h.identity
      rw [Behaviour.act_identity ((h.fits hA ha).within_act ht)]
      rfl
    · obtain ⟨a', b', item', f, ha', hb', found', made, same⟩ := means.both hi hj
      cases ha.symm.trans ha'
      cases hb.symm.trans hb'
      cases found.symm.trans found'
      obtain ⟨fits, acts⟩ := Behaviour.compose_over (h.fits hA ha) (h.fits hA hb) made
      rw [(Behaviour.key_eq_iff_act (h.fits hA found) fits).mp same t ht, acts t ht]

end Registry

namespace Lexer

variable {A : Automaton} {L : Lexer}

theorem verdict_eq_ok_true {strict : Bool} : (L.report strict).verdict = .ok true ↔
    L.closed = true ∧ L.unital = .ok true ∧ L.mismatches = .ok [] ∧ L.distinct = true := by
  unfold report
  cases L.unital with
  | error fault => simp
  | ok unital =>
    cases L.mismatches with
    | error fault => simp
    | ok bad =>
      simp only [Except.ok.injEq]
      cases L.closed <;> cases unital <;> cases bad <;> cases L.distinct <;> cases strict <;> simp

theorem closed_eq_true : L.closed = true ↔ L.table.extent.whole? = some (L.registry.size : Int) ∧
    ∀ i j : Nat, i < L.registry.size → j < L.registry.size →
      ∃ cell, L.table.get (.int i) (.int j) = .ok cell ∧ 0 ≤ cell.id ∧
        cell.id < L.registry.size := by
  simp only [closed, Bool.and_eq_true, decide_eq_true_eq, List.all_eq_true, List.mem_range]
  refine and_congr_right fun _ => forall_congr' fun i => ?_
  rw [forall_comm]
  refine forall_congr' fun j => forall_congr' fun _ => forall_congr' fun _ => ?_
  cases L.table.get (.int i) (.int j) <;> simp

theorem unital_eq_ok_true : L.unital = .ok true ↔ ∀ x : Nat, x < L.registry.size →
    ∃ left right, L.table.get (.int L.identity) (.int x) = .ok left ∧ left.id = x ∧
      L.table.get (.int x) (.int L.identity) = .ok right ∧ right.id = x := by
  simp only [unital, allM_eq_ok_true, List.mem_range]
  refine forall_congr' fun x => forall_congr' fun _ => ?_
  cases L.table.get (.int L.identity) (.int x) with
  | error fault => simp
  | ok left =>
    cases L.table.get (.int x) (.int L.identity) with
    | error fault => by_cases same : left.id = x <;> simp [same]
    | ok right => by_cases same : left.id = x <;> simp [same]

theorem agrees_eq_ok_true {i j : Nat} : L.agrees i j = .ok true ↔
    ∃ cell f start g, L.table.get (.int i) (.int j) = .ok cell ∧
      L.registry.behaviour cell.id = .ok f ∧
      f.entry 0 = .ok start ∧ Value.ofDatum (.bool cell.emits) = start.key.flag ∧
      L.expected i j = .ok g ∧ f.key = g.key := by
  unfold agrees
  simp only [bind_eq_ok]
  constructor
  · rintro ⟨cell, got, f, named, start, first, tested⟩
    split at tested
    next flag =>
      obtain ⟨g, wanted, same⟩ := bind_eq_ok.mp tested
      exact ⟨cell, f, start, g, got, named, first, flag, wanted, by simpa using same⟩
    next => simp at tested
  · rintro ⟨cell, f, start, g, got, named, first, flag, wanted, same⟩
    refine ⟨cell, got, f, named, start, first, ?_⟩
    simp [flag, wanted, same]

theorem mismatches_eq_ok_nil : L.mismatches = .ok [] ↔
    ∀ i j : Nat, i < L.registry.size → j < L.registry.size → L.agrees i j = .ok true := by
  have left_out (i j : Nat) : (do return !(← L.agrees i j)) = Except.ok false ↔
      L.agrees i j = .ok true := by
    cases L.agrees i j <;> simp
  simp only [mismatches, filterM_eq_ok_nil, List.mem_flatMap, List.mem_map, List.mem_range]
  constructor
  · intro all i j hi hj
    exact (left_out i j).mp (all (i, j) ⟨i, hi, j, hj, rfl⟩)
  · rintro all _ ⟨i, hi, j, hj, rfl⟩
    exact (left_out i j).mpr (all i j hi hj)

/-- Every cell holds an id of the content that it should have, and the flag of that content from the
start. -/
structure Consistent (L : Lexer) : Prop where
  extent : L.table.extent.whole? = some (L.registry.size : Int)
  cells : ∀ i j : Nat, i < L.registry.size → j < L.registry.size →
    ∃ (r : Nat) (item : Registry.Item),
      L.table.get (.int i) (.int j) = .ok ⟨r, (item.behaviour.act (some (0 : Nat))).emits⟩ ∧
      L.registry.item? r = some item ∧ L.registry.Means L.identity i j r

/-- What a cell ought to do, said by items. -/
theorem expected_eq_ok {i j : Nat} {g : Behaviour} : L.expected i j = .ok g ↔
    (i = L.identity ∧ ∃ item, L.registry.item? j = some item ∧ item.behaviour = g) ∨
    (i ≠ L.identity ∧ j = L.identity ∧ ∃ item, L.registry.item? i = some item ∧
      item.behaviour = g) ∨
    (i ≠ L.identity ∧ j ≠ L.identity ∧ ∃ first second, L.registry.item? i = some first ∧
      L.registry.item? j = some second ∧ first.behaviour.compose second.behaviour = .ok g) := by
  unfold expected
  by_cases hi : i = L.identity
  · simp [hi, Registry.behaviour_eq_ok]
  · by_cases hj : j = L.identity
    · simp [hi, hj, Registry.behaviour_eq_ok]
    · simp [hi, hj, Catalogue.composed_eq_ok]
      exact Iff.rfl

/-- The flag of a cell is that of its id from the start, by value. -/
theorem flag_eq_iff {start : Behaviour.Entry} (h : start.Plain) {b : Bool} :
    Value.ofDatum (.bool b) = start.key.flag ↔ b = start.transition.emits := by
  have value (b : Bool) : Value.ofDatum (.bool b) = .ofInt b.toInt := rfl
  rw [Behaviour.Entry.key_of_plain h, value]
  cases b <;> cases start.transition.emits <;> simp [Value.ofInt]

theorem Consistent.agrees (hL : L.Consistent) (hR : L.registry.Generated A L.identity)
    (hA : A.Closed) {i j : Nat} (hi : i < L.registry.size) (hj : j < L.registry.size) :
    L.agrees i j = .ok true := by
  obtain ⟨r, item, got, found, means⟩ := hL.cells i j hi hj
  have fits := hR.fits hA found
  obtain ⟨start, member, first⟩ := fits.entry_of_lt hA.start
  have flag :
      Value.ofDatum (.bool (item.behaviour.act (some (0 : Nat))).emits) = start.key.flag := by
    rw [flag_eq_iff (fits.plain start member), Behaviour.act_of_entry first]
  have wanted : ∃ g, L.expected i j = .ok g ∧ item.behaviour.key = g.key := by
    simp only [expected_eq_ok]
    by_cases first : i = L.identity
    · obtain rfl := means.left first
      exact ⟨_, .inl ⟨first, item, found, rfl⟩, rfl⟩
    · by_cases second : j = L.identity
      · obtain rfl := means.right second
        exact ⟨_, .inr (.inl ⟨first, second, item, found, rfl⟩), rfl⟩
      · obtain ⟨left, right, item', f, hleft, hright, found', made, same⟩ := means.both first second
        cases found.symm.trans found'
        exact ⟨f, .inr (.inr ⟨first, second, left, right, hleft, hright, made⟩), same⟩
  obtain ⟨g, wanted, same⟩ := wanted
  exact agrees_eq_ok_true.mpr ⟨_, _, start, g, got, Registry.behaviour_of_item? found,
    Behaviour.entry_natCast.mpr first, flag, wanted, same⟩

/-- **A check passes exactly if the table is consistent.** -/
theorem passes_iff_consistent (hR : L.registry.Generated A L.identity) (hA : A.Closed)
    {strict : Bool} : (L.report strict).verdict = .ok true ↔ L.Consistent := by
  rw [verdict_eq_ok_true, closed_eq_true, unital_eq_ok_true, mismatches_eq_ok_nil]
  constructor
  · rintro ⟨⟨extent, named⟩, unital, agree, -⟩
    refine ⟨extent, fun i j hi hj => ?_⟩
    obtain ⟨⟨id, emits⟩, got, nonneg, known⟩ := named i j hi hj
    obtain ⟨r, rfl⟩ := Int.eq_ofNat_of_zero_le nonneg
    obtain ⟨item, found⟩ := Registry.exists_item? (Int.ofNat_lt.mp known)
    have fits := hR.fits hA found
    obtain ⟨cell, f, start, g, got', behaviour, first, flag, wanted, same⟩ :=
      agrees_eq_ok_true.mp (agree i j hi hj)
    cases got.symm.trans got'
    cases behaviour.symm.trans (Registry.behaviour_of_item? found)
    have entry := Behaviour.entry_natCast.mp first
    rw [flag_eq_iff (fits.plain start (List.mem_of_getElem? entry)),
      ← Behaviour.act_of_entry entry] at flag
    refine ⟨r, item, flag ▸ got, found, ?_, ?_, ?_⟩
    · rintro rfl
      obtain ⟨left, -, got', id, -⟩ := unital j hj
      cases got.symm.trans got'
      exact Int.ofNat_inj.mp id
    · rintro rfl
      obtain ⟨-, right, -, -, got', id⟩ := unital i hi
      cases got.symm.trans got'
      exact Int.ofNat_inj.mp id
    · intro other other'
      obtain ⟨unit, -⟩ | ⟨-, unit, -⟩ | ⟨-, -, left, right, hleft, hright, made⟩ :=
        expected_eq_ok.mp wanted
      · exact absurd unit other
      · exact absurd unit other'
      · exact ⟨left, right, item, g, hleft, hright, found, made, same⟩
  · intro hL
    refine ⟨⟨hL.extent, fun i j hi hj => ?_⟩, fun x hx => ?_, ?_, ?_⟩
    · obtain ⟨r, item, got, found, -⟩ := hL.cells i j hi hj
      exact ⟨_, got, Int.natCast_nonneg r, Int.ofNat_lt.mpr (Registry.lt_size_of_item? found)⟩
    · have known := Registry.lt_size_of_item? hR.identity
      obtain ⟨r, _, left, -, means⟩ := hL.cells _ _ known hx
      obtain ⟨q, _, right, -, means'⟩ := hL.cells _ _ hx known
      exact ⟨_, _, left, congrArg Int.ofNat (means.left rfl), right,
        congrArg Int.ofNat (means'.right rfl)⟩
    · intro i j hi hj
      exact hL.agrees hR hA hi hj
    · exact decide_eq_true hR.nodup

theorem Compiled.consistent (hL : L.Compiled A) : L.Consistent := by
  refine ⟨?_, fun i j hi hj => ?_⟩
  · rw [table, hL.complete.counted.extent]
    rfl
  · obtain ⟨r, item, got, found, joins⟩ := hL.cell hi hj
    exact ⟨r, item, got, found, (Registry.joins_iff_means.mp joins).1⟩

/-- **A lexer that was just built passes the check**, strict or not: its table is closed, the
identity changes nothing, no cell disagrees with composition, and no content has two ids. -/
theorem fresh_lexer_passes [Memory] {C : Contract} {config : BuildConfig}
    (built : build C config = .ok L)
    (strict : Bool) : L.closed = true ∧ L.unital = .ok true ∧ L.mismatches = .ok [] ∧
      L.distinct = true ∧ (L.report strict).verdict = .ok true := by
  obtain ⟨A, -, -, hL⟩ := compiled_of_build built
  have passed : (L.report strict).verdict = .ok true :=
    (passes_iff_consistent hL.complete.generated hL.closed).mpr hL.consistent
  obtain ⟨closed, unital, agree, distinct⟩ := verdict_eq_ok_true.mp passed
  exact ⟨closed, unital, agree, distinct, passed⟩

theorem fresh_lexer_passes_singleA :
    ∃ L, build (Sample.singleA true).contract .usual = .ok L ∧
      (L.report true).verdict = .ok true ∧ (L.report false).verdict = .ok true := by
  obtain ⟨L, built, -⟩ := exists_lexer_singleA
  have passes := fresh_lexer_passes built
  exact ⟨L, built, (passes true).2.2.2.2, (passes false).2.2.2.2⟩

end Lexer

end ScanLexer
