import ScanLexer.Memory.Ordinary
import ScanLexer.Proofs.Lexer.Checking
import ScanLexer.Proofs.Lexer.Scanning
import ScanLexer.Proofs.MergeTable.History

/-!
# What a passed check says of a scan

The table of a lexer may be changed after the lexer was built. If a check passes then, the table is
consistent, and each scan still ends in the right state (`Checked.leads_reduce`). Its flag is
another matter. A cell of two other ids may hold the identity's id, if the identity has the content
that belongs there: the check compares contents. From the identity on, the flag of the left operand
is kept, where that of the composition would be lost. So a passed check says that all scans agree
with runs exactly if there is no such cell, or no flag to be kept (`passed_check_scans_iff`).
-/
namespace ScanLexer.Lexer

variable {A : Automaton} {L : Lexer}

/-- The lexer after calls to its table. -/
def patched [Memory] (L : Lexer) (calls : List MergeTable.Call) : Lexer :=
  { L with catalogue := { L.catalogue with table := L.table.replay calls } }

/-- A scan of a bracketed text agrees with a run over it: the id leads from the start where the run
leads, with its flag, and the scan has this flag. -/
def ScansAs (A : Automaton) (L : Lexer) (b : Bracketing Symbol) : Prop :=
  ∃ s f start, L.reduce L.byte b = .ok s ∧ L.registry.behaviour s.id = .ok f ∧
    f.lookup 0 = .ok start ∧ start.Plain ∧
    A.read b.row (some (0 : Nat)) = .ok start.transition ∧ s.emits = start.transition.emits

/-- A lexer of an automaton, but for its table, of which a check has found that it is consistent. -/
structure Checked (A : Automaton) (L : Lexer) : Prop where
  closed : A.Closed
  generated : L.registry.Generated A L.identity
  bytes : ∀ a, ∃ s id item, L.byte a = .ok s ∧ L.catalogue.Stands A [a] s id item
  consistent : L.Consistent

theorem Compiled.checked [Memory] (hL : L.Compiled A) {calls : List MergeTable.Call} {strict : Bool}
    (passed : ((L.patched calls).report strict).verdict = .ok true) :
    (L.patched calls).Checked A := by
  have generated : (L.patched calls).registry.Generated A (L.patched calls).identity :=
    hL.complete.generated
  refine ⟨hL.closed, generated, fun a => ?_, (passes_iff_consistent generated hL.closed).mp passed⟩
  obtain ⟨s, id, item, byte, stands⟩ := hL.stands_byte a
  have same : L.catalogue.registry.Extends (L.patched calls).catalogue.registry := .refl _
  exact ⟨s, id, item, byte, stands.of_extends same⟩

/-- A consistent table that holds the identity's id in no cell of two other ids is the table that
the lexer was built with. -/
theorem Compiled.of_patched [Memory] (hL : L.Compiled A) {calls : List MergeTable.Call}
    (checked : (L.patched calls).Checked A)
    (apart : ∀ i j : Nat, i < L.registry.size → j < L.registry.size → i ≠ L.identity →
      j ≠ L.identity → ∀ cell, (L.patched calls).table.get (.int i) (.int j) = .ok cell →
      cell.id ≠ L.identity) : (L.patched calls).Compiled A := by
  have counted := hL.complete.counted
  obtain ⟨sound, n, extent⟩ := MergeTable.sound_replay counted.table ⟨_, counted.extent⟩ calls
  have whole : (L.patched calls).table.extent.whole? = some (L.registry.size : Int) :=
    checked.consistent.extent
  have size : (L.patched calls).table.extent = .int L.registry.size := by
    have same : (L.patched calls).table.extent = .int n := extent
    rw [same] at whole ⊢
    exact congrArg Datum.int (Option.some.inj whole)
  have counted' : (L.patched calls).catalogue.Counted (List.range L.registry.size) :=
    ⟨sound, size, counted.queue⟩
  refine ⟨hL.closed, ⟨counted', hL.complete.generated, fun i j hi hj => ?_⟩, ?_, hL.finals⟩
  · obtain ⟨r, item, got, found, means⟩ := checked.consistent.cells i j hi hj
    obtain ⟨start, -, first⟩ :=
      (hL.complete.generated.fits hL.closed found).entry_of_lt hL.closed.start
    have view := Except.ok.inj ((counted'.get_eq_view hi hj).symm.trans got)
    refine ⟨r, Registry.joins_iff_means.mpr ⟨means, fun hi' hj' same => ?_⟩, ?_⟩
    · exact apart i j hi hj hi' hj' _ got (congrArg Int.ofNat same)
    · rw [view, Behaviour.act_of_entry first]
      exact Catalogue.summary_eq_ok.mpr
        ⟨item, start, found, Behaviour.entry_natCast.mpr first, rfl⟩
  · have same : L.catalogue.registry.Extends (L.patched calls).catalogue.registry := .refl _
    refine hL.initial.imp ?_
    rintro a s ⟨id, item, stands⟩
    exact ⟨id, item, stands.of_extends same⟩

theorem Compiled.scansAs (hL : L.Compiled A) (b : Bracketing Symbol) : ScansAs A L b := by
  obtain ⟨s, id, item, reduced, stands⟩ := hL.stands_reduce b
  obtain ⟨start, member, first⟩ := stands.reads.fits.entry_of_lt hL.closed.start
  have run := stands.reads.agrees _ (Target.within_natCast.mpr hL.closed.start)
  have flag := stands.emits
  rw [Behaviour.act_of_entry first] at run flag
  refine ⟨s, item.behaviour, start, reduced, ?_, Behaviour.entry_natCast.mpr first,
    stands.reads.fits.plain start member, run, flag⟩
  rw [stands.id_eq]
  exact Registry.behaviour_of_item? stands.found

/-- Joining two summaries looks up the cell of their ids. -/
theorem Checked.joined (hL : L.Checked A) {s t : Summary} {i j : Nat} {a b : Registry.Item}
    (hs : s.id = i) (ht : t.id = j) (ha : L.registry.item? i = some a)
    (hb : L.registry.item? j = some b) : ∃ (r : Nat) (item : Registry.Item),
      L.combine s t = .ok ⟨r, (item.behaviour.act (some (0 : Nat))).emits⟩ ∧
      L.registry.item? r = some item ∧ L.registry.Means L.identity i j r := by
  rw [combine, hs, ht]
  exact hL.consistent.cells i j (Registry.lt_size_of_item? ha) (Registry.lt_size_of_item? hb)

/-- **A scan ends in the right state** if the check passed: its id leads from each state where a run
leads, and the scan has the flag of its id. -/
theorem Checked.leads_reduce (hL : L.Checked A) (b : Bracketing Symbol) :
    ∃ s id item, L.reduce L.byte b = .ok s ∧ s.id = (id : Nat) ∧ L.registry.item? id = some item ∧
      s.emits = (item.behaviour.act (some (0 : Nat))).emits ∧
      ∀ t : Target, t.Within A.size →
        ∃ last, A.read b.row t = .ok last ∧ last.target = (item.behaviour.act t).target := by
  induction b with
  | leaf a =>
    obtain ⟨s, id, item, byte, stands⟩ := hL.bytes a
    exact ⟨s, id, item, byte, stands.id_eq, stands.found, stands.emits,
      fun t ht => ⟨_, stands.reads.agrees t ht, rfl⟩⟩
  | join left right ihl ihr =>
    obtain ⟨s, i, a, first, named, ha, -, leads⟩ := ihl
    obtain ⟨t, j, b, second, named', hb, -, leads'⟩ := ihr
    obtain ⟨r, item, joined, found, means⟩ := hL.joined named named' ha hb
    have reduced : L.reduce L.byte (.join left right) =
        .ok ⟨r, (item.behaviour.act (some (0 : Nat))).emits⟩ := by
      simp only [reduce, first, second, ok_bind]
      exact joined
    refine ⟨_, r, item, reduced, rfl, found, rfl, fun target inside => ?_⟩
    obtain ⟨middle, run, reached⟩ := leads target inside
    have between := (hL.generated.fits hL.closed ha).within_act inside
    obtain ⟨last, run', reached'⟩ := leads' _ between
    refine ⟨last, ?_, ?_⟩
    · rw [Bracketing.row, A.read_append left.row right.row_ne_nil, run, ok_bind, reached, run']
    · rw [reached', means.target hL.generated hL.closed ha hb found inside]

/-- No id has a flag from the start if no text has one. -/
theorem Checked.silent (hL : L.Checked A)
    (silent : ∀ w last, A.read w (some (0 : Nat)) = .ok last → last.emits = false) {id : Nat}
    {item : Registry.Item} (found : L.registry.item? id = some item) :
    (item.behaviour.act (some (0 : Nat))).emits = false := by
  have start := Target.within_natCast.mpr hL.closed.start
  by_cases unit : id = L.identity
  · subst unit
    cases found.symm.trans hL.generated.identity
    rw [Behaviour.act_identity start]
    rfl
  · obtain ⟨w, -, reads⟩ := (hL.generated.others id item found unit).2.exists_reads hL.closed
    exact silent w _ (reads.agrees _ start)

theorem Checked.scansAs_of_silent (hL : L.Checked A)
    (silent : ∀ w last, A.read w (some (0 : Nat)) = .ok last → last.emits = false)
    (b : Bracketing Symbol) : ScansAs A L b := by
  obtain ⟨s, id, item, reduced, named, found, flag, leads⟩ := hL.leads_reduce b
  have fits := hL.generated.fits hL.closed found
  obtain ⟨start, member, first⟩ := fits.entry_of_lt hL.closed.start
  obtain ⟨last, run, reached⟩ := leads _ (Target.within_natCast.mpr hL.closed.start)
  have quiet := hL.silent silent found
  have quiet' := silent b.row last run
  rw [Behaviour.act_of_entry first] at flag reached quiet
  have same : last = start.transition := by
    rcases last with ⟨target, emits⟩
    rcases step : start.transition with ⟨target', emits'⟩
    simp_all
  refine ⟨s, item.behaviour, start, reduced, ?_, Behaviour.entry_natCast.mpr first,
    fits.plain start member, same ▸ run, flag⟩
  rw [named]
  exact Registry.behaviour_of_item? found

/-- A scan goes as it did before the table was changed, up to a stretch, if there is one, that is
given the identity's id because it changes nothing. -/
theorem Checked.stands_or_unit (hL : L.Checked A) (b : Bracketing Symbol) :
    (∃ s id item, L.reduce L.byte b = .ok s ∧ L.catalogue.Stands A b.row s id item) ∨
    ∃ (stretch : Bracketing Symbol) (s : Summary), L.reduce L.byte stretch = .ok s ∧
      s.id = L.identity ∧ A.Reads stretch.row (.identity A.size) := by
  induction b with
  | leaf a =>
    obtain ⟨s, id, item, byte, stands⟩ := hL.bytes a
    exact .inl ⟨s, id, item, byte, stands⟩
  | join left right ihl ihr =>
    obtain ⟨s, i, a, first, hs⟩ | unit := ihl
    · obtain ⟨t, j, b, second, ht⟩ | unit := ihr
      · obtain ⟨r, item, joined, found, means⟩ := hL.joined hs.id_eq ht.id_eq hs.found ht.found
        have reduced : L.reduce L.byte (.join left right) =
            .ok ⟨r, (item.behaviour.act (some (0 : Nat))).emits⟩ := by
          simp only [reduce, first, second, ok_bind]
          exact joined
        by_cases unit : r = L.identity
        · right
          refine ⟨.join left right, _, reduced, congrArg Int.ofNat unit, ?_⟩
          subst unit
          cases found.symm.trans hL.generated.identity
          obtain ⟨a', b', item', f, ha, hb, found', made, same⟩ :=
            means.both (hs.ne_identity hL.generated) (ht.ne_identity hL.generated)
          cases hs.found.symm.trans ha
          cases ht.found.symm.trans hb
          cases found.symm.trans found'
          exact (hs.reads.compose ht.reads right.row_ne_nil made).of_key_eq
            (Behaviour.over_identity A.size) same
        · left
          have joins := Registry.joins_iff_means.mpr ⟨means, fun _ _ => unit⟩
          exact ⟨_, r, item, reduced,
            hs.append hL.generated hL.closed right.row_ne_nil ht joins found⟩
      · exact .inr unit
    · exact .inr unit

/-- If each scan goes as before, each id but the identity's is that of a scan. -/
theorem Checked.exists_reduce_id (hL : L.Checked A)
    (stand : ∀ b : Bracketing Symbol, ∃ s id item, L.reduce L.byte b = .ok s ∧
      L.catalogue.Stands A b.row s id item) {k : Nat} (hk : k < L.registry.size)
    (other : k ≠ L.identity) : ∃ b s, L.reduce L.byte b = .ok s ∧ s.id = k := by
  obtain ⟨item, found⟩ := Registry.exists_item? hk
  obtain ⟨w, hw, reads⟩ := (hL.generated.others k item found other).2.exists_reads hL.closed
  obtain ⟨b, rfl⟩ := Bracketing.exists_row_eq hw
  obtain ⟨s, id, item', reduced, stands⟩ := stand b
  have alike := (stands.reads.key_eq_iff reads).mpr fun _ _ => rfl
  have same := hL.generated.id_eq stands.found found (stands.ne_identity hL.generated) other alike
  exact ⟨b, s, reduced, same ▸ stands.id_eq⟩

/-- If each scan goes as before, no cell of two other ids holds the identity's id. -/
theorem Checked.apart (hL : L.Checked A)
    (stand : ∀ b : Bracketing Symbol, ∃ s id item, L.reduce L.byte b = .ok s ∧
      L.catalogue.Stands A b.row s id item) {i j : Nat} (hi : i < L.registry.size)
    (hj : j < L.registry.size) (hi' : i ≠ L.identity) (hj' : j ≠ L.identity) {cell : Summary}
    (got : L.table.get (.int i) (.int j) = .ok cell) : cell.id ≠ L.identity := by
  obtain ⟨b, s, first, named⟩ := hL.exists_reduce_id stand hi hi'
  obtain ⟨b', t, second, named'⟩ := hL.exists_reduce_id stand hj hj'
  obtain ⟨r, id, item, reduced, stands⟩ := stand (.join b b')
  simp only [reduce, first, second, ok_bind, combine, combineIds, named, named', got,
    Except.ok.injEq] at reduced
  subst reduced
  intro same
  exact stands.ne_identity hL.generated (Int.ofNat_inj.mp (stands.id_eq.symm.trans same))

/-- The identity's id, when it is joined on the right, keeps the flag of the left. A stretch that
was given this id closes nothing itself, so no text does if all scans are right. -/
theorem Checked.silent_of_unit (hL : L.Checked A) (right : ∀ b, ScansAs A L b)
    {stretch : Bracketing Symbol} {unit : Summary} (reduced : L.reduce L.byte stretch = .ok unit)
    (named : unit.id = L.identity) (idle : A.Reads stretch.row (.identity A.size)) {w : List Symbol}
    {last : Transition} (run : A.read w (some (0 : Nat)) = .ok last) :
    last.emits = false := by
  by_cases hw : w = []
  · subst hw
    cases run
    rfl
  obtain ⟨b, rfl⟩ := Bracketing.exists_row_eq hw
  obtain ⟨s, id, item, before, named', found, flag, leads⟩ := hL.leads_reduce b
  obtain ⟨r, item', joined, found', means⟩ := hL.joined named' named found hL.generated.identity
  obtain rfl := means.right rfl
  cases found.symm.trans found'
  have start := Target.within_natCast.mpr hL.closed.start
  obtain ⟨reached, run', same⟩ := leads _ start
  cases run.symm.trans run'
  -- From where the text led, the stretch leads nowhere else and closes nothing.
  have inside : last.target.Within A.size :=
    same ▸ (hL.generated.fits hL.closed found).within_act start
  have whole : A.read (b.row ++ stretch.row) (some (0 : Nat)) = .ok (.stay last.target) := by
    rw [A.read_append b.row stretch.row_ne_nil, run, ok_bind, idle.agrees _ inside,
      Behaviour.act_identity inside]
  obtain ⟨s', f, first, reduced', -, -, -, read, emits⟩ := right (.join b stretch)
  obtain ⟨s'', f', first', before', -, -, -, read', emits'⟩ := right b
  cases before.symm.trans before'
  have stays := Except.ok.inj (whole.symm.trans read)
  have ends := Except.ok.inj (run.symm.trans read')
  simp only [reduce, before, reduced, ok_bind, joined, Except.ok.injEq] at reduced'
  subst reduced'
  calc last.emits
    _ = s.emits := by rw [ends, emits']
    _ = (item.behaviour.act (some (0 : Nat))).emits := flag
    _ = first.transition.emits := emits
    _ = false := by rw [← stays]; rfl

/-- **What a passed check says of scans.** After any calls to the table of a lexer, some of which
may have been refused, and a check that passes, all scans agree with runs exactly if no cell of two
other ids holds the identity's id, or no text closes a lexeme at its end. -/
theorem passed_check_scans_iff [Memory] (hA : A.Built) {config : BuildConfig}
    (built : build A.contract config = .ok L) (calls : List MergeTable.Call) {strict : Bool}
    (passed : ((L.patched calls).report strict).verdict = .ok true) :
    (∀ b : Bracketing Symbol, ScansAs A (L.patched calls) b) ↔
      (∀ i j : Nat, i < L.registry.size → j < L.registry.size → i ≠ L.identity → j ≠ L.identity →
        ∀ cell, (L.patched calls).table.get (.int i) (.int j) = .ok cell → cell.id ≠ L.identity) ∨
      ∀ w last, A.read w (some (0 : Nat)) = .ok last → last.emits = false := by
  have hL := compiled_of_built hA built
  have checked := hL.checked passed
  constructor
  · intro right
    by_cases stand : ∀ b : Bracketing Symbol, ∃ s id item,
        (L.patched calls).reduce (L.patched calls).byte b = .ok s ∧
          (L.patched calls).catalogue.Stands A b.row s id item
    · left
      intro i j hi hj hi' hj' cell got
      exact checked.apart stand hi hj hi' hj' got
    · right
      obtain ⟨b, changed⟩ := not_forall.mp stand
      obtain ⟨stretch, unit, reduced, named, idle⟩ :=
        (checked.stands_or_unit b).resolve_left changed
      intro w last run
      exact checked.silent_of_unit right reduced named idle run
  · rintro (apart | silent) b
    · exact (hL.of_patched checked apart).scansAs b
    · exact checked.scansAs_of_silent silent b

/-- Over the sample of one letter, a cell is given the identity's id and then its own again; a call
on an id that there is not comes in between. -/
theorem passed_check_scans_iff_singleA :
    ∃ L calls,
      calls = [.set 0 1 [.int 2, .bool true], .set 0 7 [], .set 0 1 [.int 0, .bool false]] ∧
      build (Sample.singleA true).contract .usual = .ok L ∧
      ((L.patched calls).report true).verdict = .ok true ∧
      ScansAs (Sample.singleA true) (L.patched calls) (.join (.leaf 97) (.leaf 97)) := by
  have checks : (build (Sample.singleA true).contract .usual).toOption.map (fun L =>
      let patched := L.patched
        [.set 0 1 [.int 2, .bool true], .set 0 7 [], .set 0 1 [.int 0, .bool false]]
      ((patched.report true).verdict,
        (List.range 2).all fun i : Nat => (List.range 2).all fun j : Nat =>
        (patched.table.get (.int i) (.int j)).map Summary.id ≠ .ok 2)) =
      some (.ok true, true) := by decide +kernel
  obtain ⟨L, built, size, identity⟩ := exists_lexer_singleA
  simp only [built, Except.toOption, Option.map_some, Option.some.injEq, Prod.mk.injEq] at checks
  obtain ⟨passed, apart⟩ := checks
  refine ⟨L, _, rfl, built, passed, ?_⟩
  refine (passed_check_scans_iff Automaton.built_singleA built _ passed).mpr (.inl ?_) _
  intro i j hi hj hi' hj' cell got unit
  have first : i < 2 := by omega
  have second : j < 2 := by omega
  simp only [List.all_eq_true, List.mem_range, decide_eq_true_eq] at apart
  have named : cell.id = 2 := unit.trans (congrArg Int.ofNat identity)
  exact apart i first j second (map_eq_ok.mpr ⟨cell, got, named⟩)

/-- One state that an "a" leaves as it is, and an "x" with the end of a lexeme. -/
def drowsy : Automaton :=
  ⟨[⟨Sample.arcs "a" 0 ++ Sample.emitting (Sample.arcs "x" 0), none⟩]⟩

theorem built_drowsy : drowsy.Built := by
  have new : Automaton.Built ⟨[.bare none]⟩ := .new (n := 1) rfl
  have idle := new.call (.add (.int 0) (.text "a") (.int 0) (.bool false))
  exact idle.call (.add (.int 0) (.text "x") (.int 0) (.bool true))

/-- An "a" does what the identity does. The cell of two of them may be given the identity's id, and
the check passes. Then "aa" after an "x" is said to close a lexeme. -/
theorem identity_in_cell_passes :
    ∃ L calls, calls = [.set 1 1 [.int 3, .bool false]] ∧ drowsy.Built ∧
      build drowsy.contract .usual = .ok L ∧ L.registry.size = 4 ∧
      ((L.patched calls).report true).verdict = .ok true ∧
      (L.patched calls).reduce L.byte (.join (.leaf 120) (.join (.leaf 97) (.leaf 97))) =
        .ok ⟨2, true⟩ ∧
      drowsy.read [120, 97, 97] (some (0 : Nat)) = .ok ⟨some 0, false⟩ ∧
      ¬ ScansAs drowsy (L.patched calls) (.join (.leaf 120) (.join (.leaf 97) (.leaf 97))) := by
  have checks : (build drowsy.contract .usual).toOption.map (fun L =>
      let patched := L.patched [.set 1 1 [.int 3, .bool false]]
      (L.registry.size, (patched.report true).verdict,
        patched.reduce L.byte (.join (.leaf 120) (.join (.leaf 97) (.leaf 97))))) =
      some (4, .ok true, .ok ⟨2, true⟩) := by decide +kernel
  have run : drowsy.read [120, 97, 97] (some (0 : Nat)) = .ok ⟨some 0, false⟩ := by decide +kernel
  rcases built : build drowsy.contract .usual with fault | L
  · rw [built] at checks
    contradiction
  · simp only [built, Except.toOption, Option.map_some, Option.some.injEq, Prod.mk.injEq] at checks
    obtain ⟨size, passed, scanned⟩ := checks
    refine ⟨L, _, rfl, built_drowsy, rfl, size, passed, scanned, run, ?_⟩
    rintro ⟨s, f, start, reduced, -, -, -, read, emits⟩
    cases scanned.symm.trans reduced
    rw [← Except.ok.inj (run.symm.trans read)] at emits
    exact Bool.noConfusion emits

end ScanLexer.Lexer
