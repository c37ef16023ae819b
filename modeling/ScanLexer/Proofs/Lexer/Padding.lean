import Mathlib.Data.List.ReduceOption
import ScanLexer.Memory.Ordinary
import ScanLexer.Proofs.Lexer.Semigroup

/-!
# Padding a scan with the identity

A scan whose row is too short for its tree is padded with the identity. The summary of the identity
changes no summary that it is joined with (`Compiled.combine_unit`, `Compiled.unit_combine`), so
each text has one summary, however many identities stand between its bytes and however all of them
are bracketed (`padded_reduce_agrees_with_run`). The empty text has that of the identity.
-/
namespace ScanLexer.Lexer

variable {A : Automaton} {L : Lexer}

/-- The summary of the identity. -/
def unit (L : Lexer) : Summary := ⟨L.identity, false⟩

/-- The summary of a leaf: that of its byte, or that of the identity if it holds none. -/
def padded (L : Lexer) : Option Symbol → Except Fault Summary
  | some a => L.byte a
  | none => .ok L.unit

/-- A summary covers a text if it stands for it. The identity's covers the empty text. -/
inductive Covers (A : Automaton) (L : Lexer) : List Symbol → Summary → Prop where
  | unit : Covers A L [] L.unit
  | stands {w : List Symbol} {s : Summary} {id : Nat} {item : Registry.Item} (occupied : w ≠ [])
      (stands : L.catalogue.Stands A w s id item) : Covers A L w s

theorem Compiled.unit_combine (hL : L.Compiled A) {w : List Symbol} {s : Summary} {id : Nat}
    {item : Registry.Item} (hs : L.catalogue.Stands A w s id item) :
    L.combine L.unit s = .ok s := by
  have known := Registry.lt_size_of_item? hL.complete.generated.identity
  obtain ⟨r, joined, got, found, joins⟩ := hL.cell known (Registry.lt_size_of_item? hs.found)
  obtain rfl := joins.left rfl
  cases found.symm.trans hs.found
  rw [← hs.emits, ← hs.id_eq] at got
  exact got

theorem Compiled.combine_unit (hL : L.Compiled A) {w : List Symbol} {s : Summary} {id : Nat}
    {item : Registry.Item} (hs : L.catalogue.Stands A w s id item) :
    L.combine s L.unit = .ok s := by
  have known := Registry.lt_size_of_item? hL.complete.generated.identity
  obtain ⟨r, joined, got, found, joins⟩ := hL.cell (Registry.lt_size_of_item? hs.found) known
  obtain rfl := joins.right rfl
  cases found.symm.trans hs.found
  rw [← hs.emits, ← hs.id_eq] at got
  exact got

theorem Compiled.unit_combine_unit (hL : L.Compiled A) : L.combine L.unit L.unit = .ok L.unit := by
  have identity := hL.complete.generated.identity
  have known := Registry.lt_size_of_item? identity
  obtain ⟨r, joined, got, found, joins⟩ := hL.cell known known
  obtain rfl := joins.left rfl
  cases found.symm.trans identity
  rw [Behaviour.act_identity (Target.within_natCast.mpr hL.closed.start)] at got
  exact got

theorem Compiled.covers_padded (hL : L.Compiled A) (leaf : Option Symbol) :
    ∃ s, L.padded leaf = .ok s ∧ Covers A L leaf.toList s := by
  cases leaf with
  | none => exact ⟨_, rfl, .unit⟩
  | some a =>
    obtain ⟨s, id, item, byte, stands⟩ := hL.stands_byte a
    exact ⟨s, byte, .stands (List.cons_ne_nil a []) stands⟩

theorem Compiled.covers_combine (hL : L.Compiled A) {u v : List Symbol} {s t : Summary}
    (hs : Covers A L u s) (ht : Covers A L v t) :
    ∃ r, L.combine s t = .ok r ∧ Covers A L (u ++ v) r := by
  cases hs with
  | unit =>
    cases ht with
    | unit => exact ⟨_, hL.unit_combine_unit, .unit⟩
    | stands occupied second => exact ⟨t, hL.unit_combine second, .stands occupied second⟩
  | stands occupied first =>
    cases ht with
    | unit =>
      rw [List.append_nil]
      exact ⟨s, hL.combine_unit first, .stands occupied first⟩
    | stands occupied' second =>
      obtain ⟨r, id, item, combined, stands⟩ := hL.stands_combine occupied' first second
      exact ⟨r, combined, .stands (List.append_ne_nil_of_left_ne_nil occupied v) stands⟩

/-- However a row of bytes and identities is bracketed, its summary covers the bytes. -/
theorem Compiled.covers_reduce (hL : L.Compiled A) (b : Bracketing (Option Symbol)) :
    ∃ s, L.reduce L.padded b = .ok s ∧ Covers A L b.row.reduceOption s := by
  induction b with
  | leaf a =>
    obtain ⟨s, leaf, covers⟩ := hL.covers_padded a
    refine ⟨s, leaf, ?_⟩
    cases a <;> exact covers
  | join left right ihl ihr =>
    obtain ⟨s, first, hs⟩ := ihl
    obtain ⟨t, second, ht⟩ := ihr
    obtain ⟨r, combined, covers⟩ := hL.covers_combine hs ht
    rw [← List.reduceOption_append] at covers
    refine ⟨r, ?_, covers⟩
    simp only [reduce, first, second, ok_bind]
    exact combined

theorem Compiled.covers_extend (hL : L.Compiled A) {u w : List Symbol} {s : Summary}
    (hs : Covers A L u s) : ∃ r, L.extend s w = .ok r ∧ Covers A L (u ++ w) r := by
  induction w generalizing u s with
  | nil => exact ⟨s, rfl, u.append_nil.symm ▸ hs⟩
  | cons a w ih =>
    obtain ⟨t, byte, ht⟩ := hL.covers_padded (some a)
    obtain ⟨longer, combined, covers⟩ := hL.covers_combine hs ht
    obtain ⟨r, extended, covers⟩ := ih covers
    rw [Option.toList_some, List.append_assoc, List.singleton_append] at covers
    refine ⟨r, ?_, covers⟩
    simp only [padded] at byte
    simp only [extend, List.foldlM_cons, byte, ok_bind, combined]
    exact extended

/-- No two summaries cover one text. -/
theorem Compiled.eq_of_covers (hL : L.Compiled A) {w : List Symbol} {s t : Summary}
    (hs : Covers A L w s) (ht : Covers A L w t) : s = t := by
  cases hs with
  | unit =>
    cases ht with
    | unit => rfl
    | stands occupied _ => contradiction
  | stands occupied first =>
    cases ht with
    | unit => contradiction
    | stands _ second =>
      have alike := (first.reads.key_eq_iff second.reads).mpr fun _ _ => rfl
      obtain rfl := (hL.id_eq_iff first second).mpr alike
      cases first.found.symm.trans second.found
      rcases s with ⟨id, emits⟩
      rcases t with ⟨id', emits'⟩
      rw [Summary.mk.injEq]
      exact ⟨first.id_eq.trans second.id_eq.symm, first.emits.trans second.emits.symm⟩

/-- A summary that covers a text names a behaviour that reads it. -/
theorem Covers.reads (hL : L.Compiled A) {w : List Symbol} {s : Summary} (hs : Covers A L w s) :
    ∃ (id : Nat) (item : Registry.Item), s.id = id ∧ L.registry.item? id = some item ∧
      A.Reads w item.behaviour ∧ s.emits = (item.behaviour.act (some (0 : Nat))).emits := by
  cases hs with
  | unit =>
    refine ⟨L.identity, _, rfl, hL.complete.generated.identity, A.reads_identity, ?_⟩
    rw [Behaviour.act_identity (Target.within_natCast.mpr hL.closed.start)]
    rfl
  | stands _ stands => exact ⟨_, _, stands.id_eq, stands.found, stands.reads, stands.emits⟩

/-- **The identity may be put anywhere into a scan.** Each text has a summary, which joining its
bytes one after another to the identity leads to, and so does every bracketing of its bytes with
identities among them. This summary names a behaviour that does from the start state what a run over
the text does; its flag is that of the run, and its lexeme that of the state that the run ends
in. -/
theorem padded_reduce_agrees_with_run [Memory] (hA : A.Built) {config : BuildConfig}
    (built : build A.contract config = .ok L) (w : List Symbol) :
    ∃ s f start lexeme, L.extend L.unit w = .ok s ∧
      (∀ b : Bracketing (Option Symbol), b.row.reduceOption = w → L.reduce L.padded b = .ok s) ∧
      L.registry.behaviour s.id = .ok f ∧ f.lookup 0 = .ok start ∧ start.Plain ∧
      A.read w (some (0 : Nat)) = .ok start.transition ∧ s.emits = start.transition.emits ∧
      L.finalAt s.id = .ok lexeme ∧ A.lexeme start.transition.target = .ok lexeme := by
  have hL := compiled_of_built hA built
  obtain ⟨s, extended, covers⟩ := hL.covers_extend (w := w) .unit
  rw [List.nil_append] at covers
  obtain ⟨id, item, named, found, reads, emits⟩ := covers.reads hL
  obtain ⟨start, member, first⟩ := reads.fits.entry_of_lt hL.closed.start
  have run := reads.agrees _ (Target.within_natCast.mpr hL.closed.start)
  have label := hL.closed.lexeme_of_reads reads
  rw [Behaviour.act_of_entry first] at emits run label
  refine ⟨s, item.behaviour, start, _, extended, ?_, ?_, Behaviour.entry_natCast.mpr first,
    reads.fits.plain start member, run, emits, ?_, label⟩
  · rintro b rfl
    obtain ⟨t, reduced, covered⟩ := hL.covers_reduce b
    rw [hL.eq_of_covers covers covered, reduced]
  · rw [named]
    exact Registry.behaviour_of_item? found
  · rw [named]
    exact hL.final_of_item? found

/-- A byte between two identities, and the empty text. -/
theorem padded_reduce_agrees_with_run_singleA :
    ∃ L, build (Sample.singleA true).contract .usual = .ok L ∧
      (∃ s start, L.reduce L.padded (.join (.join (.leaf none) (.leaf (some 97))) (.leaf none)) =
        .ok s ∧
        (Sample.singleA true).read [97] (some (0 : Nat)) = .ok start ∧ s.emits = start.emits) ∧
      ∃ s, L.extend L.unit [] = .ok s ∧
        L.reduce L.padded (.join (.leaf none) (.leaf none)) = .ok s := by
  obtain ⟨L, built, -⟩ := exists_lexer_singleA
  have scan := padded_reduce_agrees_with_run Automaton.built_singleA built
  obtain ⟨s, -, start, -, -, any, -, -, -, run, flag, -, -⟩ := scan [97]
  obtain ⟨t, -, -, -, extended, others, -⟩ := scan []
  exact ⟨L, built, ⟨s, start.transition, any _ rfl, run, flag⟩, t, extended, others _ rfl⟩

end ScanLexer.Lexer
