import ScanLexer.Memory.Ordinary
import ScanLexer.Proofs.Lexer.Scanning

/-!
# The ids are the behaviours of texts

Joining the summaries of the bytes of a text from left to right gives an id to each text that is not
empty. Two texts have the same id exactly if no state tells them apart, every id but the identity's
is that of some text, and the identity's is that of none (`ids_are_behaviours_of_texts`).
-/
namespace ScanLexer.Lexer

variable {A : Automaton} {L : Lexer}

/-- The summary of a stretch and the bytes that follow it, each joined in turn. -/
def extend (L : Lexer) (s : Summary) (w : List Symbol) : Except Fault Summary :=
  w.foldlM (fun s a => do L.combine s (← L.byte a)) s

/-- The summary of a text, its bytes joined from left to right. -/
def fold (L : Lexer) : List Symbol → Except Fault Summary
  | [] => .ok ⟨L.identity, false⟩
  | a :: w => do L.extend (← L.byte a) w

theorem Compiled.stands_extend (hL : L.Compiled A) {u w : List Symbol} {s : Summary} {i : Nat}
    {a : Registry.Item} (hs : L.catalogue.Stands A u s i a) :
    ∃ r id item, L.extend s w = .ok r ∧ L.catalogue.Stands A (u ++ w) r id item := by
  induction w generalizing u s i a with
  | nil => exact ⟨s, i, a, rfl, u.append_nil.symm ▸ hs⟩
  | cons b w ih =>
    obtain ⟨t, j, b', byte, ht⟩ := hL.stands_byte b
    obtain ⟨joined, k, c, combined, longer⟩ := hL.stands_combine (List.cons_ne_nil b []) hs ht
    obtain ⟨r, id, item, extended, stands⟩ := ih longer
    rw [List.append_assoc, List.singleton_append] at stands
    refine ⟨r, id, item, ?_, stands⟩
    simp only [extend, List.foldlM_cons, byte, ok_bind, combined]
    exact extended

theorem Compiled.stands_fold (hL : L.Compiled A) {w : List Symbol} (hw : w ≠ []) :
    ∃ s id item, L.fold w = .ok s ∧ L.catalogue.Stands A w s id item := by
  obtain ⟨a, rest, rfl⟩ := List.exists_cons_of_ne_nil hw
  obtain ⟨first, i, b, byte, stands⟩ := hL.stands_byte a
  obtain ⟨s, id, item, extended, stands⟩ := hL.stands_extend (w := rest) stands
  refine ⟨s, id, item, ?_, stands⟩
  rw [fold, byte, ok_bind, extended]

/-- Summaries of texts have one id exactly if they name behaviours that are alike. -/
theorem Compiled.id_eq_iff (hL : L.Compiled A) {u v : List Symbol} {s t : Summary} {i j : Nat}
    {a b : Registry.Item} (hs : L.catalogue.Stands A u s i a) (ht : L.catalogue.Stands A v t j b) :
    i = j ↔ a.behaviour.key = b.behaviour.key := by
  constructor
  · rintro rfl
    rw [Option.some.inj (hs.found.symm.trans ht.found)]
  · exact hL.complete.generated.id_eq hs.found ht.found (hL.ne_identity hs) (hL.ne_identity ht)

/-- Texts have the same id exactly if runs over them agree from every state. -/
theorem Compiled.fold_id_eq_iff (hL : L.Compiled A) {u v : List Symbol} (hu : u ≠ [])
    (hv : v ≠ []) :
    ∃ s t, L.fold u = .ok s ∧ L.fold v = .ok t ∧
      (s.id = t.id ↔ ∀ i : Nat, i < A.size → ∃ last,
        A.read u (some (i : Int)) = .ok last ∧ A.read v (some (i : Int)) = .ok last) := by
  obtain ⟨s, i, a, folded, hs⟩ := hL.stands_fold hu
  obtain ⟨t, j, b, folded', ht⟩ := hL.stands_fold hv
  refine ⟨s, t, folded, folded', ?_⟩
  rw [hs.id_eq, ht.id_eq, Int.ofNat_inj, hL.id_eq_iff hs ht, hs.reads.key_eq_iff ht.reads]
  constructor
  · intro same k hk
    have run := hs.reads.agrees _ (Target.within_natCast.mpr hk)
    exact ⟨_, run, same k hk ▸ run⟩
  · intro same k hk
    obtain ⟨last, left, right⟩ := same k hk
    rw [left, right]

theorem Compiled.exists_fold_of_id (hL : L.Compiled A) {k : Nat} (hk : k < L.registry.size)
    (other : k ≠ L.identity) : ∃ w : List Symbol, w ≠ [] ∧ ∃ s, L.fold w = .ok s ∧ s.id = k := by
  obtain ⟨item, found⟩ := Registry.exists_item? hk
  have generated := (hL.complete.generated.others k item found other).2
  obtain ⟨w, hw, reads⟩ := generated.exists_reads hL.closed
  -- The fold of this text reads it as well, and no content has two ids beside the identity's.
  obtain ⟨s, i, a, folded, hs⟩ := hL.stands_fold hw
  refine ⟨w, hw, s, folded, ?_⟩
  have alike : a.behaviour.key = item.behaviour.key :=
    (hs.reads.key_eq_iff reads).mpr fun _ _ => rfl
  have same : i = k :=
    hL.complete.generated.id_eq hs.found found (hL.ne_identity hs) other alike
  rw [hs.id_eq, same]

theorem Compiled.fold_id_ne_identity (hL : L.Compiled A) {w : List Symbol} (hw : w ≠ []) :
    ∃ s, L.fold w = .ok s ∧ 0 ≤ s.id ∧ s.id < L.registry.size ∧ s.id ≠ L.identity := by
  obtain ⟨s, i, a, folded, hs⟩ := hL.stands_fold hw
  have known := Registry.lt_size_of_item? hs.found
  have apart := hL.ne_identity hs
  refine ⟨s, folded, ?_⟩
  rw [hs.id_eq]
  exact ⟨Int.natCast_nonneg i, Int.ofNat_lt.mpr known, fun same => apart (Int.ofNat_inj.mp same)⟩

/-- **The ids are the behaviours of texts.** Texts that are not empty have the same id exactly if
runs over them agree from every state. The ids of such texts are all ids but the identity's, which
no text has, not even one that changes no state. -/
theorem ids_are_behaviours_of_texts [Memory] (hA : A.Built) {config : BuildConfig}
    (built : build A.contract config = .ok L) :
    (∀ u v : List Symbol, u ≠ [] → v ≠ [] → ∃ s t, L.fold u = .ok s ∧ L.fold v = .ok t ∧
      (s.id = t.id ↔ ∀ i : Nat, i < A.size → ∃ last,
        A.read u (some (i : Int)) = .ok last ∧ A.read v (some (i : Int)) = .ok last)) ∧
    (∀ k : Nat, k < L.registry.size → k ≠ L.identity →
      ∃ w : List Symbol, w ≠ [] ∧ ∃ s, L.fold w = .ok s ∧ s.id = k) ∧
    ∀ w : List Symbol, w ≠ [] → ∃ s, L.fold w = .ok s ∧
      0 ≤ s.id ∧ s.id < L.registry.size ∧ s.id ≠ L.identity := by
  have hL := compiled_of_built hA built
  refine ⟨?_, ?_, ?_⟩
  · intro u v hu hv
    exact hL.fold_id_eq_iff hu hv
  · intro k hk other
    exact hL.exists_fold_of_id hk other
  · intro w hw
    exact hL.fold_id_ne_identity hw

theorem ids_are_behaviours_of_texts_singleA :
    ∃ L, build (Sample.singleA true).contract .usual = .ok L ∧
      (∃ w : List Symbol, w ≠ [] ∧ ∃ s, L.fold w = .ok s ∧ s.id = 1) ∧
      ∃ s, L.fold [97, 98] = .ok s ∧ s.id ≠ 2 := by
  obtain ⟨L, built, size, identity⟩ := exists_lexer_singleA
  obtain ⟨-, texts, apart⟩ := ids_are_behaviours_of_texts Automaton.built_singleA built
  obtain ⟨s, folded, -, -, other⟩ := apart [97, 98] (by simp)
  rw [identity] at other
  exact ⟨L, built, texts 1 (by omega) (by omega), s, folded, other⟩

end ScanLexer.Lexer
