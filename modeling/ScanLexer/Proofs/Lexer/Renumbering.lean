import Mathlib.Data.Set.Function
import ScanLexer.Memory.Ordinary
import ScanLexer.Proofs.Automaton.Cutting
import ScanLexer.Proofs.Lexer.Twins

/-!
# The numbers of the states do not matter

The states of an automaton may be numbered anew, as long as the start state keeps its number. The
behaviours of its bytes are then conjugate to those before, and so are all that they generate
(`Renumbered.corresponds`). Ids are told apart by content and handed out in the order of discovery,
so the tables are the same (`renumbering_keeps_tables`).
-/
namespace ScanLexer

/-- The same target in another numbering of the states. -/
def Target.renumbered (q : Nat → Nat) (t : Target) : Target := t.map fun i => (q i.toNat : Int)

def Transition.renumbered (q : Nat → Nat) (t : Transition) : Transition :=
  ⟨t.target.renumbered q, t.emits⟩

namespace Target

variable {q : Nat → Nat} {n : Nat}

@[simp] theorem renumbered_natCast (q : Nat → Nat) (k : Nat) :
    renumbered q (some (k : Int)) = some (q k : Int) := rfl

theorem Within.renumbered (perm : Set.BijOn q {i | i < n} {i | i < n}) {t : Target}
    (ht : t.Within n) : (t.renumbered q).Within n := by
  obtain rfl | ⟨k, hk, rfl⟩ := ht.cases
  · trivial
  · exact within_natCast.mpr (perm.mapsTo hk)

theorem exists_renumbered (perm : Set.BijOn q {i | i < n} {i | i < n}) {t : Target}
    (ht : t.Within n) : ∃ s : Target, s.Within n ∧ s.renumbered q = t := by
  obtain rfl | ⟨k, hk, rfl⟩ := ht.cases
  · exact ⟨none, trivial, rfl⟩
  · obtain ⟨i, hi, rfl⟩ := perm.surjOn hk
    exact ⟨some (i : Int), within_natCast.mpr hi, rfl⟩

theorem renumbered_inj (perm : Set.BijOn q {i | i < n} {i | i < n}) {s t : Target} (hs : s.Within n)
    (ht : t.Within n) : s.renumbered q = t.renumbered q ↔ s = t := by
  refine ⟨fun same => ?_, fun same => by rw [same]⟩
  obtain rfl | ⟨i, hi, rfl⟩ := hs.cases
  · obtain rfl | ⟨j, hj, rfl⟩ := ht.cases
    · rfl
    · contradiction
  · obtain rfl | ⟨j, hj, rfl⟩ := ht.cases
    · contradiction
    · simp only [renumbered_natCast, Option.some.injEq, Int.ofNat_inj] at same
      rw [perm.injOn hi hj same]

end Target

namespace Transition

variable {q : Nat → Nat} {n : Nat}

theorem renumbered_inj (perm : Set.BijOn q {i | i < n} {i | i < n}) {s t : Transition}
    (hs : s.target.Within n) (ht : t.target.Within n) :
    s.renumbered q = t.renumbered q ↔ s = t := by
  rcases s with ⟨s, emits⟩
  rcases t with ⟨t, emits'⟩
  simp only [renumbered, Transition.mk.injEq, Target.renumbered_inj perm hs ht]

end Transition

namespace Behaviour

/-- Two behaviours over `n` states that do the same, but for the numbers of the states. -/
structure Conjugate (q : Nat → Nat) (n : Nat) (f f' : Behaviour) : Prop where
  fits : f.Over n
  fits' : f'.Over n
  acts : ∀ t : Target, t.Within n → f'.act (t.renumbered q) = (f.act t).renumbered q

variable {q : Nat → Nat} {n : Nat} {f f' g g' : Behaviour}

theorem conjugate_identity (perm : Set.BijOn q {i | i < n} {i | i < n}) :
    Conjugate q n (identity n) (identity n) := by
  refine ⟨over_identity n, over_identity n, fun t ht => ?_⟩
  rw [act_identity ht, act_identity (ht.renumbered perm)]
  rfl

/-- Conjugates of behaviours that are alike are alike. -/
theorem Conjugate.key_eq_iff (perm : Set.BijOn q {i | i < n} {i | i < n}) (hf : Conjugate q n f f')
    (hg : Conjugate q n g g') : f.key = g.key ↔ f'.key = g'.key := by
  rw [key_eq_iff_act hf.fits hg.fits, key_eq_iff_act hf.fits' hg.fits']
  constructor
  · intro alike t ht
    obtain ⟨s, hs, rfl⟩ := Target.exists_renumbered perm ht
    rw [hf.acts s hs, hg.acts s hs, alike s hs]
  · intro alike t ht
    have same := alike _ (ht.renumbered perm)
    rw [hf.acts t ht, hg.acts t ht] at same
    exact (Transition.renumbered_inj perm (hf.fits.within_act ht) (hg.fits.within_act ht)).mp same

/-- Compositions of conjugates are conjugate. -/
theorem Conjugate.compose (hf : Conjugate q n f f') (hg : Conjugate q n g g')
    (perm : Set.BijOn q {i | i < n} {i | i < n}) :
    ∃ k k', f.compose g = .ok k ∧ f'.compose g' = .ok k' ∧ Conjugate q n k k' := by
  obtain ⟨k, made⟩ := hf.fits.exists_compose hg.fits
  obtain ⟨k', made'⟩ := hf.fits'.exists_compose hg.fits'
  obtain ⟨fits, acts⟩ := compose_over hf.fits hg.fits made
  obtain ⟨fits', acts'⟩ := compose_over hf.fits' hg.fits' made'
  refine ⟨k, k', made, made', fits, fits', fun t ht => ?_⟩
  calc k'.act (t.renumbered q)
    _ = g'.act (f'.act (t.renumbered q)).target := acts' _ (ht.renumbered perm)
    _ = g'.act ((f.act t).target.renumbered q) := by rw [hf.acts t ht]; rfl
    _ = (g.act (f.act t).target).renumbered q := hg.acts _ (hf.fits.within_act ht)
    _ = (k.act t).renumbered q := by rw [acts t ht]

/-- The entries of conjugates stand for the same transition in both numberings. -/
theorem Conjugate.lookup (h : Conjugate q n f f') (perm : Set.BijOn q {i | i < n} {i | i < n})
    {s : Nat} (hs : s < n) : ∃ e e', f.lookup s = .ok e ∧ f'.lookup (q s) = .ok e' ∧ e.Plain ∧
      e'.Plain ∧ e'.transition = e.transition.renumbered q := by
  obtain ⟨e, he, found⟩ := h.fits.entry_of_lt hs
  obtain ⟨e', he', found'⟩ := h.fits'.entry_of_lt (perm.mapsTo hs)
  have acts := h.acts (some (s : Int)) (Target.within_natCast.mpr hs)
  rw [Target.renumbered_natCast, act_of_entry found, act_of_entry found'] at acts
  exact ⟨e, e', entry_natCast.mpr found, entry_natCast.mpr found', h.fits.plain e he,
    h.fits'.plain e' he', acts⟩

end Behaviour

namespace Automaton

/-- The automaton has an arc from one state to another on a symbol. -/
def HasArc (A : Automaton) (i : Nat) (a : Symbol) (j : Nat) (emits : Bool) : Prop :=
  ∃ arc ∈ (A.node i).arcs, arc.symbol = a ∧ arc.target = j ∧ arc.emits = emits

instance (A : Automaton) (i : Nat) (a : Symbol) (j : Nat) (emits : Bool) :
    Decidable (A.HasArc i a j emits) :=
  inferInstanceAs
    (Decidable (∃ arc ∈ (A.node i).arcs, arc.symbol = a ∧ arc.target = j ∧ arc.emits = emits))

/-- The second automaton is the first one with its states numbered anew, the start state
excepted. -/
structure Renumbered (q : Nat → Nat) (A B : Automaton) : Prop where
  size : A.size = B.size
  perm : Set.BijOn q {i | i < A.size} {i | i < A.size}
  start : q 0 = 0
  arcs : ∀ i < A.size, ∀ j < A.size, ∀ a emits,
    A.HasArc i a j emits ↔ B.HasArc (q i) a (q j) emits
  lexemes : ∀ i < A.size, (B.node (q i)).lexeme = (A.node i).lexeme

variable {q : Nat → Nat} {A B : Automaton}

/-- A step of a valid automaton takes an arc that it has. -/
theorem Valid.transition_eq_iff (hA : A.Valid) {i j : Nat} {a : Symbol} {emits : Bool} :
    (A.node i).transition a = ⟨some (j : Int), emits⟩ ↔ A.HasArc i a j emits := by
  unfold Node.transition
  cases found : (A.node i).arc? a with
  | none =>
    have lacks := Node.arc?_eq_none_iff.mp found
    simp only [Option.map_none, Option.getD_none, Transition.reject, Transition.mk.injEq,
      reduceCtorEq, false_and, false_iff]
    rintro ⟨arc, harc, rfl, -⟩
    exact lacks (List.mem_map_of_mem harc)
  | some arc =>
    obtain ⟨harc, symbol⟩ := (hA.node i).arc?_eq_some_iff.mp found
    simp only [Option.map_some, Option.getD_some, Arc.transition, Transition.mk.injEq,
      Option.some.injEq, Int.ofNat_inj]
    constructor
    · rintro ⟨target, emits⟩
      exact ⟨arc, harc, symbol, target, emits⟩
    · rintro ⟨other, hother, symbol', target, emits⟩
      have same := (hA.node i).arc?_eq_some_iff.mpr ⟨hother, symbol'⟩
      cases found.symm.trans same
      exact ⟨target, emits⟩

/-- A step of a valid automaton leads nowhere, or to one of its states. -/
theorem Valid.transition_cases (hA : A.Valid) (i : Nat) (a : Symbol) :
    (A.node i).transition a = .reject ∨
      ∃ j emits, j < A.size ∧ (A.node i).transition a = ⟨some (j : Int), emits⟩ := by
  unfold Node.transition
  cases found : (A.node i).arc? a with
  | none => exact .inl rfl
  | some arc =>
    obtain ⟨harc, -⟩ := (hA.node i).arc?_eq_some_iff.mp found
    exact .inr ⟨arc.target, arc.emits, (hA.node i).targets arc harc, rfl⟩

namespace Renumbered

/-- A step in the new numbering is the step in the old one, renumbered. -/
theorem transition (h : Renumbered q A B) (hA : A.Valid) (hB : B.Valid) {i : Nat} (hi : i < A.size)
    (a : Symbol) : (B.node (q i)).transition a = ((A.node i).transition a).renumbered q := by
  obtain nowhere | ⟨j, emits, hj, leads⟩ := hA.transition_cases i a
  · rw [nowhere]
    obtain nowhere' | ⟨k, emits, hk, leads⟩ := hB.transition_cases (q i) a
    · exact nowhere'
    · obtain ⟨j, hj, rfl⟩ := h.perm.surjOn (show k < A.size from h.size ▸ hk)
      have arc := (h.arcs i hi j hj a emits).mpr (hB.transition_eq_iff.mp leads)
      rw [hA.transition_eq_iff.mpr arc] at nowhere
      exact nomatch congrArg Transition.target nowhere
  · rw [leads]
    have arc := (h.arcs i hi j hj a emits).mp (hA.transition_eq_iff.mp leads)
    exact hB.transition_eq_iff.mpr arc

theorem lexeme (h : Renumbered q A B) {t : Target} (ht : t.Within A.size) :
    B.lexeme (t.renumbered q) = A.lexeme t := by
  obtain rfl | ⟨i, hi, rfl⟩ := ht.cases
  · rfl
  · have hi' : q i < B.size := h.size ▸ h.perm.mapsTo hi
    rw [Target.renumbered_natCast, lexeme_natCast hi', lexeme_natCast hi, h.lexemes i hi]

/-- **Renumbering conjugates all behaviours** that the bytes generate. -/
theorem corresponds (h : Renumbered q A B) (hA : A.Valid) (hB : B.Valid) :
    Corresponds (Behaviour.Conjugate q A.size) A B where
  size := h.size
  byte a := by
    have fits' := hB.closed.over_behaviour a
    rw [← h.size] at fits'
    refine ⟨hA.closed.over_behaviour a, fits', fun t ht => ?_⟩
    obtain rfl | ⟨i, hi, rfl⟩ := ht.cases
    · rfl
    · have hi' : q i < B.size := h.size ▸ h.perm.mapsTo hi
      rw [Target.renumbered_natCast, act_behaviour hi', act_behaviour hi, h.transition hA hB hi]
  identity := by
    rw [← h.size]
    exact Behaviour.conjugate_identity h.perm
  key_iff hf hg := hf.key_eq_iff h.perm hg
  compose hf hg := hf.compose hg h.perm
  start hf := by
    obtain ⟨e, e', first, first', -, -, same⟩ := hf.lookup h.perm hA.start
    rw [h.start] at first'
    exact ⟨e, e', first, first', (congrArg Transition.emits same).symm⟩
  accepted {f f'} hf := by
    have start : Target.Within A.size (some (0 : Nat)) := Target.within_natCast.mpr hA.start
    have accepted := hA.closed.lexeme_of_over hf.fits
    have accepted' := hB.closed.lexeme_of_over (h.size ▸ hf.fits')
    have acts := hf.acts _ start
    rw [Target.renumbered_natCast, h.start] at acts
    rw [acts, Transition.renumbered, h.lexeme (hf.fits.within_act start), accepted] at accepted'
    exact Except.ok.inj accepted'

end Renumbered

end Automaton

namespace Lexer

open Automaton

/-- **The numbers of the states do not matter.** If an automaton has a lexer, so has the automaton
with its states numbered anew, and the tables are the same; each id stands for the conjugate of what
it stood for. -/
theorem renumbering_keeps_tables [Memory] {q : Nat → Nat} {A B : Automaton} (hA : A.Built)
    (hB : B.Built) (h : Renumbered q A B) {config : BuildConfig} {L : Lexer}
    (built : build A.contract config = .ok L) :
    ∃ L', build B.contract config = .ok L' ∧ L'.initial = L.initial ∧
      L'.table.rows = L.table.rows ∧ L'.finals = L.finals ∧ L'.identity = L.identity ∧
      L'.registry.size = L.registry.size ∧
      ∀ k : Nat, k < L.registry.size → ∃ f f', L.registry.behaviour k = .ok f ∧
        L'.registry.behaviour k = .ok f' ∧ f.size = A.size ∧ f'.size = A.size ∧
        ∀ s : Nat, s < A.size → ∃ e e', f.lookup s = .ok e ∧ f'.lookup (q s) = .ok e' ∧
          e.Plain ∧ e'.Plain ∧ e'.transition = e.transition.renumbered q := by
  have valid := automaton_contract hA.valid
  have valid' := automaton_contract hB.valid
  obtain ⟨_, accepted, built⟩ := bind_eq_ok.mp built
  obtain ⟨made, compiled, built⟩ := bind_eq_ok.mp built
  cases built
  rw [valid] at accepted
  obtain ⟨_, room, rfl⟩ := map_eq_ok.mp accepted
  rw [← h.size, room] at valid'
  have twins : Matched _ _ (Twins (Behaviour.Conjugate q A.size)) (compile A config.growth)
      (compile B config.growth) := twins_compile (h.corresponds hA.valid hB.valid)
  rw [compiled] at twins
  obtain ⟨L', compiled', twins⟩ := twins.of_ok fun _ => Catalogue.not_diverges
  refine ⟨_, bind_eq_ok.mpr ⟨B, valid', bind_eq_ok.mpr ⟨L', compiled', rfl⟩⟩, twins.initial.symm,
    twins.table.rows.symm, twins.finals.symm, twins.identity.symm, twins.size.symm, ?_⟩
  intro k hk
  obtain ⟨f, f', named, named', conjugate⟩ := twins.behaviour hk
  exact ⟨f, f', named, named', conjugate.fits.size, conjugate.fits'.size,
    fun s hs => conjugate.lookup h.perm hs⟩

/-- Words over one letter, and blanks, with the two states after the start state the other way
round. -/
def wordsSwapped : Automaton :=
  ⟨[⟨Sample.arcs " " 1 ++ Sample.arcs "a" 2, none⟩, ⟨Sample.arcs " " 1, Sample.token "blank"⟩,
    ⟨Sample.arcs "a" 2, Sample.token "word"⟩]⟩

theorem built_wordsSwapped : wordsSwapped.Built := by
  have new : Built ⟨[.bare none]⟩ := .new (n := 1) rfl
  have states :=
    (new.call (.addState (Sample.token "blank"))).call (.addState (Sample.token "word"))
  have blank := states.call (.add (.int 0) (.text " ") (.int 1) (.bool false))
  have word := blank.call (.add (.int 0) (.text "a") (.int 2) (.bool false))
  have longer := word.call (.add (.int 1) (.text " ") (.int 1) (.bool false))
  exact longer.call (.add (.int 2) (.text "a") (.int 2) (.bool false))

theorem renumbered_words : Renumbered (Equiv.swap 1 2) words wordsSwapped where
  size := rfl
  perm := by
    have inside : ∀ i < words.size, Equiv.swap 1 2 i < words.size := by decide +kernel
    exact ⟨inside, (Equiv.injective _).injOn, fun i hi =>
      ⟨_, inside i hi, Equiv.swap_apply_self 1 2 i⟩⟩
  start := rfl
  arcs := by decide +kernel
  lexemes := by decide +kernel

/-- The states of words and of blanks may be swapped. -/
theorem renumbering_keeps_tables_words : words.Built ∧ wordsSwapped.Built ∧
    Renumbered (Equiv.swap 1 2) words wordsSwapped ∧
    ∃ L L', build words.contract .usual = .ok L ∧ build wordsSwapped.contract .usual = .ok L' ∧
      L'.table.rows = L.table.rows ∧ L'.finals = L.finals := by
  have built : (build words.contract .usual).map (fun _ => ()) = .ok () := by decide +kernel
  obtain ⟨L, built, -⟩ := map_eq_ok.mp built
  obtain ⟨L', built', -, rows, finals, -⟩ :=
    renumbering_keeps_tables built_words built_wordsSwapped renumbered_words built
  exact ⟨built_words, built_wordsSwapped, renumbered_words, L, L', built, built', rows, finals⟩

end Lexer

end ScanLexer
