import ScanLexer.Memory.Ordinary
import ScanLexer.Proofs.Catalogue.Closing

/-!
# What a compiled lexer knows

The bytes are given ids first, then the identity, then the catalogue is closed. A lexer that comes
out of this has a closed catalogue, the summary of each byte stands for the byte, and each id has
the lexeme of its behaviour (`compiled_of_build`).
-/
namespace ScanLexer

namespace Catalogue

variable {A : Automaton} {c c' : Catalogue}

/-- A summary stands for a text: its id is that of an untagged behaviour that reads the text, and
its flag is that of the last step from the start state. -/
structure Stands (A : Automaton) (c : Catalogue) (w : List Symbol) (s : Summary) (id : Nat)
    (item : Registry.Item) : Prop where
  id_eq : s.id = id
  found : c.registry.item? id = some item
  untagged : item.tag = none
  reads : A.Reads w item.behaviour
  emits : s.emits = (item.behaviour.act (some (0 : Nat))).emits

theorem Stands.of_extends (h : c.registry.Extends c'.registry) {w : List Symbol} {s : Summary}
    {id : Nat} {item : Registry.Item} (hs : c.Stands A w s id item) : c'.Stands A w s id item :=
  ⟨hs.id_eq, h id item hs.found, hs.untagged, hs.reads, hs.emits⟩

/-- The identity is tagged, so it stands for no text. -/
theorem Stands.ne_identity {e : Nat} (h : c.registry.Generated A e) {w : List Symbol} {s : Summary}
    {id : Nat} {item : Registry.Item} (hs : c.Stands A w s id item) : id ≠ e := by
  rintro rfl
  have untagged := hs.untagged
  rw [Option.some.inj (hs.found.symm.trans h.identity)] at untagged
  contradiction

/-- A catalogue of behaviours that the bytes generate, before anything is composed. -/
structure Gathering (A : Automaton) (c : Catalogue) : Prop where
  counted : c.Counted []
  generated :
    ∀ i item, c.registry.item? i = some item → item.tag = none ∧ A.Generates item.behaviour
  blank : ∀ i j, i < c.registry.size → j < c.registry.size → c.table.view i j = .unset

theorem gathering_empty (A : Automaton) (growth : Growth) : Gathering A (empty growth) := by
  refine ⟨counted_empty growth, fun i item found => ?_, fun i j hi => ?_⟩
  · exact absurd (Registry.lt_size_of_item? found) (Nat.not_lt_zero i)
  · exact absurd hi (Nat.not_lt_zero i)

theorem Gathering.enqueue [Memory] (h : Gathering A c) {f : Behaviour} (hf : A.Generates f)
    {id : Nat}
    (run : c.enqueue f none = (c', .ok id)) : Gathering A c' ∧ c.Enqueued f none c' id := by
  obtain ⟨counted, asked⟩ := enqueue_spec h.counted run
  refine ⟨⟨counted, ?_, ?_⟩, asked⟩
  · intro i item found
    obtain old | ⟨-, rfl⟩ := asked.origin i item found
    · exact h.generated i item old
    · exact ⟨rfl, hf⟩
  · intro i j hi hj
    exact asked.unset hi hj (h.blank i j)

/-- The summaries that bytes are given stand for them. -/
theorem Gathering.enqueueAll [Memory] (hA : A.Closed) {symbols : List Symbol}
    {summaries : List Summary} (h : Gathering A c)
    (run : c.enqueueAll (symbols.map A.behaviour) = .ok (c', summaries)) :
    Gathering A c' ∧ c.registry.Extends c'.registry ∧
      List.Forall₂ (fun a s => ∃ id item, c'.Stands A [a] s id item) symbols summaries := by
  induction symbols generalizing c summaries with
  | nil =>
    cases run
    exact ⟨h, .refl _, .nil⟩
  | cons a symbols ih =>
    rw [List.map_cons, enqueueAll_cons] at run
    obtain ⟨⟨first, id⟩, asked, run⟩ := bind_eq_ok.mp run
    obtain ⟨start, hstart, run⟩ := bind_eq_ok.mp run
    obtain ⟨⟨last, rest⟩, others, run⟩ := bind_eq_ok.mp run
    cases run
    obtain ⟨gathering, enqueued⟩ := h.enqueue (.byte a) (grant_eq_ok.mp asked)
    obtain ⟨gathered, knows, stand⟩ := ih gathering others
    refine ⟨gathered, enqueued.knows.trans knows, .cons ?_ stand⟩
    obtain ⟨item, found, key⟩ := enqueued.found
    obtain ⟨untagged, generates⟩ := gathering.generated id item found
    have same : item.behaviour.key = (A.behaviour a).key := congrArg Registry.Key.content key
    have emits : start.transition.emits = (item.behaviour.act (some (0 : Nat))).emits := by
      have alike := (Behaviour.key_eq_iff_act (generates.fits hA) (hA.over_behaviour a)).mp same
      rw [alike _ (Target.within_natCast.mpr hA.start)]
      exact congrArg Transition.emits
        (Behaviour.act_of_entry (Behaviour.entry_natCast.mp hstart)).symm
    exact ⟨id, item, Stands.of_extends knows ⟨rfl, found, untagged,
      (hA.reads_byte a).of_key_eq (generates.fits hA) same, emits⟩⟩

/-- Once the identity has its id, the catalogue is ready to be closed. -/
theorem Gathering.closing [Memory] (h : Gathering A c) {e : Nat}
    (run : c.enqueue (.identity A.size) (some Lexer.identityTag) = (c', .ok e)) :
    Closing A e c' [] (fun _ _ => False) ∧ c.registry.Extends c'.registry := by
  obtain ⟨counted, asked⟩ := enqueue_spec h.counted run
  refine ⟨⟨counted, ⟨?_, ?_⟩, fun _ _ => False.elim, fun _ _ => False.elim, ?_⟩, asked.knows⟩
  · obtain ⟨item, found, key⟩ := asked.found
    obtain old | ⟨-, rfl⟩ := asked.origin e item found
    · have tags : item.tag = some Lexer.identityTag := congrArg Registry.Key.tag key
      rw [(h.generated e item old).1] at tags
      contradiction
    · exact found
  · intro i item found other
    obtain old | ⟨last, -⟩ := asked.origin i item found
    · exact h.generated i item old
    · exact absurd last other
  · intro i j hi hj _
    exact asked.unset hi hj (h.blank i j)

end Catalogue

namespace Lexer

/-- A lexer whose tables are those of an automaton. -/
structure Compiled (A : Automaton) (L : Lexer) : Prop where
  closed : A.Closed
  complete : L.catalogue.Complete A L.identity
  initial : List.Forall₂ (fun a s => ∃ id item, L.catalogue.Stands A [a] s id item) Symbol.all
    L.initial
  finals : L.finals = L.registry.behaviours.map A.accepted

theorem compiled_of_compile [Memory] {A : Automaton} (hA : A.Closed) {growth : Growth} {L : Lexer}
    (h : compile A growth = .ok L) : L.Compiled A := by
  obtain ⟨⟨c, initial⟩, gathered, h⟩ := bind_eq_ok.mp h
  obtain ⟨gathering, -, stand⟩ := (Catalogue.gathering_empty A growth).enqueueAll hA gathered
  rcases named : c.enqueue (.identity A.size) (some identityTag) with ⟨ready, fault | e⟩
  · simp [named] at h
  · simp only [named, ok_bind] at h
    obtain ⟨last, closed, h⟩ := bind_eq_ok.mp h
    cases h
    obtain ⟨closing, knows⟩ := gathering.closing named
    obtain ⟨complete, knows'⟩ := Catalogue.complete_of_close closing closed
    refine ⟨hA, complete, stand.imp ?_, rfl⟩
    rintro a s ⟨id, item, stands⟩
    exact ⟨id, item, stands.of_extends (knows.trans knows')⟩

/-- What is built from an automaton that passes the checks is compiled from it. -/
theorem compiled_of_build [Memory] {C : Contract} {config : BuildConfig} {L : Lexer}
    (h : build C config = .ok L) :
    ∃ A, C.automaton = .ok A ∧ (A.size : Int) = C.states.value ∧ L.Compiled A := by
  obtain ⟨A, accepted, h⟩ := bind_eq_ok.mp h
  obtain ⟨made, compiled, h⟩ := bind_eq_ok.mp h
  cases h
  obtain ⟨closed, size⟩ := Contract.closed_of_automaton accepted
  obtain ⟨closed, complete, initial, finals⟩ := compiled_of_compile closed compiled
  exact ⟨A, accepted, size, closed, complete, initial, finals⟩

/-- The sample of one letter can be compiled. Its letter has an id, all other bytes share one, and
the identity has one. -/
theorem exists_lexer_singleA : ∃ L, build (Sample.singleA true).contract .usual = .ok L ∧
    L.registry.size = 3 ∧ L.identity = 2 := by
  have sizes : (build (Sample.singleA true).contract .usual).toOption.map
      (fun L => (L.registry.size, L.identity)) = some (3, 2) := by decide +kernel
  rcases built : build (Sample.singleA true).contract .usual with fault | L
  · rw [built] at sizes
    contradiction
  · simp only [built, Except.toOption, Option.map_some, Option.some.injEq, Prod.mk.injEq] at sizes
    exact ⟨L, rfl, sizes⟩

end Lexer

end ScanLexer
