import ScanLexer.Memory.Ordinary
import ScanLexer.Proofs.Lexer.Twins

/-!
# The configuration changes no table

How a table grows is chosen when a lexer is built. Two choices lead to lexers that differ in nothing
but the capacity of the table, or to the same fault (`configurations_agree`), unless one of them
asks for room that cannot be had. It may (`large_factor_refused`).
-/
namespace ScanLexer.Lexer

open Catalogue

/-- An automaton corresponds to itself. -/
theorem corresponds_self {A : Automaton} (hA : A.Closed) :
    Corresponds (fun f f' => f = f' ∧ f.Over A.size) A A where
  size := rfl
  byte a := ⟨rfl, hA.over_behaviour a⟩
  identity := ⟨rfl, Behaviour.over_identity A.size⟩
  key_iff := by
    rintro f g _ _ ⟨rfl, -⟩ ⟨rfl, -⟩
    exact Iff.rfl
  compose := by
    rintro f g _ _ ⟨rfl, hf⟩ ⟨rfl, hg⟩
    obtain ⟨k, made⟩ := hf.exists_compose hg
    exact ⟨k, k, made, made, rfl, (Behaviour.compose_over hf hg made).1⟩
  start := by
    rintro f _ ⟨rfl, hf⟩
    obtain ⟨e, -, first⟩ := hf.entry_of_lt hA.start
    have entry : f.entry 0 = .ok e := Behaviour.entry_natCast.mpr first
    exact ⟨e, e, entry, entry, rfl⟩
  accepted := by
    rintro f _ ⟨rfl, -⟩
    rfl

/-- With the first configuration, but not in the same way with the second one, room for the table is
refused at some point of building, and this is how building fails. -/
def RefusedTo [Memory] (C : Contract) (config config' : BuildConfig) : Prop :=
  ∃ A c fault, C.automaton = .ok A ∧ Underway A config.growth c ∧
    config.growth.room c.registry.size = .error fault ∧
    config'.growth.room c.registry.size ≠ .error fault ∧
    (fault.kind = .value ∨ fault.kind = .memory) ∧ build C config = .error fault

theorem refusedTo_of_diverges [Memory] {C : Contract} {config config' : BuildConfig} {A : Automaton}
    (accepted : C.automaton = .ok A) {fault : Fault}
    (diverges : Diverges A config.growth config'.growth fault)
    (failed : compile A config.growth = .error fault) : RefusedTo C config config' := by
  obtain ⟨c, hu, refused, other⟩ := diverges
  refine ⟨A, c, fault, accepted, hu, refused, other, Memory.kind_of_row refused, ?_⟩
  rw [build, accepted, ok_bind, failed, error_bind]

/-- **The configuration changes no table.** With any two configurations an automaton is built into
lexers with the same bytes, behaviours, identity, lexemes and cells, or cannot be built for the same
reason, unless room is refused to one of them alone. -/
theorem configurations_agree [Memory] (C : Contract) (config config' : BuildConfig) :
    (∃ L L', build C config = .ok L ∧ build C config' = .ok L' ∧ L.states = L'.states ∧
      L.initial = L'.initial ∧ L.registry.behaviours = L'.registry.behaviours ∧
      L.identity = L'.identity ∧ L.finals = L'.finals ∧
      ∀ i j : Int, L.table.get (.int i) (.int j) = L'.table.get (.int i) (.int j)) ∨
    (∃ fault, build C config = .error fault ∧ build C config' = .error fault) ∨
    RefusedTo C config config' ∨ RefusedTo C config' config := by
  cases accepted : C.automaton with
  | error fault =>
    right
    left
    exact ⟨fault, build_of_automaton_eq_error accepted, build_of_automaton_eq_error accepted⟩
  | ok A =>
    have hA := (Contract.closed_of_automaton accepted).1
    have twins : Matched (Diverges A config.growth config'.growth)
        (Diverges A config'.growth config.growth) (Twins fun f f' => f = f' ∧ f.Over A.size)
        (compile A config.growth) (compile A config'.growth) := twins_compile (corresponds_self hA)
    have made {config : BuildConfig} {L : Lexer} (h : compile A config.growth = .ok L) :
        build C config = .ok { L with states := C.states } :=
      bind_eq_ok.mpr ⟨A, accepted, bind_eq_ok.mpr ⟨L, h, rfl⟩⟩
    generalize first : compile A config.growth = x at twins
    generalize second : compile A config'.growth = y at twins
    cases twins with
    | ok h =>
      left
      have same : List.Forall₂ (· = ·) _ _ := h.behaviours.imp fun f f' related => related.1
      rw [List.forall₂_eq_eq_eq] at same
      exact ⟨_, _, made first, made second, rfl, h.initial, same, h.identity, h.finals, h.table.get⟩
    | fault fault =>
      right
      left
      refine ⟨fault, ?_, ?_⟩
      · rw [build, accepted, ok_bind, first, error_bind]
      · rw [build, accepted, ok_bind, second, error_bind]
    | first _ diverges =>
      exact .inr (.inr (.inl (refusedTo_of_diverges accepted diverges first)))
    | second _ diverges =>
      exact .inr (.inr (.inr (refusedTo_of_diverges accepted diverges second)))

/-- One state has two behaviours to number. The usual configuration has room for them; a factor of
2 ^ 32 asks for 2 ^ 64 cells. -/
theorem large_factor_refused :
    ∃ config, BuildConfig.ofChoices (.int 1) (.int 4294967296) (.bool false) = .ok config ∧
      (∃ L, build (Automaton.mk [.bare none]).contract .usual = .ok L) ∧
      build (Automaton.mk [.bare none]).contract config = .error .tooManyCells := by
  have failed : (build (Automaton.mk [.bare none]).contract
      ⟨.int 1, .int 4294967296, .bool false, ⟨1, 4294967296, .digits, by decide, by decide⟩⟩).map
        (fun _ => ()) = .error .tooManyCells := by decide +kernel
  have built : (build (Automaton.mk [.bare none]).contract .usual).map (fun _ => ()) = .ok () := by
    decide +kernel
  obtain ⟨L, usual, -⟩ := map_eq_ok.mp built
  exact ⟨_, rfl, ⟨L, usual⟩, map_eq_error.mp failed⟩

end ScanLexer.Lexer
