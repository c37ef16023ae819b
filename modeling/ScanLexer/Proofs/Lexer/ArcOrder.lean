import ScanLexer.Lexer.Basic
import ScanLexer.Memory.Ordinary
import ScanLexer.Proofs.Automaton.Shuffling
import ScanLexer.Proofs.Contract.Checks

/-!
# The order of arcs does not matter

Shuffled automata have the same behaviours and accept the same (`behaviour_of_shuffled`), so they
are compiled alike. An automaton told with its arcs in another order passes the checks if it did
before. So the order in which arcs are listed, or added, changes no table (`order_of_arcs_is_lost`).
-/
namespace ScanLexer

namespace Automaton

variable {A B : Automaton}

theorem behaviour_of_shuffled (h : A.Shuffled B)
    (distinct : ∀ k, ((A.node k).arcs.map Arc.symbol).Nodup) (a : Symbol) :
    A.behaviour a = B.behaviour a := by
  apply congrArg Behaviour.mk
  apply List.ext_getElem
  · simpa [size] using h.size
  · intro k hk hk'
    rw [List.length_map] at hk hk'
    have node : A.nodes[k] = A.node k := (node_of_getElem? (List.getElem?_eq_getElem hk)).symm
    have node' : B.nodes[k] = B.node k := (node_of_getElem? (List.getElem?_eq_getElem hk')).symm
    rw [List.getElem_map, List.getElem_map, node, node', Node.entry, Node.entry,
      Node.arc?_of_perm (distinct k) (h.arcs k)]

theorem accepted_of_shuffled (h : A.Shuffled B) : A.accepted = B.accepted := by
  funext f
  unfold accepted
  split
  · exact h.lexeme _
  · rfl

end Automaton

namespace Lexer

open Automaton Contract

theorem compile_of_shuffled [Memory] {A B : Automaton} (h : A.Shuffled B)
    (distinct : ∀ k, ((A.node k).arcs.map Arc.symbol).Nodup) (growth : Growth) :
    compile A growth = compile B growth := by
  have bytes : A.behaviour = B.behaviour := funext (behaviour_of_shuffled h distinct)
  simp only [compile, bytes, accepted_of_shuffled h, h.size]

section
variable {n : Nat} {arcs arcs' : Nat → List Contract.Arc} {lexeme lexeme' : Nat → Option Lexeme}

theorem shuffled_described (order : ∀ i < n, (arcs i).Perm (arcs' i))
    (labels : ∀ i < n, lexeme i = lexeme' i) :
    (described n arcs lexeme).Shuffled (described n arcs' lexeme') := by
  refine ⟨by rw [size_described, size_described], ?_, ?_⟩
  · intro i
    by_cases hi : i < n
    · rw [node_described hi, node_described hi]
      exact (order i hi).filterMap _
    · rw [node_of_size_le (by rw [size_described]; omega),
        node_of_size_le (by rw [size_described]; omega)]
  · intro i
    by_cases hi : i < n
    · rw [node_described hi, node_described hi]
      exact labels i hi
    · rw [node_of_size_le (by rw [size_described]; omega),
        node_of_size_le (by rw [size_described]; omega)]

theorem nodup_described (sound : ∀ i < n, Sound n (arcs i)) (k : Nat) :
    (((described n arcs lexeme).node k).arcs.map ScanLexer.Arc.symbol).Nodup := by
  by_cases hk : k < n
  · rw [node_described hk]
    exact (sound k hk).nodup
  · rw [node_of_size_le (by rw [size_described]; omega)]
    exact .nil

end

/-- Automata that are compiled alike are built alike, but for the way their states are counted. -/
theorem build_of_compile [Memory] {C C' : Contract} {A A' : Automaton}
    (accepted : C.automaton = .ok A) (accepted' : C'.automaton = .ok A') {config : BuildConfig}
    (alike : compile A config.growth = compile A' config.growth) :
    (∃ L, build C config = .ok L ∧ build C' config = .ok { L with states := C'.states }) ∨
    ∃ fault, build C config = .error fault ∧ build C' config = .error fault := by
  cases compiled : compile A config.growth with
  | ok L =>
    left
    exact ⟨{ L with states := C.states },
      bind_eq_ok.mpr ⟨A, accepted, bind_eq_ok.mpr ⟨L, compiled, rfl⟩⟩,
      bind_eq_ok.mpr ⟨A', accepted', bind_eq_ok.mpr ⟨L, alike ▸ compiled, rfl⟩⟩⟩
  | error fault =>
    right
    refine ⟨fault, ?_, ?_⟩
    · rw [build, accepted, ok_bind, compiled, error_bind]
    · rw [build, accepted', ok_bind, ← alike, compiled, error_bind]

section
variable [Memory] {states states' : Numeral} {arcs arcs' : Nat → List Contract.Arc}
variable {lexeme lexeme' : Nat → Option Lexeme} (config : BuildConfig)

/-- Sound arcs describe automata that differ in the order of their arcs alone. -/
theorem build_ofArcs_perm_of_sound (same : states.value = states'.value)
    (positive : 1 ≤ states.value) (digits : states.isDecimal = false)
    (digits' : states'.isDecimal = false)
    (room : Memory.ask states.value (8 * 256 * states.value) = .ok ())
    (order : ∀ i < states.value.toNat, (arcs i).Perm (arcs' i))
    (labels : ∀ i < states.value.toNat, lexeme i = lexeme' i)
    (sound : ∀ i < states.value.toNat, Sound states.value.toNat (arcs i)) :
    (∃ L, build (ofArcs states arcs lexeme) config = .ok L ∧
      build (ofArcs states' arcs' lexeme') config = .ok { L with states := states' }) ∨
    ∃ fault, build (ofArcs states arcs lexeme) config = .error fault ∧
      build (ofArcs states' arcs' lexeme') config = .error fault := by
  have sound' : ∀ i < states.value.toNat, Sound states.value.toNat (arcs' i) :=
    fun i hi => (sound i hi).perm (order i hi)
  have alike := compile_of_shuffled (shuffled_described order labels) (nodup_described sound)
    config.growth
  have accepted : (ofArcs states arcs lexeme).automaton =
      .ok (described states.value.toNat arcs lexeme) :=
    automaton_ofArcs.mpr ⟨positive, digits, room, sound, rfl⟩
  rw [same] at positive room sound'
  have accepted' : (ofArcs states' arcs' lexeme').automaton =
      .ok (described states.value.toNat arcs' lexeme') :=
    automaton_ofArcs.mpr ⟨positive, digits', room, sound', by rw [same]⟩
  exact build_of_compile accepted accepted' alike

/-- Arcs that are not sound are not so in any order, but the order decides which of them is found
out first. -/
theorem build_ofArcs_perm_of_unsound (same : states.value = states'.value)
    (digits : states.isDecimal = false) (digits' : states'.isDecimal = false)
    (room : Memory.ask states.value (8 * 256 * states.value) = .ok ())
    (order : ∀ i < states.value.toNat, (arcs i).Perm (arcs' i))
    (unsound : ¬ ∀ i < states.value.toNat, Sound states.value.toNat (arcs i)) :
    ∃ fault fault', build (ofArcs states arcs lexeme) config = .error fault ∧
      build (ofArcs states' arcs' lexeme') config = .error fault' ∧
      ((∀ i < states.value.toNat, Whole (arcs i)) → fault.kind = fault'.kind) := by
  have unsound' : ¬ ∀ i < states.value.toNat, Sound states.value.toNat (arcs' i) :=
    fun sound' => unsound fun i hi => (sound' i hi).perm (order i hi).symm
  have whole' (whole : ∀ i < states.value.toNat, Whole (arcs i)) :
      ∀ i < states.value.toNat, Whole (arcs' i) :=
    fun i hi arc harc => whole i hi arc ((order i hi).mem_iff.mpr harc)
  obtain ⟨fault, refused, kind⟩ := exists_failed_check lexeme digits room unsound
  rw [same] at room unsound' whole'
  obtain ⟨fault', refused', kind'⟩ := exists_failed_check lexeme' digits' room unsound'
  refine ⟨fault, fault', build_of_automaton_eq_error refused, build_of_automaton_eq_error refused',
    fun whole => ?_⟩
  exact (kind whole).trans (kind' (whole' (same ▸ whole))).symm

/-- Two automata told with their arcs in different orders are built alike, or both fail: in the same
way if all arcs lead to whole numbers. -/
theorem build_ofArcs_perm (same : states.value = states'.value)
    (written : states.isDecimal = states'.isDecimal)
    (order : ∀ i < states.value.toNat, (arcs i).Perm (arcs' i))
    (labels : ∀ i < states.value.toNat, lexeme i = lexeme' i) :
    (∃ L, build (ofArcs states arcs lexeme) config = .ok L ∧
      build (ofArcs states' arcs' lexeme') config = .ok { L with states := states' }) ∨
    ∃ fault fault', build (ofArcs states arcs lexeme) config = .error fault ∧
      build (ofArcs states' arcs' lexeme') config = .error fault' ∧
      ((∀ i < states.value.toNat, Whole (arcs i)) → fault.kind = fault'.kind) := by
  -- where both are refused before an arc is looked at, it is in one way
  have both {fault : Fault} (refused : (ofArcs states arcs lexeme).automaton = .error fault)
      (refused' : (ofArcs states' arcs' lexeme').automaton = .error fault) :
      ∃ fault fault', build (ofArcs states arcs lexeme) config = .error fault ∧
        build (ofArcs states' arcs' lexeme') config = .error fault' ∧
        ((∀ i < states.value.toNat, Whole (arcs i)) → fault.kind = fault'.kind) :=
    ⟨fault, fault, build_of_automaton_eq_error refused, build_of_automaton_eq_error refused',
      fun _ => rfl⟩
  by_cases positive : 1 ≤ states.value
  case neg =>
    have empty : states.value < 1 := by omega
    exact .inr (both (automaton_of_empty arcs lexeme empty)
      (automaton_of_empty arcs' lexeme' (same ▸ empty)))
  have positive' := same ▸ positive
  cases digits : states.isDecimal with
  | true =>
    exact .inr (both (automaton_of_decimal arcs lexeme positive digits)
      (automaton_of_decimal arcs' lexeme' positive' (written ▸ digits)))
  | false =>
    have digits' : states'.isDecimal = false := written ▸ digits
    cases room : Memory.ask states.value (8 * 256 * states.value) with
    | error fault =>
      exact .inr (both (automaton_of_no_room arcs lexeme positive digits room)
        (automaton_of_no_room arcs' lexeme' positive' digits' (same ▸ room)))
    | ok _ =>
      by_cases sound : ∀ i < states.value.toNat, Sound states.value.toNat (arcs i)
      · obtain built | ⟨fault, refused, refused'⟩ :=
          build_ofArcs_perm_of_sound config same positive digits digits' room order labels sound
        · exact .inl built
        · exact .inr ⟨fault, fault, refused, refused', fun _ => rfl⟩
      · exact .inr (build_ofArcs_perm_of_unsound config same digits digits' room order sound)

end

/-- Shuffled automata that came about by calls are built alike. -/
theorem build_contract_of_shuffled [Memory] {A B : Automaton} (h : A.Shuffled B) (hA : A.Valid)
    (hB : B.Valid) (config : BuildConfig) : build A.contract config = build B.contract config := by
  have alike := compile_of_shuffled h (fun k => (hA.node k).distinct) config.growth
  have states : A.contract.states = B.contract.states := congrArg Numeral.ofNat h.size
  have asked : A.contract.automaton = (Memory.ask B.size (8 * 256 * B.size)).map fun _ => A := by
    rw [automaton_contract hA, h.size]
  rw [build, build, asked, automaton_contract hB, states]
  generalize Memory.ask B.size (8 * 256 * B.size) = room
  cases room with
  | error fault => rfl
  | ok room =>
    have passed (A : Automaton) : (Except.ok room : Except Fault Unit).map (fun _ => A) = .ok A :=
      rfl
    rw [passed, passed, ok_bind, ok_bind, alike]

/-- **The order of arcs is lost.** Automata whose arcs are listed in different orders are built into
lexers with the same tables, or both fail: in the same way, unless some arc leads to what is no
whole number, which may be found before or after a failed check. The same additions lead to automata
that are built alike, in any order of those that are all granted in one. -/
theorem order_of_arcs_is_lost [Memory] (config : BuildConfig) :
    (∀ (states states' : Numeral) (arcs arcs' : Nat → List Contract.Arc)
      (lexeme lexeme' : Nat → Option Lexeme),
      states.value = states'.value → states.isDecimal = states'.isDecimal →
      (∀ i < states.value.toNat, (arcs i).Perm (arcs' i)) →
      (∀ i < states.value.toNat, lexeme i = lexeme' i) →
        (∃ L, build (ofArcs states arcs lexeme) config = .ok L ∧
          build (ofArcs states' arcs' lexeme') config = .ok { L with states := states' }) ∨
        ∃ fault fault', build (ofArcs states arcs lexeme) config = .error fault ∧
          build (ofArcs states' arcs' lexeme') config = .error fault' ∧
          ((∀ i < states.value.toNat, ∀ arc ∈ arcs i, ∃ j, arc.target.integer? = some j) →
            fault.kind = fault'.kind)) ∧
    ∀ A, Built A → ∀ adds adds' : List Addition, adds.Perm adds' →
      ∀ B, adds.foldlM Addition.addTo A = .ok B →
        ∃ B', adds'.foldlM Addition.addTo A = .ok B' ∧
          build B.contract config = build B'.contract config := by
  refine ⟨?_, ?_⟩
  · intro states states' arcs arcs' lexeme lexeme' same written order labels
    exact build_ofArcs_perm config same written order labels
  · intro A hA adds adds' order B granted
    obtain ⟨B', granted', shuffled⟩ := foldlM_addTo_perm order granted
    exact ⟨B', granted', build_contract_of_shuffled shuffled (hA.valid.foldlM_addTo granted)
      (hA.valid.foldlM_addTo granted') config⟩

/-- The start state reads two letters. Either of them may be listed, or added, first. -/
theorem order_of_arcs_is_lost_letters :
    (∃ L, build (ofArcs (.ofNat 2) (fun i =>
          if i = 0 then [⟨.int 97, .int 1, .bool true⟩, ⟨.int 98, .int 0, .null⟩] else [])
          fun _ => none) .usual = .ok L ∧
      build (ofArcs (.ofNat 2) (fun i =>
          if i = 0 then [⟨.int 98, .int 0, .null⟩, ⟨.int 97, .int 1, .bool true⟩] else [])
          fun _ => none) .usual = .ok { L with states := .ofNat 2 }) ∧
    ∃ A B B', ofSize 2 = .ok A ∧
      [⟨.int 0, .int 97, .int 1, .bool true⟩, ⟨.int 0, .int 98, .int 0, .null⟩].foldlM
        Addition.addTo A = .ok B ∧
      [⟨.int 0, .int 98, .int 0, .null⟩, ⟨.int 0, .int 97, .int 1, .bool true⟩].foldlM
        Addition.addTo A = .ok B' ∧
      B ≠ B' ∧ build B.contract .usual = build B'.contract .usual := by
  obtain ⟨listed, added⟩ := order_of_arcs_is_lost .usual
  constructor
  · have built : (build (ofArcs (.ofNat 2) (fun i =>
          if i = 0 then [⟨.int 97, .int 1, .bool true⟩, ⟨.int 98, .int 0, .null⟩] else [])
          fun _ => none) .usual).map (fun _ => ()) = .ok () := by decide +kernel
    obtain ⟨L, first, -⟩ := map_eq_ok.mp built
    have order (i : Nat) : (if i = 0 then
        [(⟨.int 97, .int 1, .bool true⟩ : Contract.Arc), ⟨.int 98, .int 0, .null⟩] else []).Perm
        (if i = 0 then [⟨.int 98, .int 0, .null⟩, ⟨.int 97, .int 1, .bool true⟩] else []) := by
      split
      · exact .swap _ _ _
      · exact .nil
    obtain alike | ⟨fault, -, failed, -⟩ :=
      listed (.ofNat 2) (.ofNat 2) _ _ (fun _ => none) _ rfl rfl (fun i _ => order i) fun _ _ => rfl
    · exact alike
    · cases first.symm.trans failed
  · have made : ofSize 2 = .ok ⟨[.bare none, .bare none]⟩ := rfl
    obtain ⟨B', granted, alike⟩ := added _ (.new made)
      [⟨.int 0, .int 97, .int 1, .bool true⟩, ⟨.int 0, .int 98, .int 0, .null⟩] _
        (.swap _ _ _) _ rfl
    refine ⟨_, _, B', made, rfl, granted, ?_, alike⟩
    cases granted
    decide +kernel

end Lexer

end ScanLexer
