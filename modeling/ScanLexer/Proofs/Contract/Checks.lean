import ScanLexer.Proofs.Contract.Acceptance

/-!
# What the checks ask for

An automaton told by arcs of three parts is accepted exactly if its arcs are sound: each of them
reads a byte and leads to a state by its number, and no state reads a byte twice. What comes out has
the arcs that were told, in their order (`automaton_ofArcs`). If there is room for the states,
whatever else is refused has failed a check, or a destination is no whole number
(`exists_failed_check`).
-/
namespace ScanLexer

/-- Room is refused for a number of entries that cannot be counted, or for want of memory. -/
theorem Memory.kind_of_ask [Memory] {n size : Int} {fault : Fault} (h : ask n size = .error fault) :
    fault.kind = .overflow ∨ fault.kind = .memory := by
  unfold ask at h
  split at h
  · cases h
    exact .inl rfl
  · split at h
    · cases h
      exact .inr rfl
    · contradiction

/-- A number is whole unless it is written as a decimal. -/
theorem Datum.isDecimal_style_iff {d : Datum} (number : d.isNumber = true) {value : Int} :
    Numeral.isDecimal ⟨value, d.style⟩ = false ↔ ∃ i, d.integer? = some i := by
  cases d with
  | bool _ | int _ | decimal _ => simp [Numeral.isDecimal, style, integer?]
  | _ => contradiction

namespace Contract

/-- An arc as its parts. -/
def Arc.parts (arc : Arc) : List Datum := [arc.symbol, arc.target, arc.emits]

/-- An automaton each of whose arcs is told by three parts. -/
def ofArcs (states : Numeral) (arcs : Nat → List Arc) (lexeme : Nat → Option Lexeme) : Contract :=
  ⟨states, fun i => (arcs i).map Arc.parts, lexeme⟩

/-- Whether each arc leads to a whole number. -/
def Whole (arcs : List Arc) : Prop := ∀ arc ∈ arcs, ∃ i, arc.target.integer? = some i

/-- What the checks ask of the arcs of a state among `n`. They let decimals pass. -/
structure Passing (n : Nat) (arcs : List Arc) : Prop where
  symbols : ∀ arc ∈ arcs, ∃ i, arc.symbol.integer? = some i ∧ 0 ≤ i ∧ i ≤ 255
  targets : ∀ arc ∈ arcs, arc.target.isNumber = true ∧ arc.target.within (.int n) = true
  distinct : arcs.Pairwise fun arc other => arc.symbol.integer? ≠ other.symbol.integer?

/-- What is asked of the arcs of a state among `n`. -/
structure Sound (n : Nat) (arcs : List Arc) : Prop where
  symbols : ∀ arc ∈ arcs, ∃ i, arc.symbol.integer? = some i ∧ 0 ≤ i ∧ i ≤ 255
  targets : ∀ arc ∈ arcs, ∃ i, arc.target.integer? = some i ∧ 0 ≤ i ∧ i < n
  distinct : arcs.Pairwise fun arc other => arc.symbol.integer? ≠ other.symbol.integer?

theorem sound_iff {n : Nat} {arcs : List Arc} : Sound n arcs ↔ Passing n arcs ∧ Whole arcs := by
  constructor
  · intro h
    refine ⟨⟨h.symbols, ?_, h.distinct⟩, ?_⟩
    · intro arc harc
      obtain ⟨i, state, lo, hi⟩ := h.targets arc harc
      refine ⟨Datum.isNumber_of_integer? state, Datum.within_int_iff.mpr ?_⟩
      rw [Datum.floor_of_integer? state]
      exact ⟨lo, hi⟩
    · intro arc harc
      obtain ⟨i, state, -⟩ := h.targets arc harc
      exact ⟨i, state⟩
  · rintro ⟨h, whole⟩
    refine ⟨h.symbols, ?_, h.distinct⟩
    intro arc harc
    obtain ⟨i, state⟩ := whole arc harc
    have within := Datum.within_int_iff.mp (h.targets arc harc).2
    rw [Datum.floor_of_integer? state] at within
    exact ⟨i, state, within⟩

/-- The arc that comes out of the checks, for one that reads a byte. -/
def Arc.checked? (arc : Arc) : Option ScanLexer.Arc :=
  (arc.symbol.integer?.bind Symbol.ofInt?).map fun a =>
    ⟨a, arc.target.floor.toNat, arc.emits.truth, arc.symbol.style, arc.target.style⟩

theorem Arc.checked?_eq_some_iff {arc : Arc} {made : ScanLexer.Arc} :
    arc.checked? = some made ↔ ∃ a : Symbol, arc.symbol.integer? = some (a.val : Int) ∧
      ⟨a, arc.target.floor.toNat, arc.emits.truth, arc.symbol.style, arc.target.style⟩ = made := by
  simp only [checked?, Option.map_eq_some_iff, Option.bind_eq_some_iff, Symbol.ofInt?_eq_some_iff,
    exists_eq_right]

theorem Arc.integer?_of_checked? {arc : Arc} {made : ScanLexer.Arc} (h : arc.checked? = some made) :
    arc.symbol.integer? = some (made.symbol.val : Int) := by
  obtain ⟨a, read, rfl⟩ := checked?_eq_some_iff.mp h
  exact read

theorem Arc.exists_checked?_iff {arc : Arc} :
    (∃ made, arc.checked? = some made) ↔ ∃ i, arc.symbol.integer? = some i ∧ 0 ≤ i ∧ i ≤ 255 := by
  constructor
  · rintro ⟨made, checked⟩
    exact ⟨_, integer?_of_checked? checked, by omega, by omega⟩
  · rintro ⟨i, read, positive, small⟩
    have byte : i.toNat < 256 := by omega
    have same : ((⟨i.toNat, byte⟩ : Symbol).val : Int) = i := Int.toNat_of_nonneg positive
    exact ⟨_, checked?_eq_some_iff.mpr ⟨⟨i.toNat, byte⟩, same.symm ▸ read, rfl⟩⟩

theorem passing_cons {n : Nat} {arc : Arc} {arcs : List Arc} :
    Passing n (arc :: arcs) ↔ (∃ made, arc.checked? = some made) ∧
      (arc.target.isNumber = true ∧ arc.target.within (.int n) = true) ∧
      (∀ other ∈ arcs, arc.symbol.integer? ≠ other.symbol.integer?) ∧ Passing n arcs := by
  rw [Arc.exists_checked?_iff]
  constructor
  · rintro ⟨symbols, targets, distinct⟩
    rw [List.forall_mem_cons] at symbols targets
    rw [List.pairwise_cons] at distinct
    exact ⟨symbols.1, targets.1, distinct.1, symbols.2, targets.2, distinct.2⟩
  · rintro ⟨symbol, target, apart, symbols, targets, distinct⟩
    exact ⟨List.forall_mem_cons.mpr ⟨symbol, symbols⟩, List.forall_mem_cons.mpr ⟨target, targets⟩,
      List.pairwise_cons.mpr ⟨apart, distinct⟩⟩

/-- What comes out of the checks leads to a decimal if what was told does. -/
theorem Arc.isDecimal_of_checked? {arc : Arc} {made : ScanLexer.Arc} (h : arc.checked? = some made)
    (number : arc.target.isNumber = true) :
    made.destination.isDecimal = false ↔ ∃ i, arc.target.integer? = some i := by
  obtain ⟨a, -, rfl⟩ := checked?_eq_some_iff.mp h
  exact Datum.isDecimal_style_iff number

theorem Passing.isDecimal_eq_false_iff {n : Nat} {arcs : List Arc} (h : Passing n arcs) :
    (∀ made ∈ arcs.filterMap Arc.checked?, made.destination.isDecimal = false) ↔ Whole arcs := by
  constructor
  · intro whole arc harc
    obtain ⟨made, checked⟩ := Arc.exists_checked?_iff.mpr (h.symbols arc harc)
    exact (Arc.isDecimal_of_checked? checked (h.targets arc harc).1).mp
      (whole made (List.mem_filterMap.mpr ⟨arc, harc, checked⟩))
  · intro whole made hmade
    obtain ⟨arc, harc, checked⟩ := List.mem_filterMap.mp hmade
    exact (Arc.isDecimal_of_checked? checked (h.targets arc harc).1).mpr (whole arc harc)

/-- The checks do not look at the order of arcs. -/
theorem Sound.perm {n : Nat} {arcs arcs' : List Arc} (h : Sound n arcs) (same : arcs.Perm arcs') :
    Sound n arcs' where
  symbols arc harc := h.symbols arc (same.mem_iff.mpr harc)
  targets arc harc := h.targets arc (same.mem_iff.mpr harc)
  distinct := h.distinct.perm same Ne.symm

/-- What comes out of the checks has one arc for each symbol. -/
theorem Sound.nodup {n : Nat} {arcs : List Arc} (h : Sound n arcs) :
    ((arcs.filterMap Arc.checked?).map ScanLexer.Arc.symbol).Nodup := by
  rw [List.Nodup, List.pairwise_map, List.pairwise_filterMap]
  apply h.distinct.imp
  intro arc other apart made checked made' checked' same
  apply apart
  rw [Arc.integer?_of_checked? checked, Arc.integer?_of_checked? checked', same]

theorem accept_parts {n source : Nat} {seen found : List ScanLexer.Arc} {arc : Arc} :
    accept n source seen arc.parts = .ok found ↔ ∃ made, arc.checked? = some made ∧
      (arc.target.isNumber = true ∧ arc.target.within (.int n) = true) ∧
        (∀ old ∈ seen, old.symbol ≠ made.symbol) ∧
      found = seen ++ [made] := by
  rw [accept_eq_ok]
  constructor
  · rintro ⟨told, a, parts, read, within, apart, rfl⟩
    cases parts
    exact ⟨_, Arc.checked?_eq_some_iff.mpr ⟨a, read, rfl⟩, within, apart, rfl⟩
  · rintro ⟨made, checked, within, apart, rfl⟩
    obtain ⟨a, read, rfl⟩ := Arc.checked?_eq_some_iff.mp checked
    exact ⟨arc, a, rfl, read, within, apart, rfl⟩

/-- A row of arcs passes the checks if it may and reads no byte that was read before. -/
theorem foldlM_accept_eq_ok {n source : Nat} {arcs : List Arc} {seen found : List ScanLexer.Arc} :
    (arcs.map Arc.parts).foldlM (accept n source) seen = .ok found ↔ Passing n arcs ∧
      (∀ arc ∈ arcs, ∀ old ∈ seen, arc.symbol.integer? ≠ some (old.symbol.val : Int)) ∧
      found = seen ++ arcs.filterMap Arc.checked? := by
  have apart {old made : ScanLexer.Arc} :
      some (made.symbol.val : Int) ≠ some (old.symbol.val : Int) ↔ old.symbol ≠ made.symbol := by
    simp only [ne_eq, Option.some.injEq, Int.natCast_inj, Fin.val_inj, eq_comm]
  induction arcs generalizing seen with
  | nil =>
    have none : Passing n [] := ⟨nofun, nofun, .nil⟩
    simp [none, eq_comm]
  | cons arc arcs ih =>
    simp only [List.map_cons, List.foldlM_cons, bind_eq_ok, accept_parts, ih, passing_cons,
      List.forall_mem_cons]
    constructor
    · rintro ⟨_, ⟨made, checked, within, fresh, rfl⟩, passing, others, rfl⟩
      have read := Arc.integer?_of_checked? checked
      refine ⟨⟨⟨made, checked⟩, within, ?_, passing⟩, ⟨?_, ?_⟩, ?_⟩
      · intro other hother
        rw [read]
        exact (others other hother made (by simp)).symm
      · intro old hold
        rw [read, apart]
        exact fresh old hold
      · intro other hother old hold
        exact others other hother old (List.mem_append_left _ hold)
      · simp [checked]
    · rintro ⟨⟨⟨made, checked⟩, within, clash, passing⟩, ⟨fresh, others⟩, rfl⟩
      have read := Arc.integer?_of_checked? checked
      refine ⟨seen ++ [made], ⟨made, checked, within, ?_, rfl⟩, passing, ?_, ?_⟩
      · intro old hold
        rw [← apart, ← read]
        exact fresh old hold
      · intro other hother old hold
        obtain before | last := List.mem_append.mp hold
        · exact others other hother old before
        · rw [List.mem_singleton.mp last, ← read]
          exact (clash other hother).symm
      · simp [checked]

/-- An arc that is refused has failed a check, or leads to no number. -/
theorem kind_of_accept {n source : Nat} {seen : List ScanLexer.Arc} {arc : Arc} {fault : Fault}
    (h : accept n source seen arc.parts = .error fault) :
    fault.kind = .assertion ∨ fault.kind = .type ∧ arc.target.integer? = none := by
  have parts : Arc.ofParts arc.parts = .ok arc := rfl
  simp only [accept, parts, ok_bind] at h
  obtain symbol | ⟨a, -, h⟩ := bind_eq_error.mp h
  · obtain ⟨-, rfl⟩ := orFault_eq_error.mp symbol
    exact .inl rfl
  obtain target | ⟨_, -, h⟩ := bind_eq_error.mp h
  · unfold checkTarget at target
    split at target
    next none =>
      cases target
      refine .inr ⟨rfl, Option.eq_none_iff_forall_ne_some.mpr fun i state => ?_⟩
      simp [Datum.isNumber_of_integer? state] at none
    next =>
      split at target
      · contradiction
      · cases target
        exact .inl rfl
  · split at h
    · cases h
      exact .inl rfl
    · contradiction

/-- A row of arcs that does not pass has failed a check, or leads to no number. -/
theorem kind_of_foldlM_accept {n source : Nat} {arcs : List Arc} {seen : List ScanLexer.Arc}
    {fault : Fault} (h : (arcs.map Arc.parts).foldlM (accept n source) seen = .error fault) :
    fault.kind = .assertion ∨ fault.kind = .type ∧ ¬ Whole arcs := by
  induction arcs generalizing seen with
  | nil => contradiction
  | cons arc arcs ih =>
    rw [List.map_cons, List.foldlM_cons] at h
    obtain failed | ⟨more, -, rest⟩ := bind_eq_error.mp h
    · refine (kind_of_accept failed).imp_right fun refused => ⟨refused.1, fun whole => ?_⟩
      obtain ⟨i, state⟩ := whole arc List.mem_cons_self
      cases refused.2.symm.trans state
    · exact (ih rest).imp_right fun ⟨kind, not_whole⟩ =>
        ⟨kind, fun whole => not_whole fun arc harc => whole arc (List.mem_cons_of_mem _ harc)⟩

/-- The automaton that was told, without any check. -/
def described (n : Nat) (arcs : Nat → List Arc) (lexeme : Nat → Option Lexeme) : Automaton :=
  ⟨(List.range n).map fun i => ⟨(arcs i).filterMap Arc.checked?, lexeme i⟩⟩

theorem size_described (n : Nat) (arcs : Nat → List Arc) (lexeme : Nat → Option Lexeme) :
    (described n arcs lexeme).size = n := by
  simp [described, Automaton.size]

theorem node_described {n i : Nat} (hi : i < n) (arcs : Nat → List Arc)
    (lexeme : Nat → Option Lexeme) :
    (described n arcs lexeme).node i = ⟨(arcs i).filterMap Arc.checked?, lexeme i⟩ := by
  apply Automaton.node_of_getElem?
  simp [described, hi]

section
variable {states : Numeral} {arcs : Nat → List Arc} {lexeme : Nat → Option Lexeme}

theorem node_ofArcs {i : Nat} {state : Node} : (ofArcs states arcs lexeme).node i = .ok state ↔
    Passing states.value.toNat (arcs i) ∧ ⟨(arcs i).filterMap Arc.checked?, lexeme i⟩ = state := by
  unfold node
  rw [bind_eq_ok]
  constructor
  · rintro ⟨found, passed, made⟩
    obtain ⟨passing, -, rfl⟩ := foldlM_accept_eq_ok.mp passed
    exact ⟨passing, Except.ok.inj made⟩
  · rintro ⟨passing, rfl⟩
    exact ⟨_, foldlM_accept_eq_ok.mpr ⟨passing, nofun, rfl⟩, rfl⟩

theorem mapM_node_ofArcs {nodes : List Node} :
    (List.range states.value.toNat).mapM (ofArcs states arcs lexeme).node = .ok nodes ↔
      (∀ i < states.value.toNat, Passing states.value.toNat (arcs i)) ∧
        (described states.value.toNat arcs lexeme).nodes = nodes := by
  simp only [mapM_eq_ok, node_ofArcs, List.forall₂_and_left, List.mem_range]
  rw [← List.forall₂_map_left_iff (R := Eq), List.forall₂_eq_eq_eq]
  rfl

/-- **Sound arcs are accepted,** no others are, and what comes out is what was told. -/
theorem automaton_ofArcs [Memory] {A : Automaton} : (ofArcs states arcs lexeme).automaton = .ok A ↔
    1 ≤ states.value ∧ states.isDecimal = false ∧
      Memory.ask states.value (8 * 256 * states.value) = .ok () ∧
      (∀ i < states.value.toNat, Sound states.value.toNat (arcs i)) ∧
      A = described states.value.toNat arcs lexeme := by
  have told : (ofArcs states arcs lexeme).states = states := rfl
  have nodes {P : Node → Prop} :
      (∀ node ∈ (described states.value.toNat arcs lexeme).nodes, P node) ↔
        ∀ i < states.value.toNat, P ⟨(arcs i).filterMap Arc.checked?, lexeme i⟩ := by
    simp [described]
  rw [automaton_eq_ok, told, mapM_node_ofArcs]
  refine and_congr_right fun _ => and_congr_right fun _ => and_congr_right fun _ => ?_
  constructor
  · rintro ⟨whole, passing, made⟩
    rw [← made, nodes] at whole
    refine ⟨fun i hi => sound_iff.mpr ⟨passing i hi, ?_⟩, ?_⟩
    · exact (passing i hi).isDecimal_eq_false_iff.mp (whole i hi)
    · cases A
      cases made
      rfl
  · rintro ⟨sound, rfl⟩
    refine ⟨nodes.mpr fun i hi => ?_, fun i hi => (sound_iff.mp (sound i hi)).1, rfl⟩
    obtain ⟨passing, whole⟩ := sound_iff.mp (sound i hi)
    exact passing.isDecimal_eq_false_iff.mpr whole

theorem automaton_of_empty [Memory] (arcs : Nat → List Arc) (lexeme : Nat → Option Lexeme)
    (empty : states.value < 1) :
    (ofArcs states arcs lexeme).automaton = .error .emptyAutomaton :=
  if_pos empty

/-- A number of states that is told as a decimal is no length of a row. -/
theorem automaton_of_decimal [Memory] (arcs : Nat → List Arc) (lexeme : Nat → Option Lexeme)
    (positive : 1 ≤ states.value) (decimal : states.isDecimal = true) :
    (ofArcs states arcs lexeme).automaton = .error (.notALength "float") := by
  have told : (ofArcs states arcs lexeme).states = states := rfl
  rw [automaton, told, if_neg (by omega), if_pos decimal]

theorem automaton_of_no_room [Memory] (arcs : Nat → List Arc) (lexeme : Nat → Option Lexeme)
    (positive : 1 ≤ states.value) (whole : states.isDecimal = false) {fault : Fault}
    (full : Memory.ask states.value (8 * 256 * states.value) = .error fault) :
    (ofArcs states arcs lexeme).automaton = .error fault := by
  have told : (ofArcs states arcs lexeme).states = states := rfl
  rw [automaton, told, if_neg (by omega), if_neg (by rw [whole]; decide), full]
  rfl

/-- An automaton that there is room for, but whose arcs are not sound, has failed a check, or some
arc leads to no whole number. -/
theorem exists_failed_check [Memory] (lexeme : Nat → Option Lexeme)
    (whole : states.isDecimal = false)
    (room : Memory.ask states.value (8 * 256 * states.value) = .ok ())
    (unsound : ¬ ∀ i < states.value.toNat, Sound states.value.toNat (arcs i)) :
    ∃ fault, (ofArcs states arcs lexeme).automaton = .error fault ∧
      ((∀ i < states.value.toNat, Whole (arcs i)) → fault.kind = .assertion) := by
  cases checked : (ofArcs states arcs lexeme).automaton with
  | ok A => exact absurd (automaton_ofArcs.mp checked).2.2.2.1 unsound
  | error fault =>
    refine ⟨fault, rfl, fun integers => ?_⟩
    have told : (ofArcs states arcs lexeme).states = states := rfl
    rw [automaton, told] at checked
    split at checked
    · cases checked
      rfl
    rw [if_neg (by rw [whole]; decide), room, ok_bind] at checked
    obtain failed | ⟨nodes, mapped, -⟩ := bind_eq_error.mp checked
    · obtain ⟨i, hi, failed⟩ := exists_of_mapM_eq_error failed
      obtain failed | ⟨found, -, made⟩ := bind_eq_error.mp failed
      · obtain kind | ⟨-, not_whole⟩ := kind_of_foldlM_accept failed
        · exact kind
        · exact absurd (integers i (List.mem_range.mp hi)) not_whole
      · contradiction
    · -- Arcs that pass and lead to whole numbers are sound.
      have passing := (mapM_node_ofArcs.mp mapped).1
      exact absurd (fun i hi => sound_iff.mpr ⟨passing i hi, integers i hi⟩) unsound

end

end Contract

end ScanLexer
