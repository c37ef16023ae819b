import ScanLexer.Contract
import ScanLexer.Proofs.Automaton.Built

/-!
# Accepting an unchecked automaton

An automaton that passes the checks is closed: it has a start state, and its arcs lead to its own
states. A valid automaton passes all checks as it describes itself, and comes out as it went in
(`automaton_contract`), provided there is room for it.
-/
namespace ScanLexer

/-- An automaton with a start state whose arcs lead to its own states, none of them by a decimal. -/
structure Automaton.Closed (A : Automaton) : Prop where
  start : 0 < A.size
  targets : ∀ node ∈ A.nodes, ∀ arc ∈ node.arcs, arc.target < A.size
  whole : ∀ node ∈ A.nodes, ∀ arc ∈ node.arcs, arc.destination.isDecimal = false

theorem Numeral.Usual.isDecimal {n : Numeral} (h : n.Usual) : n.isDecimal = false := by
  obtain digits | ⟨truth, -⟩ := h
  · rw [Numeral.isDecimal, digits]
  · rw [Numeral.isDecimal, truth]

theorem Automaton.Valid.closed {A : Automaton} (hA : A.Valid) : A.Closed :=
  ⟨hA.start, fun node hnode => (hA.nodes node hnode).targets, fun node hnode arc harc =>
    ((hA.nodes node hnode).usual arc harc).2.isDecimal⟩

theorem Numeral.Usual.read_back {n : Numeral} (h : n.Usual) :
    (Datum.ofNumeral n).integer? = some n.value ∧ (Datum.ofNumeral n).style = n.style := by
  rcases n with ⟨value, style⟩
  obtain digits | ⟨truth, zero | one⟩ := h
  · simp only at digits
    subst digits
    exact ⟨rfl, rfl⟩
  · simp only at truth zero
    subst truth zero
    exact ⟨rfl, rfl⟩
  · simp only at truth one
    subst truth one
    exact ⟨rfl, rfl⟩

theorem Datum.floor_of_integer? {d : Datum} {i : Int} (h : d.integer? = some i) : d.floor = i := by
  cases d <;> simp_all [integer?, floor]

theorem Datum.within_int_iff {d : Datum} {n : Int} :
    d.within (.int n) = true ↔ 0 ≤ d.floor ∧ d.floor < n := by
  simp only [within, int_atMost, Bool.and_eq_true, decide_eq_true_eq, Bool.not_eq_true',
    decide_eq_false_iff_not, Int.not_le]

namespace Contract

theorem checkTarget_eq_ok {states source : Nat} {target : Datum} :
    checkTarget states source target = .ok () ↔
      target.isNumber = true ∧ target.within (.int states) = true := by
  unfold checkTarget
  cases target.isNumber <;> cases target.within (.int states) <;> simp

/-- One more arc is accepted if it has three parts, reads a byte that no arc so far reads, and stays
within the automaton. -/
theorem accept_eq_ok {states source : Nat} {seen found : List ScanLexer.Arc} {parts : List Datum} :
    accept states source seen parts = .ok found ↔ ∃ told a, Arc.ofParts parts = .ok told ∧
      told.symbol.integer? = some (a.val : Int) ∧
      (told.target.isNumber = true ∧ told.target.within (.int states) = true) ∧
      (∀ arc ∈ seen, arc.symbol ≠ a) ∧
      found = seen ++
        [⟨a, told.target.floor.toNat, told.emits.truth, told.symbol.style, told.target.style⟩] := by
  have reads (d : Datum) (a : Symbol) :
      d.integer?.bind Symbol.ofInt? = some a ↔ d.integer? = some (a.val : Int) := by
    simp only [Option.bind_eq_some_iff, Symbol.ofInt?_eq_some_iff, exists_eq_right]
  constructor
  · intro h
    obtain ⟨told, three, h⟩ := bind_eq_ok.mp h
    obtain ⟨a, symbol, h⟩ := bind_eq_ok.mp h
    obtain ⟨_, target, h⟩ := bind_eq_ok.mp h
    split at h
    · contradiction
    next apart =>
      exact ⟨told, a, three, (reads _ a).mp (orFault_eq_ok.mp symbol), checkTarget_eq_ok.mp target,
        by simpa using apart, (Except.ok.inj h).symm⟩
  · rintro ⟨told, a, three, symbol, target, apart, rfl⟩
    simpa [accept, three, (reads _ a).mpr symbol, checkTarget_eq_ok.mpr target, orFault] using apart

theorem target_lt_of_accept {states source : Nat} {seen found : List ScanLexer.Arc}
    {parts : List Datum} (h : accept states source seen parts = .ok found)
    (inside : ∀ arc ∈ seen, arc.target < states) : ∀ arc ∈ found, arc.target < states := by
  obtain ⟨told, a, -, -, ⟨-, within⟩, -, rfl⟩ := accept_eq_ok.mp h
  intro arc harc
  obtain old | new := List.mem_append.mp harc
  · exact inside arc old
  · rw [List.mem_singleton.mp new]
    rw [Datum.within_int_iff] at within
    show told.target.floor.toNat < states
    omega

theorem target_lt_of_foldlM {states source : Nat} {rows : List (List Datum)}
    {seen found : List ScanLexer.Arc} (h : rows.foldlM (accept states source) seen = .ok found)
    (inside : ∀ arc ∈ seen, arc.target < states) : ∀ arc ∈ found, arc.target < states := by
  induction rows generalizing seen with
  | nil =>
    cases h
    exact inside
  | cons parts rows ih =>
    obtain ⟨more, accepted, h⟩ := bind_eq_ok.mp h
    exact ih h (target_lt_of_accept accepted inside)

theorem ofNodes_eq_ok {nodes : List Node} {A : Automaton} :
    ofNodes nodes = .ok A ↔
      (∀ node ∈ nodes, ∀ arc ∈ node.arcs, arc.destination.isDecimal = false) ∧ A.nodes = nodes := by
  have decimals : nodes.any Node.hasDecimal = false ↔
      ∀ node ∈ nodes, ∀ arc ∈ node.arcs, arc.destination.isDecimal = false := by
    simp [Node.hasDecimal]
  rcases A with ⟨own⟩
  rw [← decimals]
  unfold ofNodes
  cases nodes.any Node.hasDecimal <;> simp [eq_comm]

theorem automaton_eq_ok [Memory] {C : Contract} {A : Automaton} :
    C.automaton = .ok A ↔ 1 ≤ C.states.value ∧ C.states.isDecimal = false ∧
      Memory.ask C.states.value (8 * 256 * C.states.value) = .ok () ∧
      (∀ node ∈ A.nodes, ∀ arc ∈ node.arcs, arc.destination.isDecimal = false) ∧
      (List.range C.states.value.toNat).mapM C.node = .ok A.nodes := by
  unfold automaton
  split
  next less =>
    constructor
    · nofun
    · rintro ⟨positive, -⟩
      omega
  next positive =>
    have least : 1 ≤ C.states.value := by omega
    cases decimal : C.states.isDecimal
    · simp only [Bool.false_eq_true, if_false, bind_eq_ok, ofNodes_eq_ok, least, true_and]
      constructor
      · rintro ⟨_, room, nodes, mapped, whole, rfl⟩
        exact ⟨room, whole, mapped⟩
      · rintro ⟨room, whole, mapped⟩
        exact ⟨(), room, A.nodes, mapped, whole, rfl⟩
    · simp

/-- An accepted automaton has the states that were told, and is closed. -/
theorem closed_of_automaton [Memory] {C : Contract} {A : Automaton} (h : C.automaton = .ok A) :
    A.Closed ∧ (A.size : Int) = C.states.value := by
  obtain ⟨positive, -, -, whole, mapped⟩ := automaton_eq_ok.mp h
  have told := mapM_eq_ok.mp mapped
  have length : A.nodes.length = C.states.value.toNat := by simpa using told.length_eq.symm
  refine ⟨⟨by simp only [Automaton.size]; omega, ?_, whole⟩, by simp only [Automaton.size]; omega⟩
  intro node hnode arc harc
  obtain ⟨k, bound, rfl⟩ := List.getElem_of_mem hnode
  obtain ⟨arcs, accepted, made⟩ := bind_eq_ok.mp (told.get (told.length_eq ▸ bound) bound)
  rw [Automaton.size, length]
  have kept : (A.nodes[k]).arcs = arcs := (congrArg Node.arcs (Except.ok.inj made)).symm
  exact target_lt_of_foldlM accepted (by simp) arc (kept ▸ harc)

end Contract

namespace Automaton

/-- How an arc tells itself. -/
def arcParts (arc : Arc) : List Datum :=
  [.ofNumeral arc.label, .ofNumeral arc.destination, .bool arc.emits]

theorem accept_arcParts {states source : Nat} {seen : List Arc} {arc : Arc}
    (inside : arc.target < states) (label : arc.label.Usual) (destination : arc.destination.Usual)
    (fresh : ∀ old ∈ seen, old.symbol ≠ arc.symbol) :
    Contract.accept states source seen (arcParts arc) = .ok (seen ++ [arc]) := by
  obtain ⟨symbol, symbolStyle⟩ := label.read_back
  obtain ⟨target, targetStyle⟩ := destination.read_back
  have floor := Datum.floor_of_integer? target
  have number := Datum.isNumber_of_integer? target
  refine Contract.accept_eq_ok.mpr ⟨_, arc.symbol, rfl, symbol, ⟨number, ?_⟩, fresh, ?_⟩
  · have below : arc.destination.value < states := Int.ofNat_lt.mpr inside
    have positive : 0 ≤ arc.destination.value := Int.natCast_nonneg _
    rw [Datum.within_int_iff, floor]
    exact ⟨positive, below⟩
  · rw [floor, symbolStyle, targetStyle]
    rfl

theorem accept_arcs {states source : Nat} {arcs seen : List Arc}
    (inside : ∀ arc ∈ arcs, arc.target < states)
    (usual : ∀ arc ∈ arcs, arc.label.Usual ∧ arc.destination.Usual)
    (distinct : ((seen ++ arcs).map Arc.symbol).Nodup) :
    (arcs.map arcParts).foldlM (Contract.accept states source) seen = .ok (seen ++ arcs) := by
  induction arcs generalizing seen with
  | nil => simp
  | cons arc arcs ih =>
    obtain ⟨label, destination⟩ := usual arc (by simp)
    have fresh : ∀ old ∈ seen, old.symbol ≠ arc.symbol := by
      intro old hold same
      rw [List.map_append, List.nodup_append] at distinct
      exact distinct.2.2 _ (List.mem_map_of_mem hold) _ (by simp) same
    rw [List.map_cons, List.foldlM_cons,
      accept_arcParts (inside arc (by simp)) label destination fresh, ok_bind,
      ih (fun a ha => inside a (List.mem_cons_of_mem arc ha))
        (fun a ha => usual a (List.mem_cons_of_mem arc ha)) (by simpa using distinct)]
    simp

/-- A valid automaton passes the checks and comes out as it went in, if there is room for it. -/
theorem automaton_contract [Memory] {A : Automaton} (hA : A.Valid) :
    A.contract.automaton =
      (Memory.ask A.size (8 * 256 * A.size)).map fun _ => A := by
  have positive : ¬ (A.size : Int) < 1 := by have := hA.start; omega
  have node (i : Nat) : A.contract.node i = .ok (A.node i) := by
    have valid := hA.node i
    have accepted : ((A.node i).arcs.map arcParts).foldlM (Contract.accept A.size i) [] =
        .ok (A.node i).arcs := accept_arcs valid.targets valid.usual valid.distinct
    simp only [Contract.node, contract, Numeral.value_ofNat, Int.toNat_natCast]
    exact bind_eq_ok.mpr ⟨_, accepted, rfl⟩
  have nodes : (List.range A.size).mapM A.contract.node = .ok A.nodes := by
    refine mapM_eq_ok.mpr (List.forall₂_iff_get.mpr ⟨by simp [size], ?_⟩)
    intro i hi hi'
    rw [List.get_eq_getElem, List.get_eq_getElem, List.getElem_range, node i]
    exact congrArg Except.ok (node_of_getElem? (List.getElem?_eq_getElem hi'))
  have told : A.contract.states.value = A.size := rfl
  have whole : A.contract.states.isDecimal = false := rfl
  unfold Contract.automaton
  rw [told, if_neg positive, whole, if_neg Bool.false_ne_true, Int.toNat_natCast]
  cases Memory.ask A.size (8 * 256 * A.size) with
  | error fault => rfl
  | ok _ =>
    rw [ok_bind, nodes, ok_bind]
    exact Contract.ofNodes_eq_ok.mpr ⟨hA.closed.whole, rfl⟩

end Automaton

end ScanLexer
