import Mathlib.Data.List.Nodup
import ScanLexer.Automaton.Restart
import ScanLexer.Proofs.Calls
import ScanLexer.Sample.Basic

/-!
# Automata built by calls

An automaton begins with some bare states and grows by calls, some of which may be refused; a
refused call changes nothing. Every automaton that comes about in this way is valid (`Built.valid`):
it has a start state, its arcs lead to its own states, no state has two arcs on one symbol, and
numbers are written in digits or as truth values.
-/
namespace ScanLexer

/-- Written in digits or, if it is zero or one, as a truth value. -/
def Numeral.Usual (n : Numeral) : Prop :=
  n.style = .digits ∨ n.style = .truth ∧ (n.value = 0 ∨ n.value = 1)

theorem Datum.usual_of_integer? {d : Datum} {i : Int} (h : d.integer? = some i) :
    Numeral.Usual ⟨i, d.style⟩ := by
  cases d with
  | bool b =>
    cases h
    cases b
    · exact .inr ⟨rfl, .inl rfl⟩
    · exact .inr ⟨rfl, .inr rfl⟩
  | int n => exact .inl rfl
  | _ => contradiction

/-- The symbol that is read from a value is written as usual. -/
theorem Symbol.usual_of_read {d : Datum} {a : Symbol} (h : read d = .ok a) :
    Numeral.Usual ⟨a.val, d.style⟩ := by
  cases d with
  | text s | bytes content | buffer content => exact .inl rfl
  | null | decimal d | list items | record keys values =>
    rw [read, orFault_eq_ok] at h
    contradiction
  | bool b =>
    rw [read, orFault_eq_ok] at h
    exact Datum.usual_of_integer? (d := .bool b) (congrArg some (ofInt?_eq_some_iff.mp h))
  | int n => exact .inl rfl

/-- A state among `n` whose arcs lead to these, each on a symbol of its own. -/
structure Node.Valid (n : Nat) (node : Node) : Prop where
  targets : ∀ arc ∈ node.arcs, arc.target < n
  usual : ∀ arc ∈ node.arcs, arc.label.Usual ∧ arc.destination.Usual
  distinct : (node.arcs.map Arc.symbol).Nodup

namespace Node

theorem valid_bare (n : Nat) (lexeme : Option Lexeme) : (bare lexeme).Valid n :=
  ⟨nofun, nofun, .nil⟩

theorem Valid.mono {n m : Nat} {node : Node} (h : node.Valid n) (le : n ≤ m) : node.Valid m :=
  ⟨fun arc harc => Nat.lt_of_lt_of_le (h.targets arc harc) le, h.usual, h.distinct⟩

theorem arc?_eq_none_iff {node : Node} {a : Symbol} :
    node.arc? a = none ↔ a ∉ node.arcs.map Arc.symbol := by
  simp only [arc?, List.find?_eq_none, decide_eq_true_eq, List.mem_map, not_exists, not_and]

/-- If no two arcs are on one symbol, each of them is the one that is found on its symbol. -/
theorem arc?_eq_some_iff_of_nodup {node : Node} (distinct : (node.arcs.map Arc.symbol).Nodup)
    {a : Symbol} {arc : Arc} : node.arc? a = some arc ↔ arc ∈ node.arcs ∧ arc.symbol = a := by
  constructor
  · intro found
    exact ⟨List.mem_of_find?_eq_some found, by simpa using List.find?_some found⟩
  · rintro ⟨harc, rfl⟩
    cases found : node.arc? arc.symbol with
    | none => exact absurd (List.mem_map_of_mem harc) (arc?_eq_none_iff.mp found)
    | some other =>
      have same : other.symbol = arc.symbol := by simpa using List.find?_some found
      rw [List.inj_on_of_nodup_map distinct (List.mem_of_find?_eq_some found) harc same]

/-- Each arc of a valid state is the one that is found on its symbol. -/
theorem Valid.arc?_eq_some_iff {n : Nat} {node : Node} (h : node.Valid n) {a : Symbol} {arc : Arc} :
    node.arc? a = some arc ↔ arc ∈ node.arcs ∧ arc.symbol = a :=
  arc?_eq_some_iff_of_nodup h.distinct

/-- A state may be given arcs on new symbols. -/
theorem Valid.append {n : Nat} {node : Node} (h : node.Valid n) {arcs : List Arc}
    (targets : ∀ arc ∈ arcs, arc.target < n)
    (usual : ∀ arc ∈ arcs, arc.label.Usual ∧ arc.destination.Usual)
    (distinct : (arcs.map Arc.symbol).Nodup) (fresh : ∀ arc ∈ arcs, node.arc? arc.symbol = none) :
    Valid n { node with arcs := node.arcs ++ arcs } := by
  refine ⟨?_, ?_, ?_⟩
  · intro arc harc
    exact (List.mem_append.mp harc).elim (h.targets arc) (targets arc)
  · intro arc harc
    exact (List.mem_append.mp harc).elim (h.usual arc) (usual arc)
  · rw [List.map_append]
    refine h.distinct.append distinct ?_
    intro a old new
    obtain ⟨arc, harc, rfl⟩ := List.mem_map.mp new
    exact arc?_eq_none_iff.mp (fresh arc harc) old

end Node

namespace Automaton

/-- A call that changes an automaton. -/
inductive Call where
  | addState (lexeme : Option Lexeme)
  | add (source symbol target flag : Datum)
  | setLexeme (source : Datum) (lexeme : Option Lexeme)
  | restart

/-- The automaton that a call asks for, unless the call is refused. -/
def perform (A : Automaton) : Call → Except Fault Automaton
  | .addState lexeme => .ok (A.addState lexeme)
  | .add source symbol target flag => A.add source symbol target flag.truth
  | .setLexeme source lexeme => A.setLexeme source lexeme
  | .restart => .ok A.restart

/-- The automaton after a call. A refused call leaves it as it was. -/
def after (A : Automaton) (call : Call) : Automaton := (Calls.settle perform A call).1

/-- The automata that calls lead to. -/
inductive Built : Automaton → Prop where
  | new {n : Int} {A : Automaton} : ofSize n = .ok A → Built A
  | call {A : Automaton} (call : Call) : Built A → Built (A.after call)

/-- An automaton with a start state all of whose states are valid. -/
structure Valid (A : Automaton) : Prop where
  start : 0 < A.size
  nodes : ∀ node ∈ A.nodes, node.Valid A.size

theorem valid_ofSize {n : Int} {A : Automaton} (h : ofSize n = .ok A) : A.Valid := by
  unfold ofSize at h
  split at h
  · contradiction
  · cases h
    refine ⟨by simp only [size, List.length_replicate]; omega, ?_⟩
    intro node hnode
    obtain ⟨-, rfl⟩ := List.mem_replicate.mp hnode
    exact Node.valid_bare _ none

theorem Valid.addState {A : Automaton} (hA : A.Valid) (lexeme : Option Lexeme) :
    (A.addState lexeme).Valid := by
  have larger : (A.addState lexeme).size = A.size + 1 := by simp [Automaton.addState, size]
  refine ⟨by omega, ?_⟩
  intro node hnode
  rw [larger]
  obtain old | new := List.mem_append.mp hnode
  · exact (hA.nodes node old).mono (by omega)
  · rw [List.mem_singleton.mp new]
    exact Node.valid_bare _ lexeme

/-- Changing one state keeps an automaton valid if the state stays valid. -/
theorem Valid.modify {A : Automaton} (hA : A.Valid) {i : Nat} {change : Node → Node}
    (kept : ∀ node, A.nodes[i]? = some node → (change node).Valid A.size) :
    (Automaton.mk (A.nodes.modify i change)).Valid := by
  have same : (Automaton.mk (A.nodes.modify i change)).size = A.size := by simp [size]
  refine ⟨same ▸ hA.start, ?_⟩
  intro node hnode
  rw [same]
  obtain ⟨k, found⟩ := List.getElem?_of_mem hnode
  rw [List.getElem?_modify] at found
  obtain ⟨old, hold, rfl⟩ := Option.map_eq_some_iff.mp found
  split
  next eq => exact kept old (eq ▸ hold)
  next => exact hA.nodes old (List.mem_of_getElem? hold)

theorem node_of_getElem? {A : Automaton} {i : Nat} {node : Node} (h : A.nodes[i]? = some node) :
    A.node i = node := by
  rw [Automaton.node, h, Option.getD_some]

theorem getElem?_nodes {A : Automaton} {i : Nat} (hi : i < A.size) :
    A.nodes[i]? = some (A.node i) := by
  have found : A.nodes[i]? = some A.nodes[i] := List.getElem?_eq_getElem hi
  rw [node_of_getElem? found, found]

theorem Valid.node {A : Automaton} (hA : A.Valid) (i : Nat) : (A.node i).Valid A.size := by
  unfold Automaton.node
  cases found : A.nodes[i]? with
  | none => exact Node.valid_bare _ none
  | some node => exact hA.nodes node (List.mem_of_getElem? found)

theorem state_eq_ok {A : Automaton} {d : Datum} {i : Nat} :
    A.state d = .ok i ↔ d.integer? = some (i : Int) ∧ i < A.size := by
  unfold state stateAmong
  cases d.integer? with
  | none => simp
  | some k =>
    simp only [Option.some.injEq]
    split
    next inside =>
      rw [Except.ok.injEq]
      omega
    next outside => exact ⟨nofun, fun h => absurd h (by omega)⟩

/-- A call to `add` that is granted puts one arc, on a symbol that the state had none on, behind the
arcs of a state. -/
theorem add_eq_ok {A B : Automaton} {source symbol target : Datum} {emits : Bool}
    (h : A.add source symbol target emits = .ok B) :
    ∃ i j a, A.state source = .ok i ∧ A.state target = .ok j ∧ Symbol.read symbol = .ok a ∧
      (A.node i).arc? a = none ∧ B = A.extend i ⟨a, j, emits, symbol.style, target.style⟩ := by
  obtain ⟨i, hi, h⟩ := bind_eq_ok.mp h
  obtain ⟨j, hj, h⟩ := bind_eq_ok.mp h
  obtain ⟨a, ha, h⟩ := bind_eq_ok.mp h
  refine ⟨i, j, a, hi, hj, ha, ?_⟩
  split at h
  · contradiction
  next absent => exact ⟨absent, (Except.ok.inj h).symm⟩

theorem Valid.add {A B : Automaton} (hA : A.Valid) {source symbol target : Datum} {emits : Bool}
    (h : A.add source symbol target emits = .ok B) : B.Valid := by
  obtain ⟨i, j, a, -, hj, ha, absent, rfl⟩ := add_eq_ok h
  obtain ⟨named, inside⟩ := state_eq_ok.mp hj
  apply hA.modify
  intro node found
  rw [node_of_getElem? found] at absent
  refine (hA.nodes node (List.mem_of_getElem? found)).append ?_ ?_ (List.nodup_singleton _) ?_
  · intro arc harc
    rw [List.mem_singleton.mp harc]
    exact inside
  · intro arc harc
    rw [List.mem_singleton.mp harc]
    exact ⟨Symbol.usual_of_read ha, Datum.usual_of_integer? named⟩
  · intro arc harc
    rw [List.mem_singleton.mp harc]
    exact absent

theorem Valid.setLexeme {A B : Automaton} (hA : A.Valid) {source : Datum} {lexeme : Option Lexeme}
    (h : A.setLexeme source lexeme = .ok B) : B.Valid := by
  obtain ⟨i, -, h⟩ := bind_eq_ok.mp h
  cases h
  apply hA.modify
  intro node found
  have old := hA.nodes node (List.mem_of_getElem? found)
  exact ⟨old.targets, old.usual, old.distinct⟩

theorem Valid.restart {A : Automaton} (hA : A.Valid) : A.restart.Valid := by
  have same : A.restart.size = A.size := by simp [Automaton.restart, size]
  have start := hA.node 0
  refine ⟨same ▸ hA.start, ?_⟩
  intro node hnode
  rw [same]
  obtain ⟨old, hold, rfl⟩ := List.mem_map.mp hnode
  have valid := hA.nodes old hold
  split
  next =>
    have copied (arc : Arc) (harc : arc ∈ restartArcs (A.node 0) old) :
        ∃ first ∈ (A.node 0).arcs, old.arc? first.symbol = none ∧
          arc = { first with emits := true } := by
      obtain ⟨first, hfirst, rfl⟩ := List.mem_map.mp harc
      obtain ⟨mem, lacks⟩ := List.mem_filter.mp hfirst
      exact ⟨first, mem, Option.isNone_iff_eq_none.mp lacks, rfl⟩
    refine valid.append ?_ ?_ ?_ ?_
    · intro arc harc
      obtain ⟨first, mem, -, rfl⟩ := copied arc harc
      exact start.targets first mem
    · intro arc harc
      obtain ⟨first, mem, -, rfl⟩ := copied arc harc
      exact start.usual first mem
    · rw [restartArcs, List.map_map]
      exact start.distinct.sublist (List.filter_sublist.map Arc.symbol)
    · intro arc harc
      obtain ⟨first, -, lacks, rfl⟩ := copied arc harc
      exact lacks
  next => exact valid

theorem Valid.perform {A B : Automaton} (hA : A.Valid) {call : Call}
    (done : A.perform call = .ok B) :
    B.Valid := by
  cases call with
  | addState lexeme =>
    cases done
    exact hA.addState lexeme
  | add source symbol target flag => exact hA.add done
  | setLexeme source lexeme => exact hA.setLexeme done
  | restart =>
    cases done
    exact hA.restart

theorem Valid.after {A : Automaton} (hA : A.Valid) (call : Call) : (A.after call).Valid :=
  Calls.replay_settle_induction (P := Valid) (fun _ _ _ done valid => valid.perform done) hA [call]

theorem Built.valid {A : Automaton} (h : A.Built) : A.Valid := by
  induction h with
  | new made => exact valid_ofSize made
  | call call _ ih => exact ih.after call

/-- The sample of one letter can be made by calls. -/
theorem built_singleA : (Sample.singleA true).Built := by
  have new : Built ⟨[.bare none]⟩ := .new (n := 1) rfl
  have grown := new.call (.addState (Sample.token "a"))
  have first := grown.call (.add (.int 0) (.text "a") (.int 1) (.bool true))
  exact first.call (.add (.int 1) (.text "a") (.int 1) (.bool true))

end Automaton

end ScanLexer
