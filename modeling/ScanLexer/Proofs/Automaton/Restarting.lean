import ScanLexer.Proofs.Automaton.Growing
import ScanLexer.Proofs.Contract.Acceptance

/-!
# Restart arcs, one call at a time

Restart arcs can be put in by calls to `add`: state by state, and at each accepting state arc by arc
of the start state as it was at first. In a valid automaton none of these calls is refused, and they
lead to the automaton that has all restart arcs at once (`restartInTurn_eq`).
-/
namespace ScanLexer

/-- A number that is a byte is read as that byte. -/
theorem Symbol.ofDatum?_of_integer? {d : Datum} {a : Symbol} (h : d.integer? = some (a.val : Int)) :
    ofDatum? d = some a := by
  have byte : d.integer?.bind ofInt? = some a := by
    rw [h, Option.bind_some]
    exact ofInt?_eq_some_iff.mpr rfl
  cases d with
  | text s | bytes content | buffer content => contradiction
  | null | bool b | int n | decimal d | list items | record keys values => exact byte

namespace Automaton

/-- The call that puts an arc of the start state at another state too, unless that state has one on
its symbol. -/
def restartArc (i : Nat) (A : Automaton) (arc : Arc) : Except Fault Automaton :=
  if ((A.node i).arc? arc.symbol).isNone then
    A.add (.int i) (.ofNumeral arc.label) (.ofNumeral arc.destination) true
  else .ok A

/-- The calls that put what arcs are lacking at a state, if it accepts. -/
def restartState (start : List Arc) (A : Automaton) (i : Nat) : Except Fault Automaton :=
  if (A.node i).lexeme.isSome then start.foldlM (restartArc i) A else .ok A

/-- The calls for all states in order. -/
def restartInTurn (A : Automaton) : Except Fault Automaton :=
  (List.range A.size).foldlM (restartState (A.node 0).arcs) A

/-- An arc that tells itself can be added where there is none on its symbol. -/
theorem add_of_arc {A : Automaton} {i : Nat} (hi : i < A.size) {arc : Arc}
    (inside : arc.target < A.size) (label : arc.label.Usual) (destination : arc.destination.Usual)
    (absent : (A.node i).arc? arc.symbol = none) (emits : Bool) :
    A.add (.int i) (.ofNumeral arc.label) (.ofNumeral arc.destination) emits =
      .ok (A.extend i { arc with emits := emits }) := by
  obtain ⟨symbol, symbolStyle⟩ := label.read_back
  obtain ⟨target, targetStyle⟩ := destination.read_back
  have source : A.state (.int i) = .ok i := state_eq_ok.mpr ⟨rfl, hi⟩
  have led : A.state (.ofNumeral arc.destination) = .ok arc.target :=
    state_eq_ok.mpr ⟨target, inside⟩
  have read : Symbol.read (.ofNumeral arc.label) = .ok arc.symbol :=
    orFault_eq_ok.mpr (Symbol.ofDatum?_of_integer? symbol)
  simp only [add, source, led, read, ok_bind, absent, symbolStyle, targetStyle, pure_eq_ok]
  rfl

theorem arc?_append {node : Node} {a : Symbol} {more : List Arc}
    (other : ∀ arc ∈ more, arc.symbol ≠ a) :
    Node.arc? { node with arcs := node.arcs ++ more } a = node.arc? a := by
  have none : more.find? (·.symbol = a) = none := by simpa using other
  rw [Node.arc?, List.find?_append, none, Option.or_none]
  rfl

/-- Arcs on symbols of their own, each put at a state that has none on its symbol, are all put
there. -/
theorem foldlM_restartArc {A : Automaton} {i : Nat} (hi : i < A.size) {arcs : List Arc}
    (inside : ∀ arc ∈ arcs, arc.target < A.size)
    (usual : ∀ arc ∈ arcs, arc.label.Usual ∧ arc.destination.Usual)
    (distinct : (arcs.map Arc.symbol).Nodup) :
    ∃ B, arcs.foldlM (restartArc i) A = .ok B ∧ B.size = A.size ∧ ∀ k, B.node k =
      if k = i then
        { A.node i with arcs := (A.node i).arcs ++ restartArcs ⟨arcs, none⟩ (A.node i) }
      else A.node k := by
  induction arcs generalizing A with
  | nil =>
    refine ⟨A, rfl, rfl, ?_⟩
    intro k
    split
    next same => simp [same, restartArcs]
    next => rfl
  | cons arc arcs ih =>
    obtain ⟨head, rest⟩ := List.nodup_cons.mp distinct
    obtain ⟨label, destination⟩ := usual arc List.mem_cons_self
    have inside' : ∀ other ∈ arcs, other.target < A.size :=
      fun other h => inside other (List.mem_cons_of_mem arc h)
    have usual' : ∀ other ∈ arcs, other.label.Usual ∧ other.destination.Usual :=
      fun other h => usual other (List.mem_cons_of_mem arc h)
    cases present : (A.node i).arc? arc.symbol with
    | some own =>
      have kept : restartArc i A arc = .ok A := by simp [restartArc, present]
      rw [List.foldlM_cons, kept, ok_bind]
      obtain ⟨B, run, size, nodes⟩ := ih hi inside' usual' rest
      refine ⟨B, run, size, ?_⟩
      intro k
      rw [nodes k]
      simp [restartArcs, present]
    | none =>
      have added : restartArc i A arc = .ok (A.extend i { arc with emits := true }) := by
        rw [restartArc, present, Option.isNone_none, if_pos rfl]
        exact add_of_arc hi (inside arc List.mem_cons_self) label destination present true
      rw [List.foldlM_cons, added, ok_bind]
      have same := A.size_extend i { arc with emits := true }
      obtain ⟨B, run, size, nodes⟩ := ih (same.symm ▸ hi) (same.symm ▸ inside') usual' rest
      refine ⟨B, run, size.trans same, ?_⟩
      intro k
      -- the arc just put does not keep out any of those that follow
      have lacking : restartArcs ⟨arcs, none⟩ { A.node i with
          arcs := (A.node i).arcs ++ [{ arc with emits := true }] } =
            restartArcs ⟨arcs, none⟩ (A.node i) := by
        unfold restartArcs
        apply congrArg (List.map _)
        apply List.filter_congr
        intro other hother
        rw [arc?_append]
        rintro _ (_ | _) same'
        · exact head (same' ▸ List.mem_map_of_mem hother)
        · contradiction
      rw [nodes k, A.node_extend hi, A.node_extend hi]
      by_cases here : k = i
      · simp only [here, if_true, lacking]
        simp [restartArcs, present]
      · simp only [here, if_false]

/-- **Restart arcs can be put in by calls,** none of which is refused. -/
theorem restartInTurn_eq {A : Automaton} (hA : A.Valid) : A.restartInTurn = .ok A.restart := by
  have start := hA.node 0
  have upto (n : Nat) (hn : n ≤ A.size) :
      ∃ B, (List.range n).foldlM (restartState (A.node 0).arcs) A = .ok B ∧ B.size = A.size ∧
        ∀ k, B.node k = if k < n then A.restart.node k else A.node k := by
    induction n with
    | zero => exact ⟨A, rfl, rfl, fun k => rfl⟩
    | succ n ih =>
      obtain ⟨B, run, size, nodes⟩ := ih (by omega)
      have here : B.node n = A.node n := by rw [nodes, if_neg (Nat.lt_irrefl n)]
      have next : ∃ C, restartState (A.node 0).arcs B n = .ok C ∧ C.size = A.size ∧
          ∀ k, C.node k = if k = n then A.restart.node n else B.node k := by
        rw [restartState, here, node_restart]
        split
        next =>
          rw [← size] at hn
          obtain ⟨C, added, kept, states⟩ := foldlM_restartArc hn
            (size.symm ▸ start.targets) start.usual start.distinct
          exact ⟨C, added, kept.trans size, here ▸ states⟩
        next =>
          refine ⟨B, rfl, size, ?_⟩
          intro k
          split
          next same => rw [same, here]
          next => rfl
      obtain ⟨C, added, kept, states⟩ := next
      refine ⟨C, ?_, kept, ?_⟩
      · rw [List.range_succ, List.foldlM_append, run, ok_bind, List.foldlM_cons, added]
        rfl
      · intro k
        rw [states, nodes]
        grind
  obtain ⟨B, run, size, nodes⟩ := upto A.size (Nat.le_refl _)
  have same : B = A.restart := by
    apply ext_node (size.trans A.size_restart.symm)
    intro k
    rw [nodes]
    split
    next => rfl
    next outside =>
      have beyond : A.size ≤ k := Nat.le_of_not_lt outside
      rw [node_of_size_le beyond, node_of_size_le (A.size_restart.symm ▸ beyond)]
  exact same ▸ run

end Automaton

end ScanLexer
