import ScanLexer.Proofs.Automaton.Built

/-!
# How automata grow

Calls add states and arcs and set lexemes, one state at a time. A state's arcs go on from those that
it had (`arcs_replay`), no state is taken away, and the symbols on arcs are those that granted calls
to `add` were given (`mem_symbols_replay`): restart arcs have no symbols of their own.
-/
namespace ScanLexer.Automaton

/-- Automata are told apart by their states, looked at one by one. -/
theorem ext_node {A B : Automaton} (size : A.size = B.size) (nodes : ∀ k, A.node k = B.node k) :
    A = B := by
  have same : A.nodes = B.nodes := by
    apply List.ext_getElem size
    intro k hk hk'
    have node := nodes k
    rwa [node_of_getElem? (List.getElem?_eq_getElem hk),
      node_of_getElem? (List.getElem?_eq_getElem hk')] at node
  cases A
  cases B
  exact congrArg Automaton.mk same

theorem node_of_size_le {A : Automaton} {k : Nat} (beyond : A.size ≤ k) :
    A.node k = .bare none := by
  rw [Automaton.node, List.getElem?_eq_none beyond, Option.getD_none]

@[simp] theorem size_addState (A : Automaton) (lexeme : Option Lexeme) :
    (A.addState lexeme).size = A.size + 1 := by
  simp [Automaton.addState, size]

theorem node_addState (A : Automaton) (lexeme : Option Lexeme) (k : Nat) :
    (A.addState lexeme).node k = if k = A.size then .bare lexeme else A.node k := by
  have same : A.nodes.length = A.size := rfl
  simp only [Automaton.addState, Automaton.node, List.getElem?_append, same]
  by_cases old : k < A.size
  · simp [old, Nat.ne_of_lt old]
  · by_cases new : k = A.size
    · simp [new]
    · have beyond : A.nodes[k]? = none := List.getElem?_eq_none (by omega)
      have later : k - A.size ≠ 0 := by omega
      simp [old, new, beyond, later]

@[simp] theorem size_modify (A : Automaton) (i : Nat) (change : Node → Node) :
    (Automaton.mk (A.nodes.modify i change)).size = A.size := by
  simp [size]

theorem node_modify (A : Automaton) {i : Nat} (hi : i < A.size) (change : Node → Node) (k : Nat) :
    (Automaton.mk (A.nodes.modify i change)).node k =
      if k = i then change (A.node i) else A.node k := by
  simp only [Automaton.node, List.getElem?_modify]
  by_cases same : k = i
  · subst same
    simp [getElem?_nodes hi]
  · simp [same, Ne.symm same]

@[simp] theorem size_extend (A : Automaton) (i : Nat) (arc : Arc) :
    (A.extend i arc).size = A.size :=
  A.size_modify i _

theorem node_extend (A : Automaton) {i : Nat} (hi : i < A.size) (arc : Arc) (k : Nat) :
    (A.extend i arc).node k =
      if k = i then { A.node i with arcs := (A.node i).arcs ++ [arc] } else A.node k :=
  A.node_modify hi _ k

@[simp] theorem size_restart (A : Automaton) : A.restart.size = A.size := by
  simp [Automaton.restart, size]

theorem node_restart (A : Automaton) (k : Nat) : A.restart.node k =
    if (A.node k).lexeme.isSome then
      { A.node k with arcs := (A.node k).arcs ++ restartArcs (A.node 0) (A.node k) }
    else A.node k := by
  by_cases hk : k < A.size
  · apply node_of_getElem?
    simp only [restart, List.getElem?_map, getElem?_nodes hk, Option.map_some]
  · have beyond : A.node k = .bare none := node_of_size_le (by omega)
    rw [node_of_size_le (by rw [size_restart]; omega), beyond]
    rfl

/-- Whether a call adds a state. -/
def Call.grows : Call → Bool
  | addState _ => true
  | _ => false

/-- The symbol that a call puts on an arc. -/
def Call.symbol? : Call → Option Symbol
  | add _ symbol _ _ => Symbol.ofDatum? symbol
  | _ => none

/-- A granted call adds a state if it asks for one. -/
theorem size_of_perform {A B : Automaton} {call : Call} (performed : A.perform call = .ok B) :
    B.size = A.size + if call.grows then 1 else 0 := by
  cases call with
  | addState lexeme =>
    cases performed
    exact A.size_addState lexeme
  | add source symbol target flag =>
    obtain ⟨i, -, -, -, -, -, -, rfl⟩ := add_eq_ok performed
    exact A.size_extend i _
  | setLexeme source lexeme =>
    obtain ⟨i, -, performed⟩ := bind_eq_ok.mp performed
    cases performed
    exact A.size_modify i _
  | restart =>
    cases performed
    exact A.size_restart

/-- A granted call puts new arcs of a state behind those that it had. They are on the call's own
symbol, or on symbols of the start state. -/
theorem arcs_of_perform {A B : Automaton} {call : Call} (performed : A.perform call = .ok B)
    (i : Nat) :
    ∃ more, (B.node i).arcs = (A.node i).arcs ++ more ∧ ∀ arc ∈ more,
      call.symbol? = some arc.symbol ∨ ∃ first ∈ (A.node 0).arcs, first.symbol = arc.symbol := by
  cases call with
  | addState lexeme =>
    cases performed
    refine ⟨[], ?_, nofun⟩
    rw [node_addState, List.append_nil]
    split
    next new => rw [node_of_size_le (Nat.le_of_eq new.symm)]; rfl
    next => rfl
  | add source symbol target flag =>
    obtain ⟨j, k, a, named, -, read, -, rfl⟩ := add_eq_ok performed
    rw [A.node_extend (state_eq_ok.mp named).2]
    split
    next same =>
      subst same
      refine ⟨_, rfl, ?_⟩
      intro arc harc
      rw [List.mem_singleton.mp harc]
      exact .inl (orFault_eq_ok.mp read)
    next => exact ⟨[], (List.append_nil _).symm, nofun⟩
  | setLexeme source lexeme =>
    obtain ⟨j, named, performed⟩ := bind_eq_ok.mp performed
    cases performed
    refine ⟨[], ?_, nofun⟩
    rw [A.node_modify (state_eq_ok.mp named).2, List.append_nil]
    split
    next same => rw [same]
    next => rfl
  | restart =>
    cases performed
    rw [node_restart]
    split
    next =>
      refine ⟨_, rfl, ?_⟩
      intro arc harc
      obtain ⟨first, hfirst, rfl⟩ := List.mem_map.mp harc
      exact .inr ⟨first, (List.mem_filter.mp hfirst).1, rfl⟩
    next => exact ⟨[], (List.append_nil _).symm, nofun⟩

theorem mem_symbols_iff_nodes {A : Automaton} {a : Symbol} :
    a ∈ A.symbols ↔ ∃ node ∈ A.nodes, ∃ arc ∈ node.arcs, arc.symbol = a := by
  have on {node : Node} : (node.arc? a).isSome ↔ ∃ arc ∈ node.arcs, arc.symbol = a := by
    rw [Node.arc?, List.find?_isSome]
    simp only [decide_eq_true_eq]
  simp only [symbols, List.mem_filter, Symbol.mem_all, true_and, List.any_eq_true, on]

/-- A symbol is known if some state has an arc on it. -/
theorem mem_symbols {A : Automaton} {a : Symbol} :
    a ∈ A.symbols ↔ ∃ i, ∃ arc ∈ (A.node i).arcs, arc.symbol = a := by
  rw [mem_symbols_iff_nodes]
  constructor
  · rintro ⟨node, hnode, known⟩
    obtain ⟨i, found⟩ := List.getElem?_of_mem hnode
    exact ⟨i, (node_of_getElem? found).symm ▸ known⟩
  · rintro ⟨i, known⟩
    by_cases hi : i < A.size
    · exact ⟨_, List.mem_of_getElem? (getElem?_nodes hi), known⟩
    · rw [node_of_size_le (Nat.le_of_not_lt hi)] at known
      obtain ⟨arc, harc, -⟩ := known
      exact absurd harc List.not_mem_nil

/-- A granted call makes at most one symbol known, its own. -/
theorem mem_symbols_of_perform {A B : Automaton} {call : Call} (performed : A.perform call = .ok B)
    {a : Symbol} : a ∈ B.symbols ↔ a ∈ A.symbols ∨ call.symbol? = some a := by
  constructor
  · intro known
    obtain ⟨i, arc, harc, rfl⟩ := mem_symbols.mp known
    obtain ⟨more, arcs, new⟩ := arcs_of_perform performed i
    rw [arcs] at harc
    obtain old | added := List.mem_append.mp harc
    · exact .inl (mem_symbols.mpr ⟨i, arc, old, rfl⟩)
    · obtain own | ⟨first, hfirst, same⟩ := new arc added
      · exact .inr own
      · exact .inl (mem_symbols.mpr ⟨0, first, hfirst, same⟩)
  · rintro (known | own)
    · obtain ⟨i, arc, harc, rfl⟩ := mem_symbols.mp known
      obtain ⟨more, arcs, -⟩ := arcs_of_perform performed i
      exact mem_symbols.mpr ⟨i, arc, arcs ▸ List.mem_append_left more harc, rfl⟩
    · cases call with
      | add source symbol target flag =>
        obtain ⟨j, k, b, named, -, read, -, rfl⟩ := add_eq_ok performed
        have same : b = a := Option.some.inj ((orFault_eq_ok.mp read).symm.trans own)
        refine mem_symbols.mpr ⟨j, ⟨b, k, flag.truth, symbol.style, target.style⟩, ?_, same⟩
        rw [A.node_extend (state_eq_ok.mp named).2, if_pos rfl]
        exact List.mem_append_right _ (List.mem_singleton_self _)
      | addState lexeme | setLexeme source lexeme | restart => contradiction

theorem kind_of_state {A : Automaton} {d : Datum} {fault : Fault} (h : A.state d = .error fault) :
    fault.kind = .value := by
  unfold Automaton.state stateAmong at h
  split at h
  · split at h
    · contradiction
    · cases h
      rfl
  · cases h
    rfl

/-- A refused call was given a bad value. -/
theorem kind_of_perform {A : Automaton} {call : Call} {fault : Fault}
    (refused : A.perform call = .error fault) : fault.kind = .value := by
  cases call with
  | addState lexeme => contradiction
  | add source symbol target flag =>
    obtain bad | ⟨i, -, refused⟩ := bind_eq_error.mp refused
    · exact kind_of_state bad
    obtain bad | ⟨j, -, refused⟩ := bind_eq_error.mp refused
    · exact kind_of_state bad
    obtain bad | ⟨a, -, refused⟩ := bind_eq_error.mp refused
    · obtain ⟨-, rfl⟩ := orFault_eq_error.mp bad
      rfl
    split at refused
    · cases refused
      rfl
    · contradiction
  | setLexeme source lexeme =>
    obtain bad | ⟨i, -, refused⟩ := bind_eq_error.mp refused
    · exact kind_of_state bad
    · contradiction
  | restart => contradiction

/-! ## Rows of calls -/

/-- The automaton after calls made in turn. -/
def replay (A : Automaton) (calls : List Call) : Automaton :=
  Calls.replay (Calls.settle perform) A calls

/-- Those of the calls that are granted when they are made in turn. -/
def granted (A : Automaton) (calls : List Call) : List Call :=
  Calls.granted (Calls.settle perform) A calls

theorem Built.replay {A : Automaton} (hA : A.Built) (calls : List Call) : (A.replay calls).Built :=
  Calls.replay_induction (P := Built) (fun _ call built => built.call call) hA calls

/-- There are as many states as there were, and those that granted calls asked for. -/
theorem size_replay (A : Automaton) (calls : List Call) :
    (A.replay calls).size = A.size + (A.granted calls).countP Call.grows := by
  refine Calls.granted_settle_induction (P := fun (B : Automaton) done =>
    B.size = A.size + done.countP Call.grows) ?_ rfl calls
  intro B done call B' performed size
  rw [size_of_perform performed, size, List.countP_append, List.countP_singleton, Nat.add_assoc]

/-- **No arc is changed or taken away.** Whatever calls are made, the arcs of a state begin with
those that it had. -/
theorem arcs_replay (A : Automaton) (calls : List Call) (i : Nat) :
    (A.node i).arcs <+: ((A.replay calls).node i).arcs := by
  refine Calls.replay_settle_induction
    (P := fun B : Automaton => (A.node i).arcs <+: (B.node i).arcs)
    ?_ List.prefix_rfl calls
  intro B call B' performed kept
  obtain ⟨more, arcs, -⟩ := arcs_of_perform performed i
  exact kept.trans ⟨more, arcs.symm⟩

/-- The symbols known are those that were known, and those that granted calls put on arcs. -/
theorem mem_symbols_replay (A : Automaton) (calls : List Call) {a : Symbol} :
    a ∈ (A.replay calls).symbols ↔
      a ∈ A.symbols ∨ ∃ call ∈ A.granted calls, call.symbol? = some a := by
  refine Calls.granted_settle_induction (P := fun (B : Automaton) done =>
    a ∈ B.symbols ↔ a ∈ A.symbols ∨ ∃ call ∈ done, call.symbol? = some a) ?_ ?_ calls
  · intro B done call B' performed known
    rw [mem_symbols_of_perform performed, known]
    simp only [List.mem_append, List.mem_singleton, or_and_right, exists_or, exists_eq_left,
      or_assoc]
  · simp

end ScanLexer.Automaton
