import ScanLexer.Proofs.Automaton.Cutting
import ScanLexer.Proofs.Automaton.Restarting

/-!
# What restart arcs leave alone

Restart arcs are put where a state had none, and only at accepting states. So the start state gains
none of its own arcs (`node_zero_restart`), to add them twice is to add them once
(`restart_restart`), and a step that leads somewhere leads there still (`step_restart`). By
induction over the symbols, a run that is not rejected goes on as before, and one that fails fails
in the same way (`run_restart`).
-/
namespace ScanLexer.Automaton

variable {A : Automaton}

theorem isSome_arc?_of_mem {node : Node} {arc : Arc} (harc : arc ∈ node.arcs) :
    (node.arc? arc.symbol).isSome := by
  rw [Node.arc?, List.find?_isSome]
  exact ⟨arc, harc, decide_eq_true rfl⟩

/-- A state that has an arc wherever the start state has one lacks nothing. -/
theorem restartArcs_eq_nil {start node : Node}
    (covered : ∀ arc ∈ start.arcs, (node.arc? arc.symbol).isSome) :
    restartArcs start node = [] := by
  rw [restartArcs, List.map_eq_nil_iff, List.filter_eq_nil_iff]
  intro arc harc
  rw [Option.isNone_iff_eq_none, ← Option.not_isSome_iff_eq_none, not_not]
  exact covered arc harc

/-- A state that accepts nothing, or lacks nothing, stays as it is. -/
theorem node_restart_of_covered {i : Nat} (h : (A.node i).lexeme = none ∨
    ∀ arc ∈ (A.node 0).arcs, ((A.node i).arc? arc.symbol).isSome) :
    A.restart.node i = A.node i := by
  rw [node_restart]
  obtain silent | covered := h
  · rw [silent]
    rfl
  · rw [restartArcs_eq_nil covered, List.append_nil]
    split <;> rfl

theorem node_zero_restart (A : Automaton) : A.restart.node 0 = A.node 0 :=
  node_restart_of_covered (.inr fun _ harc => isSome_arc?_of_mem harc)

@[simp] theorem lexeme_node_restart (A : Automaton) (i : Nat) :
    (A.restart.node i).lexeme = (A.node i).lexeme := by
  rw [node_restart]
  split <;> rfl

/-- **Restart arcs are put in once.** -/
theorem restart_restart (A : Automaton) : A.restart.restart = A.restart := by
  apply ext_node (A.restart.size_restart)
  intro i
  apply node_restart_of_covered
  rw [lexeme_node_restart, node_zero_restart]
  cases accepting : (A.node i).lexeme with
  | none => exact .inl rfl
  | some lexeme =>
    right
    intro arc harc
    -- what the state itself had no arc on, it has the start state's arc on by now
    rw [restart_arc?, accepting, Option.isSome_some, if_pos rfl, Option.isSome_or,
      Option.isSome_map, isSome_arc?_of_mem harc, Bool.or_true]

theorem symbols_restart (A : Automaton) : A.restart.symbols = A.symbols := by
  have performed : A.perform .restart = .ok A.restart := rfl
  apply List.filter_congr
  intro a ha
  have known := mem_symbols_of_perform performed (a := a)
  simp only [symbols, List.mem_filter, ha, true_and, Call.symbol?, reduceCtorEq, or_false] at known
  exact Bool.eq_iff_iff.mpr known

/-- With restart arcs the same states are found, in whatever way they are counted. -/
theorem nodeAt_restart_cases (A : Automaton) (i : Int) :
    (∃ k, A.nodeAt i = .ok (A.node k) ∧ A.restart.nodeAt i = .ok (A.restart.node k)) ∨
      ∃ fault, A.nodeAt i = .error fault ∧ A.restart.nodeAt i = .error fault := by
  have same : A.restart.nodes.length = A.nodes.length := A.size_restart
  unfold nodeAt entryAt
  rw [same]
  cases place : position A.nodes.length i with
  | none => exact .inr ⟨.ofPosition .noListEntry i, rfl, rfl⟩
  | some k =>
    have hk : k < A.size := position_lt place
    left
    refine ⟨k, ?_, ?_⟩
    · rw [Option.bind_some, getElem?_nodes hk]
      rfl
    · rw [Option.bind_some, getElem?_nodes (A.size_restart.symm ▸ hk)]
      rfl

/-- **A step that is not rejected stays as it is**, and so does one that fails. -/
theorem step_restart {t : Target} {symbol : Datum}
    (kept : ∀ next, A.step t symbol = .ok next → next.target ≠ none) :
    A.restart.step t symbol = A.step t symbol := by
  cases t with
  | none => rfl
  | some i =>
    simp only [step] at kept ⊢
    obtain ⟨k, found, found'⟩ | ⟨fault, missing, missing'⟩ := A.nodeAt_restart_cases i
    · simp only [found, found', ok_bind] at kept ⊢
      cases read : Symbol.read symbol with
      | error fault => rfl
      | ok a =>
        simp only [read, ok_bind, pure_eq_ok, Except.ok.injEq, forall_eq'] at kept ⊢
        cases own : (A.node k).arc? a with
        | none =>
          rw [Node.transition, own] at kept
          exact absurd rfl kept
        | some arc => rw [Node.transition, Node.transition, restart_arc?, own, Option.some_or]
    · rw [missing, missing', error_bind]

/-- Steps from nowhere lead nowhere. -/
theorem foldlM_step_rejected (A : Automaton) (data : List Datum) {t : Transition}
    (nowhere : t.target = none) :
    ∃ last, data.foldlM (fun t a => A.step t.target a) t = .ok last ∧ last.target = none := by
  induction data generalizing t with
  | nil => exact ⟨t, rfl, nowhere⟩
  | cons a data ih =>
    have step : A.step t.target a = .ok .reject := by rw [nowhere]; rfl
    rw [List.foldlM_cons, step, ok_bind]
    exact ih rfl

theorem foldlM_step_restart {data : List Datum} {t : Transition}
    (kept : ∀ last, data.foldlM (fun t a => A.step t.target a) t = .ok last → last.target ≠ none) :
    data.foldlM (fun t a => A.restart.step t.target a) t =
      data.foldlM (fun t a => A.step t.target a) t := by
  induction data generalizing t with
  | nil => rfl
  | cons a data ih =>
    simp only [List.foldlM_cons] at kept ⊢
    have goesOn : ∀ next, A.step t.target a = .ok next → next.target ≠ none := by
      intro next step nowhere
      obtain ⟨last, run, rejected⟩ := A.foldlM_step_rejected data nowhere
      exact kept last (by rw [step, ok_bind, run]) rejected
    rw [step_restart goesOn]
    cases step : A.step t.target a with
    | error fault => rfl
    | ok next =>
      rw [step, ok_bind] at kept
      exact ih kept

/-- **A run that is not rejected stays as it is**, and so does one that fails. -/
theorem run_restart {data : List Datum} {t : Target}
    (kept : ∀ last, A.run data t = .ok last → last.target ≠ none) :
    A.restart.run data t = A.run data t :=
  foldlM_step_restart kept

/-- An automaton and what becomes of it when restart arcs are put in. -/
structure Prolonged (A B : Automaton) : Prop where
  size : B.size = A.size
  lexeme (i : Nat) : (B.node i).lexeme = (A.node i).lexeme
  symbols : B.symbols = A.symbols
  start : B.node 0 = A.node 0
  silent (i : Nat) : (A.node i).lexeme = none → B.node i = A.node i
  distinct (i : Nat) : ((B.node i).arcs.map Arc.symbol).Nodup
  kept (i : Nat) (a : Symbol) (arc : Arc) : (A.node i).arc? a = some arc →
    (B.node i).arc? a = some arc
  gained (i : Nat) (a : Symbol) (first : Arc) : (A.node i).arc? a = none →
    (A.node i).lexeme.isSome → (A.node 0).arc? a = some first →
    (B.node i).arc? a = some { first with emits := true }
  lacking (i : Nat) (a : Symbol) : (A.node i).arc? a = none →
    (A.node i).lexeme = none ∨ (A.node 0).arc? a = none → (B.node i).arc? a = none
  again : B.restartInTurn = .ok B
  /-- Whatever is read and wherever it begins. -/
  run (data : List Datum) (t : Target) : (∀ last, A.run data t = .ok last → last.target ≠ none) →
    B.run data t = A.run data t

theorem Valid.prolonged (hA : A.Valid) : A.Prolonged A.restart where
  size := A.size_restart
  lexeme := A.lexeme_node_restart
  symbols := A.symbols_restart
  start := A.node_zero_restart
  silent _ none := node_restart_of_covered (.inl none)
  distinct i := (hA.restart.node i).distinct
  kept i a arc own := by rw [restart_arc?, own, Option.some_or]
  gained i a first own accepting begins := by
    rw [restart_arc?, own, Option.none_or, if_pos accepting, begins, Option.map_some]
  lacking i a own missing := by
    rw [restart_arc?, own, Option.none_or]
    obtain silent | none := missing
    · rw [silent]
      rfl
    · rw [none, Option.map_none, ite_self]
  again := by rw [restartInTurn_eq hA.restart, restart_restart]
  run _ _ := run_restart

/-- **Restart arcs can always be put in, and change nothing else.** No call is refused that puts
them into an automaton that calls lead to. It keeps its states, lexemes and symbols and all arcs
that it had; the arcs that it gains are those of the start state, made to emit, at accepting states
that had none on their symbols. Put in again they change nothing, and a run that was not rejected
ends as before. -/
theorem restart_arcs_keep_runs (hA : A.Built) :
    ∃ B, A.restartInTurn = .ok B ∧ A.perform .restart = .ok B ∧ A.Prolonged B :=
  ⟨A.restart, restartInTurn_eq hA.valid, rfl, hA.valid.prolonged⟩

/-- After a word a blank may follow, and a word is read as before. -/
theorem restart_arcs_keep_runs_words : words.Built ∧ ∃ B, words.restartInTurn = .ok B ∧
    (B.node 1).arc? 32 = some ⟨32, 2, true, .digits, .digits⟩ ∧
    B.run [.text "a", .bytes [97]] (some 0) = .ok ⟨some 1, false⟩ := by
  obtain ⟨B, made, -, prolonged⟩ := restart_arcs_keep_runs built_words
  have word : words.run [.text "a", .bytes [97]] (some 0) = .ok ⟨some 1, false⟩ := by decide +kernel
  refine ⟨built_words, B, made, ?_, ?_⟩
  · exact prolonged.gained 1 32 ⟨32, 2, false, .digits, .digits⟩ (by decide +kernel)
      (by decide +kernel) (by decide +kernel)
  · rw [prolonged.run, word]
    intro last run
    cases word.symm.trans run
    exact Option.some_ne_none _

end ScanLexer.Automaton
