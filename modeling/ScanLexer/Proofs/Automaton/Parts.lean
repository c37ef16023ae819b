import ScanLexer.Automaton.Parts
import ScanLexer.Proofs.Automaton.Restarting

/-!
# An automaton kept in parts

The arcs, the lexemes and the symbols on arcs are changed one after another. They stay in step with
an automaton (`Mirrors`): what a call makes of the parts is what it makes of the automaton, and a
refused call has left all of them as they were (`follows_method`). So lexemes are kept for the
states that arcs are kept for, and the symbols known are those on arcs, whatever is called
(`Mirrors.consistent`).
-/
namespace ScanLexer.Automaton

section
variable {α β : Type} {f : α → β} {change : α → α}

/-- Changing an entry of a row changes the entry of what the row is mapped to. -/
theorem map_modify {g : β → β} (same : ∀ a, f (change a) = g (f a)) (row : List α) (i : Nat) :
    (row.modify i change).map f = (row.map f).modify i g := by
  apply List.ext_getElem?
  intro k
  simp only [List.getElem?_map, List.getElem?_modify]
  split <;> cases row[k]? <;> simp [same]

theorem map_modify_of_eq (same : ∀ a, f (change a) = f a) (row : List α) (i : Nat) :
    (row.modify i change).map f = row.map f := by
  rw [map_modify (g := id) same, List.modify_id]

end

namespace Parts

open Method

/-- Parts that hold what an automaton holds. -/
structure Mirrors (p : Parts) (A : Automaton) : Prop where
  arcs : p.arcs = A.nodes.map Node.arcs
  lexemes : p.lexemes = A.nodes.map Node.lexeme
  known (a : Symbol) : a ∈ p.known ↔ a ∈ A.symbols
  valid : A.Valid

/-- Steps that make of parts what is made of the automaton that they hold, or leave them as they
were where nothing is made of it. -/
structure Follows (m : Method Parts Unit) (make : Automaton → Except Fault Automaton) : Prop where
  made {p : Parts} {A B : Automaton} : p.Mirrors A → make A = .ok B →
    ∃ q, outcome m p = (q, .ok ()) ∧ q.Mirrors B
  refused {p : Parts} {A : Automaton} {fault : Fault} : p.Mirrors A → make A = .error fault →
    outcome m p = (p, .error fault)

section
variable {p : Parts} {A B : Automaton}

theorem Mirrors.length (h : p.Mirrors A) : p.arcs.length = A.size := by
  rw [h.arcs, List.length_map, size]

theorem Mirrors.paired (h : p.Mirrors A) : p.arcs.length = p.lexemes.length := by
  rw [h.arcs, h.lexemes, List.length_map, List.length_map]

theorem Mirrors.state (h : p.Mirrors A) (d : Datum) :
    outcome (Parts.state d) p = (p, A.state d) := by
  rw [Parts.state, outcome_now_bind, outcome_demand, h.length]
  rfl

theorem Mirrors.arcsOf (h : p.Mirrors A) {i : Nat} (hi : i < A.size) :
    outcome (Parts.arcsOf i) p = (p, .ok (A.node i).arcs) := by
  rw [Parts.arcsOf, outcome_now_bind, outcome_demand, h.arcs, List.getElem?_map, getElem?_nodes hi]
  rfl

theorem Mirrors.lexemeOf (h : p.Mirrors A) {i : Nat} (hi : i < A.size) :
    outcome (Parts.lexemeOf i) p = (p, .ok (A.node i).lexeme) := by
  rw [Parts.lexemeOf, outcome_now_bind, outcome_demand, h.lexemes, List.getElem?_map,
    getElem?_nodes hi]
  rfl

theorem offers_arcs (node : Node) (a : Symbol) : offers node.arcs a = (node.arc? a).isSome := rfl

/-- The symbols known stay those on arcs if a granted call changes them as it does the arcs. -/
theorem Mirrors.of_perform (h : p.Mirrors A) (call : Call) (performed : A.perform call = .ok B)
    {q : Parts} (arcs : q.arcs = B.nodes.map Node.arcs)
    (lexemes : q.lexemes = B.nodes.map Node.lexeme)
    (known : ∀ a, a ∈ q.known ↔ a ∈ p.known ∨ call.symbol? = some a) : q.Mirrors B where
  arcs := arcs
  lexemes := lexemes
  known a := by rw [known, h.known, mem_symbols_of_perform performed]
  valid := h.valid.perform performed

/-- Where no arc is made, nothing is changed. Where one is made, it is put in, and nothing else is
changed before. -/
theorem Mirrors.add (h : p.Mirrors A) (source symbol target : Datum) (emits : Bool) :
    (∃ fault, A.add source symbol target emits = .error fault ∧
      outcome (Parts.add source symbol target emits) p = (p, .error fault)) ∨
    ∃ i arc, A.add source symbol target emits = .ok (A.extend i arc) ∧
      Symbol.read symbol = .ok arc.symbol ∧
      outcome (Parts.add source symbol target emits) p = outcome (put i arc) p := by
  unfold Parts.add Automaton.add
  rw [outcome_bind_of_kept (h.state source)]
  cases hi : A.state source with
  | error fault => exact .inl ⟨fault, rfl, rfl⟩
  | ok i =>
    rw [outcome_ok_bind, ok_bind, outcome_bind_of_kept (h.state target)]
    cases A.state target with
    | error fault => exact .inl ⟨fault, rfl, rfl⟩
    | ok j =>
      rw [outcome_ok_bind, ok_bind]
      cases Symbol.read symbol with
      | error fault => exact .inl ⟨fault, rfl, rfl⟩
      | ok a =>
        rw [outcome_ok_bind, ok_bind, outcome_bind_of_ok (h.arcsOf (state_eq_ok.mp hi).2),
          offers_arcs]
        cases (A.node i).arc? a with
        | some arc => exact .inl ⟨_, rfl, rfl⟩
        | none => exact .inr ⟨i, _, rfl, rfl, rfl⟩

end

/-! ## One call -/

theorem follows_addState (lexeme : Option Lexeme) :
    Follows (addState lexeme) fun A => .ok (A.addState lexeme) where
  made {p A B} h performed := by
    cases performed
    refine ⟨⟨p.arcs ++ [[]], p.lexemes ++ [lexeme], p.known⟩, rfl, ?_⟩
    apply h.of_perform (.addState lexeme) rfl
    · simp [Automaton.addState, h.arcs, Node.bare]
    · simp [Automaton.addState, h.lexemes, Node.bare]
    · simp [Call.symbol?]
  refused h failed := by contradiction

theorem follows_add (source symbol target : Datum) (emits : Bool) :
    Follows (add source symbol target emits) fun A => A.add source symbol target emits where
  made {p A B} h performed := by
    obtain ⟨fault, failed, -⟩ | ⟨i, arc, extended, read, put⟩ := h.add source symbol target emits
    · rw [failed] at performed
      contradiction
    · refine ⟨⟨p.arcs.modify i fun row => row ++ [arc], p.lexemes, p.known.insert arc.symbol⟩, put,
        ?_⟩
      cases extended.symm.trans performed
      apply h.of_perform (.add source symbol target (.bool emits)) performed
      · rw [h.arcs]
        refine (map_modify ?_ A.nodes i).symm
        exact fun _ => rfl
      · rw [h.lexemes]
        refine (map_modify_of_eq ?_ A.nodes i).symm
        exact fun _ => rfl
      · intro a
        have own : Symbol.ofDatum? symbol = some arc.symbol := orFault_eq_ok.mp read
        rw [List.mem_insert_iff, Call.symbol?, own, Option.some.injEq, or_comm, eq_comm]
  refused {p A fault} h failed := by
    obtain ⟨other, refused, left⟩ | ⟨i, arc, extended, -⟩ := h.add source symbol target emits
    · rw [left, Except.error.inj (refused.symm.trans failed)]
    · rw [extended] at failed
      contradiction

theorem follows_setLexeme (source : Datum) (lexeme : Option Lexeme) :
    Follows (setLexeme source lexeme) fun A => A.setLexeme source lexeme where
  made {p A B} h performed := by
    obtain ⟨i, hi, changed⟩ := bind_eq_ok.mp performed
    have inside : i < p.lexemes.length := by
      rw [← h.paired, h.length]
      exact (state_eq_ok.mp hi).2
    rw [setLexeme, outcome_bind_of_kept (h.state source), hi, outcome_ok_bind, outcome_now_bind,
      if_pos inside]
    refine ⟨⟨p.arcs, p.lexemes.modify i fun _ => lexeme, p.known⟩, rfl, ?_⟩
    cases changed
    apply h.of_perform (.setLexeme source lexeme) performed
    · rw [h.arcs]
      refine (map_modify_of_eq ?_ A.nodes i).symm
      exact fun _ => rfl
    · rw [h.lexemes]
      refine (map_modify ?_ A.nodes i).symm
      exact fun _ => rfl
    · simp [Call.symbol?]
  refused {p A fault} h failed := by
    obtain bad | ⟨i, -, changed⟩ := bind_eq_error.mp failed
    · rw [setLexeme, outcome_bind_of_kept (h.state source), bad, outcome_error_bind]
    · contradiction

/-! ## Restart arcs -/

section
variable {p : Parts} {A B : Automaton}

/-- Steps made in turn make of the parts what is made of the automaton in turn, if each of them does
and keeps the number of states. -/
theorem Mirrors.forM {α : Type} {step : α → Method Parts Unit}
    {make : Automaton → α → Except Fault Automaton} {n : Nat} {xs : List α}
    (each : ∀ x ∈ xs, ∀ {p A B}, p.Mirrors A → A.size = n → make A x = .ok B →
      B.size = n ∧ ∃ q, outcome (step x) p = (q, .ok ()) ∧ q.Mirrors B)
    (h : p.Mirrors A) (size : A.size = n) (run : xs.foldlM make A = .ok B) :
    B.size = n ∧ ∃ q, outcome (xs.forM step) p = (q, .ok ()) ∧ q.Mirrors B := by
  induction xs generalizing p A with
  | nil =>
    cases run
    exact ⟨size, p, rfl, h⟩
  | cons x xs ih =>
    rw [List.foldlM_cons] at run
    obtain ⟨C, first, run⟩ := bind_eq_ok.mp run
    obtain ⟨same, q, stepped, mirrors⟩ := each x List.mem_cons_self h size first
    obtain ⟨last, r, others, kept⟩ :=
      ih (fun y hy => each y (List.mem_cons_of_mem x hy)) mirrors same run
    exact ⟨last, r, (outcome_bind_of_ok stepped _).trans others, kept⟩

theorem Mirrors.restartArc (h : p.Mirrors A) {i : Nat} (hi : i < A.size) {arc : Arc}
    (made : Automaton.restartArc i A arc = .ok B) :
    B.size = A.size ∧ ∃ q, outcome (Parts.restartArc i arc) p = (q, .ok ()) ∧ q.Mirrors B := by
  rw [Parts.restartArc, outcome_bind_of_ok (h.arcsOf hi), offers_arcs]
  unfold Automaton.restartArc at made
  cases found : (A.node i).arc? arc.symbol with
  | some own =>
    rw [found] at made
    cases made
    exact ⟨rfl, p, rfl, h⟩
  | none =>
    rw [found] at made
    have performed : A.perform (.add (.int i) (.ofNumeral arc.label) (.ofNumeral arc.destination)
        (.bool true)) = .ok B := made
    exact ⟨size_of_perform performed, (follows_add _ _ _ true).made h made⟩

theorem Mirrors.restartState (h : p.Mirrors A) {i : Nat} (hi : i < A.size) {start : List Arc}
    (made : Automaton.restartState start A i = .ok B) :
    B.size = A.size ∧ ∃ q, outcome (Parts.restartState start i) p = (q, .ok ()) ∧ q.Mirrors B := by
  rw [Parts.restartState, outcome_bind_of_ok (h.lexemeOf hi)]
  unfold Automaton.restartState at made
  cases accepts : (A.node i).lexeme.isSome with
  | false =>
    rw [accepts] at made
    cases made
    exact ⟨rfl, p, rfl, h⟩
  | true =>
    rw [accepts] at made
    refine h.forM ?_ rfl made
    intro arc _ p' A' B' h' size made'
    obtain ⟨same, led⟩ := h'.restartArc (size ▸ hi) made'
    exact ⟨same.trans size, led⟩

end

theorem follows_restart : Follows restart fun A => .ok A.restart where
  made {p A B} h performed := by
    cases performed
    have first := h.arcsOf h.valid.start
    rw [restart, outcome_bind_of_ok first, outcome_now_bind, h.length]
    refine (h.forM ?_ rfl (restartInTurn_eq h.valid)).2
    intro i hi p' A' B' h' size made
    obtain ⟨same, led⟩ := h'.restartState (size ▸ List.mem_range.mp hi) made
    exact ⟨same.trans size, led⟩
  refused h failed := by contradiction

/-! ## Rows of calls -/

/-- The steps of a call. -/
def method : Call → Method Parts Unit
  | .addState lexeme => addState lexeme
  | .add source symbol target flag => add source symbol target flag.truth
  | .setLexeme source lexeme => setLexeme source lexeme
  | .restart => restart

/-- **Parts follow the automaton that they hold** in every call. -/
theorem follows_method (call : Call) : Follows (method call) fun A => A.perform call := by
  cases call with
  | addState lexeme => exact follows_addState lexeme
  | add source symbol target flag => exact follows_add source symbol target flag.truth
  | setLexeme source lexeme => exact follows_setLexeme source lexeme
  | restart => exact follows_restart

def perform (p : Parts) (call : Call) : Parts × Except Fault Unit := outcome (method call) p

def replay (p : Parts) (calls : List Call) : Parts := Calls.replay perform p calls

/-- Those of the calls that are granted when they are made in turn. -/
def granted (p : Parts) (calls : List Call) : List Call := Calls.granted perform p calls

section
variable {p : Parts} {A : Automaton}

theorem mirrors_ofSize {n : Int} (positive : 1 ≤ n) :
    ∃ p A, ofSize n = .ok p ∧ Automaton.ofSize n = .ok A ∧ p.Mirrors A := by
  have small : ¬ n < 1 := by omega
  have made : Automaton.ofSize n = .ok ⟨List.replicate n.toNat (.bare none)⟩ := if_neg small
  refine ⟨_, _, if_neg small, made, ?_, ?_, ?_, valid_ofSize made⟩
  · simp [Node.bare]
  · simp [Node.bare]
  · simp [symbols, Node.arc?, Node.bare]

/-- A call is granted by both or refused by both, and leaves them in step. -/
theorem Mirrors.step (h : p.Mirrors A) (call : Call) :
    (p.perform call).2.isOk = (Calls.settle Automaton.perform A call).2.isOk ∧
      (p.perform call).1.Mirrors (Calls.settle Automaton.perform A call).1 := by
  cases performed : A.perform call with
  | ok B =>
    obtain ⟨q, made, mirrors⟩ := (follows_method call).made h performed
    rw [perform, made, Calls.settle_of_ok performed]
    exact ⟨rfl, mirrors⟩
  | error fault =>
    rw [perform, (follows_method call).refused h performed, Calls.settle_of_error performed]
    exact ⟨rfl, h⟩

theorem Mirrors.replay (h : p.Mirrors A) (calls : List Call) :
    p.granted calls = A.granted calls ∧ (p.replay calls).Mirrors (A.replay calls) :=
  Calls.granted_inStep (fun _ _ call mirrors => mirrors.step call) h calls

/-- What the parts of an automaton keep to, whatever is called. -/
structure Consistent (p : Parts) (A : Automaton) : Prop where
  arcs : p.arcs = A.nodes.map Node.arcs
  lexemes : p.lexemes = A.nodes.map Node.lexeme
  /-- There is a lexeme for each row of arcs. -/
  paired : p.arcs.length = p.lexemes.length
  known (a : Symbol) : a ∈ p.known ↔ ∃ row ∈ p.arcs, ∃ arc ∈ row, arc.symbol = a
  answers (call : Call) : (p.perform call).2 = (A.perform call).map fun _ => ()
  /-- A refused call was given a bad value, and has changed none of the parts. -/
  refused (call : Call) (fault : Fault) : (p.perform call).2 = .error fault →
    fault.kind = .value ∧ (p.perform call).1 = p

theorem Mirrors.consistent (h : p.Mirrors A) : p.Consistent A where
  arcs := h.arcs
  lexemes := h.lexemes
  paired := h.paired
  known a := by
    rw [h.known, mem_symbols_iff_nodes, h.arcs]
    simp
  answers call := by
    cases performed : A.perform call with
    | ok B =>
      obtain ⟨q, made, -⟩ := (follows_method call).made h performed
      rw [perform, made]
      rfl
    | error fault =>
      rw [perform, (follows_method call).refused h performed]
      rfl
  refused call fault failed := by
    cases performed : A.perform call with
    | ok B =>
      obtain ⟨q, made, -⟩ := (follows_method call).made h performed
      rw [perform, made] at failed
      contradiction
    | error other =>
      have left := (follows_method call).refused h performed
      rw [perform, left] at failed ⊢
      cases failed
      exact ⟨kind_of_perform performed, rfl⟩

/-- A lexeme is replaced only where there is one, whatever arcs are kept. -/
example :
    ((⟨[[]], [], []⟩ : Parts).perform (.setLexeme (.int 0) none)).2 = .error .noListPlace := by
  decide

end

end Parts

end ScanLexer.Automaton
