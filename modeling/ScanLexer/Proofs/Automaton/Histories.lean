import ScanLexer.Memory.Ordinary
import ScanLexer.Proofs.Automaton.Parts
import ScanLexer.Proofs.Automaton.Reading
import ScanLexer.Proofs.Contract.Checks

/-!
# Whatever is called

An automaton of some bare states is orderly after any row of calls, whether they are granted or
refused (`orderly_of_calls`): what is kept of its arcs, symbols and lexemes fits together, no arc is
lost or changed, a refused call changes nothing, and what comes out passes the checks before
compiling.
-/
namespace ScanLexer.Automaton

variable {A : Automaton} {n : Nat} {granted : List Call}

/-- What calls keep to in an automaton that began with `n` bare states. The calls listed are those
that were granted. -/
structure Orderly [Memory] (n : Nat) (granted : List Call) (A : Automaton) : Prop where
  size : A.size = n + granted.countP Call.grows
  /-- Arcs and lexemes are known for the same states. -/
  listed (i : Nat) : i < A.size ↔ A.arcsAt i = .ok (A.node i).arcs
  labelled (i : Nat) : i < A.size ↔ A.lexeme (some (i : Int)) = .ok (A.node i).lexeme
  arcs (i : Nat) : ∀ arc ∈ (A.node i).arcs, arc.symbol.val ≤ 255 ∧ arc.target < A.size
  distinct (i : Nat) : ((A.node i).arcs.map Arc.symbol).Nodup
  /-- There is one arc for all spellings of a symbol. -/
  taken (i : Nat) : ∀ arc ∈ (A.node i).arcs, ∀ source symbol target flag : Datum,
    source.integer? = some (i : Int) → Symbol.read symbol = .ok arc.symbol →
      ∃ fault, A.perform (.add source symbol target flag) = .error fault
  symbols (a : Symbol) : a ∈ A.symbols ↔ ∃ i, ∃ arc ∈ (A.node i).arcs, arc.symbol = a
  known (a : Symbol) : a ∈ A.symbols ↔ ∃ call ∈ granted, call.symbol? = some a
  step (i : Nat) : i < A.size → ∀ symbol a, Symbol.read symbol = .ok a →
    (∀ arc ∈ (A.node i).arcs, arc.symbol = a →
      A.step (some (i : Int)) symbol = .ok arc.transition) ∧
    ((∀ arc ∈ (A.node i).arcs, arc.symbol ≠ a) → A.step (some (i : Int)) symbol = .ok .reject)
  /-- Arcs stay as they are, whatever is called next. -/
  kept (calls : List Call) (i : Nat) : (A.node i).arcs <+: ((A.replay calls).node i).arcs
  refused (call : Call) (fault : Fault) : A.perform call = .error fault →
    fault.kind = .value ∧ A.after call = A
  /-- Restart arcs are the work of calls that are all granted. -/
  restarts : A.restartInTurn = .ok A.restart
  accepted : A.contract.automaton = (Memory.ask A.size (8 * 256 * A.size)).map fun _ => A
  unfailing (fault : Fault) : A.contract.automaton = .error fault → fault.kind ≠ .assertion

/-- Something about a state can be looked up exactly if there is such a state. -/
theorem lookup_eq_ok_iff {α : Type} (A : Automaton) (look : Node → α) (i : Nat) :
    i < A.size ↔ (do return look (← A.nodeAt i)) = Except.ok (look (A.node i)) := by
  constructor
  · intro hi
    rw [nodeAt_natCast hi]
    rfl
  · intro found
    obtain ⟨node, found, -⟩ := bind_eq_ok.mp found
    rw [nodeAt, orFault_eq_ok, entryAt_natCast] at found
    exact (List.getElem?_eq_some_iff.mp found).1

/-- A step follows the arc that a symbol is on, however the symbol is spelled. -/
theorem Valid.step_eq (hA : A.Valid) {i : Nat} (hi : i < A.size) {symbol : Datum} {a : Symbol}
    (read : Symbol.read symbol = .ok a) :
    (∀ arc ∈ (A.node i).arcs, arc.symbol = a →
      A.step (some (i : Int)) symbol = .ok arc.transition) ∧
    ((∀ arc ∈ (A.node i).arcs, arc.symbol ≠ a) → A.step (some (i : Int)) symbol = .ok .reject) := by
  have taken : A.step (some (i : Int)) symbol = .ok ((A.node i).transition a) := by
    simp only [Automaton.step, nodeAt_natCast hi, read, ok_bind, pure_eq_ok]
  rw [taken, Node.transition]
  constructor
  · intro arc harc on
    rw [(hA.node i).arc?_eq_some_iff.mpr ⟨harc, on⟩]
    rfl
  · intro none
    have absent : a ∉ (A.node i).arcs.map Arc.symbol := by simpa using none
    rw [Node.arc?_eq_none_iff.mpr absent]
    rfl

/-- No arc is added on a symbol that a state has one on. -/
theorem exists_refusal {i : Nat} {arc : Arc} (harc : arc ∈ (A.node i).arcs)
    {source symbol target flag : Datum} (named : source.integer? = some (i : Int))
    (read : Symbol.read symbol = .ok arc.symbol) :
    ∃ fault, A.perform (.add source symbol target flag) = .error fault := by
  cases performed : A.perform (.add source symbol target flag) with
  | error fault => exact ⟨fault, rfl⟩
  | ok B =>
    obtain ⟨j, k, a, hj, -, ha, absent, -⟩ := add_eq_ok performed
    have here : i = j := Int.ofNat.inj (Option.some.inj (named.symm.trans (state_eq_ok.mp hj).1))
    have same : arc.symbol = a := Except.ok.inj (read.symm.trans ha)
    subst here same
    exact absurd (List.mem_map_of_mem harc) (Node.arc?_eq_none_iff.mp absent)

theorem Valid.orderly [Memory] (hA : A.Valid) (size : A.size = n + granted.countP Call.grows)
    (known : ∀ a, a ∈ A.symbols ↔ ∃ call ∈ granted, call.symbol? = some a) :
    A.Orderly n granted where
  size := size
  listed i := A.lookup_eq_ok_iff Node.arcs i
  labelled i := A.lookup_eq_ok_iff Node.lexeme i
  arcs i arc harc := ⟨Nat.le_of_lt_succ arc.symbol.isLt, (hA.node i).targets arc harc⟩
  distinct i := (hA.node i).distinct
  taken i arc harc source symbol target flag named read := exists_refusal harc named read
  symbols a := mem_symbols
  known := known
  step i hi symbol a read := hA.step_eq hi read
  kept calls i := A.arcs_replay calls i
  refused call fault performed :=
    ⟨kind_of_perform performed, by rw [Automaton.after, Calls.settle_of_error performed]⟩
  restarts := restartInTurn_eq hA
  accepted := automaton_contract hA
  unfailing fault failed := by
    rw [automaton_contract hA, map_eq_error] at failed
    obtain overflow | memory := Memory.kind_of_ask failed
    · rw [overflow]
      decide
    · rw [memory]
      decide

/-- **Automata are orderly,** whatever is called, and so are the parts that they are kept in. -/
theorem orderly_of_calls [Memory] {n : Int} (positive : 1 ≤ n) :
    ∃ p A, Parts.ofSize n = .ok p ∧ ofSize n = .ok A ∧ ∀ calls,
      p.granted calls = A.granted calls ∧ (p.replay calls).Consistent (A.replay calls) ∧
      (A.replay calls).Orderly n.toNat (A.granted calls) := by
  obtain ⟨p, A, parts, made, mirrors⟩ := Parts.mirrors_ofSize positive
  have bare : A = ⟨List.replicate n.toNat (.bare none)⟩ := by
    rw [ofSize, if_neg (by omega)] at made
    exact (Except.ok.inj made).symm
  have none (a : Symbol) : a ∉ A.symbols := by
    subst bare
    simp [symbols, Node.arc?, Node.bare]
  refine ⟨p, A, parts, made, ?_⟩
  intro calls
  obtain ⟨granted, kept⟩ := mirrors.replay calls
  refine ⟨granted, kept.consistent, kept.valid.orderly ?_ ?_⟩
  · rw [size_replay, bare, Automaton.size, List.length_replicate]
  · intro a
    rw [mem_symbols_replay, or_iff_right (none a)]

/-- Two of six calls are refused: a letter that has an arc is spelled in another way, and there is
no state five. Restart arcs give the accepting state an arc on the letter. -/
theorem orderly_of_calls_restarted :
    (1 : Int) ≤ 2 ∧ ∃ p A, Parts.ofSize 2 = .ok p ∧ ofSize 2 = .ok A ∧
      let first := Call.add (.int 0) (.bytes [97]) (.int 1) (.bool true)
      let label := Call.setLexeme (.bool true) (Sample.token "a")
      let calls := [first, .add (.int 0) (.int 97) (.int 0) .null, label,
        .add (.int 5) (.int 98) (.int 1) .null, .restart, .addState none]
      p.replay calls = ⟨[[⟨97, 1, true, .digits, .digits⟩], [⟨97, 1, true, .digits, .digits⟩], []],
        [none, Sample.token "a", none], [97]⟩ ∧
      A.replay calls = ⟨[⟨[⟨97, 1, true, .digits, .digits⟩], none⟩,
        ⟨[⟨97, 1, true, .digits, .digits⟩], Sample.token "a"⟩, .bare none]⟩ ∧
      A.granted calls = [first, label, .restart, .addState none] ∧
      (p.replay calls).Consistent (A.replay calls) ∧
      (A.replay calls).Orderly 2 (A.granted calls) := by
  obtain ⟨p, A, parts, made, orderly⟩ := orderly_of_calls (n := 2) (by decide)
  cases parts
  cases made
  exact ⟨by decide, _, _, rfl, rfl, by decide +kernel, by decide +kernel, rfl, (orderly _).2⟩

end ScanLexer.Automaton
