import ScanLexer.Proofs.Automaton.Cutting
import ScanLexer.Proofs.Automaton.Spelling

/-!
# Arcs on spelled bytes

Values are an alphabet if each of them spells a byte and no two of them the same one. An arc is
granted to a state for a value that spells a byte on which the state has none, and refused for any
other value (`add_spelled`, `add_unspelled`). The steps that a state offers are known from those
that it offered before, whether it was given one arc (`step?_extend`) or all restart arcs
(`step?_restart`).
-/
namespace ScanLexer

namespace Symbol

/-- A byte is spelled by one of some values. -/
def Listed (ds : List Datum) (a : Symbol) : Prop := ∃ d ∈ ds, Spells d a

instance (ds : List Datum) (a : Symbol) : Decidable (Listed ds a) :=
  decidable_of_iff (∃ d ∈ ds, ofDatum? d = some a) (by simp only [Listed, ofDatum?_eq_some_iff])

/-- The bytes of a text. A character that is no byte is left out. -/
def ofText (text : String) : List Symbol := text.toList.filterMap fun c => ofInt? c.toNat

/-- A value spells at most one byte. -/
theorem Spells.unique {d : Datum} {a b : Symbol} (ha : Spells d a) (hb : Spells d b) : a = b :=
  Option.some.inj ((ofDatum?_eq_some_iff.mpr ha).symm.trans (ofDatum?_eq_some_iff.mpr hb))

/-- Values that spell bytes, no two of them the same one. -/
structure Alphabet (ds : List Datum) : Prop where
  spelled : ∀ d ∈ ds, ∃ a, Spells d a
  distinct : ds.Pairwise fun d e => ∀ a, ¬ (Spells d a ∧ Spells e a)

theorem alphabet_nil : Alphabet [] := ⟨nofun, .nil⟩

/-- One more value has to spell a byte that is not listed yet. -/
theorem alphabet_concat {ds : List Datum} {d : Datum} :
    Alphabet (ds ++ [d]) ↔ Alphabet ds ∧ ∃ a, Spells d a ∧ ¬ Listed ds a := by
  constructor
  · rintro ⟨spelled, distinct⟩
    obtain ⟨before, -, apart⟩ := List.pairwise_append.mp distinct
    obtain ⟨a, ha⟩ := spelled d (by simp)
    refine ⟨⟨fun e he => spelled e (by simp [he]), before⟩, a, ha, ?_⟩
    rintro ⟨e, he, same⟩
    exact apart e he d (List.mem_singleton_self d) a ⟨same, ha⟩
  · rintro ⟨⟨spelled, distinct⟩, a, ha, new⟩
    refine ⟨?_, List.pairwise_append.mpr ⟨distinct, List.pairwise_singleton _ d, ?_⟩⟩
    · intro e he
      obtain old | last := List.mem_append.mp he
      · exact spelled e old
      · exact ⟨a, List.mem_singleton.mp last ▸ ha⟩
    · intro e he f hf b both
      obtain rfl := List.mem_singleton.mp hf
      obtain rfl := ha.unique both.2
      exact new ⟨e, he, both.1⟩

/-- Values are no alphabet if one spells no byte, or if two of them spell the same one. -/
theorem not_alphabet_iff {ds : List Datum} : ¬ Alphabet ds ↔ (∃ d ∈ ds, ∀ a, ¬ Spells d a) ∨
    ∃ (i j : Nat) (d e : Datum) (a : Symbol), i < j ∧ ds[i]? = some d ∧ ds[j]? = some e ∧
      Spells d a ∧ Spells e a := by
  constructor
  · intro none
    by_contra good
    rw [not_or] at good
    obtain ⟨spelled, twice⟩ := good
    refine none ⟨by simpa using spelled, List.pairwise_iff_getElem.mpr ?_⟩
    intro i j hi hj less a both
    exact twice
      ⟨i, j, _, _, a, less, List.getElem?_eq_getElem hi, List.getElem?_eq_getElem hj, both⟩
  · rintro (⟨d, hd, none⟩ | ⟨i, j, d, e, a, less, hd, he, both⟩) alphabet
    · obtain ⟨a, ha⟩ := alphabet.spelled d hd
      exact none a ha
    · obtain ⟨hi, rfl⟩ := List.getElem?_eq_some_iff.mp hd
      obtain ⟨hj, rfl⟩ := List.getElem?_eq_some_iff.mp he
      exact List.pairwise_iff_getElem.mp alphabet.distinct i j hi hj less a both

end Symbol

/-- The step on a symbol, if the state has an arc on it. -/
def Node.step? (node : Node) (a : Symbol) : Option Transition := (node.arc? a).map Arc.transition

theorem Node.transition_eq_getD (node : Node) (a : Symbol) :
    node.transition a = (node.step? a).getD .reject := rfl

namespace Automaton

variable {A B : Automaton}

section
variable {source symbol target : Datum} {emits : Bool}

theorem Built.add (hA : A.Built) (granted : A.add source symbol target emits = .ok B) :
    B.Built := by
  have performed : A.perform (.add source symbol target (.bool emits)) = .ok B := granted
  have built := hA.call (.add source symbol target (.bool emits))
  rwa [Automaton.after, Calls.settle_of_ok performed] at built

theorem kind_of_add {fault : Fault} (refused : A.add source symbol target emits = .error fault) :
    fault.kind = .value := by
  have performed : A.perform (.add source symbol target (.bool emits)) = .error fault := refused
  exact kind_of_perform performed

end

section
variable {i j : Nat} {d : Datum} {a : Symbol}

/-- A value that spells no byte is refused. -/
theorem add_unspelled (hi : i < A.size) (hj : j < A.size) (unspelled : ∀ a, ¬ Symbol.Spells d a)
    (emits : Bool) : A.add (.int i) d (.int j) emits = .error .notASymbol := by
  have source : A.state (.int i) = .ok i := state_eq_ok.mpr ⟨rfl, hi⟩
  have target : A.state (.int j) = .ok j := state_eq_ok.mpr ⟨rfl, hj⟩
  simp only [add, source, target, Symbol.read, Symbol.ofDatum?_eq_none_iff.mpr unspelled, ok_bind]
  rfl

/-- A second arc on a symbol is refused, and a first one is granted. -/
theorem add_spelled (hi : i < A.size) (hj : j < A.size) (spelled : Symbol.Spells d a)
    (emits : Bool) :
    A.add (.int i) d (.int j) emits =
      if ((A.node i).arc? a).isNone then .ok (A.extend i ⟨a, j, emits, d.style, .digits⟩)
      else .error (.arcExists (Datum.int i).printed (Numeral.printed ⟨a.val, d.style⟩)) := by
  have source : A.state (.int i) = .ok i := state_eq_ok.mpr ⟨rfl, hi⟩
  have target : A.state (.int j) = .ok j := state_eq_ok.mpr ⟨rfl, hj⟩
  have read : Symbol.read d = .ok a := orFault_eq_ok.mpr (Symbol.ofDatum?_eq_some_iff.mpr spelled)
  simp only [add, source, target, read, ok_bind]
  cases (A.node i).arc? a <;> rfl

end

/-- A state that is given an arc on a new symbol offers that step too. -/
theorem step?_extend {i : Nat} (hi : i < A.size) {arc : Arc}
    (absent : (A.node i).arc? arc.symbol = none) (k : Nat) (b : Symbol) :
    ((A.extend i arc).node k).step? b =
      if k = i ∧ b = arc.symbol then some arc.transition else (A.node k).step? b := by
  rw [A.node_extend hi]
  by_cases here : k = i
  · subst here
    simp only [if_true, true_and, Node.step?, Node.arc?, List.find?_append]
    by_cases same : b = arc.symbol
    · subst same
      have none : (A.node k).arcs.find? (·.symbol = arc.symbol) = none := absent
      simp [none]
    · simp [same, Ne.symm same]
  · simp [here]

/-- With restart arcs an accepting state offers its own steps and, on other symbols, those of the
start state, made to emit. -/
theorem step?_restart (A : Automaton) (i : Nat) (a : Symbol) : (A.restart.node i).step? a =
    ((A.node i).step? a).or (if (A.node i).lexeme.isSome then
      ((A.node 0).step? a).map fun t => { t with emits := true } else none) := by
  rw [Node.step?, restart_arc?, Option.map_or]
  congr 1
  split
  next => simp only [Node.step?, Option.map_map]; rfl
  next => rfl

end Automaton

end ScanLexer
