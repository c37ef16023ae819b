import ScanLexer.Proofs.Automaton.Growing

/-!
# Arcs in another order

Two automata are shuffled if they have the same states and each state has the same arcs, in any
order. Shuffled automata grant the same additions and stay shuffled (`Shuffled.add`), and two
additions may change places (`addTo_addTo`). So a row of additions that are all granted may be made
in any order (`foldlM_addTo_perm`).
-/
namespace ScanLexer

/-- The step on a symbol does not depend on the order of arcs, if no two of them are on one
symbol. -/
theorem Node.arc?_of_perm {node other : Node} (distinct : (node.arcs.map Arc.symbol).Nodup)
    (same : node.arcs.Perm other.arcs) (a : Symbol) : node.arc? a = other.arc? a := by
  have distinct' : (other.arcs.map Arc.symbol).Nodup := (same.map Arc.symbol).nodup_iff.mp distinct
  apply Option.ext
  intro arc
  rw [arc?_eq_some_iff_of_nodup distinct, arc?_eq_some_iff_of_nodup distinct', same.mem_iff]

namespace Automaton

theorem arcs_extend {A : Automaton} {i : Nat} (hi : i < A.size) {arc : Arc} {k : Nat} :
    ((A.extend i arc).node k).arcs = (A.node k).arcs ++ if k = i then [arc] else [] := by
  rw [node_extend A hi]
  split
  next here => rw [here]
  next => rw [List.append_nil]

theorem lexeme_extend {A : Automaton} {i : Nat} (hi : i < A.size) {arc : Arc} {k : Nat} :
    ((A.extend i arc).node k).lexeme = (A.node k).lexeme := by
  rw [node_extend A hi]
  split
  next here => rw [here]
  next => rfl

/-- The same automaton but for the order of arcs. -/
structure Shuffled (A B : Automaton) : Prop where
  size : A.size = B.size
  arcs (k : Nat) : (A.node k).arcs.Perm (B.node k).arcs
  lexeme (k : Nat) : (A.node k).lexeme = (B.node k).lexeme

namespace Shuffled

variable {A B C : Automaton}

theorem refl (A : Automaton) : A.Shuffled A := ⟨rfl, fun _ => .rfl, fun _ => rfl⟩

theorem trans (h : A.Shuffled B) (h' : B.Shuffled C) : A.Shuffled C :=
  ⟨h.size.trans h'.size, fun k => (h.arcs k).trans (h'.arcs k),
    fun k => (h.lexeme k).trans (h'.lexeme k)⟩

theorem extend (h : A.Shuffled B) {i : Nat} (hi : i < A.size) (arc : Arc) :
    (A.extend i arc).Shuffled (B.extend i arc) := by
  have hi' : i < B.size := h.size ▸ hi
  refine ⟨?_, ?_, ?_⟩
  · rw [size_extend, size_extend, h.size]
  · intro k
    rw [arcs_extend hi, arcs_extend hi']
    exact (h.arcs k).append_right _
  · intro k
    rw [lexeme_extend hi, lexeme_extend hi', h.lexeme]

/-- Two arcs may be put behind the others in either order. -/
theorem extend_extend {i j : Nat} (hi : i < A.size) (hj : j < A.size) (x y : Arc) :
    ((A.extend i x).extend j y).Shuffled ((A.extend j y).extend i x) := by
  have hi' : i < (A.extend j y).size := by rwa [size_extend]
  have hj' : j < (A.extend i x).size := by rwa [size_extend]
  refine ⟨by simp only [size_extend], ?_, ?_⟩
  · intro k
    rw [arcs_extend hj', arcs_extend hi, arcs_extend hi', arcs_extend hj, List.append_assoc,
      List.append_assoc]
    exact List.perm_append_comm.append_left _
  · intro k
    rw [lexeme_extend hj', lexeme_extend hi, lexeme_extend hi', lexeme_extend hj]

end Shuffled

/-- What a call to `add` is given. -/
structure Addition where
  source : Datum
  symbol : Datum
  target : Datum
  flag : Datum

def Addition.addTo (A : Automaton) (x : Addition) : Except Fault Automaton :=
  A.add x.source x.symbol x.target x.flag.truth

/-- An addition is granted if its states and its symbol are read and the state has no arc on the
symbol. -/
theorem addTo_eq_ok {A B : Automaton} {x : Addition} : x.addTo A = .ok B ↔
    ∃ i arc, A.state x.source = .ok i ∧ A.state x.target = .ok arc.target ∧
      Symbol.read x.symbol = .ok arc.symbol ∧ (A.node i).arc? arc.symbol = none ∧
      arc = ⟨arc.symbol, arc.target, x.flag.truth, x.symbol.style, x.target.style⟩ ∧
      B = A.extend i arc := by
  constructor
  · intro added
    obtain ⟨i, j, a, source, target, read, absent, rfl⟩ := add_eq_ok added
    exact ⟨i, _, source, target, read, absent, rfl, rfl⟩
  · rintro ⟨i, arc, source, target, read, absent, made, rfl⟩
    rw [Addition.addTo, add, source, target, read, ok_bind, ok_bind, ok_bind, absent, made]
    rfl

theorem state_of_size {A B : Automaton} (same : A.size = B.size) (d : Datum) :
    A.state d = B.state d := by
  simp only [state, same]

/-- Shuffled automata grant the same additions. -/
theorem Shuffled.addTo {A B A' : Automaton} (h : A.Shuffled B) {x : Addition}
    (added : x.addTo A = .ok A') : ∃ B', x.addTo B = .ok B' ∧ A'.Shuffled B' := by
  obtain ⟨i, arc, source, target, read, absent, made, rfl⟩ := addTo_eq_ok.mp added
  have absent' : (B.node i).arc? arc.symbol = none := by
    rw [Node.arc?_eq_none_iff] at absent ⊢
    rwa [← ((h.arcs i).map Arc.symbol).mem_iff]
  rw [state_of_size h.size] at source target
  refine ⟨_, addTo_eq_ok.mpr ⟨i, arc, source, target, read, absent', made, rfl⟩, ?_⟩
  exact h.extend (h.size ▸ (state_eq_ok.mp source).2) arc

theorem arc?_extend_eq_none_iff {A : Automaton} {i k : Nat} (hi : i < A.size) {arc : Arc}
    {a : Symbol} :
    ((A.extend i arc).node k).arc? a = none ↔
      (A.node k).arc? a = none ∧ (k = i → arc.symbol ≠ a) := by
  rw [Node.arc?_eq_none_iff, Node.arc?_eq_none_iff, arcs_extend hi]
  by_cases here : k = i <;> simp [here, eq_comm]

/-- Two additions that are granted may change places. -/
theorem addTo_addTo {A B C : Automaton} {x y : Addition} (first : x.addTo A = .ok B)
    (second : y.addTo B = .ok C) :
    ∃ B' C', y.addTo A = .ok B' ∧ x.addTo B' = .ok C' ∧ C.Shuffled C' := by
  obtain ⟨i, arc, source, target, read, absent, made, rfl⟩ := addTo_eq_ok.mp first
  obtain ⟨j, arc', source', target', read', absent', made', rfl⟩ := addTo_eq_ok.mp second
  have hi := (state_eq_ok.mp source).2
  rw [state_of_size (A.size_extend i arc)] at source' target'
  have hj := (state_eq_ok.mp source').2
  obtain ⟨bare, apart⟩ := (arc?_extend_eq_none_iff hi).mp absent'
  rw [← state_of_size (A.size_extend j arc')] at source target
  have absent'' : ((A.extend j arc').node i).arc? arc.symbol = none :=
    (arc?_extend_eq_none_iff hj).mpr ⟨absent, fun here => (apart here.symm).symm⟩
  exact ⟨_, _, addTo_eq_ok.mpr ⟨j, arc', source', target', read', bare, made', rfl⟩,
    addTo_eq_ok.mpr ⟨i, arc, source, target, read, absent'', made, rfl⟩,
    Shuffled.extend_extend hi hj arc arc'⟩

theorem Shuffled.foldlM_addTo {adds : List Addition} {A B A' : Automaton} (h : A.Shuffled B)
    (granted : adds.foldlM Addition.addTo A = .ok A') :
    ∃ B', adds.foldlM Addition.addTo B = .ok B' ∧ A'.Shuffled B' := by
  induction adds generalizing A B with
  | nil =>
    cases granted
    exact ⟨B, rfl, h⟩
  | cons x adds ih =>
    obtain ⟨A₁, added, granted⟩ := bind_eq_ok.mp granted
    obtain ⟨B₁, added', h'⟩ := h.addTo added
    obtain ⟨B', rest, last⟩ := ih h' granted
    exact ⟨B', bind_eq_ok.mpr ⟨B₁, added', rest⟩, last⟩

/-- **Additions may be made in any order** if all of them are granted in one. -/
theorem foldlM_addTo_perm {adds adds' : List Addition} (same : adds.Perm adds') {A B : Automaton}
    (granted : adds.foldlM Addition.addTo A = .ok B) :
    ∃ B', adds'.foldlM Addition.addTo A = .ok B' ∧ B.Shuffled B' := by
  induction same generalizing A B with
  | nil => exact ⟨B, granted, .refl B⟩
  | cons x _ ih =>
    obtain ⟨A₁, added, granted⟩ := bind_eq_ok.mp granted
    obtain ⟨B', rest, last⟩ := ih granted
    exact ⟨B', bind_eq_ok.mpr ⟨A₁, added, rest⟩, last⟩
  | swap x y adds =>
    obtain ⟨A₁, first, granted⟩ := bind_eq_ok.mp granted
    obtain ⟨A₂, second, granted⟩ := bind_eq_ok.mp granted
    obtain ⟨C₁, C₂, swapped, swapped', h⟩ := addTo_addTo first second
    obtain ⟨B', rest, last⟩ := h.foldlM_addTo granted
    exact ⟨B', bind_eq_ok.mpr ⟨C₁, swapped, bind_eq_ok.mpr ⟨C₂, swapped', rest⟩⟩, last⟩
  | trans _ _ ih₁ ih₂ =>
    obtain ⟨C, first, h⟩ := ih₁ granted
    obtain ⟨B', second, h'⟩ := ih₂ first
    exact ⟨B', second, h.trans h'⟩

theorem Valid.foldlM_addTo {adds : List Addition} {A B : Automaton} (hA : A.Valid)
    (granted : adds.foldlM Addition.addTo A = .ok B) : B.Valid := by
  induction adds generalizing A with
  | nil =>
    cases granted
    exact hA
  | cons x adds ih =>
    obtain ⟨A', added, granted⟩ := bind_eq_ok.mp granted
    exact ih (hA.add added) granted

end Automaton

end ScanLexer
