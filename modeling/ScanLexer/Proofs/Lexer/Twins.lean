import ScanLexer.Proofs.Catalogue.Lockstep
import ScanLexer.Proofs.Lexer.Building
import ScanLexer.Proofs.MergeTable.History

/-!
# Lexers compiled in step

If the behaviours of two automata correspond, their lexers are compiled in step: with the same
summaries of the bytes, the same id of the identity, the same cells and the same lexemes
(`twins_compile`). Room for the table may be refused to one of them alone, if their tables grow in
different ways.
-/
namespace ScanLexer

namespace MergeTable

/-- Two tables with the same ids and the same cells, whatever their capacities are. -/
structure Alike (t t' : MergeTable) : Prop where
  sound : t.Sound
  sound' : t'.Sound
  extent : t.extent = t'.extent
  cells : ∀ i j, i < t.states → j < t.states → t.view i j = t'.view i j

variable {t t' : MergeTable}

theorem Alike.states (h : t.Alike t') : t.states = t'.states := by
  rw [MergeTable.states, h.extent, MergeTable.states]

/-- Cells cannot tell such tables apart, and neither can faults. -/
theorem Alike.get (h : t.Alike t') (i j : Int) :
    t.get (.int i) (.int j) = t'.get (.int i) (.int j) := by
  by_cases hi : 0 ≤ i ∧ i < t.states
  · by_cases hj : 0 ≤ j ∧ j < t.states
    · obtain ⟨i, rfl⟩ := Int.eq_ofNat_of_zero_le hi.1
      obtain ⟨j, rfl⟩ := Int.eq_ofNat_of_zero_le hj.1
      have hi' : i < t.states := by omega
      have hj' : j < t.states := by omega
      rw [get_eq_view hi' hj', get_eq_view (h.states ▸ hi') (h.states ▸ hj'), h.cells i j hi' hj']
    · have hi' := hi
      have hj' := hj
      rw [h.states] at hi' hj'
      simp only [MergeTable.get, index, place, check_eq, if_pos hi, if_pos hi', if_neg hj,
        if_neg hj', h.extent, ok_bind, error_bind]
  · have hi' := hi
    rw [h.states] at hi'
    simp only [MergeTable.get, index, place, check_eq, if_neg hi, if_neg hi', h.extent, error_bind]

theorem Alike.rows (h : t.Alike t') : t.rows = t'.rows := by
  rw [rows_eq h.sound, rows_eq h.sound', ← h.states]
  apply List.map_congr_left
  intro i hi
  apply List.map_congr_left
  intro j hj
  exact h.cells i j (List.mem_range.mp hi) (List.mem_range.mp hj)

end MergeTable

namespace Catalogue

variable {rel : Behaviour → Behaviour → Prop} {A B : Automaton} {g g' : Growth}
variable {e : Nat} {c c' : Catalogue} {done : List Nat}

namespace Abreast

theorem empty [Memory] (rel : Behaviour → Behaviour → Prop) (A B : Automaton) (g g' : Growth) :
    Abreast rel A B g g' [] (.empty g) (.empty g') :=
  ⟨counted_empty g, counted_empty g', .empty, .empty, rfl,
    fun _ _ _ found => absurd (Registry.lt_size_of_item? found) (Nat.not_lt_zero _),
    fun _ _ hi => absurd hi (Nat.not_lt_zero _)⟩

/-- Giving ids to bytes keeps two catalogues in step, and the bytes have the same summaries. -/
theorem enqueueAll [Memory] (m : Corresponds rel A B) (h : Abreast rel A B g g' done c c')
    (symbols : List Symbol) :
    Matched (Diverges A g g') (Diverges B g' g)
      (fun p p' => p.2 = p'.2 ∧ Abreast rel A B g g' done p.1 p'.1)
      (c.enqueueAll (symbols.map A.behaviour)) (c'.enqueueAll (symbols.map B.behaviour)) := by
  induction symbols generalizing c c' with
  | nil => exact .ok ⟨rfl, h⟩
  | cons a symbols ih =>
    rw [List.map_cons, List.map_cons, enqueueAll_cons, enqueueAll_cons]
    refine (h.grant m (m.byte a) (h.underway.byte a) (h.underway'.byte a)).bind ?_
    rintro ⟨d, id⟩ ⟨d', id'⟩ - - ⟨same, next⟩
    simp only at same next
    subst same
    obtain ⟨start, start', first, first', emits⟩ := m.start (m.byte a)
    simp only [first, first', ok_bind, emits]
    refine (ih next).bind ?_
    rintro ⟨last, rest⟩ ⟨last', rest'⟩ - - ⟨same, next⟩
    simp only at same next
    subst same
    exact .ok ⟨rfl, next⟩

/-- The behaviours in the order of their ids correspond. -/
theorem behaviours [Memory] (h : Abreast rel A B g g' done c c') :
    List.Forall₂ rel c.registry.behaviours c'.registry.behaviours := by
  refine List.forall₂_iff_get.mpr ⟨?_, fun i hi hi' => ?_⟩
  · rw [Registry.behaviours_length, Registry.behaviours_length, h.size]
  · obtain ⟨a, a', ha, ha', -, alike⟩ := h.item (Registry.behaviours_length c.registry ▸ hi)
    have left := Registry.behaviours_of_item? ha
    have right := Registry.behaviours_of_item? ha'
    rw [List.getElem?_eq_getElem hi, Option.some.injEq] at left
    rw [List.getElem?_eq_getElem hi', Option.some.injEq] at right
    rw [List.get_eq_getElem, List.get_eq_getElem, left, right]
    exact alike

theorem alike [Memory] (h : Abreast rel A B g g' done c c') : c.table.Alike c'.table where
  sound := h.counted.table
  sound' := h.counted'.table
  extent := by rw [h.counted.extent, h.counted'.extent, h.size]
  cells i j hi hj := h.cells i j (h.counted.states ▸ hi) (h.counted.states ▸ hj)

end Abreast

/-- Only the identity is registered under its tag. -/
theorem Underway.eq_identity [Memory] (hu : Underway A g c) {item : Registry.Item}
    (found : c.registry.item? e = some item) (tagged : item.tag = some Lexer.identityTag) :
    item = ⟨some Lexer.identityTag, .identity A.size⟩ := by
  obtain ⟨untagged, -⟩ | same := hu.known e item found
  · rw [untagged] at tagged
    contradiction
  · exact same

end Catalogue

namespace Lexer

open Catalogue

variable {rel : Behaviour → Behaviour → Prop} {A B : Automaton} {g g' : Growth}

/-- What is gathered from two automata is in step. -/
theorem matched_gather [Memory] (m : Corresponds rel A B) :
    Matched (Diverges A g g') (Diverges B g' g)
      (fun p p' => p.2 = p'.2 ∧ InStep rel A B g g' p.2.2 [] p.1 p'.1) (gather A g)
        (gather B g') := by
  rw [gather_eq, gather_eq]
  refine ((Abreast.empty rel A B g g').enqueueAll m Symbol.all).bind ?_
  rintro ⟨c, initial⟩ ⟨c', initial'⟩ - - ⟨same, next⟩
  simp only at same next
  subst same
  refine (next.grant m m.identity next.underway.identity next.underway'.identity).bind ?_
  rintro ⟨d, e⟩ ⟨d', e'⟩ asked asked' ⟨same, ready⟩
  simp only at same ready
  subst same
  refine .ok ⟨rfl, ready, ?_, ?_⟩
  · obtain ⟨item, found, key⟩ := (enqueue_spec next.counted (grant_eq_ok.mp asked)).2.found
    rw [found, ready.underway.eq_identity found (congrArg Registry.Key.tag key)]
  · obtain ⟨item, found, key⟩ := (enqueue_spec next.counted' (grant_eq_ok.mp asked')).2.found
    rw [found, ready.underway'.eq_identity found (congrArg Registry.Key.tag key)]

/-- Two lexers that differ in what their ids stand for, at most, and in the capacities of their
tables. -/
structure Twins (rel : Behaviour → Behaviour → Prop) (L L' : Lexer) : Prop where
  states : L.states = L'.states
  initial : L.initial = L'.initial
  identity : L.identity = L'.identity
  finals : L.finals = L'.finals
  behaviours : List.Forall₂ rel L.registry.behaviours L'.registry.behaviours
  table : L.table.Alike L'.table

theorem Twins.size {L L' : Lexer} (h : Twins rel L L') : L.registry.size = L'.registry.size := by
  have lengths := h.behaviours.length_eq
  rwa [Registry.behaviours_length, Registry.behaviours_length] at lengths

theorem Twins.behaviour {L L' : Lexer} (h : Twins rel L L') {k : Nat} (hk : k < L.registry.size) :
    ∃ f f', L.registry.behaviour k = .ok f ∧ L'.registry.behaviour k = .ok f' ∧ rel f f' := by
  obtain ⟨a, ha⟩ := Registry.exists_item? hk
  obtain ⟨a', ha'⟩ := Registry.exists_item? (h.size ▸ hk)
  obtain ⟨bound, left⟩ := List.getElem?_eq_some_iff.mp (Registry.behaviours_of_item? ha)
  obtain ⟨bound', right⟩ := List.getElem?_eq_some_iff.mp (Registry.behaviours_of_item? ha')
  have related := h.behaviours.get bound bound'
  rw [List.get_eq_getElem, List.get_eq_getElem, left, right] at related
  exact ⟨_, _, Registry.behaviour_of_item? ha, Registry.behaviour_of_item? ha', related⟩

/-- **Corresponding automata have twin lexers**, or fail alike, unless room is refused to one
alone. -/
theorem twins_compile [Memory] (m : Corresponds rel A B) :
    Matched (Diverges A g g') (Diverges B g' g) (Twins rel) (compile A g) (compile B g') := by
  rw [compile_eq, compile_eq, ← m.size]
  refine (matched_gather m).bind ?_
  rintro ⟨c, initial, e⟩ ⟨c', initial', e'⟩ - - ⟨same, next⟩
  simp only [Prod.mk.injEq] at same next
  obtain ⟨rfl, rfl⟩ := same
  refine (next.close m A.size).bind ?_
  rintro d d' - - ⟨done, last⟩
  refine .ok ⟨rfl, rfl, rfl, ?_, last.behaviours, last.alike⟩
  have accepted : List.Forall₂ (· = ·) (d.registry.behaviours.map A.accepted)
      (d'.registry.behaviours.map B.accepted) := by
    rw [List.forall₂_map_left_iff, List.forall₂_map_right_iff]
    exact last.behaviours.imp fun f f' => m.accepted
  rwa [List.forall₂_eq_eq_eq] at accepted

end Lexer

end ScanLexer
