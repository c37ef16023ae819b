import ScanLexer.Memory.Ordinary
import ScanLexer.Proofs.Lexer.Composition

/-!
# Merging again

A summary can be looked up in the table, or worked out anew from the behaviours of its two ids,
which may give out ids and make the table grow. Once a lexer is built, working it out finds only
what is known: a behaviour that is known is registered without a trace (`enqueue_of_knows`), so
merging two ids whose cell is recorded gives the cell and leaves the catalogue as it was
(`merge_of_records`). Every cell of a built lexer is recorded, so the table and the slow way agree
for good (`merge_agrees_with_table`).
-/
namespace ScanLexer

namespace Catalogue

variable {A : Automaton} {e : Nat} {c : Catalogue}

theorem enqueue_of_knows [Memory] {f : Behaviour} {tag : Option Value} {id : Nat}
    (h : c.registry.Knows f tag id) : c.enqueue f tag = (c, .ok id) := by
  simp only [enqueue, Registry.intern_of_knows h, Bool.false_eq_true, if_false]

/-- Two ids that have an id together are composed without a trace. -/
theorem composite_of_joins [Memory] (h : c.registry.Generated A e) {i j r : Nat}
    (joins : c.registry.Joins e i j r) : c.composite e i j = (c, .ok (r : Int)) := by
  simp only [composite, Int.ofNat_inj]
  by_cases first : i = e
  · rw [if_pos first, joins.left first]
  by_cases second : j = e
  · rw [if_neg first, if_pos second, joins.right second]
  rw [if_neg first, if_neg second]
  obtain ⟨apart, a, b, item, f, ha, hb, found, made, key⟩ := joins.both first second
  have composed : c.composed i j = .ok f := composed_eq_ok.mpr ⟨a, b, ha, hb, made⟩
  -- the item is not the identity, so it is untagged as a composition is
  have knows : c.registry.Knows f none r := by
    refine ⟨item, found, ?_⟩
    rw [Registry.Item.key, (h.others r item found apart).1, key]
  simp only [composed, enqueue_of_knows knows, Except.map]

/-- **Merging two ids whose cell is recorded** gives what is in the cell, and changes nothing. -/
theorem merge_of_records [Memory] (h : c.registry.Generated A e) {i j : Nat}
    (recorded : c.Records e i j) :
    c.merge e i j = (c, .ok (c.table.view i j)) := by
  obtain ⟨r, joins, cell⟩ := recorded
  exact merge_eq_ok.mpr ⟨r, composite_of_joins h joins, cell⟩

/-- Nothing waits in a closed catalogue. -/
theorem Complete.pending_eq_nil (h : c.Complete A e) : c.pending = [] := by
  have lengths := congrArg List.length h.counted.queue
  rw [List.length_append] at lengths
  exact List.eq_nil_of_length_eq_zero (by omega)

/-- An id beside the identity is that of its own behaviour. -/
theorem Complete.lookup (h : c.Complete A e) {i : Nat} {item : Registry.Item}
    (found : c.registry.item? i = some item) (apart : i ≠ e) :
    c.registry.lookup item.behaviour = some i := by
  apply Registry.lookup_eq_some_iff.mpr
  refine ⟨item, found, ?_⟩
  rw [Registry.Item.key, (h.generated.others i item found apart).1]

end Catalogue

namespace Lexer

variable {L : Lexer}

/-- **Merging again agrees with the table.** In a lexer that was built no id waits. What is worked
out for two ids is what their cell holds, and the lexer is then the same as before, with the ids,
the queue, the room and all cells that it had. Each id but that of the identity is found from its
behaviour. -/
theorem merge_agrees_with_table [Memory] {C : Contract} {config : BuildConfig}
    (built : build C config = .ok L) :
    L.catalogue.pending = [] ∧
    (∀ i j : Nat, i < L.registry.size → j < L.registry.size →
      ∃ s, L.table.get (.int i) (.int j) = .ok s ∧ L.merge i j = (L, .ok s)) ∧
    ∀ x : Nat, x < L.registry.size → x ≠ L.identity →
      ∃ f, L.registry.behaviour x = .ok f ∧ L.registry.lookup f = some x := by
  obtain ⟨A, -, -, hL⟩ := compiled_of_build built
  refine ⟨hL.complete.pending_eq_nil, ?_, ?_⟩
  · intro i j hi hj
    have merged := Catalogue.merge_of_records hL.complete.generated (hL.complete.recorded i j hi hj)
    refine ⟨L.table.view i j, hL.complete.counted.get_eq_view hi hj, ?_⟩
    rw [merge, merged]
    rfl
  · intro x hx apart
    obtain ⟨item, found⟩ := Registry.exists_item? hx
    exact ⟨item.behaviour, Registry.behaviour_of_item? found, hL.complete.lookup found apart⟩

theorem merge_agrees_with_table_singleA :
    ∃ L, build (Sample.singleA true).contract .usual = .ok L ∧ L.catalogue.pending = [] ∧
      (∃ s, L.table.get (.int 0) (.int 1) = .ok s ∧ L.merge 0 1 = (L, .ok s)) ∧
      ∃ f, L.registry.behaviour 1 = .ok f ∧ L.registry.lookup f = some 1 := by
  obtain ⟨L, built, size, identity⟩ := exists_lexer_singleA
  obtain ⟨idle, cells, found⟩ := merge_agrees_with_table built
  refine ⟨L, built, idle, cells 0 1 ?_ ?_, found 1 ?_ ?_⟩
  · rw [size]; decide
  · rw [size]; decide
  · rw [size]; decide
  · rw [identity]; decide

end Lexer

end ScanLexer
