import ScanLexer.Lexer.Catalogue
import ScanLexer.Proofs.MergeTable.Cells
import ScanLexer.Proofs.Registry.Interning

/-!
# Keeping count of ids

At any time the table of a catalogue has one row and one column for each id, and the ids taken from
the queue, followed by those that wait in it, are all ids in order. A request for an id keeps this;
it keeps every item and every cell as well (`enqueue_spec`).
-/
namespace ScanLexer

namespace Registry

variable {r : Registry}

theorem behaviour_eq_ok {i : Nat} {f : Behaviour} :
    r.behaviour (i : Int) = .ok f ↔ ∃ item, r.item? i = some item ∧ item.behaviour = f := by
  constructor
  · intro h
    have known : i < r.size := by
      by_contra beyond
      rw [behaviour, orFault_eq_ok, behaviour?, position_natCast, if_neg beyond] at h
      contradiction
    obtain ⟨item, found⟩ := exists_item? known
    exact ⟨item, found, Except.ok.inj ((behaviour_of_item? found).symm.trans h)⟩
  · rintro ⟨item, found, rfl⟩
    exact behaviour_of_item? found

end Registry

namespace Catalogue

variable {c c' : Catalogue} {done : List Nat}

/-- The table and the queue keep up with the ids that were handed out. -/
structure Counted (c : Catalogue) (done : List Nat) : Prop where
  table : c.table.Sound
  extent : c.table.extent = .int c.registry.size
  queue : done ++ c.pending = List.range c.registry.size

theorem Counted.states (hc : c.Counted done) : c.table.states = c.registry.size := by
  rw [MergeTable.states, hc.extent]
  rfl

theorem counted_empty (growth : Growth) : (empty growth).Counted [] :=
  ⟨MergeTable.sound_empty growth, rfl, rfl⟩

theorem Counted.get_eq_view (hc : c.Counted done) {i j : Nat} (hi : i < c.registry.size)
    (hj : j < c.registry.size) : c.table.get (.int i) (.int j) = .ok (c.table.view i j) :=
  MergeTable.get_eq_view (hc.states ▸ hi) (hc.states ▸ hj)

/-- What is so after a granted request for the id of a behaviour. -/
structure Enqueued (c : Catalogue) (f : Behaviour) (tag : Option Value) (c' : Catalogue)
    (id : Nat) : Prop where
  knows : c.registry.Extends c'.registry
  found : ∃ item, c'.registry.item? id = some item ∧ item.key = ⟨tag, f.key⟩
  origin : ∀ i item, c'.registry.item? i = some item →
    c.registry.item? i = some item ∨ i = id ∧ item = ⟨tag, f⟩
  cells : ∀ i j, i < c'.registry.size → j < c'.registry.size → c'.table.view i j =
    if i < c.registry.size ∧ j < c.registry.size then c.table.view i j else .unset

theorem enqueue_spec [Memory] (hc : c.Counted done) {f : Behaviour} {tag : Option Value} {id : Nat}
    (h : c.enqueue f tag = (c', .ok id)) : c'.Counted done ∧ c.Enqueued f tag c' id := by
  have states := hc.states
  rcases c with ⟨registry, table, pending⟩
  obtain ⟨old, item, interned, found, same⟩ | ⟨larger, interned, size, items, -⟩ :=
    registry.intern_cases f tag
  · simp only [enqueue, interned, Bool.false_eq_true, if_false, Prod.mk.injEq, Except.ok.injEq] at h
    obtain ⟨rfl, rfl⟩ := h
    refine ⟨hc, .refl registry, ⟨item, found, same⟩, fun i item h => .inl h, ?_⟩
    intro i j hi hj
    rw [if_pos ⟨hi, hj⟩]
  · simp only [enqueue, interned, if_true] at h
    split at h
    next grown ensured =>
      simp only [Prod.mk.injEq, Except.ok.injEq] at h
      obtain ⟨rfl, rfl⟩ := h
      have extent := MergeTable.extent_ensure hc.extent (Int.lt_succ (registry.size : Int)) ensured
      have rows : grown.states = larger.size := by
        rw [MergeTable.states, extent, size]
        rfl
      refine ⟨⟨MergeTable.sound_ensure hc.table ensured, ?_, ?_⟩, ?_, ?_, ?_, ?_⟩
      · rw [extent, size]
        rfl
      · simp only [size, List.range_succ, ← hc.queue, List.append_assoc]
      · intro i item found
        rw [items, if_neg (Nat.ne_of_lt (Registry.lt_size_of_item? found))]
        exact found
      · exact ⟨⟨tag, f⟩, by rw [items, if_pos rfl], rfl⟩
      · intro i item found
        rw [items] at found
        split at found
        next last => exact .inr ⟨last, (Option.some.inj found).symm⟩
        next => exact .inl found
      · intro i j hi hj
        rw [MergeTable.view_ensure hc.table ensured (rows ▸ hi) (rows ▸ hj), states]
    next => simp at h

/-- A cell stays unset until something is stored in it. -/
theorem Enqueued.unset {f : Behaviour} {tag : Option Value} {id : Nat} (h : c.Enqueued f tag c' id)
    {i j : Nat} (hi : i < c'.registry.size) (hj : j < c'.registry.size)
    (blank : i < c.registry.size → j < c.registry.size → c.table.view i j = .unset) :
    c'.table.view i j = .unset := by
  rw [h.cells i j hi hj]
  split
  next old => exact blank old.1 old.2
  next => rfl

theorem summary_eq_ok {i : Nat} {s : Summary} : c.summary (i : Int) = .ok s ↔
    ∃ item start, c.registry.item? i = some item ∧ item.behaviour.entry 0 = .ok start ∧
      s = ⟨i, start.transition.emits⟩ := by
  simp only [summary, bind_eq_ok, Registry.behaviour_eq_ok, pure_eq_ok, Except.ok.injEq]
  constructor
  · rintro ⟨_, ⟨item, found, rfl⟩, start, first, rfl⟩
    exact ⟨item, start, found, first, rfl⟩
  · rintro ⟨item, start, found, first, rfl⟩
    exact ⟨_, ⟨item, found, rfl⟩, start, first, rfl⟩

theorem summary_of_extends (h : c.registry.Extends c'.registry) {i : Nat} {s : Summary}
    (hs : c.summary (i : Int) = .ok s) : c'.summary (i : Int) = .ok s := by
  obtain ⟨item, start, found, first, rfl⟩ := summary_eq_ok.mp hs
  exact summary_eq_ok.mpr ⟨item, start, h i item found, first, rfl⟩

theorem composed_eq_ok {i j : Nat} {f : Behaviour} : c.composed (i : Int) (j : Int) = .ok f ↔
    ∃ left right, c.registry.item? i = some left ∧ c.registry.item? j = some right ∧
      left.behaviour.compose right.behaviour = .ok f := by
  simp only [composed, bind_eq_ok, Registry.behaviour_eq_ok]
  constructor
  · rintro ⟨_, ⟨left, hleft, rfl⟩, _, ⟨right, hright, rfl⟩, made⟩
    exact ⟨left, right, hleft, hright, made⟩
  · rintro ⟨left, right, hleft, hright, made⟩
    exact ⟨_, ⟨left, hleft, rfl⟩, _, ⟨right, hright, rfl⟩, made⟩

theorem merge_eq_ok [Memory] {e : Nat} {i j : Int} {s : Summary} : c.merge e i j = (c', .ok s) ↔
    ∃ id, c.composite e i j = (c', .ok id) ∧ c'.summary id = .ok s := by
  unfold merge
  rcases c.composite e i j with ⟨larger, fault | id⟩
  · simp [Except.bind]
  · simp only [Except.bind, Prod.mk.injEq, Except.ok.injEq]
    constructor
    · rintro ⟨rfl, summary⟩
      exact ⟨id, ⟨rfl, rfl⟩, summary⟩
    · rintro ⟨_, ⟨rfl, rfl⟩, summary⟩
      exact ⟨rfl, summary⟩

theorem record_eq_ok [Memory] {e i j : Nat} (h : c.record e i j = .ok c') :
    ∃ larger s table, c.merge e i j = (larger, .ok s) ∧ larger.table.store i j s = .ok table ∧
      c' = { larger with table := table } := by
  unfold record at h
  split at h
  next => contradiction
  next registry table pending s merged =>
    obtain ⟨stored, written, made⟩ := bind_eq_ok.mp h
    exact ⟨_, s, stored, merged, written, (Except.ok.inj made).symm⟩

/-- The id of a behaviour with the catalogue that knows it, unless room for it is refused. -/
def grant [Memory] (c : Catalogue) (f : Behaviour) (tag : Option Value) :
    Except Fault (Catalogue × Nat) :=
  let (c, id) := c.enqueue f tag
  id.map fun id => (c, id)

/-- The id of first `i`, then `j`, with the catalogue that knows it. -/
def join [Memory] (c : Catalogue) (e i j : Nat) : Except Fault (Catalogue × Nat) :=
  if i = e then .ok (c, j)
  else if j = e then .ok (c, i)
  else do c.grant (← c.composed i j) none

theorem grant_eq_ok [Memory] {c c' : Catalogue} {f : Behaviour} {tag : Option Value} {id : Nat} :
    c.grant f tag = .ok (c', id) ↔ c.enqueue f tag = (c', .ok id) := by
  unfold grant
  rcases c.enqueue f tag with ⟨larger, fault | id'⟩
  · simp [Except.map]
  · simp [Except.map]

theorem enqueueAll_cons [Memory] (c : Catalogue) (f : Behaviour) (rest : List Behaviour) :
    c.enqueueAll (f :: rest) = do
      let (c, id) ← c.grant f none
      let start ← f.entry 0
      let (c, summaries) ← c.enqueueAll rest
      return (c, ⟨id, start.transition.emits⟩ :: summaries) := by
  rw [enqueueAll, grant]
  rcases c.enqueue f none with ⟨larger, fault | id⟩
  · rfl
  · rfl

/-- Joining two ids finds the id of their composition, or fails as finding it does. -/
theorem composite_cases [Memory] (c : Catalogue) (e i j : Nat) :
    (∃ larger fault, c.composite e i j = (larger, .error fault) ∧ c.join e i j = .error fault) ∨
      ∃ (larger : Catalogue) (id : Nat), c.composite e i j = (larger, .ok (id : Int)) ∧
        c.join e i j = .ok (larger, id) := by
  simp only [composite, join, grant, Int.ofNat_inj]
  by_cases first : i = e
  · exact .inr ⟨c, j, if_pos first, if_pos first⟩
  · by_cases second : j = e
    · exact .inr ⟨c, i, by simp [first, second], by simp [first, second]⟩
    · simp only [first, second, if_false]
      cases c.composed i j with
      | error fault => exact .inl ⟨c, fault, rfl, rfl⟩
      | ok f =>
        rcases asked : c.enqueue f none with ⟨larger, fault | id⟩
        · exact .inl ⟨larger, fault, by simp [asked, Except.map], by simp [asked, Except.map]⟩
        · exact .inr ⟨larger, id, by simp [asked, Except.map], by simp [asked, Except.map]⟩

theorem join_eq_ok [Memory] {e i j id : Nat} :
    c.join e i j = .ok (c', id) ↔ c.composite e i j = (c', .ok (id : Int)) := by
  obtain ⟨larger, fault, found, joined⟩ | ⟨larger, id', found, joined⟩ := c.composite_cases e i j
  · simp [found, joined]
  · simp only [found, joined, Except.ok.injEq, Prod.mk.injEq, Int.ofNat_inj]

/-- A pair is recorded by joining its ids and storing the summary of the id found. -/
theorem record_eq [Memory] (c : Catalogue) (e i j : Nat) : c.record e i j = do
    let (c, id) ← c.join e i j
    let s ← c.summary (id : Int)
    return { c with table := ← c.table.store i j s } := by
  obtain ⟨larger, fault, found, joined⟩ | ⟨larger, id, found, joined⟩ := c.composite_cases e i j
  · simp only [record, merge, found, joined, error_bind]
    rfl
  · simp only [record, merge, found, joined, ok_bind, Except.bind]
    cases larger.summary id <;> rfl

end Catalogue

end ScanLexer
