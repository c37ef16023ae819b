import Mathlib.Data.Fintype.BigOperators
import ScanLexer.Proofs.Catalogue.Closing
import ScanLexer.Proofs.MergeTable.Room

/-!
# How many ids there can be

A catalogue that is being built goes through many states: bytes and the identity are given ids, an
id is taken from the queue, two ids are composed, a cell is written (`Underway`). In each of them
every item but the identity is a behaviour that the bytes generate (`Underway.known`). Such a
behaviour sends each of `n` states nowhere, closing nothing, or to one of them with either flag, and
none has two ids, so there are at most `(2 * n + 1) ^ n` of them beside the identity
(`Known.size_le`).
-/
namespace ScanLexer

namespace Transition

/-- Over `n` states: to one of them, or nowhere without closing anything. -/
structure Proper (n : Nat) (t : Transition) : Prop where
  within : t.target.Within n
  silent : t.target = none → t = .reject

/-- A transition over `n` states as one of finitely many values. -/
def code (n : Nat) (t : Transition) : Option (Fin n × Bool) :=
  match t.target with
  | none => none
  | some i => if h : i.toNat < n then some (⟨i.toNat, h⟩, t.emits) else none

/-- Transitions over `n` states are told apart by their codes. -/
theorem Proper.eq_of_code_eq {n : Nat} {t u : Transition} (ht : t.Proper n) (hu : u.Proper n)
    (same : t.code n = u.code n) : t = u := by
  rcases t with ⟨target, emits⟩
  rcases u with ⟨target', emits'⟩
  obtain none | ⟨k, hk, some⟩ := ht.within.cases
  · obtain none' | ⟨k', hk', some'⟩ := hu.within.cases
    · rw [ht.silent none, hu.silent none']
    · simp only at none some'
      simp [code, none, some', hk'] at same
  · obtain none' | ⟨k', hk', some'⟩ := hu.within.cases
    · simp only at some none'
      simp [code, some, none', hk] at same
    · simp only at some some'
      simp [code, some, some', hk, hk'] at same
      simp [some, some', same]

end Transition

/-- What a generated behaviour does from a state is a transition over the states. -/
theorem Automaton.Generates.proper {A : Automaton} (hA : A.Closed) {f : Behaviour}
    (hf : A.Generates f) {s : Nat} (hs : s < A.size) :
    (f.act (some (s : Int))).Proper A.size := by
  obtain ⟨w, hw, reads⟩ := hf.exists_reads hA
  have inside := Target.within_natCast.mpr hs
  exact ⟨reads.fits.within_act inside, A.eq_reject_of_read hw (reads.agrees _ inside)⟩

namespace Registry

variable {A : Automaton} {R : Registry}

/-- Only the identity is registered under a tag; any other item is a behaviour that the bytes
generate. -/
def Known (A : Automaton) (R : Registry) : Prop :=
  ∀ i item, R.item? i = some item → item.tag = none ∧ A.Generates item.behaviour ∨
    item = ⟨some Lexer.identityTag, .identity A.size⟩

theorem known_empty (A : Automaton) : empty.Known A := fun _ _ found =>
  absurd (lt_size_of_item? found) (Nat.not_lt_zero _)

/-- Registering what may be registered keeps the registry as it ought to be. -/
theorem Known.intern (h : R.Known A) {f : Behaviour} {tag : Option Value}
    (may : tag = none ∧ A.Generates f ∨ tag = some Lexer.identityTag ∧ f = .identity A.size) :
    (R.intern f tag).1.Known A := by
  obtain ⟨id, item, interned, -⟩ | ⟨larger, interned, -, items, -⟩ := R.intern_cases f tag
  · rw [interned]
    exact h
  · rw [interned]
    intro i item found
    rw [items] at found
    split at found
    next =>
      cases found
      obtain generated | ⟨rfl, rfl⟩ := may
      · exact .inl generated
      · exact .inr rfl
    next => exact h i item found

/-- An item's content in codes. That of the identity, which alone is tagged, is left out. -/
def Item.code (n : Nat) (item : Item) : Option (Fin n → Option (Fin n × Bool)) :=
  if item.tag = none then some fun s => (item.behaviour.act (some (s.val : Int))).code n else none

/-- Items of a registry are told apart by their codes. -/
theorem Known.key_eq_of_code_eq (hA : A.Closed) (h : R.Known A) {i j : Nat} {a b : Item}
    (ha : R.item? i = some a) (hb : R.item? j = some b) (same : a.code A.size = b.code A.size) :
    a.key = b.key := by
  obtain ⟨untagged, generated⟩ | rfl := h i a ha
  · obtain ⟨untagged', generated'⟩ | rfl := h j b hb
    · simp only [Item.code, untagged, untagged', if_true, Option.some.injEq] at same
      have alike : a.behaviour.key = b.behaviour.key := by
        apply (Behaviour.key_eq_iff_act (generated.fits hA) (generated'.fits hA)).mpr
        intro t ht
        obtain rfl | ⟨s, hs, rfl⟩ := ht.cases
        · rfl
        · exact (generated.proper hA hs).eq_of_code_eq (generated'.proper hA hs)
            (congrFun same ⟨s, hs⟩)
      rw [Item.key, Item.key, untagged, untagged', alike]
    · simp [Item.code, untagged] at same
  · obtain ⟨untagged', -⟩ | rfl := h j b hb
    · simp [Item.code, untagged'] at same
    · rfl

/-- There are at most as many ids as there are codes. -/
theorem Known.size_le (hA : A.Closed) (h : R.Known A) : R.size ≤ (2 * A.size + 1) ^ A.size + 1 := by
  have items (i : Fin R.size) : ∃ item, R.item? i = some item := exists_item? i.isLt
  choose item found using items
  have injective : Function.Injective fun i => (item i).code A.size := by
    intro i j same
    exact Fin.ext (id_eq_of_key_eq (found i) (found j)
      (h.key_eq_of_code_eq hA (found i) (found j) same))
  have counted := Fintype.card_le_of_injective _ injective
  simpa [Nat.mul_comm] using counted

end Registry

namespace Catalogue

variable [Memory]
variable {A : Automaton} {growth : Growth} {e : Nat} {c c' : Catalogue}

/-- The states that a catalogue may go through while it is built: any state in which a byte, the
identity or a composition was asked for, granted or not, an id was taken or a cell was written. -/
inductive Underway (A : Automaton) (growth : Growth) : Catalogue → Prop where
  | empty : Underway A growth (.empty growth)
  | byte {c : Catalogue} (a : Symbol) : Underway A growth c →
      Underway A growth (c.enqueue (A.behaviour a) none).1
  | identity {c : Catalogue} : Underway A growth c →
      Underway A growth (c.enqueue (.identity A.size) (some Lexer.identityTag)).1
  | take {registry : Registry} {table : MergeTable} {i : Nat} {pending : List Nat} :
      Underway A growth ⟨registry, table, i :: pending⟩ →
      Underway A growth ⟨registry, table, pending⟩
  | merge {c : Catalogue} {e : Nat} (i j : Nat) : Underway A growth c →
      c.registry.item? e = some ⟨some Lexer.identityTag, .identity A.size⟩ →
      Underway A growth (c.merge e i j).1
  | store {c : Catalogue} {i j : Nat} {s : Summary} {table : MergeTable} : Underway A growth c →
      c.table.store i j s = .ok table → Underway A growth { c with table := table }

theorem enqueue_registry (c : Catalogue) (f : Behaviour) (tag : Option Value) :
    (c.enqueue f tag).1.registry = (c.registry.intern f tag).1 := by
  rcases c with ⟨registry, table, pending⟩
  rcases interned : registry.intern f tag with ⟨larger, id, fresh⟩
  simp only [enqueue, interned]
  cases fresh with
  | false => rfl
  | true => cases table.ensure (.int (id + 1)) <;> rfl

theorem enqueue_table (c : Catalogue) (f : Behaviour) (tag : Option Value) :
    (c.enqueue f tag).1.table = c.table ∨
      ∃ n : Int, c.table.ensure (.int n) = .ok (c.enqueue f tag).1.table := by
  rcases c with ⟨registry, table, pending⟩
  rcases interned : registry.intern f tag with ⟨larger, id, fresh⟩
  simp only [enqueue, interned]
  cases fresh with
  | false => exact .inl rfl
  | true =>
    cases grown : table.ensure (.int (id + 1)) with
    | error fault => exact .inl rfl
    | ok table => exact .inr ⟨_, grown⟩

/-- Merging two ids asks for nothing, or for the id of their composition. -/
theorem merge_cases (c : Catalogue) (e i j : Nat) : (c.merge e i j).1 = c ∨
    ∃ f, i ≠ e ∧ j ≠ e ∧ c.composed i j = .ok f ∧ (c.merge e i j).1 = (c.enqueue f none).1 := by
  simp only [merge, composite, Int.ofNat_inj]
  by_cases first : i = e
  · simp [first]
  · by_cases second : j = e
    · simp [first, second]
    · cases made : c.composed i j with
      | error fault => simp [first, second]
      | ok f => simp [first, second]

theorem Underway.known (h : Underway A growth c) : c.registry.Known A := by
  induction h with
  | empty => exact Registry.known_empty A
  | byte a _ ih =>
    rw [enqueue_registry]
    exact ih.intern (.inl ⟨rfl, .byte a⟩)
  | identity _ ih =>
    rw [enqueue_registry]
    exact ih.intern (.inr ⟨rfl, rfl⟩)
  | take _ ih => exact ih
  | @merge c e i j _ named ih =>
    obtain same | ⟨f, hi, hj, made, same⟩ := c.merge_cases e i j
    · rw [same]
      exact ih
    · rw [same, enqueue_registry]
      obtain ⟨left, right, hleft, hright, joined⟩ := composed_eq_ok.mp made
      -- No other id than `e` has the identity, so both operands are generated.
      have generated {k : Nat} {item : Registry.Item} (hk : k ≠ e)
          (found : c.registry.item? k = some item) : A.Generates item.behaviour := by
        obtain ⟨-, generated⟩ | rfl := ih k item found
        · exact generated
        · exact absurd (Registry.id_eq_of_key_eq found named rfl) hk
      exact ih.intern (.inl ⟨rfl, .compose (generated hi hleft) (generated hj hright) joined⟩)
  | store _ _ ih => exact ih

/-- **At no time are there more ids** than there are behaviours over the states, and one more. -/
theorem Underway.size_le (hA : A.Closed) (h : Underway A growth c) :
    c.registry.size ≤ (2 * A.size + 1) ^ A.size + 1 :=
  h.known.size_le hA

/-- What holds of the empty table and is kept by requests and by stored cells holds of the table at
every point. -/
theorem Underway.table {P : MergeTable → Prop} (h : Underway A growth c) (empty : P (.empty growth))
    (ensure : ∀ t t' (n : Int), P t → t.ensure (.int n) = .ok t' → P t')
    (store : ∀ t t' i j s, P t → t.store i j s = .ok t' → P t') : P c.table := by
  have asked {c : Catalogue} (ih : P c.table) (f : Behaviour) (tag : Option Value) :
      P (c.enqueue f tag).1.table := by
    obtain same | ⟨n, grown⟩ := c.enqueue_table f tag
    · rw [same]
      exact ih
    · exact ensure _ _ n ih grown
  induction h with
  | empty => exact empty
  | byte a _ ih => exact asked ih _ _
  | identity _ ih => exact asked ih _ _
  | take _ ih => exact ih
  | @merge c e i j _ _ ih =>
    obtain same | ⟨f, -, -, -, same⟩ := c.merge_cases e i j
    · rw [same]
      exact ih
    · rw [same]
      exact asked ih f none
  | store _ stored ih => exact store _ _ _ _ _ ih stored

theorem Underway.fitted (h : Underway A growth c) :
    c.table.growth = growth ∧ c.table.Fitted := by
  apply h.table (P := fun t => t.growth = growth ∧ t.Fitted)
  · exact ⟨rfl, MergeTable.fitted_empty growth⟩
  · intro t t' n ih grown
    exact ⟨(MergeTable.growth_ensure grown).trans ih.1, ih.2.ensure grown⟩
  · intro t t' i j s ih stored
    exact ⟨(MergeTable.store_frame stored).1.trans ih.1, ih.2.store stored⟩

theorem Underway.granted (h : Underway A growth c) : c.table.Granted := by
  apply h.table (P := MergeTable.Granted) (MergeTable.granted_empty growth)
  · intro t t' n ih grown
    exact ih.ensure grown
  · intro t t' i j s ih stored
    exact ih.store stored

theorem Underway.composed (hu : Underway A growth c)
    (named : c.registry.item? e = some ⟨some Lexer.identityTag, .identity A.size⟩) {i j : Nat}
    (hi : i ≠ e) (hj : j ≠ e) {f : Behaviour} (made : c.composed i j = .ok f) :
    Underway A growth (c.enqueue f none).1 := by
  have next := hu.merge i j named
  simpa only [Catalogue.merge, composite, Int.ofNat_inj, hi, hj, if_false, made] using next

/-- A behaviour that is known has its id already. A new one gets the next id, if there is room for
so many. -/
theorem grant_cases {done : List Nat} (hc : c.Counted done) (hu : Underway A growth c)
    (f : Behaviour) (tag : Option Value) :
    (∃ id, c.registry.Knows f tag id ∧ c.grant f tag = .ok (c, id)) ∨
    (∀ id, ¬ c.registry.Knows f tag id) ∧
      (c.enqueue f tag).1.registry.size = c.registry.size + 1 ∧
      ((∃ larger, c.grant f tag = .ok (larger, c.registry.size) ∧
          growth.room (c.registry.size + 1) = .ok ()) ∨
        ∃ fault, c.grant f tag = .error fault ∧
          growth.room (c.registry.size + 1) = .error fault) := by
  have states := hc.states
  obtain ⟨same, fitted⟩ := hu.fitted
  have room := fitted.ensure_succ hu.granted
  rw [states, same] at room
  rcases c with ⟨registry, table, pending⟩
  obtain ⟨id, item, interned, found, alike⟩ | ⟨larger, interned, size, -, new⟩ :=
    registry.intern_cases f tag
  · left
    exact ⟨id, ⟨item, found, alike⟩, by simp [grant, enqueue, interned, Except.map]⟩
  · right
    refine ⟨?_, ?_, ?_⟩
    · rintro id ⟨item, found, alike⟩
      exact new id item found alike
    · rw [enqueue_registry, interned]
      exact size
    · obtain ⟨grown, ensured, granted⟩ | ⟨fault, refused, short⟩ := room
      · exact .inl ⟨_, by simp [grant, enqueue, interned, ensured, Except.map]; rfl, granted⟩
      · exact .inr ⟨fault, by simp [grant, enqueue, interned, refused, Except.map], short⟩

end Catalogue

end ScanLexer
