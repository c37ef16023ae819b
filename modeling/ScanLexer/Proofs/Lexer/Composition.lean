import ScanLexer.Lexer.Scan
import ScanLexer.Memory.Ordinary
import ScanLexer.Proofs.Lexer.Compiled

/-!
# The merge table is composition

Every cell of a compiled lexer's table holds the id of the composition of its two ids, and the
identity is a unit on both sides (`table_holds_compositions`). Composition is associative up to
content, and an untagged content has one id; so the scan operator is associative on ids
(`combine_assoc`).
-/
namespace ScanLexer

namespace Registry

variable {A : Automaton} {e : Nat} {R : Registry}

/-- Apart from the identity, no content has two ids. -/
theorem Generated.id_eq (h : R.Generated A e) {r q : Nat} {a b : Item} (ha : R.item? r = some a)
    (hb : R.item? q = some b) (hr : r ≠ e) (hq : q ≠ e)
    (same : a.behaviour.key = b.behaviour.key) : r = q := by
  apply id_eq_of_key_eq ha hb
  unfold Item.key
  rw [(h.others r a ha hr).1, (h.others q b hb hq).1, same]

theorem Joins.unique (h : R.Generated A e) {i j r q : Nat} (hr : R.Joins e i j r)
    (hq : R.Joins e i j q) : r = q := by
  by_cases hi : i = e
  · exact (hr.left hi).trans (hq.left hi).symm
  · by_cases hj : j = e
    · exact (hr.right hj).trans (hq.right hj).symm
    · obtain ⟨apart, a, b, item, f, ha, hb, found, made, key⟩ := hr.both hi hj
      obtain ⟨apart', a', b', item', f', ha', hb', found', made', key'⟩ := hq.both hi hj
      cases ha.symm.trans ha'
      cases hb.symm.trans hb'
      cases made.symm.trans made'
      exact h.id_eq found found' apart apart' (key.trans key'.symm)

/-- The id of two ids beside the identity does what they do, one after the other. -/
theorem Joins.acts (h : R.Generated A e) (hA : A.Closed) {i j r : Nat} (hr : R.Joins e i j r)
    (hi : i ≠ e) (hj : j ≠ e) {a b : Item} (ha : R.item? i = some a) (hb : R.item? j = some b) :
    r ≠ e ∧ ∃ item, R.item? r = some item ∧ ∀ t : Target, t.Within A.size →
      item.behaviour.act t = b.behaviour.act (a.behaviour.act t).target := by
  obtain ⟨apart, a', b', item, f, ha', hb', found, made, key⟩ := hr.both hi hj
  cases ha.symm.trans ha'
  cases hb.symm.trans hb'
  obtain ⟨fits, acts⟩ := Behaviour.compose_over (h.fits hA ha) (h.fits hA hb) made
  refine ⟨apart, item, found, fun t ht => ?_⟩
  rw [(Behaviour.key_eq_iff_act (h.fits hA found) fits).mp key t ht, acts t ht]

/-- However three ids are bracketed, they have one id together. -/
theorem joins_assoc (h : R.Generated A e) (hA : A.Closed) {i j k ij jk r q : Nat}
    (hij : R.Joins e i j ij) (hr : R.Joins e ij k r) (hjk : R.Joins e j k jk)
    (hq : R.Joins e i jk q) : r = q := by
  by_cases hi : i = e
  · obtain rfl := hij.left hi
    rw [hq.left hi]
    exact hr.unique h hjk
  by_cases hj : j = e
  · obtain rfl := hij.right hj
    obtain rfl := hjk.left hj
    exact hr.unique h hq
  by_cases hk : k = e
  · obtain rfl := hr.right hk
    obtain rfl := hjk.right hk
    exact hij.unique h hq
  -- Without the identity both sides are composed, and ids that act alike are the same.
  obtain ⟨-, f, g, -, -, hf, hg, -⟩ := hij.both hi hj
  obtain ⟨-, -, m, -, -, -, hm, -⟩ := hjk.both hj hk
  obtain ⟨apart, fg, hfg, firstTwo⟩ := hij.acts h hA hi hj hf hg
  obtain ⟨beside, left, hleft, leftActs⟩ := hr.acts h hA apart hk hfg hm
  obtain ⟨apart', gm, hgm, lastTwo⟩ := hjk.acts h hA hj hk hg hm
  obtain ⟨beside', right, hright, rightActs⟩ := hq.acts h hA hi apart' hf hgm
  apply h.id_eq hleft hright beside beside'
  apply (Behaviour.key_eq_iff_act (h.fits hA hleft) (h.fits hA hright)).mpr
  intro t ht
  rw [leftActs t ht, firstTwo t ht, rightActs t ht, lastTwo _ ((h.fits hA hf).within_act ht)]

end Registry

namespace Lexer

variable {A : Automaton} {L : Lexer}

/-- The cell of two ids holds the id of both, with the flag that this id has from the start. -/
theorem Compiled.cell (hL : L.Compiled A) {i j : Nat} (hi : i < L.registry.size)
    (hj : j < L.registry.size) : ∃ (r : Nat) (item : Registry.Item),
      L.table.get (.int i) (.int j) = .ok ⟨r, (item.behaviour.act (some (0 : Nat))).emits⟩ ∧
      L.registry.item? r = some item ∧ L.registry.Joins L.identity i j r := by
  obtain ⟨r, joins, cell⟩ := hL.complete.recorded i j hi hj
  obtain ⟨item, start, found, first, view⟩ := Catalogue.summary_eq_ok.mp cell
  refine ⟨r, item, ?_, found, joins⟩
  rw [Behaviour.act_of_entry (Behaviour.entry_natCast.mp first), ← view]
  exact hL.complete.counted.get_eq_view hi hj

/-- **The table is composition.** There is a row, a column and a lexeme for each id. The cell of two
ids holds an id and its flag; the identity leaves the other id as it is, and any other two ids have
the id of their composition. -/
theorem table_holds_compositions [Memory] {C : Contract} {config : BuildConfig}
    (built : build C config = .ok L) :
    L.table.extent = .int L.registry.size ∧ L.finals.length = L.registry.size ∧
    ∀ i j : Nat, i < L.registry.size → j < L.registry.size →
      ∃ (r : Nat) (p : Bool) (f : Behaviour) (start : Behaviour.Entry),
        L.table.get (.int i) (.int j) = .ok ⟨r, p⟩ ∧ r < L.registry.size ∧
        L.registry.behaviour r = .ok f ∧ f.lookup 0 = .ok start ∧ start.flag = .bool p ∧
        (i = L.identity → r = j) ∧ (j = L.identity → r = i) ∧
        (i ≠ L.identity → j ≠ L.identity → r ≠ L.identity ∧
          ∃ g h k, L.registry.behaviour i = .ok g ∧ L.registry.behaviour j = .ok h ∧
            g.compose h = .ok k ∧ (k.size : Int) = C.states.value ∧ f.key = k.key) := by
  obtain ⟨A, -, states, hL⟩ := compiled_of_build built
  refine ⟨hL.complete.counted.extent, ?_, ?_⟩
  · rw [hL.finals, List.length_map, Registry.behaviours_length]
  intro i j hi hj
  obtain ⟨r, item, got, found, joins⟩ := hL.cell hi hj
  have generated := hL.complete.generated
  have fits := generated.fits hL.closed found
  obtain ⟨start, member, first⟩ := fits.entry_of_lt hL.closed.start
  have flag : start.flag = .bool start.transition.emits := by
    obtain ⟨-, b, flag⟩ := fits.plain start member
    rw [Behaviour.Entry.transition, flag]
    rfl
  rw [Behaviour.act_of_entry first] at got
  refine ⟨r, _, item.behaviour, start, got, Registry.lt_size_of_item? found,
    Registry.behaviour_of_item? found, Behaviour.entry_natCast.mpr first, flag, joins.left,
    joins.right, fun hi' hj' => ?_⟩
  obtain ⟨apart, left, right, item', k, hleft, hright, found', made, key⟩ := joins.both hi' hj'
  cases found.symm.trans found'
  have size := (Behaviour.compose_over (generated.fits hL.closed hleft)
    (generated.fits hL.closed hright) made).1.size
  exact ⟨apart, _, _, k, Registry.behaviour_of_item? hleft, Registry.behaviour_of_item? hright,
    made, size ▸ states, key⟩

theorem table_holds_compositions_singleA :
    ∃ L, build (Sample.singleA true).contract .usual = .ok L ∧ L.table.extent = .int 3 ∧
      ∃ (r : Nat) (p : Bool) (g h k : Behaviour), L.table.get (.int 0) (.int 1) = .ok ⟨r, p⟩ ∧
        r < 3 ∧ r ≠ 2 ∧ L.registry.behaviour 0 = .ok g ∧ L.registry.behaviour 1 = .ok h ∧
        g.compose h = .ok k := by
  obtain ⟨L, built, size, identity⟩ := exists_lexer_singleA
  obtain ⟨extent, -, cells⟩ := table_holds_compositions built
  obtain ⟨r, p, f, start, got, known, -, -, -, -, -, other⟩ :=
    cells 0 1 (by omega) (by omega)
  obtain ⟨apart, g, h, k, left, right, joined, -⟩ := other (by omega) (by omega)
  rw [size] at extent known
  rw [identity] at apart
  exact ⟨L, built, extent, r, p, g, h, k, got, known, apart, left, right, joined⟩

/-- **The scan operator is associative** on all ids, the identity included, whatever the flags of
the operands are. -/
theorem combine_assoc [Memory] {C : Contract} {config : BuildConfig}
    (built : build C config = .ok L) {x y z : Summary} (hx : 0 ≤ x.id ∧ x.id < L.registry.size)
    (hy : 0 ≤ y.id ∧ y.id < L.registry.size) (hz : 0 ≤ z.id ∧ z.id < L.registry.size) :
    ∃ s, (L.combine x y >>= fun xy => L.combine xy z) = .ok s ∧
      (L.combine y z >>= fun yz => L.combine x yz) = .ok s := by
  obtain ⟨A, -, -, hL⟩ := compiled_of_build built
  rcases x with ⟨i, _⟩
  rcases y with ⟨j, _⟩
  rcases z with ⟨k, _⟩
  obtain ⟨i, rfl⟩ := Int.eq_ofNat_of_zero_le hx.1
  obtain ⟨j, rfl⟩ := Int.eq_ofNat_of_zero_le hy.1
  obtain ⟨k, rfl⟩ := Int.eq_ofNat_of_zero_le hz.1
  have hi : i < L.registry.size := by simpa using hx
  have hj : j < L.registry.size := by simpa using hy
  have hk : k < L.registry.size := by simpa using hz
  obtain ⟨ij, f, gotij, hf, joinsij⟩ := hL.cell hi hj
  obtain ⟨jk, g, gotjk, hg, joinsjk⟩ := hL.cell hj hk
  obtain ⟨r, left, gotr, hleft, joinsr⟩ := hL.cell (Registry.lt_size_of_item? hf) hk
  obtain ⟨q, right, gotq, hright, joinsq⟩ := hL.cell hi (Registry.lt_size_of_item? hg)
  obtain rfl := Registry.joins_assoc hL.complete.generated hL.closed joinsij joinsr joinsjk joinsq
  cases hleft.symm.trans hright
  exact ⟨_, bind_eq_ok.mpr ⟨_, gotij, gotr⟩, bind_eq_ok.mpr ⟨_, gotjk, gotq⟩⟩

theorem combine_assoc_singleA :
    ∃ L, build (Sample.singleA true).contract .usual = .ok L ∧
      ∃ s, (L.combine ⟨1, true⟩ ⟨2, true⟩ >>= fun xy => L.combine xy ⟨0, false⟩) = .ok s ∧
        (L.combine ⟨2, true⟩ ⟨0, false⟩ >>= fun yz => L.combine ⟨1, true⟩ yz) = .ok s := by
  obtain ⟨L, built, size, -⟩ := exists_lexer_singleA
  refine ⟨L, built, combine_assoc built ?_ ?_ ?_⟩
  · simp [size]
  · simp [size]
  · simp [size]

end Lexer

end ScanLexer
