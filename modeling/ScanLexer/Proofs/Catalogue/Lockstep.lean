import ScanLexer.Proofs.Catalogue.Progress

/-!
# Two catalogues in step

Two catalogues may be built side by side, for two automata and with two ways to grow the table. If
what the one registers corresponds to what the other registers, they hand out the same ids and fill
the same cells: each step of the one matches that of the other (`Abreast.grant`, `InStep.record`,
`InStep.sweep`), and so do all rounds of closing (`InStep.drain`). Only room for the table may be
refused to one and granted to the other.
-/
namespace ScanLexer

/-- A relation under which two automata have the same compositions: the bytes and the identity are
related, composing keeps the relation, and it tells which behaviours are alike, which flag they have
from the start and what they accept. -/
structure Corresponds (rel : Behaviour → Behaviour → Prop) (A B : Automaton) : Prop where
  size : A.size = B.size
  byte : ∀ a, rel (A.behaviour a) (B.behaviour a)
  identity : rel (.identity A.size) (.identity B.size)
  key_iff : ∀ {f g f' g'}, rel f f' → rel g g' → (f.key = g.key ↔ f'.key = g'.key)
  compose : ∀ {f g f' g'}, rel f f' → rel g g' →
    ∃ k k', f.compose g = .ok k ∧ f'.compose g' = .ok k' ∧ rel k k'
  start : ∀ {f f'}, rel f f' →
    ∃ e e', f.entry 0 = .ok e ∧ f'.entry 0 = .ok e' ∧ e.transition.emits = e'.transition.emits
  accepted : ∀ {f f'}, rel f f' → A.accepted f = B.accepted f'

namespace Catalogue

variable [Memory]
variable {rel : Behaviour → Behaviour → Prop} {A B : Automaton} {g g' : Growth}
variable {e : Nat} {c c' : Catalogue} {done : List Nat}

/-- Room for the ids that there are at some point is refused, but would not be refused in the same
way with another growth. -/
def Diverges (A : Automaton) (g g' : Growth) (fault : Fault) : Prop :=
  ∃ c, Underway A g c ∧ g.room c.registry.size = .error fault ∧
    g'.room c.registry.size ≠ .error fault

theorem not_diverges {fault : Fault} : ¬ Diverges A g g fault :=
  fun ⟨_, _, refused, other⟩ =>
  other refused

/-- Two catalogues in step: corresponding behaviours have the same ids, and the cells are the
same. -/
structure Abreast (rel : Behaviour → Behaviour → Prop) (A B : Automaton) (g g' : Growth)
    (done : List Nat) (c c' : Catalogue) : Prop where
  counted : c.Counted done
  counted' : c'.Counted done
  underway : Underway A g c
  underway' : Underway B g' c'
  size : c.registry.size = c'.registry.size
  items : ∀ i a a', c.registry.item? i = some a → c'.registry.item? i = some a' →
    a.tag = a'.tag ∧ rel a.behaviour a'.behaviour
  cells : ∀ i j, i < c.registry.size → j < c.registry.size → c.table.view i j = c'.table.view i j

namespace Abreast

theorem item (h : Abreast rel A B g g' done c c') {i : Nat} (hi : i < c.registry.size) :
    ∃ a a', c.registry.item? i = some a ∧ c'.registry.item? i = some a' ∧ a.tag = a'.tag ∧
      rel a.behaviour a'.behaviour := by
  obtain ⟨a, ha⟩ := Registry.exists_item? hi
  obtain ⟨a', ha'⟩ := Registry.exists_item? (h.size ▸ hi)
  exact ⟨a, a', ha, ha', h.items i a a' ha ha'⟩

/-- Both know a behaviour, or neither does. -/
theorem knows_iff (m : Corresponds rel A B) (h : Abreast rel A B g g' done c c') {f f' : Behaviour}
    (related : rel f f') {tag : Option Value} {id : Nat} :
    c.registry.Knows f tag id ↔ c'.registry.Knows f' tag id := by
  by_cases known : id < c.registry.size
  · obtain ⟨a, a', ha, ha', tags, alike⟩ := h.item known
    have keys := m.key_iff alike related
    simp [Registry.Knows, Registry.Item.key, ha, ha', tags, keys]
  · have unknown : ¬ id < c'.registry.size := h.size ▸ known
    constructor
    · rintro ⟨item, found, -⟩
      exact absurd (Registry.lt_size_of_item? found) known
    · rintro ⟨item, found, -⟩
      exact absurd (Registry.lt_size_of_item? found) unknown

/-- They stay in step if both give a new behaviour the next id. -/
theorem grow (h : Abreast rel A B g g' done c c') {d d' : Catalogue} {f f' : Behaviour}
    (related : rel f f') {tag : Option Value} (asked : c.grant f tag = .ok (d, c.registry.size))
    (asked' : c'.grant f' tag = .ok (d', c'.registry.size))
    (size : d.registry.size = d'.registry.size) (next : Underway A g d)
    (next' : Underway B g' d') : Abreast rel A B g g' done d d' := by
  obtain ⟨counted, enqueued⟩ := enqueue_spec h.counted (grant_eq_ok.mp asked)
  obtain ⟨counted', enqueued'⟩ := enqueue_spec h.counted' (grant_eq_ok.mp asked')
  refine ⟨counted, counted', next, next', size, ?_, ?_⟩
  · intro i a a' ha ha'
    obtain old | ⟨last, rfl⟩ := enqueued.origin i a ha
    · obtain old' | ⟨last', -⟩ := enqueued'.origin i a' ha'
      · exact h.items i a a' old old'
      · have := Registry.lt_size_of_item? old
        have := h.size
        omega
    · obtain old' | ⟨-, rfl⟩ := enqueued'.origin i a' ha'
      · have := Registry.lt_size_of_item? old'
        have := h.size
        omega
      · exact ⟨rfl, related⟩
  · intro i j hi hj
    rw [enqueued.cells i j hi hj, enqueued'.cells i j (size ▸ hi) (size ▸ hj), ← h.size]
    split
    next inside => exact h.cells i j inside.1 inside.2
    next => rfl

/-- **Asking for an id keeps two catalogues in step**, unless room is refused to one of them
alone. -/
theorem grant (m : Corresponds rel A B) (h : Abreast rel A B g g' done c c') {f f' : Behaviour}
    (related : rel f f') {tag : Option Value} (next : Underway A g (c.enqueue f tag).1)
    (next' : Underway B g' (c'.enqueue f' tag).1) :
    Matched (Diverges A g g') (Diverges B g' g)
      (fun p p' => p.2 = p'.2 ∧ Abreast rel A B g g' done p.1 p'.1)
      (c.grant f tag) (c'.grant f' tag) := by
  have left := grant_cases h.counted h.underway f tag
  have right := grant_cases h.counted' h.underway' f' tag
  obtain ⟨id, known, asked⟩ | ⟨new, size, asked⟩ := left
  · have known' := (h.knows_iff m related).mp known
    obtain ⟨id', found, asked'⟩ | ⟨new', -⟩ := right
    · obtain rfl := known'.unique found
      rw [asked, asked']
      exact .ok ⟨rfl, h⟩
    · exact absurd known' (new' id)
  · obtain ⟨id', known', -⟩ | ⟨-, size', asked'⟩ := right
    · exact absurd ((h.knows_iff m related).mpr known') (new id')
    · have same : (c.enqueue f tag).1.registry.size = (c'.enqueue f' tag).1.registry.size := by
        rw [size, size', h.size]
      rw [← size] at asked
      rw [← size'] at asked'
      obtain ⟨d, asked, room⟩ | ⟨fault, asked, refused⟩ := asked
      · obtain ⟨d', asked', -⟩ | ⟨fault', asked', refused'⟩ := asked'
        · rw [asked, asked']
          rw [grant_eq_ok.mp asked] at next same
          rw [grant_eq_ok.mp asked'] at next' same
          exact .ok ⟨h.size, h.grow related asked asked' same next next'⟩
        · rw [asked']
          refine .second _ ⟨_, next', refused', ?_⟩
          rw [← same, room]
          exact nofun
      · by_cases alike : g'.room (c.enqueue f tag).1.registry.size = .error fault
        · obtain ⟨-, -, room'⟩ | ⟨fault', asked', refused'⟩ := asked'
          · exact nomatch (same ▸ alike).symm.trans room'
          · rw [← same, alike] at refused'
            cases refused'
            rw [asked, asked']
            exact .fault fault
        · rw [asked]
          exact .first _ ⟨_, next, refused, alike⟩

/-- Both read the same summary of an id. -/
theorem summary (m : Corresponds rel A B) (h : Abreast rel A B g g' done c c') {id : Nat}
    (known : id < c.registry.size) :
    ∃ s, c.summary (id : Int) = .ok s ∧ c'.summary (id : Int) = .ok s := by
  obtain ⟨a, a', ha, ha', -, alike⟩ := h.item known
  obtain ⟨e, e', first, first', emits⟩ := m.start alike
  refine ⟨_, summary_eq_ok.mpr ⟨a, e, ha, first, rfl⟩, summary_eq_ok.mpr ⟨a', e', ha', first', ?_⟩⟩
  rw [emits]

/-- The ids taken are among the ids. -/
theorem lt_size (h : Abreast rel A B g g' done c c') {i : Nat} (hi : i ∈ done) :
    i < c.registry.size := by
  rw [← List.mem_range, ← h.counted.queue]
  exact List.mem_append_left c.pending hi

/-- What waits is the same. -/
theorem pending (h : Abreast rel A B g g' done c c') : c.pending = c'.pending := by
  have queues := h.counted.queue.trans (h.size ▸ h.counted'.queue.symm)
  exact List.append_cancel_left queues

end Abreast

/-- Two catalogues in step in which the identity has its id. -/
structure InStep (rel : Behaviour → Behaviour → Prop) (A B : Automaton) (g g' : Growth) (e : Nat)
    (done : List Nat) (c c' : Catalogue) : Prop extends Abreast rel A B g g' done c c' where
  named : c.registry.item? e = some ⟨some Lexer.identityTag, .identity A.size⟩
  named' : c'.registry.item? e = some ⟨some Lexer.identityTag, .identity B.size⟩

namespace InStep

/-- Two ids have the same composition in both. -/
theorem join (m : Corresponds rel A B) (h : InStep rel A B g g' e done c c') {i j : Nat}
    (hi : i ∈ done) (hj : j ∈ done) :
    Matched (Diverges A g g') (Diverges B g' g)
      (fun p p' => p.2 = p'.2 ∧ p.2 < p.1.registry.size ∧ InStep rel A B g g' e done p.1 p'.1)
      (c.join e i j) (c'.join e i j) := by
  unfold Catalogue.join
  by_cases first : i = e
  · simp only [if_pos first]
    exact .ok ⟨rfl, h.lt_size hj, h⟩
  · by_cases second : j = e
    · simp only [if_neg first, if_pos second]
      exact .ok ⟨rfl, h.lt_size hi, h⟩
    · simp only [if_neg first, if_neg second]
      obtain ⟨a, a', ha, ha', -, alike⟩ := h.item (h.lt_size hi)
      obtain ⟨b, b', hb, hb', -, alike'⟩ := h.item (h.lt_size hj)
      obtain ⟨k, k', made, made', related⟩ := m.compose alike alike'
      have composed : c.composed i j = .ok k := composed_eq_ok.mpr ⟨a, b, ha, hb, made⟩
      have composed' : c'.composed i j = .ok k' := composed_eq_ok.mpr ⟨a', b', ha', hb', made'⟩
      have next := h.underway.composed h.named first second composed
      have next' := h.underway'.composed h.named' first second composed'
      rw [composed, composed', ok_bind, ok_bind]
      refine (h.grant m related next next').imp ?_
      rintro ⟨d, id⟩ ⟨d', id'⟩ asked asked' ⟨same, abreast⟩
      obtain ⟨-, enqueued⟩ := enqueue_spec h.counted (grant_eq_ok.mp asked)
      obtain ⟨-, enqueued'⟩ := enqueue_spec h.counted' (grant_eq_ok.mp asked')
      obtain ⟨item, found, -⟩ := enqueued.found
      exact ⟨same, Registry.lt_size_of_item? found, abreast, enqueued.knows _ _ h.named,
        enqueued'.knows _ _ h.named'⟩

/-- The same summary can be stored in both. -/
theorem store (h : InStep rel A B g g' e done c c') {i j : Nat} (hi : i ∈ done) (hj : j ∈ done)
    (s : Summary) : Matched (Diverges A g g') (Diverges B g' g)
      (fun t t' => InStep rel A B g g' e done { c with table := t } { c' with table := t' })
      (c.table.store i j s) (c'.table.store i j s) := by
  have states := h.counted.states
  have states' := h.counted'.states
  have inside := h.lt_size hi
  have inside' := h.lt_size hj
  have size := h.size
  have left := MergeTable.store_eq (t := c.table) (i := i) (j := j) (by omega) (by omega) s
  have right := MergeTable.store_eq (t := c'.table) (i := i) (j := j) (by omega) (by omega) s
  rcases stored : Summary.storedId (.int s.id) with fault | id
  · rw [left, right, stored]
    exact .fault fault
  · rw [stored] at left right
    have next := h.underway.store left
    have next' := h.underway'.store right
    rw [left, right]
    refine .ok ⟨⟨?_, ?_, next, next', size, h.items, ?_⟩, h.named, h.named'⟩
    · exact ⟨MergeTable.sound_write h.counted.table (by omega) (by omega) s, h.counted.extent,
        h.counted.queue⟩
    · exact ⟨MergeTable.sound_write h.counted'.table (by omega) (by omega) s, h.counted'.extent,
        h.counted'.queue⟩
    · intro x y hx hy
      have fits := h.counted.table.fits
      have fits' := h.counted'.table.fits
      simp only at hx
      rw [MergeTable.view_write h.counted.table (by omega) (by omega) (by omega),
        MergeTable.view_write h.counted'.table (by omega) (by omega) (by omega), h.cells x y hx hy]

/-- **Recording a pair keeps two catalogues in step.** -/
theorem record (m : Corresponds rel A B) (h : InStep rel A B g g' e done c c') {i j : Nat}
    (hi : i ∈ done) (hj : j ∈ done) :
    Matched (Diverges A g g') (Diverges B g' g) (InStep rel A B g g' e done)
      (c.record e i j) (c'.record e i j) := by
  rw [record_eq, record_eq]
  refine (h.join m hi hj).bind ?_
  rintro ⟨d, id⟩ ⟨d', id'⟩ - - ⟨same, known, next⟩
  simp only at same known next
  subst same
  obtain ⟨s, summary, summary'⟩ := next.summary m known
  simp only [summary, summary', ok_bind]
  refine (next.store hi hj s).bind ?_
  rintro t t' - - stored
  exact .ok stored

/-- Composing an id with others, both ways, keeps two catalogues in step. -/
theorem sweep (m : Corresponds rel A B) (h : InStep rel A B g g' e done c c') {i : Nat}
    (hi : i ∈ done) {ids : List Nat} (hids : ∀ j ∈ ids, j ∈ done) :
    Matched (Diverges A g g') (Diverges B g' g) (InStep rel A B g g' e done)
      (c.sweep e i ids) (c'.sweep e i ids) := by
  induction ids generalizing c c' with
  | nil => exact .ok h
  | cons j ids ih =>
    have hj := hids j (by simp)
    simp only [Catalogue.sweep, List.foldlM_cons, bind_assoc]
    refine (h.record m hi hj).bind fun d d' _ _ once => ?_
    refine (once.record m hj hi).bind fun _ _ _ _ twice => ?_
    exact ih twice fun k hk => hids k (List.mem_cons_of_mem j hk)

/-- The same id is taken from both queues. -/
theorem take {R R' : Registry} {t t' : MergeTable} {i : Nat} {pending pending' : List Nat}
    (h : InStep rel A B g g' e done ⟨R, t, i :: pending⟩ ⟨R', t', i :: pending'⟩) :
    InStep rel A B g g' e (done ++ [i]) ⟨R, t, pending⟩ ⟨R', t', pending'⟩ := by
  have queue := h.counted.queue
  have queue' := h.counted'.queue
  rw [← List.singleton_append, ← List.append_assoc] at queue queue'
  exact ⟨⟨⟨h.counted.table, h.counted.extent, queue⟩, ⟨h.counted'.table, h.counted'.extent, queue'⟩,
    h.underway.take, h.underway'.take, h.size, h.items, h.cells⟩, h.named, h.named'⟩

/-- **All rounds of closing keep two catalogues in step**, and take the same ids. -/
theorem drain (m : Corresponds rel A B) {fuel : Nat} (h : InStep rel A B g g' e done c c') :
    Matched (Diverges A g g') (Diverges B g' g)
      (fun p p' => p.2 = p'.2 ∧ InStep rel A B g g' e p.2 p.1 p'.1)
      (Catalogue.drain e fuel c done) (Catalogue.drain e fuel c' done) := by
  induction fuel generalizing c c' done with
  | zero => exact .ok ⟨rfl, h⟩
  | succ fuel ih =>
    have pending := h.pending
    rcases c with ⟨R, t, _ | ⟨i, rest⟩⟩
    · rcases c' with ⟨R', t', _ | ⟨i', rest'⟩⟩
      · exact .ok ⟨rfl, h⟩
      · contradiction
    · rcases c' with ⟨R', t', _ | ⟨i', rest'⟩⟩
      · contradiction
      · obtain ⟨rfl, -⟩ := List.cons.inj pending
        have taken : i ∈ done ++ [i] := by simp
        exact (h.take.sweep m taken fun _ hj => hj).bind fun _ _ _ _ next => ih next

/-- **Closing keeps two catalogues in step.** -/
theorem close (m : Corresponds rel A B) (h : InStep rel A B g g' e [] c c') (n : Nat) :
    Matched (Diverges A g g') (Diverges B g' g)
      (fun d d' => ∃ done, InStep rel A B g g' e done d d') (c.close e n) (c'.close e n) := by
  unfold Catalogue.close
  refine (h.drain m).bind ?_
  rintro ⟨d, taken⟩ ⟨d', taken'⟩ - - ⟨same, next⟩
  simp only at same next ⊢
  subst same
  rw [next.counted.states, next.counted'.states, next.size]
  split
  next => exact .ok ⟨taken, next⟩
  next => exact .fault _

end InStep

end Catalogue

end ScanLexer
