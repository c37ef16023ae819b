import ScanLexer.Memory.Ordinary
import ScanLexer.Proofs.Lexer.Composition

/-!
# Scanning in parallel

A scan joins the summaries of adjacent stretches, in an order of its own. Joining two summaries that
stand for texts gives one that stands for the longer text (`Compiled.stands_combine`), so each
bracketing of a text gives a summary that stands for it (`Compiled.stands_reduce`). What a summary
says of its text is what a sequential run finds (`reduce_agrees_with_run`).
-/
namespace ScanLexer

/-- A way to bracket a row of items that is not empty. -/
inductive Bracketing (α : Type) where
  | leaf (a : α)
  | join (left right : Bracketing α)

namespace Bracketing

variable {α : Type}

/-- The items in order. -/
def row : Bracketing α → List α
  | leaf a => [a]
  | join left right => left.row ++ right.row

theorem row_ne_nil (b : Bracketing α) : b.row ≠ [] := by
  induction b with
  | leaf a => exact List.cons_ne_nil a []
  | join left right ihl ihr => exact List.append_ne_nil_of_left_ne_nil ihl right.row

/-- Every row that is not empty can be bracketed. -/
theorem exists_row_eq {w : List α} (hw : w ≠ []) : ∃ b : Bracketing α, b.row = w := by
  obtain ⟨a, rest, rfl⟩ := List.exists_cons_of_ne_nil hw
  induction rest generalizing a with
  | nil => exact ⟨.leaf a, rfl⟩
  | cons a' rest ih =>
    obtain ⟨b, row⟩ := ih a' (List.cons_ne_nil a' rest)
    exact ⟨.join (.leaf a) b, by rw [Bracketing.row, Bracketing.row, row, List.singleton_append]⟩

end Bracketing

/-- The id of the ids of two texts stands for both, one after the other. -/
theorem Catalogue.Stands.append {A : Automaton} {c : Catalogue} {e : Nat}
    (h : c.registry.Generated A e) (hA : A.Closed) {u v : List Symbol} {s t : Summary} {i j r : Nat}
    {a b item : Registry.Item} (hv : v ≠ []) (hs : c.Stands A u s i a) (ht : c.Stands A v t j b)
    (joins : c.registry.Joins e i j r) (found : c.registry.item? r = some item) :
    c.Stands A (u ++ v) ⟨r, (item.behaviour.act (some (0 : Nat))).emits⟩ r item := by
  obtain ⟨apart, item', found', acts⟩ :=
    joins.acts h hA (hs.ne_identity h) (ht.ne_identity h) hs.found ht.found
  cases found.symm.trans found'
  refine ⟨rfl, found, (h.others r item found apart).1, ⟨h.fits hA found, fun target inside => ?_⟩,
    rfl⟩
  rw [A.read_append u hv, hs.reads.agrees target inside, ok_bind,
    ht.reads.agrees _ (hs.reads.fits.within_act inside), acts target inside]

namespace Lexer

variable {A : Automaton} {L : Lexer}

/-- The summary of a byte. -/
def byte (L : Lexer) (a : Symbol) : Except Fault Summary := L.initialAt a.val

/-- The summary of a bracketed row of items that have summaries. -/
def reduce {α : Type} (L : Lexer) (summary : α → Except Fault Summary) :
    Bracketing α → Except Fault Summary
  | .leaf a => summary a
  | .join left right => do L.combine (← L.reduce summary left) (← L.reduce summary right)

/-- The identity is tagged, so it stands for no text. -/
theorem Compiled.ne_identity (hL : L.Compiled A) {w : List Symbol} {s : Summary} {id : Nat}
    {item : Registry.Item} (hs : L.catalogue.Stands A w s id item) : id ≠ L.identity :=
  hs.ne_identity hL.complete.generated

theorem Compiled.stands_byte (hL : L.Compiled A) (a : Symbol) :
    ∃ s id item, L.byte a = .ok s ∧ L.catalogue.Stands A [a] s id item := by
  have hall : a.val < Symbol.all.length := by simp [Symbol.all]
  have hbyte : a.val < L.initial.length := hL.initial.length_eq ▸ hall
  obtain ⟨id, item, stands⟩ := hL.initial.get hall hbyte
  have symbol : Symbol.all.get ⟨a.val, hall⟩ = a := by simp [Symbol.all]
  rw [symbol] at stands
  refine ⟨_, id, item, ?_, stands⟩
  rw [byte, initialAt, orFault_eq_ok, entryAt_natCast]
  exact List.getElem?_eq_getElem hbyte

/-- Joining the summaries of two texts gives a summary of both, one after the other. -/
theorem Compiled.stands_combine (hL : L.Compiled A) {u v : List Symbol} {s t : Summary} {i j : Nat}
    {a b : Registry.Item} (hv : v ≠ []) (hs : L.catalogue.Stands A u s i a)
    (ht : L.catalogue.Stands A v t j b) :
    ∃ r id item, L.combine s t = .ok r ∧ L.catalogue.Stands A (u ++ v) r id item := by
  obtain ⟨r, item, got, found, joins⟩ :=
    hL.cell (Registry.lt_size_of_item? hs.found) (Registry.lt_size_of_item? ht.found)
  refine ⟨_, r, item, ?_, hs.append hL.complete.generated hL.closed hv ht joins found⟩
  rw [combine, hs.id_eq, ht.id_eq]
  exact got

/-- However a text is bracketed, its summary stands for it. -/
theorem Compiled.stands_reduce (hL : L.Compiled A) (b : Bracketing Symbol) :
    ∃ s id item, L.reduce L.byte b = .ok s ∧ L.catalogue.Stands A b.row s id item := by
  induction b with
  | leaf a => exact hL.stands_byte a
  | join left right ihl ihr =>
    obtain ⟨s, i, a, first, hs⟩ := ihl
    obtain ⟨t, j, b, second, ht⟩ := ihr
    obtain ⟨r, id, item, joined, stands⟩ := hL.stands_combine right.row_ne_nil hs ht
    refine ⟨r, id, item, ?_, stands⟩
    simp only [reduce, first, second, ok_bind]
    exact joined

theorem Compiled.final_of_item? (hL : L.Compiled A) {id : Nat} {item : Registry.Item}
    (found : L.registry.item? id = some item) : L.finalAt id = .ok (A.accepted item.behaviour) := by
  rw [finalAt, orFault_eq_ok, entryAt_natCast, hL.finals, List.getElem?_map]
  exact congrArg (Option.map A.accepted) (Registry.behaviours_of_item? found)

theorem Compiled.final_of_stands (hL : L.Compiled A) {w : List Symbol} {s : Summary} {id : Nat}
    {item : Registry.Item} (hs : L.catalogue.Stands A w s id item) :
    L.finalAt s.id = .ok (A.accepted item.behaviour) := by
  rw [hs.id_eq]
  exact hL.final_of_item? hs.found

/-- A lexer built from an automaton that calls lead to has the tables of that automaton. -/
theorem compiled_of_built [Memory] (hA : A.Built) {config : BuildConfig}
    (built : build A.contract config = .ok L) : L.Compiled A := by
  obtain ⟨B, accepted, -, hL⟩ := compiled_of_build built
  rw [Automaton.automaton_contract hA.valid, map_eq_ok] at accepted
  obtain ⟨-, -, rfl⟩ := accepted
  exact hL

/-- **A parallel scan agrees with a sequential run.** However the bytes of a text are bracketed, the
summary that they are joined to names a behaviour that does from every state, and once the input has
been rejected, what a run over the text does; its flag is that of the run from the start, and its
lexeme that of the state that this run ends in. -/
theorem reduce_agrees_with_run [Memory] (hA : A.Built) {config : BuildConfig}
    (built : build A.contract config = .ok L) (b : Bracketing Symbol) :
    ∃ s f last lexeme, L.reduce L.byte b = .ok s ∧ L.registry.behaviour s.id = .ok f ∧
      (∀ t : Target, t.Within A.size →
        ∃ e, f.apply t = .ok e ∧ e.Plain ∧ A.read b.row t = .ok e.transition) ∧
      A.read b.row (some (0 : Nat)) = .ok last ∧ s.emits = last.emits ∧
      L.finalAt s.id = .ok lexeme ∧ A.lexeme last.target = .ok lexeme := by
  have hL := compiled_of_built hA built
  obtain ⟨s, id, item, reduced, stands⟩ := hL.stands_reduce b
  have behaviour : L.registry.behaviour s.id = .ok item.behaviour := by
    rw [stands.id_eq]
    exact Registry.behaviour_of_item? stands.found
  have start : A.read b.row (some (0 : Nat)) = .ok (item.behaviour.act (some (0 : Nat))) :=
    stands.reads.agrees _ (Target.within_natCast.mpr hL.closed.start)
  refine ⟨s, item.behaviour, _, _, reduced, behaviour, ?_, start, stands.emits,
    hL.final_of_stands stands, hL.closed.lexeme_of_reads stands.reads⟩
  intro t inside
  obtain ⟨e, applied, plain, acts⟩ := stands.reads.fits.apply_eq_ok inside
  refine ⟨e, applied, plain, ?_⟩
  rw [stands.reads.agrees t inside, acts]

theorem reduce_agrees_with_run_singleA :
    ∃ L, build (Sample.singleA true).contract .usual = .ok L ∧
      ∃ s last lexeme, L.reduce L.byte (.join (.leaf 97) (.join (.leaf 97) (.leaf 98))) = .ok s ∧
        (Sample.singleA true).read [97, 97, 98] (some (0 : Nat)) = .ok last ∧
        s.emits = last.emits ∧ L.finalAt s.id = .ok lexeme ∧
        (Sample.singleA true).lexeme last.target = .ok lexeme := by
  obtain ⟨L, built, -⟩ := exists_lexer_singleA
  obtain ⟨s, -, last, lexeme, reduced, -, -, run, flag, final, label⟩ :=
    reduce_agrees_with_run Automaton.built_singleA built
      (.join (.leaf 97) (.join (.leaf 97) (.leaf 98)))
  exact ⟨L, built, s, last, lexeme, reduced, run, flag, final, label⟩

end Lexer

end ScanLexer
