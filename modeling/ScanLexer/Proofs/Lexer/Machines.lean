import ScanLexer.Proofs.Lexer.Building

/-!
# Lexers on other machines

How much memory can be had decides whether a lexer is built and nothing else: each step of building
that is granted on one machine is granted, with the same result, on every machine where as much can
be had (`Memory.Within.build`).
-/
namespace ScanLexer

/-- The second machine hands out whatever the first one does. -/
def Memory.Within (m m' : Memory) : Prop := ∀ size, m.has size = true → m'.has size = true

namespace Memory.Within

/-- A machine hands out what fits below a size that it can hand out. -/
theorem below {limit : Nat} {positive : 0 < limit} {m : Memory} (enough : m.has limit = true) :
    (Memory.below limit positive).Within m :=
  fun _ had => m.has_of_le (Nat.le_of_lt (of_decide_eq_true had)) enough

variable {m m' : Memory} (more : m.Within m')
include more

theorem ask (n size : Int) : Repeated (@Memory.ask m n size) (@Memory.ask m' n size) := by
  intro u granted
  unfold Memory.ask at granted ⊢
  split at granted
  next => contradiction
  next counted =>
    rw [if_neg counted]
    split at granted
    next => contradiction
    next had => rwa [more _ (by simpa using had)]

theorem row (count : Nat) : Repeated (@Memory.row m count) (@Memory.row m' count) := by
  rintro ⟨⟩ granted
  obtain ⟨counted, had⟩ := (@Memory.row_eq_ok_iff m count).mp granted
  exact (@Memory.row_eq_ok_iff m' count).mpr ⟨counted, more _ had⟩

theorem ensure (t : MergeTable) (requested : Datum) :
    Repeated (@MergeTable.ensure m t requested) (@MergeTable.ensure m' t requested) := by
  unfold MergeTable.ensure
  split
  · exact .refl _
  · split
    · exact .refl _
    · simp only
      split
      · exact .refl _
      · exact (more.row _).map _

theorem automaton (C : Contract) :
    Repeated (@Contract.automaton m C) (@Contract.automaton m' C) := by
  unfold Contract.automaton
  split
  · exact .refl _
  · split
    · exact .refl _
    · exact (more.ask _ _).bind fun _ => .refl _

section
open Catalogue

variable (c : Catalogue)

theorem grant (f : Behaviour) (tag : Option Value) :
    Repeated (@Catalogue.grant m c f tag) (@Catalogue.grant m' c f tag) := by
  rcases c with ⟨registry, table, pending⟩
  rcases interned : registry.intern f tag with ⟨larger, id, fresh⟩
  unfold Catalogue.grant enqueue
  simp only [interned]
  split
  · intro p granted
    cases room : @MergeTable.ensure m table (.int (id + 1)) with
    | error fault =>
      rw [room] at granted
      contradiction
    | ok grown =>
      rw [room] at granted
      rw [more.ensure table _ grown room]
      exact granted
  · exact .refl _

theorem enqueueAll (fs : List Behaviour) :
    Repeated (@Catalogue.enqueueAll m c fs) (@Catalogue.enqueueAll m' c fs) := by
  induction fs generalizing c with
  | nil => exact .refl _
  | cons f rest ih =>
    rw [@enqueueAll_cons m, @enqueueAll_cons m']
    exact (more.grant c f none).bind fun p =>
      (Repeated.refl _).bind fun _ => (ih p.1).bind fun _ => .refl _

theorem join (e i j : Nat) : Repeated (@Catalogue.join m c e i j) (@Catalogue.join m' c e i j) := by
  unfold Catalogue.join
  split
  · exact .refl _
  · split
    · exact .refl _
    · exact (Repeated.refl _).bind fun f => more.grant c f none

theorem record (e i j : Nat) :
    Repeated (@Catalogue.record m c e i j) (@Catalogue.record m' c e i j) := by
  rw [@record_eq m, @record_eq m']
  exact (more.join c e i j).bind fun _ => .refl _

theorem sweep (e i : Nat) (done : List Nat) :
    Repeated (@Catalogue.sweep m c e i done) (@Catalogue.sweep m' c e i done) :=
  Repeated.foldlM (fun c j => (more.record c e i j).bind fun c => more.record c e j i) done c

theorem drain (e rounds : Nat) (done : List Nat) :
    Repeated (@Catalogue.drain m e rounds c done) (@Catalogue.drain m' e rounds c done) := by
  induction rounds generalizing c done with
  | zero => exact .refl _
  | succ rounds ih =>
    rcases c with ⟨registry, table, _ | ⟨i, pending⟩⟩
    · exact .refl _
    · exact (more.sweep _ e i _).bind fun c => ih c _

theorem close (e n : Nat) : Repeated (@Catalogue.close m c e n) (@Catalogue.close m' c e n) :=
  (more.drain c e (most n) []).bind fun _ => .refl _

end

theorem gather (A : Automaton) (growth : Growth) :
    Repeated (@Lexer.gather m A growth) (@Lexer.gather m' A growth) := by
  rw [@Lexer.gather_eq m, @Lexer.gather_eq m']
  exact (more.enqueueAll _ _).bind fun p => (more.grant p.1 _ _).bind fun _ => .refl _

theorem compile (A : Automaton) (growth : Growth) :
    Repeated (@Lexer.compile m A growth) (@Lexer.compile m' A growth) := by
  rw [@Lexer.compile_eq m, @Lexer.compile_eq m']
  exact (more.gather A growth).bind fun p => (more.close p.1 _ _).bind fun _ => .refl _

/-- **A lexer that is built on one machine is built on every machine where as much can be had,** and
it is the same lexer. -/
theorem build (C : Contract) (config : BuildConfig) :
    Repeated (@Lexer.build m C config) (@Lexer.build m' C config) :=
  (more.automaton C).bind fun A => (more.compile A config.growth).bind fun _ => .refl _

end Memory.Within

end ScanLexer
