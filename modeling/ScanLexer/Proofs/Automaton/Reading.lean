import ScanLexer.Automaton.Run
import ScanLexer.Lexer.Basic
import ScanLexer.Proofs.Behaviour.Algebra
import ScanLexer.Proofs.Contract.Acceptance

/-!
# Reading a text as a behaviour

A behaviour reads a text if it does from each target what a run over the text does. The behaviours
of single bytes do so, and composing two behaviours reads one text after the other
(`Reads.compose`). So every behaviour that the bytes generate reads some text
(`Generates.exists_reads`).
-/
namespace ScanLexer.Automaton

variable {A : Automaton}

/-- A run over a row after another one begins where the first one ended. Only an empty row keeps the
flag. -/
theorem run_append (A : Automaton) (xs ys : List Datum) (t : Target) :
    A.run (xs ++ ys) t =
      A.run xs t >>= fun last => if ys = [] then .ok last else A.run ys last.target := by
  unfold run
  rw [List.foldlM_append]
  congr 1
  funext last
  cases ys with
  | nil => rfl
  | cons y ys => rfl

/-- The last step of a run over a byte string. -/
def read (A : Automaton) (w : List Symbol) (t : Target) : Except Fault Transition :=
  A.run (Datum.bytes w).elements t

theorem elements_bytes_append (u v : List Symbol) :
    (Datum.bytes (u ++ v)).elements = (Datum.bytes u).elements ++ (Datum.bytes v).elements := by
  simp [Datum.elements]

theorem read_append (A : Automaton) (u : List Symbol) {v : List Symbol} (hv : v ≠ []) (t : Target) :
    A.read (u ++ v) t = A.read u t >>= fun last => A.read v last.target := by
  have occupied : (Datum.bytes v).elements ≠ [] := by simpa [Datum.elements] using hv
  simp only [read, elements_bytes_append, run_append, if_neg occupied]

theorem read_singleton (A : Automaton) (a : Symbol) (t : Target) :
    A.read [a] t = A.step t (.int a.val) := by
  simp only [read, run, Datum.elements, List.map_cons, List.map_nil, List.foldlM_cons,
    List.foldlM_nil, Transition.stay]
  cases A.step t (.int a.val) <;> rfl

/-- A step that leads nowhere closes nothing. -/
theorem eq_reject_of_step {t : Target} {a : Datum} {last : Transition} (h : A.step t a = .ok last)
    (nowhere : last.target = none) : last = .reject := by
  cases t with
  | none => exact (Except.ok.inj h).symm
  | some i =>
    obtain ⟨node, -, h⟩ := bind_eq_ok.mp h
    obtain ⟨a, -, h⟩ := bind_eq_ok.mp h
    cases h
    unfold Node.transition at nowhere ⊢
    cases found : node.arc? a with
    | none => rfl
    | some arc => simp [found, Arc.transition] at nowhere

/-- A text that is rejected closes nothing at its end. -/
theorem eq_reject_of_read {w : List Symbol} (hw : w ≠ []) {t : Target} {last : Transition}
    (h : A.read w t = .ok last) (nowhere : last.target = none) : last = .reject := by
  obtain ⟨u, a, rfl⟩ := (List.eq_nil_or_concat' w).resolve_left hw
  rw [A.read_append u (List.cons_ne_nil a []), bind_eq_ok] at h
  obtain ⟨before, -, h⟩ := h
  rw [read_singleton] at h
  exact eq_reject_of_step h nowhere

/-- What a behaviour has to do to stand for a text. -/
structure Reads (A : Automaton) (w : List Symbol) (f : Behaviour) : Prop where
  fits : f.Over A.size
  agrees : ∀ t : Target, t.Within A.size → A.read w t = .ok (f.act t)

theorem Closed.over_behaviour (hA : A.Closed) (a : Symbol) : (A.behaviour a).Over A.size := by
  refine ⟨by simp [Automaton.behaviour, Behaviour.size, size], ?_, ?_⟩
  · intro e he
    obtain ⟨node, hnode, rfl⟩ := List.mem_map.mp he
    exact Node.plain_entry (hA.whole node hnode) a
  · intro e he
    obtain ⟨node, hnode, rfl⟩ := List.mem_map.mp he
    rw [Node.transition_entry, Node.transition]
    cases found : node.arc? a with
    | none => trivial
    | some arc =>
      exact Target.within_natCast.mpr (hA.targets node hnode arc (List.mem_of_find?_eq_some found))

theorem nodeAt_natCast {i : Nat} (hi : i < A.size) : A.nodeAt (i : Int) = .ok (A.node i) := by
  rw [nodeAt, orFault_eq_ok, entryAt_natCast, getElem?_nodes hi]

theorem step_natCast {i : Nat} (hi : i < A.size) (a : Symbol) :
    A.step (some (i : Int)) (.int a.val) = .ok ((A.node i).transition a) := by
  have symbol : Symbol.read (.int a.val) = .ok a :=
    orFault_eq_ok.mpr (Symbol.ofInt?_eq_some_iff.mpr rfl)
  simp only [step, nodeAt_natCast hi, symbol, ok_bind, pure_eq_ok]

theorem act_behaviour {i : Nat} (hi : i < A.size) (a : Symbol) :
    (A.behaviour a).act (some (i : Int)) = (A.node i).transition a := by
  have entry : (A.behaviour a).entries[i]? = some ((A.node i).entry a) := by
    simp [Automaton.behaviour, getElem?_nodes hi]
  rw [Behaviour.act_of_entry entry, Node.transition_entry]

/-- The behaviour of a byte does what a step on it does. -/
theorem step_eq_act (a : Symbol) {t : Target} (ht : t.Within A.size) :
    A.step t (.int a.val) = .ok ((A.behaviour a).act t) := by
  obtain rfl | ⟨i, hi, rfl⟩ := ht.cases
  · rfl
  · rw [act_behaviour hi, step_natCast hi]

theorem Closed.reads_byte (hA : A.Closed) (a : Symbol) : A.Reads [a] (A.behaviour a) := by
  refine ⟨hA.over_behaviour a, fun t ht => ?_⟩
  rw [read_singleton]
  exact step_eq_act a ht

theorem reads_identity (A : Automaton) : A.Reads [] (.identity A.size) := by
  refine ⟨Behaviour.over_identity A.size, fun t ht => ?_⟩
  rw [Behaviour.act_identity ht]
  rfl

theorem Reads.compose {u v : List Symbol} {f g k : Behaviour} (hf : A.Reads u f) (hg : A.Reads v g)
    (hv : v ≠ []) (hk : f.compose g = .ok k) : A.Reads (u ++ v) k := by
  obtain ⟨fits, acts⟩ := Behaviour.compose_over hf.fits hg.fits hk
  refine ⟨fits, fun t ht => ?_⟩
  rw [A.read_append u hv, hf.agrees t ht, ok_bind, hg.agrees _ (hf.fits.within_act ht), acts t ht]

/-- Behaviours that read texts are alike exactly if runs over the texts agree from each state. -/
theorem Reads.key_eq_iff {u v : List Symbol} {f g : Behaviour} (hf : A.Reads u f)
    (hg : A.Reads v g) : f.key = g.key ↔
      ∀ i : Nat, i < A.size → A.read u (some (i : Int)) = A.read v (some (i : Int)) := by
  rw [Behaviour.key_eq_iff_act hf.fits hg.fits]
  constructor
  · intro alike i hi
    have within := Target.within_natCast.mpr hi
    rw [hf.agrees _ within, hg.agrees _ within, alike _ within]
  · intro same t ht
    obtain rfl | ⟨i, hi, rfl⟩ := ht.cases
    · rfl
    · have runs := same i hi
      rwa [hf.agrees _ ht, hg.agrees _ ht, Except.ok.injEq] at runs

theorem Reads.of_key_eq {w : List Symbol} {f g : Behaviour} (hf : A.Reads w f) (hg : g.Over A.size)
    (same : g.key = f.key) : A.Reads w g := by
  refine ⟨hg, fun t ht => ?_⟩
  rw [hf.agrees t ht, (Behaviour.key_eq_iff_act hg hf.fits).mp same t ht]

theorem lexeme_natCast {i : Nat} (hi : i < A.size) :
    A.lexeme (some (i : Int)) = .ok (A.node i).lexeme := by
  simp only [lexeme, nodeAt_natCast hi, ok_bind, pure_eq_ok]

/-- What a behaviour accepts is the label of the state that it leads to from the start. -/
theorem Closed.lexeme_of_over (hA : A.Closed) {f : Behaviour} (hf : f.Over A.size) :
    A.lexeme (f.act (some (0 : Nat))).target = .ok (A.accepted f) := by
  obtain ⟨e, -, found⟩ := hf.entry_of_lt hA.start
  have start : f.transitions.head? = some e.transition := by
    rw [List.head?_eq_getElem?, Behaviour.transitions, List.getElem?_map, found, Option.map_some]
  have within := hf.within_act (Target.within_natCast.mpr hA.start)
  rw [Behaviour.act_of_entry found] at within ⊢
  unfold accepted
  rw [start]
  generalize e.transition = last at within ⊢
  rcases last with ⟨target, emits⟩
  obtain none | ⟨k, hk, state⟩ := within.cases
  · simp only at none
    rw [none]
    rfl
  · simp only at state
    simp only [state, lexeme_natCast hk, Int.toNat_natCast]

theorem Closed.lexeme_of_reads (hA : A.Closed) {w : List Symbol} {f : Behaviour}
    (hf : A.Reads w f) : A.lexeme (f.act (some (0 : Nat))).target = .ok (A.accepted f) :=
  hA.lexeme_of_over hf.fits

/-- The behaviours that come from those of the bytes by composition. -/
inductive Generates (A : Automaton) : Behaviour → Prop where
  | byte (a : Symbol) : Generates A (A.behaviour a)
  | compose {f g k : Behaviour} : Generates A f → Generates A g → f.compose g = .ok k →
      Generates A k

theorem Generates.exists_reads (hA : A.Closed) {f : Behaviour} (hf : A.Generates f) :
    ∃ w, w ≠ [] ∧ A.Reads w f := by
  induction hf with
  | byte a => exact ⟨[a], by simp, hA.reads_byte a⟩
  | compose _ _ hk ihf ihg =>
    obtain ⟨u, hu, readsf⟩ := ihf
    obtain ⟨v, hv, readsg⟩ := ihg
    exact ⟨u ++ v, by simp [hu], readsf.compose readsg hv hk⟩

theorem Generates.fits (hA : A.Closed) {f : Behaviour} (hf : A.Generates f) : f.Over A.size := by
  obtain ⟨w, -, reads⟩ := hf.exists_reads hA
  exact reads.fits

end ScanLexer.Automaton
