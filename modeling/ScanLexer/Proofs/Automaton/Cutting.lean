import Mathlib.Data.List.Chain
import ScanLexer.Proofs.Automaton.Growing
import ScanLexer.Proofs.Automaton.Reading

/-!
# Cutting a text into lexemes

A cutting of a text is a row of pieces, each of which an automaton reads from its start. A piece
ends where the automaton has come to an accepting state and cannot go on. With restart arcs a text
is read in one go exactly if it can be cut, the cutting is then the only one, and the run emits at
each cut.

Each byte of a text either goes on with the last piece or begins a new one (`Cutting.extend`,
`Cutting.again`), and there is no other way to come to a cutting (`Cutting.concat_cases`). An
automaton with restart arcs takes the same two kinds of steps (`restart_arc?`), so an induction over
the bytes relates the two (`segmented_or_rejected`).
-/
namespace ScanLexer.Automaton

variable {A : Automaton}

/-- A text leads from the start to a state. -/
def Leads (A : Automaton) (w : List Symbol) (i : Nat) : Prop :=
  ∃ emits, A.read w (some (0 : Nat)) = .ok ⟨some (i : Int), emits⟩

/-- A new piece is begun where the piece before it leads to an accepting state that has no arc on
the next byte. -/
def Restarts (A : Automaton) (p q : List Symbol) : Prop :=
  ∃ i, A.Leads p i ∧ (A.node i).lexeme.isSome ∧ ∃ a ∈ q.head?, (A.node i).arc? a = none

/-- A way to cut a text into pieces that an automaton reads one after another. -/
structure Cutting (A : Automaton) (w : List Symbol) (pieces : List (List Symbol)) : Prop where
  whole : pieces.flatten = w
  occupied : ∀ p ∈ pieces, p ≠ []
  reads : ∀ p ∈ pieces, ∃ i, A.Leads p i
  restarts : pieces.IsChain A.Restarts

/-- A piece other than the first one begins at a position. -/
def IsCut (pieces : List (List Symbol)) (k : Nat) : Prop :=
  ∃ before after, before ≠ [] ∧ after ≠ [] ∧ pieces = before ++ after ∧ k = before.flatten.length

/-- The step on the byte at a position emits. -/
def ClosesAt (A : Automaton) (w : List Symbol) (k : Nat) : Prop :=
  ∃ t, A.read (w.take (k + 1)) (some (0 : Nat)) = .ok t ∧ t.emits = true

theorem Leads.unique {w : List Symbol} {i j : Nat} (hi : A.Leads w i) (hj : A.Leads w j) :
    i = j := by
  obtain ⟨_, first⟩ := hi
  obtain ⟨_, second⟩ := hj
  cases first.symm.trans second
  rfl

theorem leads_nil (A : Automaton) : A.Leads [] 0 := ⟨false, rfl⟩

theorem Closed.exists_read (hA : A.Closed) (w : List Symbol) {t : Target} (ht : t.Within A.size) :
    ∃ last, A.read w t = .ok last ∧ last.target.Within A.size := by
  induction w using List.reverseRecOn with
  | nil => exact ⟨.stay t, rfl, ht⟩
  | append_singleton w a ih =>
    obtain ⟨last, run, within⟩ := ih
    refine ⟨(A.behaviour a).act last.target, ?_, (hA.over_behaviour a).within_act within⟩
    rw [read_append A w (List.cons_ne_nil a []), run, ok_bind, read_singleton, step_eq_act a within]

/-- A text that is read ends in a state or is rejected. -/
theorem Closed.leads_or_rejected (hA : A.Closed) (w : List Symbol) :
    (∃ i, i < A.size ∧ A.Leads w i) ∨
      w ≠ [] ∧ A.read w (some (0 : Nat)) = .ok .reject := by
  obtain ⟨⟨target, emits⟩, run, within⟩ := hA.exists_read w (Target.within_natCast.mpr hA.start)
  obtain none | ⟨i, hi, state⟩ := within.cases
  · right
    have occupied : w ≠ [] := by
      rintro rfl
      cases run
      cases none
    refine ⟨occupied, ?_⟩
    rw [run, eq_reject_of_read occupied run none]
  · left
    simp only at state
    subst state
    exact ⟨i, hi, emits, run⟩

theorem Leads.lt_size (hA : A.Closed) {w : List Symbol} {i : Nat} (h : A.Leads w i) :
    i < A.size := by
  obtain ⟨j, hj, leads⟩ | ⟨-, rejected⟩ := hA.leads_or_rejected w
  · exact h.unique leads ▸ hj
  · obtain ⟨emits, run⟩ := h
    cases run.symm.trans rejected

/-- One more byte takes the step that the state reached offers. -/
theorem Leads.read_concat (hA : A.Closed) {w : List Symbol} {i : Nat} (h : A.Leads w i)
    (a : Symbol) :
    A.read (w ++ [a]) (some (0 : Nat)) = .ok ((A.node i).transition a) := by
  have hi := h.lt_size hA
  obtain ⟨emits, run⟩ := h
  rw [read_append A w (List.cons_ne_nil a []), run, ok_bind, read_singleton, step_natCast hi]

theorem Leads.concat (hA : A.Closed) {w : List Symbol} {i : Nat} (h : A.Leads w i) {a : Symbol}
    {arc : Arc} (own : (A.node i).arc? a = some arc) : A.Leads (w ++ [a]) arc.target := by
  refine ⟨arc.emits, ?_⟩
  rw [h.read_concat hA, Node.transition, own]
  rfl

theorem leads_concat (hA : A.Closed) {w : List Symbol} {a : Symbol} {j : Nat} :
    A.Leads (w ++ [a]) j ↔
      ∃ i arc, A.Leads w i ∧ (A.node i).arc? a = some arc ∧ arc.target = j := by
  constructor
  · intro h
    obtain ⟨i, hi, leads⟩ | ⟨occupied, rejected⟩ := hA.leads_or_rejected w
    · obtain ⟨emits, run⟩ := h
      rw [leads.read_concat hA, Node.transition] at run
      cases found : (A.node i).arc? a with
      | none =>
        rw [found] at run
        cases run
      | some arc =>
        rw [found] at run
        cases run
        exact ⟨i, arc, leads, found, rfl⟩
    · obtain ⟨emits, run⟩ := h
      rw [read_append A w (List.cons_ne_nil a []), rejected, ok_bind, read_singleton] at run
      cases run
  · rintro ⟨i, arc, leads, own, rfl⟩
    exact leads.concat hA own

/-- Among the arcs that a state gains is the start state's arc on each symbol that it has no arc
on. -/
theorem find?_restartArcs (start : Node) {node : Node} {a : Symbol} (lacks : node.arc? a = none) :
    (restartArcs start node).find? (·.symbol = a) =
      (start.arc? a).map fun arc => { arc with emits := true } := by
  rw [restartArcs, List.find?_map, List.find?_filter, Node.arc?]
  congr 2
  funext arc
  by_cases same : arc.symbol = a
  · simp [same, lacks]
  · simp [same]

/-- With restart arcs a state has its own arcs and, if it accepts, those arcs of the start state
that read other symbols. -/
theorem restart_arc? (A : Automaton) (i : Nat) (a : Symbol) : (A.restart.node i).arc? a =
    ((A.node i).arc? a).or (if (A.node i).lexeme.isSome then
      ((A.node 0).arc? a).map fun arc => { arc with emits := true } else none) := by
  rw [node_restart]
  split
  next =>
    cases own : (A.node i).arc? a with
    | some arc =>
      rw [Node.arc?] at own ⊢
      rw [List.find?_append, own]
      rfl
    | none =>
      rw [← find?_restartArcs (A.node 0) own]
      rw [Node.arc?] at own ⊢
      rw [List.find?_append, own]
  next => rw [Option.or_none]

/-- Whether a piece may begin somewhere depends on its first byte alone. -/
theorem restarts_concat {p q : List Symbol} (hq : q ≠ []) (a : Symbol) :
    A.Restarts p (q ++ [a]) ↔ A.Restarts p q := by
  unfold Restarts
  rw [List.head?_append_of_ne_nil q hq]

/-- The piece that is being read. There is nothing of it before the first byte. -/
def lastPiece (pieces : List (List Symbol)) : List Symbol := pieces.getLast?.getD []

/-- The pieces with one more byte at the end of the last one. -/
def goOn (pieces : List (List Symbol)) (a : Symbol) : List (List Symbol) :=
  pieces.dropLast ++ [lastPiece pieces ++ [a]]

@[simp] theorem lastPiece_concat (done : List (List Symbol)) (p : List Symbol) :
    lastPiece (done ++ [p]) = p := by simp [lastPiece]

@[simp] theorem goOn_concat (done : List (List Symbol)) (p : List Symbol) (a : Symbol) :
    goOn (done ++ [p]) a = done ++ [p ++ [a]] := by simp [goOn]

theorem cutting_nil (A : Automaton) : A.Cutting [] [] := ⟨rfl, nofun, nofun, .nil⟩

theorem Cutting.eq_nil {pieces : List (List Symbol)} (h : A.Cutting [] pieces) : pieces = [] := by
  refine List.eq_nil_iff_forall_not_mem.mpr fun p hp => h.occupied p hp ?_
  exact List.flatten_eq_nil_iff.mp h.whole p hp

theorem cutting_concat {w p : List Symbol} {done : List (List Symbol)} :
    A.Cutting w (done ++ [p]) ↔ w = done.flatten ++ p ∧ p ≠ [] ∧ (∃ i, A.Leads p i) ∧
      A.Cutting done.flatten done ∧ ∀ q ∈ done.getLast?, A.Restarts q p := by
  constructor
  · intro h
    obtain ⟨chain, -, link⟩ := List.isChain_append.mp h.restarts
    refine ⟨?_, h.occupied p (by simp), h.reads p (by simp), ⟨rfl, ?_, ?_, chain⟩, ?_⟩
    · simpa using h.whole.symm
    · exact fun q hq => h.occupied q (by simp [hq])
    · exact fun q hq => h.reads q (by simp [hq])
    · exact fun q hq => link q hq p rfl
  · rintro ⟨rfl, occupied, reads, before, link⟩
    refine ⟨by simp, ?_, ?_, List.isChain_append.mpr ⟨before.restarts, .singleton p, ?_⟩⟩
    · intro q hq
      obtain old | new := List.mem_append.mp hq
      · exact before.occupied q old
      · exact List.mem_singleton.mp new ▸ occupied
    · intro q hq
      obtain old | new := List.mem_append.mp hq
      · exact before.reads q old
      · exact List.mem_singleton.mp new ▸ reads
    · intro q hq r hr
      cases hr
      exact link q hq

/-- The cut positions do not depend on what the last piece is. -/
theorem isCut_concat {done : List (List Symbol)} {p : List Symbol} {k : Nat} :
    IsCut (done ++ [p]) k ↔
      ∃ before, before ≠ [] ∧ before <+: done ∧ k = before.flatten.length := by
  constructor
  · rintro ⟨before, after, some, more, whole, rfl⟩
    obtain ⟨rest, last, rfl⟩ := (List.eq_nil_or_concat' after).resolve_left more
    rw [← List.append_assoc] at whole
    obtain ⟨rfl, -⟩ := List.append_inj' whole rfl
    exact ⟨before, some, List.prefix_append before rest, rfl⟩
  · rintro ⟨before, some, ⟨rest, rfl⟩, rfl⟩
    exact ⟨before, rest ++ [p], some, by simp, by simp, rfl⟩

theorem not_isCut_nil (k : Nat) : ¬ IsCut [] k := by
  rintro ⟨before, after, some, -, whole, -⟩
  exact some (List.append_eq_nil_iff.mp whole.symm).1

theorem isCut_goOn {pieces : List (List Symbol)} {a : Symbol} {k : Nat} :
    IsCut (goOn pieces a) k ↔ IsCut pieces k := by
  obtain rfl | ⟨done, p, rfl⟩ := List.eq_nil_or_concat' pieces
  · have first : goOn [] a = [] ++ [[a]] := rfl
    rw [first, isCut_concat]
    constructor
    · rintro ⟨before, some, inside, -⟩
      exact absurd (List.prefix_nil.mp inside) some
    · exact fun cut => absurd cut (not_isCut_nil k)
  · rw [goOn_concat, isCut_concat, isCut_concat]

/-- A new piece brings one more cut. -/
theorem isCut_again {pieces : List (List Symbol)} (some : pieces ≠ []) {p : List Symbol} {k : Nat} :
    IsCut (pieces ++ [p]) k ↔ IsCut pieces k ∨ k = pieces.flatten.length := by
  obtain ⟨done, q, rfl⟩ := (List.eq_nil_or_concat' pieces).resolve_left some
  rw [isCut_concat, isCut_concat]
  constructor
  · rintro ⟨before, occupied, inside, rfl⟩
    obtain rfl | shorter := List.prefix_concat_iff.mp inside
    · exact .inr rfl
    · exact .inl ⟨before, occupied, shorter, rfl⟩
  · rintro (⟨before, occupied, inside, rfl⟩ | rfl)
    · exact ⟨before, occupied, inside.trans (List.prefix_append done [q]), rfl⟩
    · exact ⟨done ++ [q], some, List.prefix_rfl, rfl⟩

section
variable {w : List Symbol} {pieces : List (List Symbol)} {i : Nat} {a : Symbol} {arc : Arc}

/-- A byte on which the state reached has an arc goes on with the last piece. -/
theorem Cutting.extend (hA : A.Closed) (h : A.Cutting w pieces)
    (leads : A.Leads (lastPiece pieces) i)
    (own : (A.node i).arc? a = some arc) : A.Cutting (w ++ [a]) (goOn pieces a) := by
  have reads := leads.concat hA own
  obtain rfl | ⟨done, p, rfl⟩ := List.eq_nil_or_concat' pieces
  · obtain rfl := h.whole
    exact cutting_concat.mpr ⟨rfl, List.cons_ne_nil a [], ⟨_, reads⟩, cutting_nil A, nofun⟩
  · obtain ⟨rfl, occupied, -, before, link⟩ := cutting_concat.mp h
    rw [lastPiece_concat] at reads
    rw [goOn_concat]
    refine cutting_concat.mpr ⟨by simp, by simp, ⟨_, reads⟩, before, ?_⟩
    intro q hq
    exact (restarts_concat occupied a).mpr (link q hq)

/-- A byte on which an accepting state has no arc begins a new piece if the start state has one. -/
theorem Cutting.again (hA : A.Closed) (h : A.Cutting w pieces)
    (leads : A.Leads (lastPiece pieces) i) (lacks : (A.node i).arc? a = none)
    (accepts : (A.node i).lexeme.isSome)
    (first : (A.node 0).arc? a = some arc) : A.Cutting (w ++ [a]) (pieces ++ [[a]]) := by
  have whole := h.whole
  have reads : A.Leads [a] arc.target := (leads_nil A).concat hA first
  refine cutting_concat.mpr ⟨by rw [whole], List.cons_ne_nil a [], ⟨_, reads⟩, whole ▸ h, ?_⟩
  intro q hq
  have last : lastPiece pieces = q := by rw [lastPiece, Option.mem_def.mp hq, Option.getD_some]
  exact ⟨i, last ▸ leads, accepts, a, rfl, lacks⟩

/-- The last byte of a text that is cut goes on with the piece before it, or that piece cannot go on
and the byte begins a new one. -/
theorem Cutting.concat_cases (hA : A.Closed) (h : A.Cutting (w ++ [a]) pieces) :
    ∃ before i arc, A.Cutting w before ∧ A.Leads (lastPiece before) i ∧
      ((A.node i).arc? a = some arc ∧ pieces = goOn before a ∨
        (A.node i).arc? a = none ∧ (A.node i).lexeme.isSome ∧ (A.node 0).arc? a = some arc ∧
          pieces = before ++ [[a]]) := by
  have some : pieces ≠ [] := by
    rintro rfl
    exact List.cons_ne_nil a [] (List.append_eq_nil_iff.mp h.whole.symm).2
  obtain ⟨done, p, rfl⟩ := (List.eq_nil_or_concat' pieces).resolve_left some
  obtain ⟨whole, occupied, ⟨j, reads⟩, before, link⟩ := cutting_concat.mp h
  obtain ⟨q, b, rfl⟩ := (List.eq_nil_or_concat' p).resolve_left occupied
  rw [← List.append_assoc] at whole
  obtain ⟨rfl, last⟩ := List.append_inj' whole rfl
  cases last
  obtain ⟨i, arc, leads, own, -⟩ := (leads_concat hA).mp reads
  -- If the last piece is this byte alone, it is the first piece or the one before it cannot go on.
  by_cases more : q = []
  · subst more
    obtain rfl := leads.unique (leads_nil A)
    rw [List.append_nil]
    obtain rfl | ⟨done, r, rfl⟩ := List.eq_nil_or_concat' done
    · exact ⟨[], 0, arc, before, leads, .inl ⟨own, rfl⟩⟩
    · obtain ⟨j, leads', accepts, b, first, lacks⟩ := link r (by simp)
      cases first
      exact ⟨done ++ [r], j, arc, before, by simpa using leads', .inr ⟨lacks, accepts, own, rfl⟩⟩
  · refine ⟨done ++ [q], i, arc, cutting_concat.mpr ⟨rfl, more, ⟨i, leads⟩, before, ?_⟩,
      by simpa using leads, .inl ⟨own, (goOn_concat done q a).symm⟩⟩
    intro r hr
    exact (restarts_concat more a).mp (link r hr)

end

/-- No arc emits. -/
def Silent (A : Automaton) : Prop := ∀ node ∈ A.nodes, ∀ arc ∈ node.arcs, arc.emits = false

/-- A text that can be cut in one way alone. The run with restart arcs comes to the state that the
last piece leads to, and it emits at the cuts. -/
structure Segmented (A : Automaton) (w : List Symbol) (pieces : List (List Symbol)) (i : Nat) :
    Prop where
  cutting : A.Cutting w pieces
  only : ∀ other, A.Cutting w other → other = pieces
  leads : A.Leads (lastPiece pieces) i
  restart : A.restart.Leads w i
  cuts : ∀ k, IsCut pieces k ↔ k < w.length ∧ A.restart.ClosesAt w k

theorem closesAt_concat (A : Automaton) (w : List Symbol) (a : Symbol) (k : Nat) :
    (k < (w ++ [a]).length ∧ A.ClosesAt (w ++ [a]) k) ↔
      (k < w.length ∧ A.ClosesAt w k) ∨
      (k = w.length ∧ ∃ t, A.read (w ++ [a]) (some (0 : Nat)) = .ok t ∧ t.emits = true) := by
  rw [List.length_append, List.length_singleton]
  unfold ClosesAt
  by_cases inside : k < w.length
  · have same : (w ++ [a]).take (k + 1) = w.take (k + 1) := List.take_append_of_le_length inside
    have other : k ≠ w.length := by omega
    simp only [same, inside, other, false_and, or_false, true_and]
    exact and_iff_right (by omega)
  · by_cases last : k = w.length
    · subst last
      have whole : (w ++ [a]).take (w.length + 1) = w ++ [a] := List.take_of_length_le (by simp)
      simp [whole]
    · have beyond : ¬ k < w.length + 1 := by omega
      simp [inside, last, beyond]

section
variable {w : List Symbol} {pieces : List (List Symbol)} {i : Nat} {a : Symbol} {arc : Arc}

theorem Silent.emits (hs : A.Silent) (hi : i < A.size) (own : (A.node i).arc? a = some arc) :
    arc.emits = false :=
  hs _ (List.mem_of_getElem? (getElem?_nodes hi)) arc (List.mem_of_find?_eq_some own)

theorem segmented_nil (A : Automaton) : A.Segmented [] [] 0 where
  cutting := cutting_nil A
  only _ h := h.eq_nil
  leads := leads_nil A
  restart := leads_nil A.restart
  cuts k := by simp [not_isCut_nil k]

/-- What a text is segmented into after one more byte that the automaton can go on with. -/
theorem Segmented.extend (hA : A.Valid) (hs : A.Silent) (h : A.Segmented w pieces i)
    (own : (A.node i).arc? a = some arc) :
    A.Segmented (w ++ [a]) (goOn pieces a) arc.target := by
  have hi := h.leads.lt_size hA.closed
  have silent := hs.emits hi own
  have run : A.restart.read (w ++ [a]) (some (0 : Nat)) = .ok arc.transition := by
    rw [h.restart.read_concat hA.restart.closed, Node.transition, restart_arc?, own]
    rfl
  refine ⟨h.cutting.extend hA.closed h.leads own, ?_, ?_, ⟨arc.emits, run⟩, ?_⟩
  · intro other cut
    obtain ⟨before, j, arc', shorter, leads, ⟨-, rfl⟩ | ⟨lacks, -⟩⟩ := cut.concat_cases hA.closed
    · rw [h.only before shorter]
    · -- No new piece is begun where the last one goes on.
      rw [h.only before shorter] at leads
      rw [h.leads.unique leads, lacks] at own
      contradiction
  · have next := h.leads.concat hA.closed own
    simpa [goOn] using next
  · intro k
    rw [isCut_goOn, closesAt_concat, ← h.cuts, run]
    simp [Arc.transition, silent]

theorem Segmented.again (hA : A.Valid) (h : A.Segmented w pieces i)
    (lacks : (A.node i).arc? a = none) (accepts : (A.node i).lexeme.isSome)
    (first : (A.node 0).arc? a = some arc) :
    A.Segmented (w ++ [a]) (pieces ++ [[a]]) arc.target := by
  -- The start state has the arc, so it is not the state reached, and some piece was read.
  have begun : pieces ≠ [] := by
    rintro rfl
    rw [h.leads.unique (leads_nil A), first] at lacks
    contradiction
  have run : A.restart.read (w ++ [a]) (some (0 : Nat)) = .ok ⟨some (arc.target : Int), true⟩ := by
    rw [h.restart.read_concat hA.restart.closed, Node.transition, restart_arc?, lacks,
      if_pos accepts, first]
    rfl
  refine ⟨h.cutting.again hA.closed h.leads lacks accepts first, ?_, ?_, ⟨true, run⟩, ?_⟩
  · intro other cut
    obtain ⟨before, j, arc', shorter, leads, ⟨own, -⟩ | ⟨-, -, -, rfl⟩⟩ :=
      cut.concat_cases hA.closed
    · rw [h.only before shorter] at leads
      rw [← h.leads.unique leads, lacks] at own
      contradiction
    · rw [h.only before shorter]
  · rw [lastPiece_concat]
    exact (leads_nil A).concat hA.closed first
  · intro k
    rw [isCut_again begun, closesAt_concat, ← h.cuts, run, h.cutting.whole]
    simp

/-- A byte that neither goes on with a piece nor begins one cannot be read, and the text with it
cannot be cut. -/
theorem Segmented.stuck (hA : A.Valid) (h : A.Segmented w pieces i)
    (lacks : (A.restart.node i).arc? a = none) :
    A.restart.read (w ++ [a]) (some (0 : Nat)) = .ok .reject ∧
      ∀ other, ¬ A.Cutting (w ++ [a]) other := by
  constructor
  · rw [h.restart.read_concat hA.restart.closed, Node.transition, lacks]
    rfl
  · intro other cut
    obtain ⟨before, j, arc, shorter, leads, next⟩ := cut.concat_cases hA.closed
    rw [h.only before shorter] at leads
    obtain rfl := h.leads.unique leads
    rw [restart_arc?] at lacks
    obtain ⟨own, -⟩ | ⟨lacks', accepts, first, -⟩ := next
    · simp [own] at lacks
    · simp [lacks', accepts, first] at lacks

/-- A text is segmented or, with restart arcs, rejected. -/
theorem segmented_or_rejected (hA : A.Valid) (hs : A.Silent) (w : List Symbol) :
    (∃ pieces i, A.Segmented w pieces i) ∨
      A.restart.read w (some (0 : Nat)) = .ok .reject ∧ ∀ pieces, ¬ A.Cutting w pieces := by
  induction w using List.reverseRecOn with
  | nil => exact .inl ⟨[], 0, segmented_nil A⟩
  | append_singleton w a ih =>
    obtain ⟨pieces, i, h⟩ | ⟨rejected, none⟩ := ih
    · have arcs := A.restart_arc? i a
      cases own : (A.node i).arc? a with
      | some arc => exact .inl ⟨_, _, h.extend hA hs own⟩
      | none =>
        by_cases accepts : (A.node i).lexeme.isSome
        · cases first : (A.node 0).arc? a with
          | some arc => exact .inl ⟨_, _, h.again hA own accepts first⟩
          | none => exact .inr (h.stuck hA (by rw [arcs, own, if_pos accepts, first]; rfl))
        · exact .inr (h.stuck hA (by rw [arcs, own, if_neg accepts]; rfl))
    · right
      constructor
      · rw [read_append _ w (List.cons_ne_nil a []), rejected, ok_bind, read_singleton]
        rfl
      · intro pieces cut
        obtain ⟨before, -, -, shorter, -⟩ := cut.concat_cases hA.closed
        exact none before shorter

end

/-- The first byte of a text is no cut. -/
theorem Cutting.not_isCut_zero {w : List Symbol} {pieces : List (List Symbol)}
    (h : A.Cutting w pieces) : ¬ IsCut pieces 0 := by
  rintro ⟨before, after, some, -, rfl, none⟩
  obtain ⟨p, rest, rfl⟩ := List.exists_cons_of_ne_nil some
  have occupied := List.length_pos_iff.mpr (h.occupied p (by simp))
  rw [List.flatten_cons, List.length_append] at none
  omega

/-- **Restart arcs cut a text into lexemes.** A run with restart arcs, made for an automaton that
emits nowhere, reads a text exactly if the text can be cut. There is then one cutting alone: the run
emits on the first bytes of its pieces other than the first, and comes to the state that the last
piece leads to. -/
theorem restart_cuts_lexemes (hA : A.Built) (hs : A.Silent) {w : List Symbol} (hw : w ≠ []) :
    ∃ last, A.restart.read w (some (0 : Nat)) = .ok last ∧
      (last.target ≠ none ↔ ∃ pieces, A.Cutting w pieces) ∧
      ∀ pieces, A.Cutting w pieces →
        (∀ other, A.Cutting w other → other = pieces) ∧
        (∀ k, IsCut pieces k ↔ k < w.length ∧ A.restart.ClosesAt w k) ∧ ¬ IsCut pieces 0 ∧
        ∃ p t, pieces.getLast? = some p ∧ A.read p (some (0 : Nat)) = .ok t ∧
          t.target = last.target := by
  obtain ⟨pieces, i, h⟩ | ⟨rejected, none⟩ := segmented_or_rejected hA.valid hs w
  · obtain ⟨emits, run⟩ := h.restart
    refine ⟨_, run, ?_, ?_⟩
    · exact iff_of_true (Option.some_ne_none _) ⟨pieces, h.cutting⟩
    · intro other cut
      obtain rfl := h.only other cut
      refine ⟨h.only, h.cuts, cut.not_isCut_zero, ?_⟩
      obtain rfl | ⟨done, p, rfl⟩ := List.eq_nil_or_concat' other
      · exact absurd cut.whole.symm hw
      · obtain ⟨closed, reads⟩ := h.leads
        rw [lastPiece_concat] at reads
        exact ⟨p, _, List.getLast?_concat, reads, rfl⟩
  · refine ⟨.reject, rejected, ?_, fun pieces cut => absurd cut (none pieces)⟩
    exact iff_of_false (fun some => some rfl) fun ⟨pieces, cut⟩ => none pieces cut

/-- Words over one letter, and blanks. -/
def words : Automaton :=
  ⟨[⟨Sample.arcs "a" 1 ++ Sample.arcs " " 2, none⟩, ⟨Sample.arcs "a" 1, Sample.token "word"⟩,
    ⟨Sample.arcs " " 2, Sample.token "blank"⟩]⟩

theorem built_words : words.Built := by
  have new : Built ⟨[.bare none]⟩ := .new (n := 1) rfl
  have states :=
    (new.call (.addState (Sample.token "word"))).call (.addState (Sample.token "blank"))
  have word := states.call (.add (.int 0) (.text "a") (.int 1) (.bool false))
  have blank := word.call (.add (.int 0) (.text " ") (.int 2) (.bool false))
  have longer := blank.call (.add (.int 1) (.text "a") (.int 1) (.bool false))
  exact longer.call (.add (.int 2) (.text " ") (.int 2) (.bool false))

/-- Two words with a blank between them are cut before and after the blank. -/
theorem restart_cuts_lexemes_words :
    words.Built ∧ words.Silent ∧ [97, 97, 32, 97] ≠ ([] : List Symbol) ∧
    ∃ pieces, words.Cutting [97, 97, 32, 97] pieces ∧ IsCut pieces 2 ∧ IsCut pieces 3 := by
  have silent : words.Silent := by
    unfold Silent
    decide +kernel
  obtain ⟨last, run, cut, cuts⟩ :=
    restart_cuts_lexemes built_words silent (List.cons_ne_nil (97 : Symbol) [97, 32, 97])
  have found : words.restart.read [97, 97, 32, 97] (some (0 : Nat)) = .ok ⟨some 1, true⟩ := by
    decide +kernel
  cases found.symm.trans run
  obtain ⟨pieces, cutting⟩ := cut.mp (Option.some_ne_none _)
  obtain ⟨-, closes, -⟩ := cuts pieces cutting
  refine ⟨built_words, silent, List.cons_ne_nil _ _, pieces, cutting, ?_, ?_⟩
  · exact (closes 2).mpr ⟨by decide, ⟨some 2, true⟩, by decide +kernel, rfl⟩
  · exact (closes 3).mpr ⟨by decide, ⟨some 1, true⟩, by decide +kernel, rfl⟩

end ScanLexer.Automaton
