import ScanLexer.Proofs.Automaton.Cutting

/-!
# Telling a run from the text

Where a run over a text ends may often be told from the text itself, say from its last byte or from
its last word. An account of an automaton says what is told of each text over an alphabet. It is
enough that an account is right about one more byte (`Follows.step`, `Follows.foreign`): it is then
right about every text, and a byte outside the alphabet is rejected together with all that stands
behind it (`Follows.read_cases`).
-/
namespace ScanLexer.Automaton

/-- What is told of texts: the state that a run comes to, whether its last step emits, and what is
accepted then. -/
structure Account where
  state : List Symbol → Nat
  emits : List Symbol → Bool
  lexeme : List Symbol → Option Lexeme

/-- The last step of a run, as it is told. -/
def Account.last (told : Account) (w : List Symbol) : Transition :=
  ⟨some (told.state w : Int), told.emits w⟩

/-- An account is right about the start and about each further byte. -/
structure Follows (A : Automaton) (alphabet : List Symbol) (told : Account) : Prop where
  start : told.last [] = .stay (some (0 : Nat))
  step : ∀ w, (∀ b ∈ w, b ∈ alphabet) → ∀ a ∈ alphabet,
    (A.node (told.state w)).transition a = told.last (w ++ [a])
  foreign : ∀ w, (∀ b ∈ w, b ∈ alphabet) → ∀ a ∉ alphabet,
    (A.node (told.state w)).transition a = .reject
  labels : ∀ w, (∀ b ∈ w, b ∈ alphabet) → (A.node (told.state w)).lexeme = told.lexeme w

variable {A : Automaton} {alphabet : List Symbol} {told : Account}

/-- A byte that is on no arc is rejected everywhere. -/
theorem transition_of_foreign (known : ∀ node ∈ A.nodes, ∀ arc ∈ node.arcs, arc.symbol ∈ alphabet)
    (i : Nat) {a : Symbol} (ha : a ∉ alphabet) : (A.node i).transition a = .reject := by
  have absent : (A.node i).arc? a = none := by
    rw [Node.arc?_eq_none_iff, List.mem_map]
    rintro ⟨arc, harc, rfl⟩
    by_cases hi : i < A.size
    · exact ha (known _ (List.mem_of_getElem? (getElem?_nodes hi)) arc harc)
    · rw [node_of_size_le (Nat.le_of_not_lt hi)] at harc
      contradiction
  rw [Node.transition, absent]
  rfl

/-- **An account that is right about one more byte is right about every text.** A text over the
alphabet is read as told, and any other text is rejected. -/
theorem Follows.read_cases (hA : A.Closed) (h : A.Follows alphabet told) (w : List Symbol) :
    ((∀ a ∈ w, a ∈ alphabet) ∧ A.read w (some (0 : Nat)) = .ok (told.last w)) ∨
      (∃ a ∈ w, a ∉ alphabet) ∧ A.read w (some (0 : Nat)) = .ok .reject := by
  induction w using List.reverseRecOn with
  | nil => exact .inl ⟨nofun, congrArg Except.ok h.start.symm⟩
  | append_singleton w a ih =>
    obtain ⟨known, read⟩ | ⟨⟨b, hb, unknown⟩, rejected⟩ := ih
    · have leads : A.Leads w (told.state w) := ⟨told.emits w, read⟩
      have next := leads.read_concat hA a
      by_cases ha : a ∈ alphabet
      · left
        rw [h.step w known a ha] at next
        refine ⟨?_, next⟩
        intro b hb
        obtain old | last := List.mem_append.mp hb
        · exact known b old
        · exact List.mem_singleton.mp last ▸ ha
      · right
        rw [h.foreign w known a ha] at next
        exact ⟨⟨a, by simp, ha⟩, next⟩
    · right
      refine ⟨⟨b, List.mem_append_left _ hb, unknown⟩, ?_⟩
      rw [read_append A w (List.cons_ne_nil a []), rejected, ok_bind, read_singleton]
      rfl

/-- What is accepted after a text over the alphabet is told too. -/
theorem Follows.lexeme_eq (hA : A.Closed) (h : A.Follows alphabet told) {w : List Symbol}
    (known : ∀ a ∈ w, a ∈ alphabet) :
    A.lexeme (told.last w).target = .ok (told.lexeme w) := by
  obtain ⟨-, read⟩ | ⟨⟨a, ha, unknown⟩, -⟩ := h.read_cases hA w
  · have leads : A.Leads w (told.state w) := ⟨told.emits w, read⟩
    rw [Account.last, lexeme_natCast (leads.lt_size hA), h.labels w known]
  · exact absurd (known a ha) unknown

end ScanLexer.Automaton
