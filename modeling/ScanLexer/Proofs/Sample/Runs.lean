import ScanLexer.Memory.Ordinary
import ScanLexer.Proofs.Automaton.Prolonging
import ScanLexer.Proofs.Lexer.Building
import ScanLexer.Proofs.Lexer.Prefixes
import ScanLexer.Proofs.Sample.Kinds

/-!
# Identifiers and blanks are cut into runs

With restart arcs, the state of the lexer of identifiers between blanks tells the kind of the last
byte, whatever stood before it (`Grown.read_cases`). So a run over a text of listed bytes closes a
lexeme exactly where a byte of one kind follows one of the other, and the pieces of a text are its
longest stretches of bytes of one kind (`ident_blank_cuts_runs`). A byte that is not listed is
rejected, and with it all that follows.
-/
namespace ScanLexer.Sample

open ScanLexer.Symbol Automaton

variable {ps : List (Datum × Kind)} {A : Automaton}

/-- The kind of the last byte of a text. -/
inductive Reached (ps : List (Datum × Kind)) : List Symbol → Option Kind → Prop where
  | start : Reached ps [] none
  | byte {w : List Symbol} {a : Symbol} {c : Kind} : c.Lists ps a → Reached ps (w ++ [a]) (some c)

/-- A byte of another kind than the last one closes a lexeme. -/
theorem Grown.transition_restart (h : Grown ps A) (s : Option Kind) {c : Kind} {a : Symbol}
    (listed : c.Lists ps a) :
    (A.restart.node (place s)).transition a = c.step (s.any (· ≠ c)) := by
  have begins : (A.node 0).step? a = some (c.step false) := by
    have offered := h.offers none c a listed
    rwa [if_pos (.inl rfl)] at offered
  rw [Node.transition_eq_getD, step?_restart, h.offers s c a listed, h.labels, begins]
  rcases s with _ | k
  · rfl
  · by_cases same : k = c
    · simp [same]
    · have accepts : k.lexeme.isSome := by cases k <;> rfl
      simp [same, accepts, Kind.step]

theorem Grown.transition_restart_of_unlisted (h : Grown ps A) (s : Option Kind) {a : Symbol}
    (unlisted : ∀ c : Kind, ¬ c.Lists ps a) :
    (A.restart.node (place s)).transition a = .reject := by
  have begins : (A.node 0).step? a = none := h.lacks none a unlisted
  rw [Node.transition_eq_getD, step?_restart, h.lacks s a unlisted, begins]
  simp

theorem Grown.closed_restart (h : Grown ps A) : A.restart.Closed := h.built.valid.restart.closed

/-- A text of listed bytes leads to the state of the kind of its last byte, and any other text is
rejected. -/
theorem Grown.read_cases (h : Grown ps A) (w : List Symbol) :
    ((∀ a ∈ w, ∃ c : Kind, c.Lists ps a) ∧ ∃ s, Reached ps w s ∧ A.restart.Leads w (place s)) ∨
      (∃ a ∈ w, ∀ c : Kind, ¬ c.Lists ps a) ∧ A.restart.read w (some (0 : Nat)) = .ok .reject := by
  induction w using List.reverseRecOn with
  | nil => exact .inl ⟨nofun, none, .start, leads_nil _⟩
  | append_singleton w a ih =>
    obtain ⟨listed, s, -, leads⟩ | ⟨⟨b, hb, unlisted⟩, rejected⟩ := ih
    · have read := leads.read_concat h.closed_restart a
      by_cases known : ∃ c : Kind, c.Lists ps a
      · left
        obtain ⟨c, hc⟩ := known
        rw [h.transition_restart s hc] at read
        refine ⟨?_, some c, .byte hc, _, read⟩
        intro b hb
        obtain old | last := List.mem_append.mp hb
        · exact listed b old
        · exact ⟨c, List.mem_singleton.mp last ▸ hc⟩
      · right
        rw [not_exists] at known
        rw [h.transition_restart_of_unlisted s known] at read
        exact ⟨⟨a, by simp, known⟩, read⟩
    · right
      refine ⟨⟨b, List.mem_append_left _ hb, unlisted⟩, ?_⟩
      rw [read_append _ w (List.cons_ne_nil a []), rejected, ok_bind, read_singleton]
      rfl

/-- The last step of a run over listed bytes closes a lexeme if the kind changes. -/
theorem Grown.read_concat (h : Grown ps A) {w : List Symbol} {a : Symbol}
    (listed : ∀ b ∈ w ++ [a], ∃ c : Kind, c.Lists ps b) :
    ∃ (s : Option Kind) (c : Kind), Reached ps w s ∧ c.Lists ps a ∧
      A.restart.read (w ++ [a]) (some (0 : Nat)) = .ok (c.step (s.any (· ≠ c))) := by
  obtain ⟨-, s, reached, leads⟩ | ⟨⟨b, hb, unlisted⟩, -⟩ := h.read_cases w
  · obtain ⟨c, hc⟩ := listed a (by simp)
    refine ⟨s, c, reached, hc, ?_⟩
    rw [leads.read_concat h.closed_restart, h.transition_restart s hc]
  · obtain ⟨c, hc⟩ := listed b (List.mem_append_left _ hb)
    exact absurd hc (unlisted c)

/-! ## What a text is read as -/

/-- How a text is read over some letters and blanks: where its last step leads, whether it closes a
lexeme, and what is accepted then. -/
structure LexedAs (letters blanks : List Datum) (w : List Symbol) (last : Transition)
    (lexeme : Option Lexeme) : Prop where
  /-- A byte that is neither a letter nor a blank is rejected, and so is every text with one. -/
  foreign : (∃ a ∈ w, ¬ Listed letters a ∧ ¬ Listed blanks a) → last = .reject ∧ lexeme = none
  goesOn : (∀ a ∈ w, Listed letters a ∨ Listed blanks a) → w ≠ [] → last.target ≠ none
  ident : (∀ a ∈ w, Listed letters a ∨ Listed blanks a) →
    ∀ u a, w = u ++ [a] → Listed letters a → lexeme = token "ident"
  blank : (∀ a ∈ w, Listed letters a ∨ Listed blanks a) →
    ∀ u a, w = u ++ [a] → Listed blanks a → lexeme = token "ws"
  closes : (∀ a ∈ w, Listed letters a ∨ Listed blanks a) → (last.emits = true ↔
    ∃ u a b, w = u ++ [a, b] ∧ ¬ (Listed letters a ↔ Listed letters b))

section
variable {letters blanks : List Datum}

theorem listed_iff {a : Symbol} :
    (∃ c : Kind, c.Lists (listing letters blanks) a) ↔ Listed letters a ∨ Listed blanks a := by
  rw [← lists_letter_iff letters blanks, ← lists_blank_iff letters blanks]
  constructor
  · rintro ⟨_ | _, listed⟩
    · exact .inl listed
    · exact .inr listed
  · rintro (listed | listed)
    · exact ⟨_, listed⟩
    · exact ⟨_, listed⟩

theorem Grown.listed_letters_iff (h : Grown (listing letters blanks) A) {c : Kind} {a : Symbol}
    (listed : c.Lists (listing letters blanks) a) : Listed letters a ↔ c = .letter := by
  rw [← lists_letter_iff letters blanks]
  constructor
  · intro letter
    exact h.unique listed letter
  · rintro rfl
    exact listed

/-- A row has one last pair. -/
theorem exists_eq_append_pair_iff {α : Type} {w : List α} {a b : α} (P : α → α → Prop) :
    (∃ u a' b', w ++ [a, b] = u ++ [a', b'] ∧ P a' b') ↔ P a b := by
  constructor
  · rintro ⟨u, a', b', same, holds⟩
    obtain ⟨-, pair⟩ := List.append_inj' same rfl
    cases pair
    exact holds
  · intro holds
    exact ⟨w, a, b, rfl, holds⟩

/-- The kind changes at the end of a text if its last two bytes are not of one kind. -/
theorem Grown.any_ne_iff (h : Grown (listing letters blanks) A) {w : List Symbol} {s : Option Kind}
    (reached : Reached (listing letters blanks) w s) {c : Kind} {b : Symbol}
    (listed : c.Lists (listing letters blanks) b) : s.any (· ≠ c) = true ↔
      ∃ u a b', w ++ [b] = u ++ [a, b'] ∧ ¬ (Listed letters a ↔ Listed letters b') := by
  cases reached with
  | start =>
    refine iff_of_false nofun ?_
    rintro ⟨u, a, b', short, -⟩
    have lengths := congrArg List.length short
    simp at lengths
  | @byte w a k ha =>
    rw [Option.any_some, decide_eq_true_eq]
    have kinds : (Listed letters a ↔ Listed letters b) ↔ k = c := by
      rw [h.listed_letters_iff ha, h.listed_letters_iff listed]
      cases k <;> cases c <;> simp
    rw [ne_eq, ← kinds, List.append_assoc]
    symm
    exact exists_eq_append_pair_iff fun a b => ¬ (Listed letters a ↔ Listed letters b)

/-- The empty text is read as what accepts nothing. -/
theorem lexedAs_nil : LexedAs letters blanks [] (.stay (some (0 : Nat))) none where
  foreign := by
    rintro ⟨a, ha, -⟩
    contradiction
  goesOn _ occupied := absurd rfl occupied
  ident _ u a short := by simp at short
  blank _ u a short := by simp at short
  closes _ := by
    refine iff_of_false nofun ?_
    rintro ⟨u, a, b, short, -⟩
    simp at short

/-- A text with a byte that is not listed is read as one that is rejected. -/
theorem lexedAs_reject {w : List Symbol} (unknown : ¬ ∀ a ∈ w, Listed letters a ∨ Listed blanks a) :
    LexedAs letters blanks w .reject none where
  foreign _ := ⟨rfl, rfl⟩
  goesOn known := absurd known unknown
  ident known := absurd known unknown
  blank known := absurd known unknown
  closes known := absurd known unknown

/-- A text of listed bytes is read as told by the kinds of its last two bytes. -/
theorem Grown.lexedAs_concat (h : Grown (listing letters blanks) A) {w : List Symbol} {a : Symbol}
    (known : ∀ b ∈ w ++ [a], Listed letters b ∨ Listed blanks b) {s : Option Kind} {c : Kind}
    (reached : Reached (listing letters blanks) w s) (listed : c.Lists (listing letters blanks) a) :
    LexedAs letters blanks (w ++ [a]) (c.step (s.any (· ≠ c))) c.lexeme where
  foreign := by
    rintro ⟨b, hb, neither⟩
    exact absurd (known b hb) (not_or.mpr neither)
  goesOn _ _ := Option.some_ne_none _
  ident := by
    intro _ u b whole letter
    obtain ⟨-, last⟩ := List.append_inj' whole rfl
    cases last
    rw [(h.listed_letters_iff listed).mp letter, Kind.lexeme]
  blank := by
    intro _ u b whole blank
    obtain ⟨-, last⟩ := List.append_inj' whole rfl
    cases last
    rw [h.unique listed ((lists_blank_iff letters blanks).mpr blank), Kind.lexeme]
  closes _ := h.any_ne_iff reached listed

/-- Every text is read as told by the kinds of its bytes. -/
theorem Grown.lexedAs (h : Grown (listing letters blanks) A) (w : List Symbol) :
    ∃ last lexeme, A.restart.read w (some (0 : Nat)) = .ok last ∧
      A.restart.lexeme last.target = .ok lexeme ∧ LexedAs letters blanks w last lexeme := by
  have label (s : Option Kind) :
      A.restart.lexeme (some (place s : Int)) = .ok (s.bind Kind.lexeme) := by
    have state : place s < A.restart.size := by
      rw [size_restart, h.size]
      exact place_lt s
    rw [lexeme_natCast state, lexeme_node_restart, h.labels]
  obtain ⟨listed, -⟩ | ⟨⟨b, hb, unlisted⟩, rejected⟩ := h.read_cases w
  · obtain rfl | ⟨u, a, rfl⟩ := List.eq_nil_or_concat' w
    · exact ⟨_, _, rfl, label none, lexedAs_nil⟩
    · obtain ⟨s, c, reached, hc, read⟩ := h.read_concat listed
      have known (b : Symbol) (hb : b ∈ u ++ [a]) := listed_iff.mp (listed b hb)
      exact ⟨_, _, read, label (some c), h.lexedAs_concat known reached hc⟩
  · have unknown : ¬ ∀ a ∈ w, Listed letters a ∨ Listed blanks a := by
      intro known
      obtain ⟨c, hc⟩ := listed_iff.mpr (known b hb)
      exact unlisted c hc
    exact ⟨.reject, none, rejected, rfl, lexedAs_reject unknown⟩

/-- The flag behind two bytes of a text of listed bytes tells whether they are of two kinds. -/
theorem LexedAs.emits_eq {w : List Symbol} {last : Transition} {lexeme : Option Lexeme} {k : Nat}
    {a b : Symbol} (h : LexedAs letters blanks (w.take (k + 2)) last lexeme)
    (known : ∀ c ∈ w, Listed letters c ∨ Listed blanks c) (ha : w[k]? = some a)
    (hb : w[k + 1]? = some b) :
    last.emits = !decide (Listed letters a ↔ Listed letters b) := by
  have taken : w.take (k + 2) = w.take k ++ [a, b] := by
    rw [List.take_add_one, List.take_add_one, ha, hb]
    simp
  rw [Bool.eq_iff_iff, h.closes fun c hc => known c (List.mem_of_mem_take hc), taken,
    Bool.not_eq_true', decide_eq_false_iff_not]
  exact exists_eq_append_pair_iff fun a b => ¬ (Listed letters a ↔ Listed letters b)

/-- **Identifiers and blanks are cut into runs.** The lexer of some letters and blanks is refused,
for a bad value, exactly if one of them spells no byte or two of them spell the same one. Otherwise
every text is read as told by the kinds of its bytes. A lexer can be built from the automaton where
a megabyte can be had, and what is built, in whatever configuration, tells the same of each prefix
of a text; its flags cut a text over letters and blanks into the longest stretches of one kind. -/
theorem ident_blank_cuts_runs [Memory] (letters blanks : List Datum) :
    ((∃ fault, identBlank letters blanks = .error fault ∧ fault.kind = .value) ↔
      (∃ d ∈ letters ++ blanks, ∀ a, ¬ Spells d a) ∨
      ∃ (i j : Nat) (d e : Datum) (a : Symbol), i < j ∧ (letters ++ blanks)[i]? = some d ∧
        (letters ++ blanks)[j]? = some e ∧ Spells d a ∧ Spells e a) ∧
    (∀ fault, identBlank letters blanks = .error fault → fault.kind = .value) ∧
    ∀ A, identBlank letters blanks = .ok A →
      (∀ w, ∃ last lexeme, A.read w (some (0 : Nat)) = .ok last ∧
        A.lexeme last.target = .ok lexeme ∧ LexedAs letters blanks w last lexeme) ∧
      (Memory.has 1048576 = true → ∃ L, Lexer.build A.contract .usual = .ok L) ∧
      ∀ config L, Lexer.build A.contract config = .ok L → ∀ w : List Symbol,
        ∃ ss, L.prefixes (w.map fun a => (a.val : Int)) = .ok ss ∧ ss.length = w.length ∧
          (∀ k s, ss[k]? = some s → ∃ last lexeme, L.Tells s last lexeme ∧
            LexedAs letters blanks (w.take (k + 1)) last lexeme) ∧
          (w ≠ [] → (∀ a ∈ w, Listed letters a ∨ Listed blanks a) →
            Lexer.pieces (w.zip (ss.map Summary.emits)) =
              w.splitBy fun a b => decide (Listed letters a ↔ Listed letters b)) := by
  have outcome := grown_or_refused (listing letters blanks)
  rw [map_fst_listing] at outcome
  rw [identBlank_eq, ← not_alphabet_iff]
  obtain ⟨B, gathered, grown, alphabet⟩ | ⟨fault, failed, kind, none⟩ := outcome
  · rw [gathered]
    refine ⟨iff_of_false nofun fun none => none alphabet, nofun, ?_⟩
    rintro _ ⟨⟩
    have built : B.restart.Built := grown.built.call .restart
    refine ⟨grown.lexedAs, ?_, ?_⟩
    · intro enough
      apply Lexer.exists_lexer_of_size_le enough built
      rw [size_restart, grown.size]
    · intro config L made w
      have hL := Lexer.compiled_of_built built made
      obtain ⟨ss, scanned, length, tell⟩ := hL.prefixes_tell w
      have told (k : Nat) (s : Summary) (found : ss[k]? = some s) : ∃ last lexeme,
          L.Tells s last lexeme ∧ LexedAs letters blanks (w.take (k + 1)) last lexeme := by
        obtain ⟨last, lexeme, read, label, tells⟩ := tell k s found
        obtain ⟨last', lexeme', read', label', lexed⟩ := grown.lexedAs (w.take (k + 1))
        cases read.symm.trans read'
        cases label.symm.trans label'
        exact ⟨last, lexeme, tells, lexed⟩
      refine ⟨ss, scanned, length, told, ?_⟩
      intro occupied known
      apply Lexer.pieces_zip_eq_splitBy occupied length
      intro k a b s ha hb found
      obtain ⟨last, lexeme, tells, lexed⟩ := told (k + 1) s found
      rw [tells.emits, lexed.emits_eq known ha hb]
  · rw [failed]
    refine ⟨iff_of_true ⟨fault, rfl, kind⟩ none, ?_, nofun⟩
    rintro _ ⟨⟩
    exact kind

/-- Over three letters and one blank, two words with a blank between them are three pieces. A letter
that is listed a second time, in another spelling, is refused. -/
theorem ident_blank_cuts_runs_words :
    let letters : List Datum := [.text "a", .text "b", .text "c"]
    let blanks : List Datum := [.text " "]
    (∃ A L ss, identBlank letters blanks = .ok A ∧ Lexer.build A.contract .usual = .ok L ∧
      L.prefixes [97, 98, 32, 99] = .ok ss ∧
      Lexer.pieces ([97, 98, 32, 99].zip (ss.map Summary.emits)) = [[97, 98], [32], [99]]) ∧
    ∃ fault, identBlank letters [.int 97] = .error fault ∧ fault.kind = .value := by
  intro letters blanks
  constructor
  · obtain ⟨-, -, ends⟩ := ident_blank_cuts_runs letters blanks
    have ok : (identBlank letters blanks).isOk = true := by decide +kernel
    cases made : identBlank letters blanks with
    | error fault =>
      rw [made] at ok
      contradiction
    | ok A =>
      obtain ⟨-, builds, scans⟩ := ends A made
      obtain ⟨L, built⟩ := builds (by decide)
      obtain ⟨ss, scanned, -, -, cut⟩ := scans .usual L built [97, 98, 32, 99]
      refine ⟨A, L, ss, rfl, built, scanned, ?_⟩
      rw [cut (List.cons_ne_nil _ _) (by decide +kernel)]
      decide +kernel
  · obtain ⟨refused, -⟩ := ident_blank_cuts_runs letters [.int 97]
    apply refused.mpr
    right
    refine ⟨0, 3, .text "a", .int 97, 97, by decide, rfl, rfl, ?_, ?_⟩
    · exact ofDatum?_eq_some_iff.mp (by decide +kernel)
    · exact ofDatum?_eq_some_iff.mp (by decide +kernel)

end

end ScanLexer.Sample
