import ScanLexer.Proofs.Automaton.Following
import ScanLexer.Proofs.Lexer.Prefixes

/-!
# Cutting a text at flags

The flags of a scan cut a text into pieces. Whatever the flags are, no byte is lost or doubled
(`pieces_flatten`), no piece is empty, and a piece other than the first begins exactly at each
flagged place (`isCut_pieces_iff`). If the flags tell where a byte is unlike the one before it, a
piece with a byte of some kind is a longest stretch of bytes of this kind (`maximalRun_of_splitBy`).
-/
namespace ScanLexer.Lexer

open Automaton

variable {A : Automaton} {L : Lexer}

theorem cut_flatten (row : List (Symbol × Bool)) :
    (cut row).1 ++ (cut row).2.flatten = row.map Prod.fst := by
  induction row with
  | nil => rfl
  | cons x row ih =>
    obtain ⟨a, emits⟩ := x
    rw [List.map_cons, ← ih]
    cases emits <;> rfl

/-- **No byte is lost or doubled by cutting.** -/
theorem pieces_flatten (row : List (Symbol × Bool)) : (pieces row).flatten = row.map Prod.fst := by
  cases row with
  | nil => rfl
  | cons x row =>
    have rest := cut_flatten row
    rw [List.map_cons, ← rest]
    rfl

/-- The same for the flags of a scan. -/
theorem pieces_zip_flatten {w : List Symbol} {ss : List Summary} (length : ss.length = w.length) :
    (pieces (w.zip (ss.map Summary.emits))).flatten = w := by
  rw [pieces_flatten, List.map_fst_zip (by rw [List.length_map, length])]

theorem nil_notMem_cut (row : List (Symbol × Bool)) : [] ∉ (cut row).2 := by
  induction row with
  | nil => exact List.not_mem_nil
  | cons x row ih =>
    obtain ⟨a, emits⟩ := x
    cases emits with
    | false => exact ih
    | true => exact List.not_mem_cons_of_ne_of_not_mem (List.cons_ne_nil a _).symm ih

theorem nil_notMem_pieces {row : List (Symbol × Bool)} (occupied : row ≠ []) : [] ∉ pieces row := by
  obtain ⟨⟨a, first⟩, row, rfl⟩ := List.exists_cons_of_ne_nil occupied
  exact List.not_mem_cons_of_ne_of_not_mem (List.cons_ne_nil a _).symm (nil_notMem_cut row)

theorem nil_notMem_pieces_zip {w : List Symbol} {ss : List Summary} (occupied : w ≠ [])
    (length : ss.length = w.length) : [] ∉ pieces (w.zip (ss.map Summary.emits)) := by
  apply nil_notMem_pieces
  intro none
  apply occupied
  rw [← pieces_zip_flatten length, none]
  rfl

/-- The first cut is behind the first piece, and the others are cuts of the pieces behind it. -/
theorem isCut_cons {p : List Symbol} {ps : List (List Symbol)} {k : Nat} :
    IsCut (p :: ps) k ↔ (ps ≠ [] ∧ k = p.length) ∨ ∃ j, IsCut ps j ∧ k = p.length + j := by
  constructor
  · rintro ⟨_ | ⟨q, before⟩, after, some, more, whole, rfl⟩
    · exact absurd rfl some
    · obtain ⟨rfl, rfl⟩ := List.cons.inj whole
      by_cases first : before = []
      · subst first
        exact .inl ⟨more, by simp⟩
      · exact .inr ⟨_, ⟨before, after, first, more, rfl, rfl⟩, by simp⟩
  · rintro (⟨more, rfl⟩ | ⟨_, ⟨before, after, -, more, rfl, rfl⟩, rfl⟩)
    · exact ⟨[p], ps, List.cons_ne_nil p [], more, rfl, by simp⟩
    · exact ⟨p :: before, after, List.cons_ne_nil p before, more, rfl, by simp⟩

/-- Behind a first stretch, cuts are where the flags are. -/
theorem isCut_cut {row : List (Symbol × Bool)} {p : List Symbol} {k : Nat} :
    IsCut ((p ++ (cut row).1) :: (cut row).2) k ↔
      ∃ j a, row[j]? = some (a, true) ∧ k = p.length + j := by
  induction row generalizing p k with
  | nil =>
    rw [isCut_cons]
    constructor
    · rintro (⟨more, -⟩ | ⟨j, cut, -⟩)
      · exact absurd rfl more
      · exact absurd cut (not_isCut_nil j)
    · rintro ⟨j, a, flagged, -⟩
      contradiction
  | cons x row ih =>
    obtain ⟨b, emits⟩ := x
    cases emits with
    | false =>
      -- the byte goes on with the first stretch
      have longer : (p ++ (cut ((b, false) :: row)).1) :: (cut ((b, false) :: row)).2 =
          ((p ++ [b]) ++ (cut row).1) :: (cut row).2 := by
        rw [List.append_assoc]
        rfl
      rw [longer, ih, List.length_append, List.length_singleton]
      constructor
      · rintro ⟨j, a, flagged, rfl⟩
        exact ⟨j + 1, a, flagged, by omega⟩
      · rintro ⟨_ | j, a, flagged, rfl⟩
        · cases flagged
        · exact ⟨j, a, flagged, by omega⟩
    | true =>
      have begun : (p ++ (cut ((b, true) :: row)).1) :: (cut ((b, true) :: row)).2 =
          p :: ([b] ++ (cut row).1) :: (cut row).2 := by
        simp only [cut, if_true, List.append_nil, List.singleton_append]
      rw [begun, isCut_cons]
      simp only [ih, List.length_singleton]
      constructor
      · rintro (⟨-, rfl⟩ | ⟨_, ⟨j, a, flagged, rfl⟩, rfl⟩)
        · exact ⟨0, b, rfl, rfl⟩
        · exact ⟨j + 1, a, flagged, by omega⟩
      · rintro ⟨_ | j, a, flagged, rfl⟩
        · exact .inl ⟨List.cons_ne_nil _ _, rfl⟩
        · exact .inr ⟨1 + j, ⟨j, a, flagged, rfl⟩, by omega⟩

/-- **A text is cut at flags.** Whether the first byte is flagged does not matter. -/
theorem isCut_pieces_iff {row : List (Symbol × Bool)} {k : Nat} :
    IsCut (pieces row) k ↔ 0 < k ∧ ∃ a, row[k]? = some (a, true) := by
  cases row with
  | nil =>
    rw [pieces, isCut_cons]
    constructor
    · rintro (⟨more, -⟩ | ⟨j, cut, -⟩)
      · exact absurd rfl more
      · exact absurd cut (not_isCut_nil j)
    · rintro ⟨-, a, flagged⟩
      contradiction
  | cons x row =>
    obtain ⟨b, emits⟩ := x
    have begun : pieces ((b, emits) :: row) = ([b] ++ (cut row).1) :: (cut row).2 := rfl
    rw [begun, isCut_cut, List.length_singleton]
    constructor
    · rintro ⟨j, a, flagged, rfl⟩
      refine ⟨by omega, a, ?_⟩
      rwa [Nat.add_comm, List.getElem?_cons_succ]
    · rintro ⟨positive, a, flagged⟩
      obtain ⟨j, rfl⟩ := Nat.exists_eq_add_one.mpr positive
      exact ⟨j, a, flagged, by omega⟩

/-- The same for the flags of a scan. -/
theorem isCut_pieces_zip_iff {w : List Symbol} {ss : List Summary} (length : ss.length = w.length)
    {k : Nat} : IsCut (pieces (w.zip (ss.map Summary.emits))) k ↔
      0 < k ∧ ∃ s, ss[k]? = some s ∧ s.emits = true := by
  rw [isCut_pieces_iff]
  refine and_congr_right fun _ => ?_
  simp only [List.getElem?_zip_eq_some, List.getElem?_map, Option.map_eq_some_iff]
  constructor
  · rintro ⟨a, -, s, found, emits⟩
    exact ⟨s, found, emits⟩
  · rintro ⟨s, found, emits⟩
    have inside : k < w.length := length ▸ (List.getElem?_eq_some_iff.mp found).1
    exact ⟨w[k], List.getElem?_eq_getElem inside, s, found, emits⟩

/-! ## Longest stretches -/

/-- A stretch of bytes of a kind that goes on neither before it nor behind it. -/
structure MaximalRun (kind before p after : List Symbol) : Prop where
  occupied : p ≠ []
  inside : ∀ a ∈ p, a ∈ kind
  begins : ∀ a ∈ before.getLast?, a ∉ kind
  ends : ∀ a ∈ after.head?, a ∉ kind

section
variable {like : Symbol → Symbol → Bool} {kind : List Symbol} {w p : List Symbol}
variable {before after : List (List Symbol)} {a : Symbol}

/-- The last byte before a stretch is unlike its first byte. -/
theorem unlike_before (split : w.splitBy like = before ++ p :: after) (first : a ∈ p.head?)
    {b : Symbol} (hb : b ∈ before.flatten.getLast?) : like b a = false := by
  obtain ⟨-, filled, -, apart⟩ := List.splitBy_eq_iff.mp split
  obtain rfl | ⟨before, q, rfl⟩ := List.eq_nil_or_concat' before
  · contradiction
  · have occupied : q ≠ [] := fun none => filled (by simp [none])
    obtain ⟨-, -, next⟩ := List.isChain_append.mp apart
    obtain ⟨some, some', unlike⟩ := next q (by simp) p (by simp)
    rw [List.flatten_append, List.flatten_singleton, List.getLast?_append_of_ne_nil _ occupied,
      List.getLast?_eq_getLast_of_ne_nil some] at hb
    rw [List.head?_eq_some_head some'] at first
    cases hb
    cases first
    exact unlike

/-- The first byte behind a stretch is unlike its last byte. -/
theorem unlike_after (split : w.splitBy like = before ++ p :: after) (last : a ∈ p.getLast?)
    {b : Symbol} (hb : b ∈ after.flatten.head?) : like a b = false := by
  obtain ⟨-, filled, -, apart⟩ := List.splitBy_eq_iff.mp split
  cases after with
  | nil => contradiction
  | cons q after =>
    obtain ⟨-, apart, -⟩ := List.isChain_append.mp apart
    obtain ⟨⟨some, some', unlike⟩, -⟩ := List.isChain_cons_cons.mp apart
    rw [List.flatten_cons, List.head?_append_of_ne_nil _ some', List.head?_eq_some_head some'] at hb
    rw [List.getLast?_eq_getLast_of_ne_nil some] at last
    cases hb
    cases last
    exact unlike

/-- If a byte of a kind is like those of this kind alone, and they are like it, a stretch that
begins with such a byte is a longest one of bytes of this kind. -/
theorem maximalRun_of_splitBy
    (alike : ∀ a b, a ∈ kind ∨ b ∈ kind → (like a b = true ↔ a ∈ kind ∧ b ∈ kind))
    (split : w.splitBy like = before ++ p :: after) (first : a ∈ p.head?) (ha : a ∈ kind) :
    MaximalRun kind before.flatten p after.flatten := by
  obtain ⟨-, filled, stretches, -⟩ := List.splitBy_eq_iff.mp split
  have occupied : p ≠ [] := fun none => filled (by simp [none])
  have inside : ∀ b ∈ p, b ∈ kind := by
    apply (stretches p (by simp)).induction (· ∈ kind)
    · intro b c related hb
      exact ((alike b c (.inl hb)).mp related).2
    · intro some
      rw [List.head?_eq_some_head some] at first
      cases first
      exact ha
  refine ⟨occupied, inside, ?_, ?_⟩
  · intro b hb hk
    have unlike := unlike_before split first hb
    rw [(alike b a (.inl hk)).mpr ⟨hk, ha⟩] at unlike
    contradiction
  · intro b hb hk
    have last : p.getLast occupied ∈ p.getLast? := List.getLast?_eq_getLast_of_ne_nil occupied
    have hl := inside _ (List.getLast_mem occupied)
    have unlike := unlike_after split last hb
    rw [(alike _ b (.inl hl)).mpr ⟨hl, hk⟩] at unlike
    contradiction

/-- A byte that is like none stands alone. -/
theorem eq_singleton_of_splitBy (alone : ∀ b, like a b = false)
    (split : w.splitBy like = before ++ p :: after) (first : a ∈ p.head?) : p = [a] := by
  obtain ⟨-, -, stretches, -⟩ := List.splitBy_eq_iff.mp split
  have stretch := stretches p (by simp)
  rcases p with _ | ⟨b, _ | ⟨c, p⟩⟩
  · contradiction
  · cases first
    rfl
  · cases first
    obtain ⟨related, -⟩ := List.isChain_cons_cons.mp stretch
    rw [alone c] at related
    contradiction

end

/-! ## Scans that are told from the text -/

/-- Whether the last two bytes of a text are unlike. -/
def unlikeAtEnd (like : Symbol → Symbol → Bool) (w : List Symbol) : Bool :=
  match w.reverse with
  | b :: a :: _ => !like a b
  | _ => false

theorem unlikeAtEnd_concat (like : Symbol → Symbol → Bool) (w : List Symbol) (b : Symbol) :
    unlikeAtEnd like (w ++ [b]) = w.getLast?.any fun a => !like a b := by
  obtain rfl | ⟨w, a, rfl⟩ := List.eq_nil_or_concat' w
  · rfl
  · simp [unlikeAtEnd]

theorem unlikeAtEnd_eq_true_iff {like : Symbol → Symbol → Bool} {w : List Symbol} :
    unlikeAtEnd like w = true ↔ ∃ u a b, w = u ++ [a, b] ∧ like a b = false := by
  obtain rfl | ⟨w, b, rfl⟩ := List.eq_nil_or_concat' w
  · exact iff_of_false nofun (by simp)
  · rw [unlikeAtEnd_concat]
    obtain rfl | ⟨w, a, rfl⟩ := List.eq_nil_or_concat' w
    · refine iff_of_false nofun ?_
      rintro ⟨u, a, b', short, -⟩
      have lengths := congrArg List.length short
      simp at lengths
    · rw [List.append_assoc, List.getLast?_concat, Option.any_some, Bool.not_eq_true']
      constructor
      · intro unlike
        exact ⟨w, a, b, rfl, unlike⟩
      · rintro ⟨u, a', b', same, unlike⟩
        obtain ⟨-, pair⟩ := List.append_inj' same rfl
        cases pair
        exact unlike

section
variable {alphabet : List Symbol} {told : Account}

/-- **A scan tells what an account tells.** Each prefix over the alphabet has the summary of the run
that is told, and from the first other byte on, each prefix is rejected. -/
theorem Compiled.prefixes_told (hL : L.Compiled A) (h : A.Follows alphabet told) (w : List Symbol) :
    ∃ ss, L.prefixes (w.map fun a => (a.val : Int)) = .ok ss ∧ ss.length = w.length ∧
      ∀ k s, ss[k]? = some s →
        ((∀ a ∈ w.take (k + 1), a ∈ alphabet) →
          L.Tells s (told.last (w.take (k + 1))) (told.lexeme (w.take (k + 1)))) ∧
        ((∃ a ∈ w.take (k + 1), a ∉ alphabet) → L.Tells s .reject none) := by
  obtain ⟨ss, scanned, length, tell⟩ := hL.prefixes_tell w
  refine ⟨ss, scanned, length, ?_⟩
  intro k s found
  obtain ⟨last, lexeme, read, label, tells⟩ := tell k s found
  obtain ⟨known, read'⟩ | ⟨⟨a, ha, unknown⟩, rejected⟩ := h.read_cases hL.closed (w.take (k + 1))
  · cases read.symm.trans read'
    cases label.symm.trans (h.lexeme_eq hL.closed known)
    refine ⟨fun _ => tells, ?_⟩
    rintro ⟨a, ha, unknown⟩
    exact absurd (known a ha) unknown
  · cases read.symm.trans rejected
    cases label
    exact ⟨fun known => absurd (known a ha) unknown, fun _ => tells⟩

/-- What is accepted at the end of a text is what the summary of the whole text tells. -/
theorem accepted_of_tells {w : List Symbol} {ss : List Summary} {last : List Symbol → Transition}
    {lexeme : List Symbol → Option Lexeme} (occupied : w ≠ []) (length : ss.length = w.length)
    (tells : ∀ k s, ss[k]? = some s → L.Tells s (last (w.take (k + 1))) (lexeme (w.take (k + 1)))) :
    L.accepted ss = .ok (lexeme w) := by
  have positive := List.length_pos_iff.mpr occupied
  have inside : ss.length - 1 < ss.length := by omega
  have final := (tells _ _ (List.getElem?_eq_getElem inside)).final
  have whole : w.take (ss.length - 1 + 1) = w := List.take_of_length_le (by omega)
  rw [whole] at final
  rw [accepted, List.getLast?_eq_getElem?, List.getElem?_eq_getElem inside]
  exact final

/-- If each flag tells whether two bytes are unlike, a text is cut into its longest stretches of
like bytes. -/
theorem pieces_of_unlikeAtEnd {like : Symbol → Symbol → Bool} {w : List Symbol} {ss : List Summary}
    (occupied : w ≠ []) (length : ss.length = w.length)
    (flags : ∀ k s, ss[k]? = some s → s.emits = unlikeAtEnd like (w.take (k + 1))) :
    pieces (w.zip (ss.map Summary.emits)) = w.splitBy like := by
  apply pieces_zip_eq_splitBy occupied length
  intro k a b s ha hb found
  have taken : w.take (k + 1 + 1) = w.take k ++ [a] ++ [b] := by
    rw [List.take_add_one, List.take_add_one, ha, hb]
    rfl
  rw [flags (k + 1) s found, taken, unlikeAtEnd_concat, List.getLast?_concat, Option.any_some]

end

end ScanLexer.Lexer
