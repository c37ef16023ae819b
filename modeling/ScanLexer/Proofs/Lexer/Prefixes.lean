import Mathlib.Data.List.SplitBy
import ScanLexer.Lexer.Scan
import ScanLexer.Proofs.Lexer.Scanning

/-!
# What the prefixes of a text tell

A scan gives one summary for each prefix of a text that is not empty. It never fails, and the
summary of a prefix tells where a run over the prefix ends, whether the last step of that run emits,
and what is accepted there (`prefixes_tell`). The flags cut the text into pieces. If each of them
tells whether its byte is unlike the byte before it, the pieces are the longest stretches of like
bytes (`pieces_eq_splitBy`).
-/
namespace ScanLexer.Lexer

variable {A : Automaton} {L : Lexer}

/-- What a summary tells of a text: where its behaviour leads from the start, whether the last step
emits, and the lexeme that is accepted at the end. -/
structure Tells (L : Lexer) (s : Summary) (last : Transition) (lexeme : Option Lexeme) : Prop where
  leads : ∃ f e, L.registry.behaviour s.id = .ok f ∧ f.lookup 0 = .ok e ∧ e.transition = last
  emits : s.emits = last.emits
  final : L.finalAt s.id = .ok lexeme

theorem Compiled.tells (hL : L.Compiled A) {w : List Symbol} {s : Summary} {id : Nat}
    {item : Registry.Item} (hs : L.catalogue.Stands A w s id item) :
    ∃ last lexeme, A.read w (some (0 : Nat)) = .ok last ∧ A.lexeme last.target = .ok lexeme ∧
      L.Tells s last lexeme := by
  have reads := hs.reads.agrees _ (Target.within_natCast.mpr hL.closed.start)
  obtain ⟨e, -, found⟩ := hs.reads.fits.entry_of_lt hL.closed.start
  have behaviour : L.registry.behaviour s.id = .ok item.behaviour := by
    rw [hs.id_eq]
    exact Registry.behaviour_of_item? hs.found
  have start : item.behaviour.lookup 0 = .ok e := Behaviour.entry_natCast.mpr found
  exact ⟨_, _, reads, hL.closed.lexeme_of_reads hs.reads,
    ⟨_, e, behaviour, start, (Behaviour.act_of_entry found).symm⟩, hs.emits, hL.final_of_stands hs⟩

/-- The summaries behind a stretch stand for the stretch and what follows it, up to their places. -/
theorem Compiled.prefixesAfter_stand (hL : L.Compiled A) (w : List Symbol) {u : List Symbol}
    {s : Summary} {i : Nat} {a : Registry.Item} (hs : L.catalogue.Stands A u s i a) :
    ∃ ss, L.prefixesAfter s (w.map fun a => (a.val : Int)) = .ok ss ∧ ss.length = w.length ∧
      ∀ k t, ss[k]? = some t →
        ∃ id item, L.catalogue.Stands A (u ++ w.take (k + 1)) t id item := by
  induction w generalizing u s i a with
  | nil => exact ⟨[], rfl, rfl, nofun⟩
  | cons b w ih =>
    obtain ⟨next, j, item, byte, stands⟩ := hL.stands_byte b
    obtain ⟨t, id, both, joined, longer⟩ := hL.stands_combine (List.cons_ne_nil b []) hs stands
    obtain ⟨ss, scanned, length, stand⟩ := ih longer
    have initial : L.initialAt b.val = .ok next := byte
    refine ⟨t :: ss, ?_, by simp [length], ?_⟩
    · simp only [List.map_cons, prefixesAfter, initial, joined, scanned, ok_bind, pure_eq_ok]
    · intro k t' found
      cases k with
      | zero =>
        cases found
        exact ⟨id, both, longer⟩
      | succ k =>
        obtain ⟨id', item', stands'⟩ := stand k t' found
        rw [List.append_assoc] at stands'
        exact ⟨id', item', stands'⟩

theorem Compiled.prefixes_stand (hL : L.Compiled A) (w : List Symbol) :
    ∃ ss, L.prefixes (w.map fun a => (a.val : Int)) = .ok ss ∧ ss.length = w.length ∧
      ∀ k s, ss[k]? = some s → ∃ id item, L.catalogue.Stands A (w.take (k + 1)) s id item := by
  cases w with
  | nil => exact ⟨[], rfl, rfl, nofun⟩
  | cons a w =>
    obtain ⟨s, i, item, byte, stands⟩ := hL.stands_byte a
    obtain ⟨ss, scanned, length, stand⟩ := hL.prefixesAfter_stand w stands
    have initial : L.initialAt a.val = .ok s := byte
    refine ⟨s :: ss, ?_, by simp [length], ?_⟩
    · simp only [List.map_cons, prefixes, initial, scanned, ok_bind, pure_eq_ok]
    · intro k t found
      cases k with
      | zero =>
        cases found
        exact ⟨i, item, stands⟩
      | succ k => exact stand k t found

/-- **A scan tells of each prefix what a run over it does.** -/
theorem Compiled.prefixes_tell (hL : L.Compiled A) (w : List Symbol) :
    ∃ ss, L.prefixes (w.map fun a => (a.val : Int)) = .ok ss ∧ ss.length = w.length ∧
      ∀ k s, ss[k]? = some s → ∃ last lexeme, A.read (w.take (k + 1)) (some (0 : Nat)) = .ok last ∧
        A.lexeme last.target = .ok lexeme ∧ L.Tells s last lexeme := by
  obtain ⟨ss, scanned, length, stand⟩ := hL.prefixes_stand w
  refine ⟨ss, scanned, length, ?_⟩
  intro k s found
  obtain ⟨id, item, stands⟩ := stand k s found
  exact hL.tells stands

/-! ## Pieces -/

theorem pieces_cons_cons (a b : Symbol) (first emits : Bool) (rest : List (Symbol × Bool)) :
    ∃ piece others, pieces ((b, emits) :: rest) = (b :: piece) :: others ∧
      pieces ((a, first) :: (b, emits) :: rest) =
        if emits then [a] :: (b :: piece) :: others else (a :: b :: piece) :: others := by
  refine ⟨(cut rest).1, (cut rest).2, rfl, ?_⟩
  cases emits <;> rfl

/-- An item that is like the next one goes with it into the first stretch. -/
theorem splitBy_cons_of_like {α : Type} {like : α → α → Bool} {a b : α} {rest piece : List α}
    {others : List (List α)} (related : like a b = true)
    (split : (b :: rest).splitBy like = (b :: piece) :: others) :
    (a :: b :: rest).splitBy like = (a :: b :: piece) :: others := by
  obtain ⟨whole, filled, alike, apart⟩ := List.splitBy_eq_iff.mp split
  rw [List.splitBy_eq_iff]
  refine ⟨by rw [whole]; rfl, by simpa using filled, ?_, ?_⟩
  · intro p hp
    obtain rfl | old := List.mem_cons.mp hp
    · exact List.isChain_cons_cons.mpr ⟨related, alike _ List.mem_cons_self⟩
    · exact alike p (List.mem_cons_of_mem _ old)
  · -- the first stretch ends as it did
    rw [List.isChain_cons] at apart ⊢
    refine ⟨?_, apart.2⟩
    intro q hq
    obtain ⟨_, some, unlike⟩ := apart.1 q hq
    exact ⟨List.cons_ne_nil _ _, some, by rwa [List.getLast_cons (List.cons_ne_nil b piece)]⟩

/-- If each flag but the first tells whether its symbol is unlike the one before it, the pieces are
the longest stretches of like symbols. -/
theorem pieces_eq_splitBy {like : Symbol → Symbol → Bool} {row : List (Symbol × Bool)}
    (occupied : row ≠ []) (flags : row.IsChain fun x y => y.2 = !like x.1 y.1) :
    pieces row = (row.map Prod.fst).splitBy like := by
  obtain ⟨⟨a, first⟩, rest, rfl⟩ := List.exists_cons_of_ne_nil occupied
  induction rest generalizing a first with
  | nil => rfl
  | cons next rest ih =>
    obtain ⟨b, emits⟩ := next
    obtain ⟨told, flags'⟩ := List.isChain_cons_cons.mp flags
    obtain ⟨piece, others, shorter, longer⟩ := pieces_cons_cons a b first emits rest
    have split := (ih b emits (List.cons_ne_nil _ _) flags').symm.trans shorter
    simp only [List.map_cons] at told split ⊢
    rw [longer]
    symm
    cases related : like a b with
    | true =>
      rw [told, related, Bool.not_true, if_neg Bool.false_ne_true]
      exact splitBy_cons_of_like related split
    | false =>
      rw [told, related, Bool.not_false, if_pos rfl, ← split]
      have unlike : ∀ x ∈ [a].getLast?, like x b = false := by simpa using related
      exact List.splitBy_append_cons _ unlike

/-- The same for the flags of a scan, each of which has its place among the symbols. -/
theorem pieces_zip_eq_splitBy {like : Symbol → Symbol → Bool} {w : List Symbol} {ss : List Summary}
    (occupied : w ≠ []) (length : ss.length = w.length)
    (flags : ∀ (k : Nat) (a b : Symbol) (s : Summary), w[k]? = some a → w[k + 1]? = some b →
      ss[k + 1]? = some s → s.emits = !like a b) :
    pieces (w.zip (ss.map Summary.emits)) = w.splitBy like := by
  have lengths : w.length ≤ (ss.map Summary.emits).length := by rw [List.length_map, length]
  have symbols := List.map_fst_zip lengths
  have filled : w.zip (ss.map Summary.emits) ≠ [] := by
    intro empty
    rw [empty] at symbols
    exact occupied symbols.symm
  have told : (w.zip (ss.map Summary.emits)).IsChain fun x y => y.2 = !like x.1 y.1 := by
    rw [List.isChain_iff_getElem]
    intro k next
    rw [List.length_zip] at next
    simp only [List.getElem_zip, List.getElem_map]
    exact flags k _ _ _ (List.getElem?_eq_getElem _) (List.getElem?_eq_getElem _)
      (List.getElem?_eq_getElem _)
  rw [pieces_eq_splitBy filled told, symbols]

end ScanLexer.Lexer
