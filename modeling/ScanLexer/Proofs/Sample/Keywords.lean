import Mathlib.Data.List.DropRight
import ScanLexer.Memory.Ordinary
import ScanLexer.Proofs.Automaton.Alphabet
import ScanLexer.Proofs.Lexer.Machines
import ScanLexer.Proofs.Lexer.Pieces

/-!
# A keyword among identifiers

Where a run of the keyword lexer is depends on the word that is being read alone, that is on what
stands behind the last blank (`follows_keywords`). So a word is the keyword only if it is spelled in
full and nothing more is in it, wherever it stands, and a lexeme is closed exactly where a word ends
or begins (`keywords_lex_words`).
-/
namespace ScanLexer.Sample

open ScanLexer.Symbol Automaton

def blank : Symbol := ⟨' '.toNat, by decide⟩

/-- What words and the blanks between them are written with. -/
def wordAlphabet : List Symbol := ofText "ifx "

/-- What stands behind the last blank. -/
def lastWord (w : List Symbol) : List Symbol := w.rtakeWhile (· ≠ blank)

/-- Words stand together, and so do blanks. -/
def sameSide (a b : Symbol) : Bool := (a = blank) == (b = blank)

/-- The state in which a word was just read. There is nothing of a word behind a blank. -/
def wordState (u : List Symbol) : Nat :=
  if u = [] then 4 else if u = ofText "i" then 1 else if u = ofText "if" then 2 else 3

/-- What is accepted behind a word. -/
def wordLexeme (u : List Symbol) : Option Lexeme :=
  if u = [] then token "ws" else if u = ofText "if" then token "if" else token "ident"

/-- What a run of the keyword lexer is told by. -/
def wordAccount : Account where
  state w := if w = [] then 0 else wordState (lastWord w)
  emits := Lexer.unlikeAtEnd sameSide
  lexeme w := if w = [] then none else wordLexeme (lastWord w)

/-- The calls that make the lexer. -/
def keywordCalls : List Call :=
  let label (state : Int) (name : String) : Call := .setLexeme (.int state) (token name)
  let arc (source : Int) (a : String) (target : Int) : Call :=
    .add (.int source) (.text a) (.int target) (.bool false)
  [label 1 "ident", label 2 "if", label 3 "ident", label 4 "ws",
    arc 0 "i" 1, arc 0 "f" 3, arc 0 "x" 3, arc 1 "f" 2, arc 1 "i" 3, arc 1 "x" 3,
    arc 2 "i" 3, arc 3 "i" 3, arc 2 "f" 3, arc 3 "f" 3, arc 2 "x" 3, arc 3 "x" 3,
    arc 0 " " 4, arc 4 " " 4, .restart]

theorem built_keywords : keywords.Built := by
  have new : Built ⟨List.replicate 5 (.bare none)⟩ := .new (n := 5) rfl
  have made : replay ⟨List.replicate 5 (.bare none)⟩ keywordCalls = keywords := by decide +kernel
  exact made ▸ new.replay keywordCalls

/-- The state behind one more byte. -/
def nextState (s : Nat) (a : Symbol) : Nat :=
  if a = blank then 4
  else if [a] = ofText "i" ∧ (s = 0 ∨ s = 4) then 1
  else if [a] = ofText "f" ∧ s = 1 then 2
  else 3

theorem transition_keywords : ∀ s < 5, ∀ a ∈ wordAlphabet, (keywords.node s).transition a =
    ⟨some (nextState s a : Int), s ≠ 0 && decide (s = 4) != decide (a = blank)⟩ := by
  decide +kernel

theorem arcs_keywords : ∀ node ∈ keywords.nodes, ∀ arc ∈ node.arcs, arc.symbol ∈ wordAlphabet := by
  decide +kernel

theorem nextState_lt (s : Nat) (a : Symbol) : nextState s a < 5 := by
  unfold nextState
  split_ifs <;> decide

theorem lastWord_concat (w : List Symbol) (a : Symbol) :
    lastWord (w ++ [a]) = if a = blank then [] else lastWord w ++ [a] := by
  rw [lastWord, List.rtakeWhile_concat, lastWord]
  by_cases ends : a = blank <;> simp [ends]

/-- A text ends in a blank exactly if there is no word behind its last blank. -/
theorem lastWord_concat_eq_nil_iff {w : List Symbol} {a : Symbol} :
    lastWord (w ++ [a]) = [] ↔ a = blank := by
  rw [lastWord_concat]
  by_cases ends : a = blank <;> simp [ends]

/-- The state behind a word that goes on with one more letter. -/
theorem wordState_concat {u : List Symbol} {a : Symbol} : wordState (u ++ [a]) =
    if u = [] ∧ [a] = ofText "i" then 1
    else if u = ofText "i" ∧ [a] = ofText "f" then 2
    else 3 := by
  have last (v : List Symbol) (b : Symbol) : u ++ [a] = v ++ [b] ↔ u = v ∧ [a] = [b] := by
    rw [List.append_singleton_inj, List.singleton_inj]
  have first : u ++ [a] = ofText "i" ↔ u = [] ∧ [a] = ofText "i" := last [] _
  have second : u ++ [a] = ofText "if" ↔ u = ofText "i" ∧ [a] = ofText "f" := last (ofText "i") _
  simp only [wordState, first, second, List.append_eq_nil_iff, List.cons_ne_nil, and_false,
    if_false]

/-- The state tells whether there is no word yet, and whether the word so far is the first letter of
the keyword. -/
theorem wordState_eq_iff (u : List Symbol) :
    (wordState u = 4 ↔ u = []) ∧ (wordState u = 1 ↔ u = ofText "i") ∧ wordState u ≠ 0 := by
  have differ : ofText "i" ≠ [] := List.cons_ne_nil _ _
  unfold wordState
  split_ifs <;> simp_all

theorem state_concat (w : List Symbol) (a : Symbol) :
    wordAccount.state (w ++ [a]) = nextState (wordAccount.state w) a := by
  have more : w ++ [a] ≠ [] := by simp
  simp only [wordAccount, if_neg more, lastWord_concat]
  by_cases ends : a = blank
  · simp [ends, wordState, nextState]
  · rw [if_neg ends, wordState_concat, nextState, if_neg ends]
    obtain ⟨none, first, begun⟩ := wordState_eq_iff (lastWord w)
    by_cases start : w = []
    · subst start
      have other : ([] : List Symbol) ≠ ofText "i" := by decide
      simp [lastWord, other]
    · simp only [if_neg start, none, first, begun, false_or, and_comm]

theorem state_lt (w : List Symbol) : wordAccount.state w < 5 := by
  obtain rfl | ⟨w, a, rfl⟩ := List.eq_nil_or_concat' w
  · decide
  · rw [state_concat]
    exact nextState_lt _ a

/-- A lexeme is closed where a word ends or begins. -/
theorem emits_concat (w : List Symbol) (a : Symbol) : wordAccount.emits (w ++ [a]) =
    (wordAccount.state w ≠ 0 && decide (wordAccount.state w = 4) != decide (a = blank)) := by
  obtain rfl | ⟨w, b, rfl⟩ := List.eq_nil_or_concat' w
  · rfl
  · have more : w ++ [b] ≠ [] := by simp
    obtain ⟨none, -, begun⟩ := wordState_eq_iff (lastWord (w ++ [b]))
    simp only [wordAccount, Lexer.unlikeAtEnd_concat, List.getLast?_concat, Option.any_some,
      if_neg more, none, lastWord_concat_eq_nil_iff, sameSide]
    rw [decide_eq_true begun, Bool.true_and]
    rfl

theorem lexeme_keywords (u : List Symbol) :
    (keywords.node (wordState u)).lexeme = wordLexeme u := by
  have other : ofText "i" ≠ ofText "if" := by decide
  unfold wordState wordLexeme
  by_cases none : u = []
  · rw [if_pos none, if_pos none]
    rfl
  · rw [if_neg none, if_neg none]
    by_cases first : u = ofText "i"
    · rw [if_pos first, if_neg (first ▸ other)]
      rfl
    · rw [if_neg first]
      by_cases whole : u = ofText "if"
      · rw [if_pos whole, if_pos whole]
        rfl
      · rw [if_neg whole, if_neg whole]
        rfl

/-- **The state is told by the last word.** -/
theorem follows_keywords : keywords.Follows wordAlphabet wordAccount where
  start := rfl
  step w _ a ha := by
    rw [transition_keywords _ (state_lt w) a ha, Account.last, state_concat, emits_concat]
  foreign w _ a ha := transition_of_foreign arcs_keywords _ ha
  labels w _ := by
    by_cases start : w = []
    · subst start
      rfl
    · simp only [wordAccount, if_neg start, lexeme_keywords]

/-! ## What a text is read as -/

/-- How a text that is not empty is read: where its last step leads, whether it closes a lexeme, and
what is accepted then. A word at the end of the text has the start or a blank before it. -/
structure Worded (w : List Symbol) (last : Transition) (lexeme : Option Lexeme) : Prop where
  /-- A byte that words are not written with is rejected, and so is every text with one. -/
  foreign : (∃ a ∈ w, a ∉ wordAlphabet) → last = .reject ∧ lexeme = none
  goesOn : (∀ a ∈ w, a ∈ wordAlphabet) → last.target ≠ none
  blank : (∀ a ∈ w, a ∈ wordAlphabet) → ∀ u, w = u ++ [blank] → lexeme = token "ws"
  keyword : (∀ a ∈ w, a ∈ wordAlphabet) → ∀ u, w = u ++ ofText "if" →
    (∀ a ∈ u.getLast?, a = Sample.blank) → lexeme = token "if"
  ident : (∀ a ∈ w, a ∈ wordAlphabet) → ∀ u v, w = u ++ v → v ≠ [] → Sample.blank ∉ v →
    (∀ a ∈ u.getLast?, a = Sample.blank) → v ≠ ofText "if" → lexeme = token "ident"
  closes : (∀ a ∈ w, a ∈ wordAlphabet) → (last.emits = true ↔
    ∃ u a b, w = u ++ [a, b] ∧ ¬ (a = Sample.blank ↔ b = Sample.blank))

theorem lastWord_append {u v : List Symbol} (filled : blank ∉ v)
    (begins : ∀ a ∈ u.getLast?, a = blank) :
    lastWord (u ++ v) = v := by
  have inside : ∀ a ∈ v.reverse, decide (a ≠ blank) = true := by
    intro a ha
    rw [decide_eq_true_eq]
    rintro rfl
    exact filled (List.mem_reverse.mp ha)
  have before : u.reverse.takeWhile (· ≠ blank) = [] := by
    obtain rfl | ⟨u, a, rfl⟩ := List.eq_nil_or_concat' u
    · rfl
    · simp [begins a (by simp)]
  rw [lastWord, List.rtakeWhile, List.reverse_append, List.takeWhile_append_of_pos inside, before,
    List.append_nil, List.reverse_reverse]

theorem worded_of_known {w : List Symbol} (occupied : w ≠ []) (known : ∀ a ∈ w, a ∈ wordAlphabet) :
    Worded w (wordAccount.last w) (wordAccount.lexeme w) := by
  have label : wordAccount.lexeme w = wordLexeme (lastWord w) := if_neg occupied
  rw [label]
  refine ⟨?_, fun _ => nofun, ?_, ?_, ?_, ?_⟩
  · rintro ⟨a, ha, unknown⟩
    exact absurd (known a ha) unknown
  · rintro - u rfl
    rw [lastWord_concat_eq_nil_iff.mpr rfl]
    rfl
  · rintro - u rfl begins
    rw [lastWord_append (by decide) begins]
    rfl
  · rintro - u v rfl some filled begins other
    rw [lastWord_append filled begins, wordLexeme, if_neg some, if_neg other]
  · intro _
    have sides (a b : Symbol) : sameSide a b = false ↔ ¬ (a = blank ↔ b = blank) := by
      simp [sameSide]
    simp only [Account.last, wordAccount, Lexer.unlikeAtEnd_eq_true_iff, sides]

theorem worded_reject {w : List Symbol} (unknown : ∃ a ∈ w, a ∉ wordAlphabet) :
    Worded w .reject none := by
  have not_known : ¬ ∀ a ∈ w, a ∈ wordAlphabet := by
    obtain ⟨a, ha, foreign⟩ := unknown
    exact fun known => foreign (known a ha)
  exact ⟨fun _ => ⟨rfl, rfl⟩, fun known => absurd known not_known, fun known =>
    absurd known not_known,
    fun known => absurd known not_known, fun known => absurd known not_known,
    fun known => absurd known not_known⟩

theorem exists_lexer_keywords [Memory] (enough : Memory.has 1048576 = true) :
    ∃ L, Lexer.build keywords.contract .usual = .ok L := by
  have small :
      (@Lexer.build (.below 1048576 (by decide)) keywords.contract .usual).isOk = true := by
    decide +kernel
  obtain ⟨L, built⟩ := exists_eq_ok_of_isOk small
  exact ⟨L, (Memory.Within.below enough).build _ _ L built⟩

/-- **Words are lexed whole.** A lexer can be built from the keyword automaton where a megabyte can
be had, and what is built, in whatever configuration, tells of each prefix of a text which word it
ends in. -/
theorem keywords_lex_words [Memory] :
    (Memory.has 1048576 = true → ∃ L, Lexer.build keywords.contract .usual = .ok L) ∧
    ∀ config L, Lexer.build keywords.contract config = .ok L → ∀ w : List Symbol,
      ∃ ss, L.prefixes (w.map fun a => (a.val : Int)) = .ok ss ∧ ss.length = w.length ∧
        ∀ k s, ss[k]? = some s → ∃ last lexeme, L.Tells s last lexeme ∧
          Worded (w.take (k + 1)) last lexeme := by
  refine ⟨fun enough => exists_lexer_keywords enough, ?_⟩
  intro config L built w
  have hL := Lexer.compiled_of_built built_keywords built
  obtain ⟨ss, scanned, length, tell⟩ := hL.prefixes_told follows_keywords w
  refine ⟨ss, scanned, length, ?_⟩
  intro k s found
  have inside : k < w.length := length ▸ (List.getElem?_eq_some_iff.mp found).1
  have occupied : w.take (k + 1) ≠ [] := by
    intro none
    have short := congrArg List.length none
    rw [List.length_take, List.length_nil] at short
    omega
  obtain ⟨known, unknown⟩ := tell k s found
  by_cases inAlphabet : ∀ a ∈ w.take (k + 1), a ∈ wordAlphabet
  · exact ⟨_, _, known inAlphabet, worded_of_known occupied inAlphabet⟩
  · have foreign : ∃ a ∈ w.take (k + 1), a ∉ wordAlphabet := by simpa using inAlphabet
    exact ⟨_, _, unknown foreign, worded_reject foreign⟩

/-- The first two letters of a word of three are the keyword as long as nothing stands behind
them. -/
theorem keywords_lex_words_longer : ∃ L ss, Lexer.build keywords.contract .usual = .ok L ∧
    L.prefixes [105, 102, 102] = .ok ss ∧
    (∃ s last, ss[1]? = some s ∧ L.Tells s last (token "if")) ∧
    ∃ s last, ss[2]? = some s ∧ L.Tells s last (token "ident") := by
  obtain ⟨builds, scans⟩ := keywords_lex_words
  obtain ⟨L, built⟩ := builds (by decide)
  obtain ⟨ss, scanned, length, tell⟩ := scans .usual L built [105, 102, 102]
  have known : ∀ a ∈ ([105, 102, 102] : List Symbol), a ∈ wordAlphabet := by decide +kernel
  have three : ss.length = 3 := length
  obtain ⟨last, lexeme, tells, worded⟩ := tell 1 _ (List.getElem?_eq_getElem (by omega))
  obtain ⟨last', lexeme', tells', worded'⟩ := tell 2 _ (List.getElem?_eq_getElem (by omega))
  have keyword : lexeme = token "if" := worded.keyword (by decide +kernel) [] rfl nofun
  have ident : lexeme' = token "ident" :=
    worded'.ident known [] _ rfl (List.cons_ne_nil _ _) (by decide +kernel) nofun
      (by decide +kernel)
  exact ⟨L, ss, built, scanned, ⟨_, last, List.getElem?_eq_getElem _, keyword ▸ tells⟩,
    _, last', List.getElem?_eq_getElem _, ident ▸ tells'⟩

end ScanLexer.Sample
