import ScanLexer.Memory.Ordinary
import ScanLexer.Proofs.Automaton.Alphabet
import ScanLexer.Proofs.Lexer.Machines
import ScanLexer.Proofs.Lexer.Pieces

/-!
# Arithmetic is cut into numbers, spaces and operators

The state of the arithmetic lexer is told by the last byte alone (`follows_arith`). Two bytes belong
to one lexeme only if both are digits or both are spaces. So the flags of a scan cut a text into
longest stretches of digits, longest stretches of spaces, and single operators
(`arith_cuts_lexemes`).
-/
namespace ScanLexer.Sample

open ScanLexer.Symbol Automaton

def digits : List Symbol := ofText "0123456789"

def spaces : List Symbol := ofText " "

def marks : List Symbol := operators.flatMap ofText

/-- What arithmetic is written with. -/
def arithAlphabet : List Symbol := digits ++ spaces ++ marks

/-- The state in which a byte was just read. -/
def arithState (a : Symbol) : Nat :=
  if a ∈ digits then 1 else if a ∈ spaces then 2 else marks.idxOf a + 3

/-- Digits stand together, and so do spaces. An operator stands alone. -/
def standTogether (a b : Symbol) : Bool := arithState a = arithState b ∧ arithState a < 3

/-- What a run of the arithmetic lexer is told by. -/
def arithAccount : Account where
  state w := w.getLast?.elim 0 arithState
  emits := Lexer.unlikeAtEnd standTogether
  lexeme w := (arith.node (w.getLast?.elim 0 arithState)).lexeme

/-- The calls that make the lexer. -/
def arithCalls : List Call :=
  let arc (source : Int) (target : Int) (a : String) : Call :=
    .add (.int source) (.text a) (.int target) (.bool false)
  let run (state : Int) (a : String) : List Call := [arc 0 state a, arc state state a]
  [.addState (token "number"), .addState (token "space")] ++
    ["0", "1", "2", "3", "4", "5", "6", "7", "8", "9"].flatMap (run 1) ++ run 2 " " ++
    operators.zipIdx.flatMap (fun (op, k) => [.addState (token op), arc 0 (k + 3) op]) ++ [.restart]

theorem built_arith : arith.Built := by
  have new : Built ⟨[.bare none]⟩ := .new (n := 1) rfl
  have made : replay ⟨[.bare none]⟩ arithCalls = arith := by decide +kernel
  exact made ▸ new.replay arithCalls

theorem transition_start : ∀ a ∈ arithAlphabet,
    (arith.node 0).transition a = ⟨some (arithState a : Int), false⟩ := by
  decide +kernel

theorem transition_arith : ∀ a ∈ arithAlphabet, ∀ b ∈ arithAlphabet,
    (arith.node (arithState a)).transition b = ⟨some (arithState b : Int), !standTogether a b⟩ := by
  decide +kernel

theorem arcs_arith : ∀ node ∈ arith.nodes, ∀ arc ∈ node.arcs, arc.symbol ∈ arithAlphabet := by
  decide +kernel

/-- **The state is told by the last byte.** -/
theorem follows_arith : arith.Follows arithAlphabet arithAccount where
  start := rfl
  step w known a ha := by
    obtain rfl | ⟨w, b, rfl⟩ := List.eq_nil_or_concat' w
    · exact transition_start a ha
    · have hb : b ∈ arithAlphabet := known b (by simp)
      simp only [arithAccount, Account.last, Lexer.unlikeAtEnd_concat, List.getLast?_concat,
        Option.elim_some, Option.any_some, transition_arith b hb a ha]
  foreign w _ a ha := transition_of_foreign arcs_arith _ ha
  labels _ _ := rfl

/-! ## Lexemes of arithmetic -/

/-- A stretch of a text between what stands before it and behind it is a lexeme of arithmetic. -/
inductive IsLexeme (before p after : List Symbol) : Option Lexeme → Prop where
  | number : Lexer.MaximalRun digits before p after → IsLexeme before p after (token "number")
  | space : Lexer.MaximalRun spaces before p after → IsLexeme before p after (token "space")
  | operator {op : String} : op ∈ operators → p = ofText op → IsLexeme before p after (token op)

theorem arithState_eq_one_iff {a : Symbol} : arithState a = 1 ↔ a ∈ digits := by
  unfold arithState
  split_ifs with digit space
  · exact iff_of_true rfl digit
  · exact iff_of_false (by decide) digit
  · exact iff_of_false (by omega) digit

theorem arithState_eq_two_iff {a : Symbol} : arithState a = 2 ↔ a ∈ spaces := by
  have apart : ∀ b ∈ digits, b ∉ spaces := by decide +kernel
  unfold arithState
  split_ifs with digit space
  · exact iff_of_false (by decide) (apart a digit)
  · exact iff_of_true rfl space
  · exact iff_of_false (by omega) space

/-- Bytes with one of the first two states stand together with each other alone. -/
theorem standTogether_iff {kind : List Symbol} {state : Nat} (small : state < 3)
    (told : ∀ a, arithState a = state ↔ a ∈ kind) (a b : Symbol) (one : a ∈ kind ∨ b ∈ kind) :
    standTogether a b = true ↔ a ∈ kind ∧ b ∈ kind := by
  rw [standTogether, decide_eq_true_eq, ← told, ← told]
  rw [← told, ← told] at one
  omega

theorem standTogether_mark {a : Symbol} (mark : a ∈ marks) (b : Symbol) :
    standTogether a b = false := by
  have late : ∀ a ∈ marks, 3 ≤ arithState a := by decide +kernel
  rw [standTogether, decide_eq_false_iff_not]
  rintro ⟨-, small⟩
  exact absurd small (Nat.not_lt.mpr (late a mark))

theorem exists_operator : ∀ a ∈ marks, ∃ op ∈ operators, ofText op = [a] ∧
    (arith.node (arithState a)).lexeme = token op := by
  decide +kernel

/-- The longest stretches of bytes that stand together are lexemes, and each is accepted at its
end. -/
theorem isLexeme_of_splitBy {w p : List Symbol} {before after : List (List Symbol)}
    (known : ∀ a ∈ w, a ∈ arithAlphabet) (split : w.splitBy standTogether = before ++ p :: after) :
    ∃ lexeme, IsLexeme before.flatten p after.flatten lexeme ∧
      ∃ b ∈ p.getLast?, (arith.node (arithState b)).lexeme = lexeme := by
  obtain ⟨whole, filled, -⟩ := List.splitBy_eq_iff.mp split
  have occupied : p ≠ [] := fun none => filled (by simp [none])
  obtain ⟨a, first⟩ := Option.ne_none_iff_exists'.mp (mt List.head?_eq_none_iff.mp occupied)
  obtain ⟨b, last⟩ := Option.ne_none_iff_exists'.mp (mt List.getLast?_eq_none_iff.mp occupied)
  have inText : a ∈ w := by
    have inside := List.mem_of_mem_head? first
    rw [whole]
    simp [inside]
  have kind := known a inText
  rw [arithAlphabet, List.mem_append, List.mem_append] at kind
  obtain (digit | space) | mark := kind
  · have run := Lexer.maximalRun_of_splitBy
      (standTogether_iff (by decide) fun a => arithState_eq_one_iff) split first digit
    refine ⟨_, .number run, b, last, ?_⟩
    rw [arithState_eq_one_iff.mpr (run.inside b (List.mem_of_mem_getLast? last))]
    rfl
  · have run := Lexer.maximalRun_of_splitBy
      (standTogether_iff (by decide) fun a => arithState_eq_two_iff) split first space
    refine ⟨_, .space run, b, last, ?_⟩
    rw [arithState_eq_two_iff.mpr (run.inside b (List.mem_of_mem_getLast? last))]
    rfl
  · obtain rfl := Lexer.eq_singleton_of_splitBy (standTogether_mark mark) split first
    obtain ⟨op, listed, spelled, label⟩ := exists_operator a mark
    exact ⟨_, .operator listed spelled.symm, a, rfl, label⟩

/-- A lexeme with a digit in it is a number. -/
theorem IsLexeme.number_of_digit {before p after : List Symbol} {lexeme : Option Lexeme}
    {a : Symbol} (h : IsLexeme before p after lexeme) (ha : a ∈ p) (digit : a ∈ digits) :
    lexeme = token "number" := by
  cases h with
  | number run => rfl
  | space run =>
    have apart : ∀ a ∈ digits, a ∉ spaces := by decide +kernel
    exact absurd (run.inside a ha) (apart a digit)
  | operator listed spelled =>
    have apart : ∀ a ∈ digits, ∀ op ∈ operators, a ∉ ofText op := by decide +kernel
    exact absurd (spelled ▸ ha) (apart a digit _ listed)

theorem exists_lexer_arith [Memory] (enough : Memory.has 1048576 = true) :
    ∃ L, Lexer.build arith.contract .usual = .ok L := by
  have small : (@Lexer.build (.below 1048576 (by decide)) arith.contract .usual).isOk = true := by
    decide +kernel
  obtain ⟨L, built⟩ := exists_eq_ok_of_isOk small
  exact ⟨L, (Memory.Within.below enough).build _ _ L built⟩

/-- **Arithmetic is cut into its lexemes.** A lexer can be built from the arithmetic automaton where
a megabyte can be had, and what is built, in whatever configuration, scans every text. Cutting a
text at the flags of its scan loses no byte. If the text is over the alphabet, each piece is a
number, a stretch of spaces or an operator, and the last one is accepted at the end. From a byte
outside the alphabet on, each prefix is rejected. -/
theorem arith_cuts_lexemes [Memory] :
    (Memory.has 1048576 = true → ∃ L, Lexer.build arith.contract .usual = .ok L) ∧
    ∀ config L, Lexer.build arith.contract config = .ok L → ∀ w : List Symbol, w ≠ [] →
      ∃ ss, L.prefixes (w.map fun a => (a.val : Int)) = .ok ss ∧ ss.length = w.length ∧
        let pieces := Lexer.pieces (w.zip (ss.map Summary.emits))
        pieces.flatten = w ∧ [] ∉ pieces ∧
        (∀ k, IsCut pieces k ↔ 0 < k ∧ ∃ s, ss[k]? = some s ∧ s.emits = true) ∧
        ((∀ a ∈ w, a ∈ arithAlphabet) → ∀ before p after, pieces = before ++ p :: after →
          ∃ lexeme, IsLexeme before.flatten p after.flatten lexeme ∧
            (after = [] → L.accepted ss = .ok lexeme)) ∧
        ∀ k s, ss[k]? = some s → (∃ a ∈ w.take (k + 1), a ∉ arithAlphabet) →
          L.Tells s .reject none := by
  refine ⟨fun enough => exists_lexer_arith enough, ?_⟩
  intro config L built w occupied
  have hL := Lexer.compiled_of_built built_arith built
  obtain ⟨ss, scanned, length, tell⟩ := hL.prefixes_told follows_arith w
  refine ⟨ss, scanned, length, ?_⟩
  intro pieces
  have whole : pieces.flatten = w := Lexer.pieces_zip_flatten length
  have filled : [] ∉ pieces := Lexer.nil_notMem_pieces_zip occupied length
  refine ⟨whole, filled, fun k => Lexer.isCut_pieces_zip_iff length, ?_,
    fun k s found => (tell k s found).2⟩
  intro known before p after cut
  have told (k : Nat) (s : Summary) (found : ss[k]? = some s) :=
    (tell k s found).1 fun a ha => known a (List.mem_of_mem_take ha)
  have split : pieces = w.splitBy standTogether :=
    Lexer.pieces_of_unlikeAtEnd occupied length fun k s found => (told k s found).emits
  obtain ⟨lexeme, isLexeme, a, last, label⟩ := isLexeme_of_splitBy known (split.symm.trans cut)
  refine ⟨lexeme, isLexeme, ?_⟩
  rintro rfl
  have ends : w.getLast? = some a := by
    rw [← whole, cut, List.flatten_append, List.flatten_singleton, List.getLast?_append,
      Option.mem_def.mp last, Option.some_or]
  rw [Lexer.accepted_of_tells occupied length told, ← label]
  simp only [arithAccount, ends, Option.elim_some]

/-- A text that ends in a digit ends in a number. -/
theorem arith_cuts_lexemes_factor : ∃ L ss, Lexer.build arith.contract .usual = .ok L ∧
    L.prefixes [42, 40, 49, 50] = .ok ss ∧
    (Lexer.pieces (List.zip [42, 40, 49, 50] (ss.map Summary.emits))).flatten = [42, 40, 49, 50] ∧
    L.accepted ss = .ok (token "number") := by
  obtain ⟨builds, scans⟩ := arith_cuts_lexemes
  obtain ⟨L, built⟩ := builds (by decide)
  obtain ⟨ss, scanned, length, whole, filled, -, cut, -⟩ :=
    scans .usual L built [42, 40, 49, 50] (by simp)
  refine ⟨L, ss, built, scanned, whole, ?_⟩
  obtain none | ⟨before, p, split⟩ :=
    List.eq_nil_or_concat' (Lexer.pieces (List.zip [42, 40, 49, 50] (ss.map Summary.emits)))
  · rw [none] at whole
    exact absurd whole.symm (List.cons_ne_nil _ _)
  · obtain ⟨lexeme, isLexeme, accepted⟩ := cut (by decide +kernel) before p [] split
    have occupied : p ≠ [] := fun none => filled (by simp [split, none])
    have last : (50 : Symbol) ∈ p.getLast? := by
      rw [split, List.flatten_append, List.flatten_singleton] at whole
      rw [← List.getLast?_append_of_ne_nil before.flatten occupied, whole]
      rfl
    obtain rfl := isLexeme.number_of_digit (List.mem_of_mem_getLast? last) (by decide +kernel)
    exact accepted rfl

end ScanLexer.Sample
