import Mathlib.Data.List.DropRight
import ScanLexer.Proofs.Automaton.Drawing
import ScanLexer.Proofs.Behaviour.Printing

/-!
# Where a label ends

A label is written between double quotes as it is. Whoever reads it takes for the closing quote the
first one that no backslash escapes (`readQuoted`). So a label without quotes is read back whole
exactly if it does not end in an odd number of backslashes (`readQuoted_append_iff`). Markup leaves
no quote in a text, and leaves all backslashes as they are (`backslashes_markup`). The symbols on an
edge are quoted before, so their labels end in no backslash; a lexeme is not, and brings what it
ends in to the end of the label (`labels_end_at_quote`).
-/
namespace ScanLexer

namespace Text

/-- A backslash escapes the character behind it, unless it is escaped itself. -/
def escapes (escaped : Bool) (c : Char) : Bool := c = '\\' && !escaped

/-- Reads up to the quote that closes a text: what stands before it, and what comes behind. An
escaped quote closes nothing. -/
def readQuoted (escaped : Bool) : List Char → Option (List Char × List Char)
  | [] => none
  | c :: cs =>
    if c = '\x22' ∧ escaped = false then some ([], cs)
    else (readQuoted (escapes escaped c) cs).map fun (text, rest) => (c :: text, rest)

/-- How many backslashes a text ends in. -/
def backslashes (cs : List Char) : Nat := (cs.rtakeWhile (· = '\\')).length

/-- A text may stand between double quotes as it is. -/
def Quotable (s : String) : Prop := '\x22' ∉ s.toList ∧ backslashes s.toList % 2 = 0

instance (s : String) : Decidable (Quotable s) := inferInstanceAs (Decidable (_ ∧ _))

section
variable {cs rest : List Char}

@[simp] theorem backslashes_nil : backslashes [] = 0 := rfl

@[simp] theorem backslashes_concat (cs : List Char) (c : Char) :
    backslashes (cs ++ [c]) = if c = '\\' then backslashes cs + 1 else 0 := by
  by_cases same : c = '\\' <;> simp [backslashes, same]

/-- What stands in front of a line end plays no part. -/
theorem backslashes_line (cs line : List Char) :
    backslashes (cs ++ '\n' :: line) = backslashes line := by
  induction line using List.reverseRecOn with
  | nil => simp
  | append_singleton line c ih =>
    rw [← List.cons_append, ← List.append_assoc, backslashes_concat, backslashes_concat, ih]

theorem backslashes_of_notMem (h : '\\' ∉ cs) : backslashes cs = 0 := by
  obtain rfl | ⟨front, last, rfl⟩ := cs.eq_nil_or_concat'
  · rfl
  · rw [backslashes_concat, if_neg]
    rintro rfl
    simp at h

/-! ## Reading -/

/-- Behind a text the next character is escaped if the text ends in an odd number of backslashes. -/
theorem foldl_escapes (cs : List Char) :
    cs.foldl escapes false = decide (backslashes cs % 2 = 1) := by
  -- from the end, since any other character lets the count begin anew
  induction cs using List.reverseRecOn with
  | nil => rfl
  | append_singleton cs c ih =>
    rw [List.foldl_append, ih, backslashes_concat]
    by_cases same : c = '\\'
    · simp only [same, List.foldl_cons, List.foldl_nil, escapes, if_true, decide_true,
        Bool.true_and, ← decide_not, decide_eq_decide]
      omega
    · simp [same, escapes]

/-- Characters that are no quotes are read one by one. -/
theorem readQuoted_append (h : '\x22' ∉ cs) (escaped : Bool) : readQuoted escaped (cs ++ rest) =
    (readQuoted (cs.foldl escapes escaped) rest).map fun (text, rest) => (cs ++ text, rest) := by
  induction cs generalizing escaped with
  | nil => simp
  | cons c cs ih =>
    obtain ⟨other, others⟩ := not_or.mp (List.mem_cons.not.mp h)
    rw [List.cons_append, readQuoted, if_neg (fun closing => other closing.1.symm), ih others,
      Option.map_map, List.foldl_cons]
    rfl

/-- **A label ends at its quote** exactly if no odd backslash stands in front of it, whatever comes
behind. -/
theorem readQuoted_append_iff (h : '\x22' ∉ cs) (rest : List Char) :
    readQuoted false (cs ++ '\x22' :: rest) = some (cs, rest) ↔ backslashes cs % 2 = 0 := by
  rw [readQuoted_append h, foldl_escapes]
  by_cases odd : backslashes cs % 2 = 1
  · rw [decide_eq_true odd, readQuoted, if_neg (by decide), Option.map_map]
    refine iff_of_false ?_ (by omega)
    -- the quote is read as a part of the text, which is then longer than the label
    intro read
    obtain ⟨⟨text, behind⟩, -, same⟩ := Option.map_eq_some_iff.mp read
    have lengths := congrArg (fun read => read.1.length) same
    simp at lengths
  · rw [decide_eq_false odd, readQuoted, if_pos (by decide)]
    exact iff_of_true (by simp) (by omega)

end

/-! ## Lines -/

theorem quotable_line {front : String} (h : '\x22' ∉ front.toList) (line : String) :
    Quotable (front ++ "\n" ++ line) ↔ Quotable line := by
  have lists : (front ++ "\n" ++ line).toList = front.toList ++ '\n' :: line.toList := by simp
  simp [Quotable, lists, backslashes_line, h]

/-- Labels one below the other may be quoted if each of them may. -/
theorem quotable_lines {labels : List String} (h : ∀ label ∈ labels, Quotable label) :
    Quotable ("\n".intercalate labels) := by
  induction labels with
  | nil => decide
  | cons label labels ih =>
    obtain ⟨first, others⟩ := List.forall_mem_cons.mp h
    cases labels with
    | nil => simpa using first
    | cons next labels =>
      have lines : "\n".intercalate (label :: next :: labels) =
          label ++ "\n" ++ "\n".intercalate (next :: labels) := by
        simp
      rw [lines]
      exact (quotable_line first.1 _).mpr (ih others)

/-! ## Markup -/

/-- A character is written as it is unless it is a quote, or it is no backslash and its entity ends
in a semicolon. -/
theorem entity_cases (c : Char) : (c ≠ '\x22' ∧ (entity c).toList = [c]) ∨
    (c ≠ '\\' ∧ ∃ front, '\x22' ∉ front ∧ (entity c).toList = front ++ [';']) := by
  unfold entity
  split
  next same => exact .inr ⟨by rw [same]; decide, "&amp".toList, by decide, rfl⟩
  split
  next same => exact .inr ⟨by rw [same]; decide, "&lt".toList, by decide, rfl⟩
  split
  next same => exact .inr ⟨by rw [same]; decide, "&gt".toList, by decide, rfl⟩
  split
  next same => exact .inr ⟨by rw [same]; decide, "&quot".toList, by decide, rfl⟩
  next unquoted =>
    split
    next same => exact .inr ⟨by rw [same]; decide, "&#x27".toList, by decide, rfl⟩
    next => exact .inl ⟨unquoted, by simp⟩

theorem toList_markup (s : String) :
    (markup s).toList = s.toList.flatMap fun c => (entity c).toList := by
  simp [markup, String.toList_join, List.flatMap_map]

theorem quote_notMem_markup (s : String) : '\x22' ∉ (markup s).toList := by
  rw [toList_markup, List.mem_flatMap]
  rintro ⟨c, -, inside⟩
  obtain ⟨unquoted, plain⟩ | ⟨-, front, unquoted, entity⟩ := entity_cases c
  · rw [plain, List.mem_singleton] at inside
    exact unquoted inside.symm
  · rw [entity, List.mem_append] at inside
    exact inside.elim unquoted (by decide)

/-- Markup ends in as many backslashes as the text. -/
theorem backslashes_markup (s : String) :
    backslashes (markup s).toList = backslashes s.toList := by
  rw [toList_markup]
  induction s.toList using List.reverseRecOn with
  | nil => rfl
  | append_singleton cs c ih =>
    rw [List.flatMap_append, List.flatMap_singleton, backslashes_concat]
    obtain ⟨-, plain⟩ | ⟨other, front, -, entity⟩ := entity_cases c
    · rw [plain, backslashes_concat, ih]
    · rw [entity, ← List.append_assoc, backslashes_concat, if_neg (by decide), if_neg other]

theorem quotable_markup {s : String} :
    Quotable (markup s) ↔ backslashes s.toList % 2 = 0 := by
  simp [Quotable, quote_notMem_markup, backslashes_markup]

/-- A quoted text ends in its quote. -/
theorem backslashes_quoted (s : String) : backslashes (quoted s).toList = 0 := by
  have closing : quoteFor s.toList ≠ '\\' := by
    unfold quoteFor
    split <;> decide
  have lists : (quoted s).toList = quoteFor s.toList ::
      (String.join (s.toList.map (escape isPrintable (quoteFor s.toList)))).toList ++
        [quoteFor s.toList] := by
    simp [quoted, between]
  rw [lists, backslashes_concat, if_neg closing]

end Text

namespace Automaton

open Text

/-- In a state's label, it is the last line that tells whether it may be quoted: the lexeme, or else
the name of the state. -/
theorem quotable_stateLabel (naming : Naming) (i : Nat) (node : Node) :
    Quotable (stateLabel naming i node) ↔
      backslashes ((node.lexeme.map Lexeme.shown).getD (naming.state i)).toList % 2 = 0 := by
  unfold stateLabel
  cases node.lexeme with
  | none => exact quotable_markup
  | some lexeme => exact (quotable_line (quote_notMem_markup _) _).trans quotable_markup

theorem quote_notMem_stateLabel (naming : Naming) (i : Nat) (node : Node) :
    '\x22' ∉ (stateLabel naming i node).toList := by
  unfold stateLabel
  cases node.lexeme with
  | none => exact quote_notMem_markup _
  | some lexeme => simp [quote_notMem_markup]

theorem backslashes_state (i : Nat) : backslashes (Naming.usual.state i).toList = 0 := by
  apply backslashes_of_notMem
  intro inside
  exact absurd (isDigit_of_mem_toString inside) (by decide)

theorem quotable_arcLabel (arc : Arc) : Quotable (arcLabel .usual arc) := by
  have closed : backslashes (symbolText arc.symbol).toList = 0 := backslashes_quoted _
  exact quotable_markup.mpr (congrArg (· % 2) closed)

/-- **Labels end at their quotes, unless a lexeme ends in an odd backslash.** With states and
symbols named as usual, no label has a double quote in it. The label of an edge may be quoted as it
is, and that of a state may be so exactly if the text of its lexeme, if it has one, does not end in
an odd number of backslashes. Whatever comes behind the closing quote, what may be quoted is read
back whole, and nothing else is. -/
theorem labels_end_at_quote (A : Automaton) :
    (∀ edge ∈ (A.picture .usual).edges, Quotable ("\n".intercalate edge.labels)) ∧
    (∀ node ∈ (A.picture .usual).nodes, '\x22' ∉ node.label.toList ∧
      (Quotable node.label ↔ ∀ lexeme, (A.node node.state).lexeme = some lexeme →
        backslashes lexeme.shown.toList % 2 = 0)) ∧
    ∀ label : String, '\x22' ∉ label.toList → ∀ rest, (Quotable label ↔
      readQuoted false (label.toList ++ '\x22' :: rest) = some (label.toList, rest)) := by
  refine ⟨?_, ?_, ?_⟩
  · intro edge drawn
    apply quotable_lines
    intro label inside
    obtain ⟨arc, -, rfl⟩ := List.mem_map.mp ((labels_perm drawn).mem_iff.mp inside)
    exact quotable_arcLabel arc.2
  · intro node inside
    obtain ⟨i, place⟩ := List.getElem?_of_mem inside
    have draws := draws_picture A .usual
    have known : i < A.size := by
      rw [← draws.size]
      exact (List.getElem?_eq_some_iff.mp place).1
    cases place.symm.trans (draws.node i known)
    refine ⟨quote_notMem_stateLabel _ i _, (quotable_stateLabel _ i _).trans ?_⟩
    cases (A.node i).lexeme with
    | none => simp [backslashes_state]
    | some lexeme => simp
  · intro label unquoted rest
    rw [readQuoted_append_iff unquoted]
    exact and_iff_right unquoted

/-- Quotes in a lexeme do no harm, nor do two backslashes at its end. The symbols on the edge are a
backslash and a double quote. -/
theorem labels_end_at_quote_marks :
    let A : Automaton := ⟨[⟨Sample.arcs "\\\x22" 0, Sample.token "\x22a\x22\\\\"⟩]⟩
    (∃ edge ∈ (A.picture .usual).edges, edge.labels.length = 2 ∧
      Quotable ("\n".intercalate edge.labels)) ∧
    ∃ node ∈ (A.picture .usual).nodes, Quotable node.label ∧
      readQuoted false (node.label.toList ++ "\x22 peripheries=2]".toList) =
        some (node.label.toList, " peripheries=2]".toList) := by
  intro A
  obtain ⟨edges, nodes, reads⟩ := labels_end_at_quote A
  obtain ⟨edge, drawn, ends⟩ : ∃ edge ∈ (A.picture .usual).edges, edge.ends = ⟨0, 0, false⟩ :=
    ((draws_picture A .usual).drawn _).mpr (by decide +kernel)
  have length : edge.labels.length = 2 := by
    rw [(labels_perm drawn).length_eq, ends]
    decide +kernel
  obtain ⟨node, inside, state⟩ : ∃ node ∈ (A.picture .usual).nodes, node.state = 0 := by
    decide +kernel
  obtain ⟨unquoted, iff⟩ := nodes node inside
  have quotable : Quotable node.label := by
    refine iff.mpr fun lexeme found => ?_
    rw [state] at found
    cases found
    decide +kernel
  exact ⟨⟨edge, drawn, length, edges edge drawn⟩, node, inside, quotable,
    (reads node.label unquoted _).mp quotable⟩

/-- The operator that is a backslash gives its state a label that takes the quote behind it for a
part of itself. The statement ends before a closing quote is found. -/
theorem backslash_escapes_quote : ∃ A : Automaton, A.Built ∧
    ∃ node ∈ (A.picture .usual).nodes, (A.node node.state).lexeme = some (.token (.user "\\")) ∧
      ¬ Quotable node.label ∧
      readQuoted false (node.label.toList ++ "\x22 peripheries=2]".toList) = none := by
  have start : Built ⟨[.bare none]⟩ := .new (n := 1) rfl
  have built := start.call (.setLexeme (.int 0) (some (.token (.user "\\"))))
  exact ⟨_, built, by decide +kernel⟩

end Automaton

end ScanLexer
