import Mathlib.Data.List.Basic
import ScanLexer.Proofs.Outcome
import ScanLexer.Registry
import Std.Data.String.ToInt

/-!
# The printed form tells behaviours apart

A behaviour is printed as one piece per state, with a comma between pieces and none inside them, so
the pieces can be told from the whole text (`intercalate_inj`). In a piece the number of the state
is known, a mark behind the target shows the flag, and the cross-stroke, numerals and truth values
are different texts (`Entry.printed_inj`). So behaviours are printed alike only if they have the
same entries (`printed_inj`), and a list of printed behaviours shows which of them are alike
(`printed_unambiguous`).
-/
namespace ScanLexer

/-! ## Joined pieces -/

section
variable {α : Type} {mark : α} {sep : List α}

/-- All of a separator but its first mark may be counted to the piece behind it. -/
theorem intercalate_mark (x : List α) (xs : List (List α)) :
    (mark :: sep).intercalate (x :: xs) = [mark].intercalate (x :: xs.map (sep ++ ·)) := by
  induction xs generalizing x with
  | nil => simp
  | cons y ys ih =>
    rw [List.map_cons, List.intercalate_cons_cons, List.intercalate_cons_cons, ih]
    cases ys with
    | nil => simp
    | cons z ys => simp

/-- Pieces are known from the text that joins them, if none of them is empty and none has the mark
that the separator begins with. -/
theorem intercalate_inj [BEq α] [LawfulBEq α] {xs ys : List (List α)} (once : mark ∉ sep)
    (hx : ∀ x ∈ xs, x ≠ [] ∧ mark ∉ x) (hy : ∀ y ∈ ys, y ≠ [] ∧ mark ∉ y)
    (same : (mark :: sep).intercalate xs = (mark :: sep).intercalate ys) : xs = ys := by
  -- cutting at each mark gives the pieces back, unless there was none
  have cut {x : List α} {xs : List (List α)} (h : ∀ z ∈ x :: xs, z ≠ [] ∧ mark ∉ z) :
      ((mark :: sep).intercalate (x :: xs)).splitOn mark = x :: xs.map (sep ++ ·) := by
    rw [intercalate_mark]
    refine List.splitOn_intercalate mark ?_ (List.cons_ne_nil _ _)
    obtain ⟨first, others⟩ := List.forall_mem_cons.mp h
    refine List.forall_mem_cons.mpr ⟨first.2, ?_⟩
    intro piece hpiece
    obtain ⟨z, hz, rfl⟩ := List.mem_map.mp hpiece
    exact fun inside => (List.mem_append.mp inside).elim once (others z hz).2
  have some {x : List α} {xs : List (List α)} (h : ∀ z ∈ x :: xs, z ≠ [] ∧ mark ∉ z) :
      (mark :: sep).intercalate (x :: xs) ≠ [] := by
    have first := (h x List.mem_cons_self).1
    cases xs <;> simp [first]
  rcases xs with _ | ⟨x, xs⟩ <;> rcases ys with _ | ⟨y, ys⟩
  · rfl
  · exact absurd same.symm (some hy)
  · exact absurd same (some hx)
  · have pieces := congrArg (List.splitOn mark) same
    rw [cut hx, cut hy] at pieces
    obtain ⟨rfl, others⟩ := List.cons.inj pieces
    rw [List.map_injective_iff.mpr (List.append_right_injective sep) others]

end

/-! ## Numerals -/

theorem isDigit_of_mem_toString {n : Nat} {c : Char} (h : c ∈ (toString n).toList) :
    c.isDigit = true := by
  rw [Nat.toString_eq_repr, Nat.toList_repr] at h
  exact Nat.isDigit_of_mem_toDigits (by decide) (by decide) h

/-- A whole number is written with digits and a sign. -/
theorem mem_toString_int {i : Int} {c : Char} (h : c ∈ (toString i).toList) :
    c = '-' ∨ c.isDigit = true := by
  rw [Int.toString_eq_repr] at h
  cases i with
  | ofNat n => exact .inr (isDigit_of_mem_toString h)
  | negSucc n =>
    have signed : (Int.negSucc n).repr = "-" ++ toString (n + 1) := rfl
    rw [signed, String.toList_append, List.mem_append] at h
    exact h.imp List.mem_singleton.mp isDigit_of_mem_toString

namespace Behaviour

/-! ## Entries -/

/-- A target that is a whole number, in digits or as a truth value, and a flag that is a truth
value. -/
structure Entry.Spelt (e : Entry) : Prop where
  target : ∃ i, e.target.integer? = some i
  flag : ∃ b, e.flag = .bool b

/-- A target that is a whole number in digits, and a flag that is a truth value. -/
structure Entry.InDigits (e : Entry) : Prop where
  target : ∃ i, e.target = .int i
  flag : ∃ b, e.flag = .bool b

theorem Entry.InDigits.spelt {e : Entry} (h : e.InDigits) : e.Spelt := by
  obtain ⟨⟨i, digits⟩, flag⟩ := h
  exact ⟨⟨i, by rw [digits]; rfl⟩, flag⟩

/-- How the target of an entry is written. -/
def Entry.aim (e : Entry) : String :=
  if e.transition.target = none then "⊥" else e.target.shown

/-- The target that is written in some way. -/
def readAim (s : String) : Datum :=
  if s = "⊥" then .int Target.rejected
  else if s = "True" then .bool true
  else if s = "False" then .bool false
  else .int (s.toInt?.getD 0)

section
variable {e e' : Entry}

theorem Entry.printed_eq (e : Entry) :
    e.printed = e.aim ++ if e.transition.emits then "!" else "" := rfl

/-- A target is written as a cross-stroke, a numeral or a truth value. -/
theorem Entry.Spelt.cases (h : e.Spelt) :
    e.target = .int Target.rejected ∧ e.aim = "⊥" ∨
      (∃ i, e.target = .int i ∧ e.aim = toString i) ∨
      ∃ b, e.target = .bool b ∧ e.aim = if b then "True" else "False" := by
  obtain ⟨⟨i, whole⟩, -⟩ := h
  rcases e with ⟨target, flag⟩
  cases target with
  | int i =>
    by_cases nowhere : i = Target.rejected
    · subst nowhere
      exact .inl ⟨rfl, rfl⟩
    · refine .inr (.inl ⟨i, rfl, ?_⟩)
      have somewhere : transition ⟨.int i, flag⟩ = ⟨some i, flag.truth⟩ := by
        simp [transition, Datum.whole?, Datum.integer?, Target.ofInt, nowhere]
      rw [aim, somewhere]
      rfl
  | bool b =>
    refine .inr (.inr ⟨b, rfl, ?_⟩)
    cases b <;> rfl
  | _ => contradiction

/-- **A written target can be read back.** -/
theorem Entry.Spelt.readAim (h : e.Spelt) : readAim e.aim = e.target := by
  obtain ⟨target, written⟩ | ⟨i, target, written⟩ | ⟨b, target, written⟩ := h.cases
  · rw [written, target]
    rfl
  · -- a numeral has digits and a sign alone, so it is none of the words
    have other {s : String} {c : Char} (inside : c ∈ s.toList)
        (neither : ¬ (c = '-' ∨ c.isDigit = true)) : toString i ≠ s := by
      rintro rfl
      exact neither (mem_toString_int inside)
    have stroke : toString i ≠ "⊥" := other (c := '⊥') (by decide) (by decide)
    have yes : toString i ≠ "True" := other (c := 'T') (by decide) (by decide)
    have no : toString i ≠ "False" := other (c := 'F') (by decide) (by decide)
    rw [Behaviour.readAim, written, target, if_neg stroke, if_neg yes, if_neg no,
      Int.toString_eq_repr, Int.toInt?_repr]
    rfl
  · rw [written, target]
    cases b <;> rfl

/-- No written target has the mark of a flag or the comma that stands between entries. -/
theorem Entry.Spelt.notMem_aim (h : e.Spelt) : '!' ∉ e.aim.toList ∧ ',' ∉ e.aim.toList := by
  obtain ⟨-, written⟩ | ⟨i, -, written⟩ | ⟨b, -, written⟩ := h.cases
  · rw [written]
    decide
  · rw [written]
    exact ⟨fun inside => absurd (mem_toString_int inside) (by decide),
      fun inside => absurd (mem_toString_int inside) (by decide)⟩
  · rw [written]
    cases b <;> decide

theorem Entry.Spelt.mem_printed_iff (h : e.Spelt) :
    '!' ∈ e.printed.toList ↔ e.transition.emits = true := by
  rw [printed_eq, String.toList_append, List.mem_append]
  cases e.transition.emits <;> simp [h.notMem_aim.1]

/-- **Entries that are printed alike are the same.** -/
theorem Entry.printed_inj (h : e.Spelt) (h' : e'.Spelt) (same : e.printed = e'.printed) :
    e = e' := by
  have flags : e.transition.emits = e'.transition.emits := by
    rw [Bool.eq_iff_iff, ← h.mem_printed_iff, ← h'.mem_printed_iff, same]
  have aims : e.aim = e'.aim := by
    rw [printed_eq, printed_eq, flags] at same
    exact (String.append_left_inj _).mp same
  have targets : e.target = e'.target := by rw [← h.readAim, ← h'.readAim, aims]
  obtain ⟨b, flag⟩ := h.flag
  obtain ⟨b', flag'⟩ := h'.flag
  rcases e with ⟨target, _⟩
  rcases e' with ⟨target', _⟩
  subst flag flag'
  obtain rfl : target = target' := targets
  obtain rfl : b = b' := flags
  rfl

/-- Entries in digits are the same as soon as they have the same values. -/
theorem Entry.key_inj (h : e.InDigits) (h' : e'.InDigits) (same : e.key = e'.key) : e = e' := by
  obtain ⟨⟨i, target⟩, b, flag⟩ := h
  obtain ⟨⟨i', target'⟩, b', flag'⟩ := h'
  rcases e with ⟨_, _⟩
  rcases e' with ⟨_, _⟩
  subst target flag target' flag'
  have targets : i = i' := by simpa [key, Value.ofDatum, Value.ofInt] using congrArg Key.target same
  have flags := congrArg Key.flag same
  cases b <;> cases b' <;> simp_all [key, Value.ofDatum, Value.ofInt]

end

/-! ## Behaviours -/

def Spelt (f : Behaviour) : Prop := ∀ e ∈ f.entries, e.Spelt

def InDigits (f : Behaviour) : Prop := ∀ e ∈ f.entries, e.InDigits

/-- How an entry is written among those of a behaviour: behind the number of its state. -/
def piece (e : Entry) (s : Nat) : String := toString s ++ "→" ++ e.printed

def pieces (f : Behaviour) : List String := f.entries.zipIdx.map fun (e, s) => piece e s

section
variable {f g : Behaviour}

theorem printed_eq (f : Behaviour) : f.printed = "[" ++ ", ".intercalate f.pieces ++ "]" := rfl

/-- A piece has an arrow in it, and no comma. -/
theorem Entry.Spelt.piece {e : Entry} (h : e.Spelt) (s : Nat) :
    (piece e s).toList ≠ [] ∧ ',' ∉ (Behaviour.piece e s).toList := by
  constructor
  · simp [Behaviour.piece]
  · simp only [Behaviour.piece, printed_eq, String.toList_append, List.mem_append, not_or]
    refine ⟨⟨fun inside => absurd (isDigit_of_mem_toString inside) (by decide), by decide⟩,
      h.notMem_aim.2, ?_⟩
    cases e.transition.emits <;> decide

theorem Spelt.pieces (h : f.Spelt) :
    ∀ p ∈ f.pieces.map String.toList, p ≠ [] ∧ ',' ∉ p := by
  intro p hp
  obtain ⟨text, htext, rfl⟩ := List.mem_map.mp hp
  obtain ⟨⟨e, s⟩, hes, rfl⟩ := List.mem_map.mp htext
  have he : e ∈ f.entries := List.fst_mem_of_mem_zipIdx hes
  exact (h e he).piece s

/-- **Behaviours that are printed alike are the same.** -/
theorem printed_inj (hf : f.Spelt) (hg : g.Spelt) (same : f.printed = g.printed) : f = g := by
  rw [printed_eq, printed_eq] at same
  have joined := congrArg String.toList
    ((String.append_right_inj _).mp ((String.append_left_inj _).mp same))
  rw [String.toList_intercalate, String.toList_intercalate] at joined
  have once : ',' ∉ [' '] := by decide
  have texts : f.pieces.map String.toList = g.pieces.map String.toList :=
    intercalate_inj once hf.pieces hg.pieces joined
  have pieces : f.pieces = g.pieces :=
    List.map_injective_iff.mpr (fun _ _ => String.toList_inj.mp) texts
  rcases f with ⟨left⟩
  rcases g with ⟨right⟩
  congr 1
  have lengths : left.length = right.length := by
    simpa [Behaviour.pieces] using congrArg List.length pieces
  apply List.ext_getElem lengths
  intro s hs hs'
  -- both pieces of a state begin with its number
  have both : piece left[s] s = piece right[s] s := by
    have := congrArg (·[s]?) pieces
    simpa [Behaviour.pieces, hs, hs'] using this
  rw [piece, piece] at both
  exact Entry.printed_inj (hf _ (List.getElem_mem hs)) (hg _ (List.getElem_mem hs'))
    ((String.append_right_inj _).mp both)

theorem key_inj (hf : f.InDigits) (hg : g.InDigits) (same : f.key = g.key) : f = g := by
  rcases f with ⟨left⟩
  rcases g with ⟨right⟩
  congr 1
  have lengths : left.length = right.length := by simpa [key] using congrArg List.length same
  apply List.ext_getElem lengths
  intro s hs hs'
  have both : left[s].key = right[s].key := by
    have := congrArg (·[s]?) same
    simpa [key, hs, hs'] using this
  exact Entry.key_inj (hf _ (List.getElem_mem hs)) (hg _ (List.getElem_mem hs')) both

end

/-- **The printed form is unambiguous.** Behaviours whose targets are whole numbers and whose flags
are truth values are printed alike exactly if they are alike. If targets may be written as truth
values as well, the printed form shows which ones are, so it still tells behaviours apart; and where
a list of the behaviours of a registry shows two ids alike, their behaviours are alike. -/
theorem printed_unambiguous :
    (∀ f g : Behaviour, f.InDigits → g.InDigits → (f.printed = g.printed ↔ f.key = g.key)) ∧
    (∀ f g : Behaviour, f.Spelt → g.Spelt → (f.printed = g.printed ↔ f = g)) ∧
    ∀ R : Registry, (∀ f ∈ R.behaviours, f.Spelt) → ∀ (i j : Nat) (shown : String),
      (R.behaviours.map printed)[i]? = some shown → (R.behaviours.map printed)[j]? = some shown →
      ∃ f g, R.behaviours[i]? = some f ∧ R.behaviours[j]? = some g ∧ f.key = g.key := by
  have wide (f g : Behaviour) (hf : f.Spelt) (hg : g.Spelt) : f.printed = g.printed ↔ f = g :=
    ⟨printed_inj hf hg, congrArg printed⟩
  refine ⟨?_, wide, ?_⟩
  · intro f g hf hg
    rw [wide f g (fun e he => (hf e he).spelt) (fun e he => (hg e he).spelt)]
    exact ⟨congrArg key, key_inj hf hg⟩
  · intro R spelt i j shown hi hj
    rw [List.getElem?_map, Option.map_eq_some_iff] at hi hj
    obtain ⟨f, hf, printed⟩ := hi
    obtain ⟨g, hg, printed'⟩ := hj
    have same :=
      (wide f g (spelt f (List.mem_of_getElem? hf)) (spelt g (List.mem_of_getElem? hg))).mp
      (printed.trans printed'.symm)
    exact ⟨f, g, hf, hg, congrArg key same⟩

/-- A flag is not taken for a digit, one and `true` are printed apart although they are alike, and
an identity that is known with and without a tag is shown twice. -/
theorem printed_unambiguous_flags :
    (let f : Behaviour := ⟨[⟨.int 1, .bool true⟩, ⟨.int (-1), .bool false⟩]⟩
      let g : Behaviour := ⟨[⟨.int 11, .bool false⟩, ⟨.int (-1), .bool true⟩]⟩
      f.InDigits ∧ g.InDigits ∧ f.printed ≠ g.printed) ∧
    (let f : Behaviour := ⟨[⟨.bool true, .bool false⟩]⟩
      let g : Behaviour := ⟨[⟨.int 1, .bool false⟩]⟩
      f.Spelt ∧ g.Spelt ∧ f.key = g.key ∧ f.printed ≠ g.printed) ∧
    ∃ R : Registry, (∀ f ∈ R.behaviours, f.Spelt) ∧
      R.behaviours.map printed = ["[0→0]", "[0→0]"] ∧
      ∃ f g, R.behaviours[0]? = some f ∧ R.behaviours[1]? = some g ∧ f.key = g.key := by
  obtain ⟨digits, spelt, listed⟩ := printed_unambiguous
  refine ⟨?_, ?_, ?_⟩
  · intro f g
    have hf : f.InDigits := by
      intro e he
      obtain rfl | rfl : e = _ ∨ e = _ := by simpa [f] using he
      all_goals exact ⟨⟨_, rfl⟩, _, rfl⟩
    have hg : g.InDigits := by
      intro e he
      obtain rfl | rfl : e = _ ∨ e = _ := by simpa [g] using he
      all_goals exact ⟨⟨_, rfl⟩, _, rfl⟩
    exact ⟨hf, hg, (digits f g hf hg).not.mpr (by decide)⟩
  · intro f g
    have hf : f.Spelt := by
      intro e he
      obtain rfl : e = _ := by simpa [f] using he
      exact ⟨⟨1, rfl⟩, _, rfl⟩
    have hg : g.Spelt := by
      intro e he
      obtain rfl : e = _ := by simpa [g] using he
      exact ⟨⟨1, rfl⟩, _, rfl⟩
    exact ⟨hf, hg, rfl, (spelt f g hf hg).not.mpr (by decide)⟩
  · let tagged := (Registry.empty.intern (identity 1) (some (.text "identity"))).1
    let R := (tagged.intern (identity 1) none).1
    have known : R.behaviours = [identity 1, identity 1] := by decide +kernel
    have shown : R.behaviours.map printed = ["[0→0]", "[0→0]"] := by
      rw [known]
      decide +kernel
    have hR : ∀ f ∈ R.behaviours, f.Spelt := by
      rw [known]
      intro f hf e he
      obtain rfl : f = identity 1 := by simpa using hf
      obtain rfl : e = .stay 0 := by simpa [identity] using he
      exact ⟨⟨0, rfl⟩, _, rfl⟩
    exact ⟨R, hR, shown, listed R hR 0 1 "[0→0]" (by rw [shown]; rfl) (by rw [shown]; rfl)⟩

end Behaviour

end ScanLexer
