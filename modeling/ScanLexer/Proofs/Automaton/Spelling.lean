import Mathlib.Data.List.Induction
import ScanLexer.Proofs.Automaton.Reading

/-!
# Runs over spelled symbols

A byte may be written in several ways (`Symbol.Spells`), and some values write none. A run looks at
a symbol only while it is in a state: what stands behind a rejection is not even read. So a run
fails exactly if it comes, in some state, to a value that writes no byte (`run_fails_iff`), a
rejected run stays rejected (`run_reject`), and no run depends on how its bytes are written
(`run_respelled`).
-/
namespace ScanLexer

namespace Symbol

/-- How a byte may be written: as its number, as the character with its code point, or as a byte
string that holds it alone. -/
inductive Spells : Datum → Symbol → Prop where
  | number {d : Datum} {a : Symbol} : d.integer? = some (a.val : Int) → Spells d a
  | character {s : String} {c : Char} {a : Symbol} : s.toList = [c] → c.toNat = a.val →
      Spells (.text s) a
  | bytes (a : Symbol) : Spells (.bytes [a]) a
  | buffer (a : Symbol) : Spells (.buffer [a]) a

/-- The byte that is read from a value is the one that it spells. -/
theorem ofDatum?_eq_some_iff {d : Datum} {a : Symbol} : ofDatum? d = some a ↔ Spells d a := by
  constructor
  · intro read
    cases d with
    | text s =>
      simp only [ofDatum?] at read
      split at read
      next c single => exact .character single (Int.ofNat_inj.mp (ofInt?_eq_some_iff.mp read))
      next => contradiction
    | bytes content =>
      simp only [ofDatum?] at read
      split at read
      next =>
        cases read
        exact .bytes a
      next => contradiction
    | buffer content =>
      simp only [ofDatum?] at read
      split at read
      next =>
        cases read
        exact .buffer a
      next => contradiction
    | bool b => exact .number (congrArg some (ofInt?_eq_some_iff.mp read))
    | int n => exact .number (congrArg some (ofInt?_eq_some_iff.mp read))
    | null | decimal d | list items | record keys values => contradiction
  · intro spelled
    cases spelled with
    | number byte =>
      cases d with
      | bool b => exact ofInt?_eq_some_iff.mpr (Option.some.inj byte)
      | int n => exact ofInt?_eq_some_iff.mpr (Option.some.inj byte)
      | _ => contradiction
    | character single code =>
      simp only [ofDatum?, single]
      exact ofInt?_eq_some_iff.mpr (congrArg _ code)
    | bytes a | buffer a => rfl

theorem ofDatum?_eq_none_iff {d : Datum} : ofDatum? d = none ↔ ∀ a, ¬ Spells d a := by
  simp only [Option.eq_none_iff_forall_ne_some, ne_eq, ofDatum?_eq_some_iff]

end Symbol

namespace Automaton

variable {A : Automaton} {s : Target}

/-- In a state a step reads its symbol and follows the arc on it. -/
theorem step_eq_map {i : Nat} (hi : i < A.size) (d : Datum) :
    A.step (some (i : Int)) d = (Symbol.read d).map (A.node i).transition := by
  simp only [step, nodeAt_natCast hi, ok_bind]
  cases Symbol.read d <;> rfl

theorem run_concat (A : Automaton) (xs : List Datum) (d : Datum) (s : Target) :
    A.run (xs ++ [d]) s = A.run xs s >>= fun last => A.step last.target d := by
  unfold run
  rw [List.foldlM_append]
  congr 1
  funext last
  rw [List.foldlM_cons]
  exact bind_pure _

/-- Once the input has been rejected, nothing that follows is looked at. -/
theorem run_reject (A : Automaton) (xs : List Datum) : A.run xs none = .ok .reject := by
  induction xs using List.reverseRecOn with
  | nil => rfl
  | append_singleton xs d ih =>
    rw [run_concat, ih]
    rfl

/-- A run over values comes to a state or is rejected, or it fails at a value that is no symbol. -/
theorem Closed.run_cases (hA : A.Closed) (hs : s.Within A.size) (xs : List Datum) :
    (∃ last, A.run xs s = .ok last ∧ last.target.Within A.size) ∨
      A.run xs s = .error .notASymbol := by
  induction xs using List.reverseRecOn with
  | nil => exact .inl ⟨.stay s, rfl, hs⟩
  | append_singleton xs d ih =>
    rw [run_concat]
    obtain ⟨last, run, within⟩ | failed := ih
    · rw [run, ok_bind]
      obtain none | ⟨i, hi, state⟩ := within.cases
      · left
        rw [none]
        exact ⟨.reject, rfl, trivial⟩
      · rw [state, step_eq_map hi, Symbol.read]
        cases Symbol.ofDatum? d with
        | none => exact .inr rfl
        | some a =>
          left
          refine ⟨(A.node i).transition a, rfl, ?_⟩
          rw [← act_behaviour hi]
          exact (hA.over_behaviour a).within_act (Target.within_natCast.mpr hi)
    · right
      rw [failed, error_bind]

/-- A run over values stumbles over one that spells no byte if it comes to it in a state. -/
def StumblesAt (A : Automaton) (s : Target) (xs : List Datum) (k : Nat) : Prop :=
  ∃ d, xs[k]? = some d ∧ (∀ a, ¬ Symbol.Spells d a) ∧
    ∃ last, A.run (xs.take k) s = .ok last ∧ last.target ≠ none

/-- One more value is a new place to stumble at, and changes nothing about the places before it. -/
theorem exists_stumblesAt_concat {xs : List Datum} {d : Datum} :
    (∃ k, A.StumblesAt s (xs ++ [d]) k) ↔ (∃ k, A.StumblesAt s xs k) ∨
      (∀ a, ¬ Symbol.Spells d a) ∧ ∃ last, A.run xs s = .ok last ∧ last.target ≠ none := by
  constructor
  · rintro ⟨k, e, found, unspelled, arrives⟩
    obtain inside | last : k < xs.length ∨ k = xs.length := by
      have bound := (List.getElem?_eq_some_iff.mp found).1
      rw [List.length_append, List.length_singleton] at bound
      omega
    · left
      rw [List.getElem?_append_left inside] at found
      rw [List.take_append_of_le_length (Nat.le_of_lt inside)] at arrives
      exact ⟨k, e, found, unspelled, arrives⟩
    · subst last
      right
      rw [List.getElem?_concat_length] at found
      rw [List.take_left] at arrives
      cases found
      exact ⟨unspelled, arrives⟩
  · rintro (⟨k, e, found, unspelled, arrives⟩ | ⟨unspelled, arrives⟩)
    · have inside := (List.getElem?_eq_some_iff.mp found).1
      refine ⟨k, e, ?_, unspelled, ?_⟩
      · rw [List.getElem?_append_left inside, found]
      · rwa [List.take_append_of_le_length (Nat.le_of_lt inside)]
    · refine ⟨xs.length, d, List.getElem?_concat_length, unspelled, ?_⟩
      rwa [List.take_left]

/-- A run fails exactly if it stumbles somewhere. -/
theorem Closed.run_fails_iff (hA : A.Closed) (hs : s.Within A.size) (xs : List Datum) :
    A.run xs s = .error .notASymbol ↔ ∃ k, A.StumblesAt s xs k := by
  induction xs using List.reverseRecOn with
  | nil =>
    refine iff_of_false nofun ?_
    rintro ⟨k, d, found, -⟩
    contradiction
  | append_singleton xs d ih =>
    rw [exists_stumblesAt_concat, ← ih, run_concat]
    obtain ⟨last, run, within⟩ | failed := hA.run_cases hs xs
    · simp only [run, ok_bind, reduceCtorEq, false_or, Except.ok.injEq, exists_eq_left']
      obtain none | ⟨i, hi, state⟩ := within.cases
      · -- nothing is read any more
        rw [none]
        exact iff_of_false nofun fun stumbles => stumbles.2 rfl
      · rw [state, step_eq_map hi, Symbol.read, map_eq_error, orFault_eq_error,
          Symbol.ofDatum?_eq_none_iff]
        exact and_congr_right fun _ => iff_of_true rfl (Option.some_ne_none _)
    · rw [failed, error_bind]
      exact iff_of_true rfl (.inl rfl)

/-- Rows of values that spell the same bytes one by one, or none in the same places. -/
def Respelled (xs ys : List Datum) : Prop :=
  List.Forall₂ (fun d e => ∀ a, Symbol.Spells d a ↔ Symbol.Spells e a) xs ys

theorem step_respelled {d e : Datum} (same : ∀ a, Symbol.Spells d a ↔ Symbol.Spells e a)
    (s : Target) : A.step s d = A.step s e := by
  have read : Symbol.ofDatum? d = Symbol.ofDatum? e := by
    apply Option.ext
    intro a
    rw [Symbol.ofDatum?_eq_some_iff, Symbol.ofDatum?_eq_some_iff, same a]
  simp only [step, Symbol.read, read]

/-- It does not matter to a run how its bytes are written. -/
theorem run_respelled {xs ys : List Datum} (h : Respelled xs ys) (s : Target) :
    A.run xs s = A.run ys s := by
  unfold run
  generalize Transition.stay s = t
  induction h generalizing t with
  | nil => rfl
  | cons same _ ih =>
    rw [List.foldlM_cons, List.foldlM_cons, step_respelled same]
    congr 1
    funext next
    exact ih next

/-- **A run over any values is known from its parts.** A longer run begins where the shorter one
ended, and fails if one of the two does. A run fails, with a bad value as the cause, exactly if it
comes in a state to a value that spells no byte. Once it is rejected it stays so, whatever follows,
and other spellings of the same bytes change nothing. -/
theorem runs_over_spellings (hA : A.Built) (hs : s.Within A.size) :
    (∀ xs ys, A.run (xs ++ ys) s =
      if ys = [] then A.run xs s else A.run xs s >>= fun last => A.run ys last.target) ∧
    (∀ xs, (∃ fault, A.run xs s = .error fault ∧ fault.kind = .value) ↔
      ∃ k, A.StumblesAt s xs k) ∧
    (∀ xs fault, A.run xs s = .error fault → fault = .notASymbol) ∧
    (∀ xs last, A.run xs s = .ok last → last.target = none →
      ∀ ys, ys ≠ [] → A.run (xs ++ ys) s = .ok .reject) ∧
    ∀ xs ys, Respelled xs ys → A.run xs s = A.run ys s := by
  have closed := hA.valid.closed
  have cause (xs : List Datum) (fault : Fault) (failed : A.run xs s = .error fault) :
      fault = .notASymbol := by
    obtain ⟨last, run, -⟩ | refused := closed.run_cases hs xs
    · cases failed.symm.trans run
    · exact Except.error.inj (failed.symm.trans refused)
  refine ⟨?_, ?_, cause, ?_, ?_⟩
  · intro xs ys
    rw [run_append]
    split
    · exact bind_pure _
    · rfl
  · intro xs
    rw [← closed.run_fails_iff hs]
    constructor
    · rintro ⟨fault, failed, -⟩
      rw [failed, cause xs fault failed]
    · intro failed
      exact ⟨_, failed, rfl⟩
  · intro xs last run nowhere ys more
    rw [run_append, run, ok_bind, if_neg more, nowhere, run_reject]
  · intro xs ys same
    exact run_respelled same s

/-- Behind a rejection nothing is read; before it, a value that is no symbol is a fault. -/
theorem runs_over_spellings_singleA :
    (Sample.singleA true).Built ∧ Target.Within (Sample.singleA true).size (some (0 : Nat)) ∧
      (Sample.singleA true).run [.text "a", .bytes [98], .null] (some (0 : Nat)) = .ok .reject ∧
      ∃ k, (Sample.singleA true).StumblesAt (some (0 : Nat)) [.int 97, .text "ab"] k := by
  have inside : Target.Within (Sample.singleA true).size (some (0 : Nat)) :=
    Target.within_natCast.mpr (by decide)
  obtain ⟨-, stumbles, -, stays, -⟩ := runs_over_spellings built_singleA inside
  refine ⟨built_singleA, inside, ?_, ?_⟩
  · exact stays [.text "a", .bytes [98]] .reject (by decide +kernel) rfl [.null] (by simp)
  · exact (stumbles _).mp ⟨.notASymbol, by decide +kernel, rfl⟩

end Automaton

end ScanLexer
