import ScanLexer.Proofs.Outcome

/-!
# Calls made in turn

Something that is called leaves a state and gives an answer. What a row of calls leads to and
answers is said once for whatever is called (`replay`, `answers`): what each call keeps is kept by a
row of them (`replay_induction`), and two that answer each call alike and stay in step answer every
row alike (`answers_inStep`).

A call may be refused. The calls of a row that are granted are those whose answer is none of a fault
(`granted`). Where a call leads to a state or to a fault, it is settled by keeping the state that
there was (`settle`).
-/
namespace ScanLexer.Calls

section
variable {σ κ α : Type} (perform : σ → κ → σ × α) (s : σ)

/-- What calls made in turn lead to. -/
def replay (calls : List κ) : σ := calls.foldl (fun s call => (perform s call).1) s

/-- What calls made in turn answer. -/
def answers (s : σ) : List κ → List α
  | [] => []
  | call :: calls => (perform s call).2 :: answers (perform s call).1 calls

/-- What the call at a place of a row answers, when the calls are made in turn. -/
def answerAt (calls : List κ) (k : Nat) : Option α := (answers perform s calls)[k]?

@[simp] theorem replay_nil : replay perform s [] = s := rfl

@[simp] theorem replay_cons (call : κ) (calls : List κ) :
    replay perform s (call :: calls) = replay perform (perform s call).1 calls := rfl

theorem replay_append (calls more : List κ) :
    replay perform s (calls ++ more) = replay perform (replay perform s calls) more :=
  List.foldl_append

theorem replay_concat (calls : List κ) (call : κ) :
    replay perform s (calls ++ [call]) = (perform (replay perform s calls) call).1 :=
  replay_append perform s calls [call]

/-- A call is answered from what the calls before it lead to. -/
theorem answers_getElem? {s : σ} {calls : List κ} {k : Nat} {call : κ}
    (made : calls[k]? = some call) :
    (answers perform s calls)[k]? = some (perform (replay perform s (calls.take k)) call).2 := by
  induction calls generalizing s k with
  | nil => contradiction
  | cons first calls ih =>
    cases k with
    | zero =>
      cases made
      rfl
    | succ k => exact ih made

theorem answerAt_eq {s : σ} {calls : List κ} {k : Nat} {call : κ} (made : calls[k]? = some call) :
    answerAt perform s calls k = some (perform (replay perform s (calls.take k)) call).2 :=
  answers_getElem? perform made

variable {perform s}

/-- What each call keeps, a row of calls keeps. -/
theorem replay_induction {P : σ → Prop} (step : ∀ s call, P s → P (perform s call).1) (start : P s)
    (calls : List κ) : P (replay perform s calls) := by
  induction calls generalizing s with
  | nil => exact start
  | cons call calls ih => exact ih (step s call start)

/-- Two that answer each call alike and stay in step answer every row of calls alike, and stay in
step. -/
theorem answers_inStep {τ : Type} {other : τ → κ → τ × α} {R : σ → τ → Prop}
    (step : ∀ s t call, R s t →
      (perform s call).2 = (other t call).2 ∧ R (perform s call).1 (other t call).1)
    {t : τ} (start : R s t) (calls : List κ) :
    answers perform s calls = answers other t calls ∧
      R (replay perform s calls) (replay other t calls) := by
  induction calls generalizing s t with
  | nil => exact ⟨rfl, start⟩
  | cons call calls ih =>
    obtain ⟨answer, next⟩ := step s t call start
    obtain ⟨others, last⟩ := ih next
    exact ⟨congrArg₂ _ answer others, last⟩

end

/-! ## Calls that may be refused -/

section
variable {σ κ ε α : Type}

/-- Those of the calls that are granted when they are made in turn. -/
def granted (perform : σ → κ → σ × Except ε α) (s : σ) : List κ → List κ
  | [] => []
  | call :: calls =>
    match (perform s call).2 with
    | .ok _ => call :: granted perform (perform s call).1 calls
    | .error _ => granted perform (perform s call).1 calls

/-- What holds of a state and the calls granted so far is kept by a row of calls, if a granted call
keeps it with that call among them and a refused call keeps it as it is. -/
theorem granted_induction {perform : σ → κ → σ × Except ε α} {P : σ → List κ → Prop}
    (grant : ∀ s done call a, (perform s call).2 = .ok a → P s done →
      P (perform s call).1 (done ++ [call]))
    (refuse : ∀ s done call e, (perform s call).2 = .error e → P s done → P (perform s call).1 done)
    {s : σ} (start : P s []) (calls : List κ) :
    P (replay perform s calls) (granted perform s calls) := by
  have onward (done : List κ) (kept : P s done) :
      P (replay perform s calls) (done ++ granted perform s calls) := by
    clear start
    induction calls generalizing s done with
    | nil => simpa [granted] using kept
    | cons call calls ih =>
      rw [replay_cons, granted]
      split
      next a answer =>
        rw [List.append_cons]
        exact ih _ (grant s done call a answer kept)
      next e answer => exact ih _ (refuse s done call e answer kept)
  exact onward [] start

/-- Two that grant the same calls and stay in step grant the same calls of a row, and stay in
step. -/
theorem granted_inStep {τ β : Type} {perform : σ → κ → σ × Except ε α}
    {other : τ → κ → τ × Except ε β} {R : σ → τ → Prop}
    (step : ∀ s t call, R s t → (perform s call).2.isOk = (other t call).2.isOk ∧
      R (perform s call).1 (other t call).1)
    {s : σ} {t : τ} (start : R s t) (calls : List κ) :
    granted perform s calls = granted other t calls ∧
      R (replay perform s calls) (replay other t calls) := by
  induction calls generalizing s t with
  | nil => exact ⟨rfl, start⟩
  | cons call calls ih =>
    obtain ⟨alike, next⟩ := step s t call start
    obtain ⟨others, last⟩ := ih next
    refine ⟨?_, last⟩
    rw [granted, granted, others]
    cases first : (perform s call).2 <;> cases second : (other t call).2 <;>
      simp_all [Except.isOk, Except.toBool]

/-- A call that leads to a state or to a fault, as one that leaves a state. A refused call leaves
the state that there was. -/
def settle (attempt : σ → κ → Except ε σ) (s : σ) (call : κ) : σ × Except ε Unit :=
  match attempt s call with
  | .ok next => (next, .ok ())
  | .error e => (s, .error e)

theorem settle_of_ok {attempt : σ → κ → Except ε σ} {s next : σ} {call : κ}
    (made : attempt s call = .ok next) : settle attempt s call = (next, .ok ()) := by
  rw [settle, made]

theorem settle_of_error {attempt : σ → κ → Except ε σ} {s : σ} {call : κ} {e : ε}
    (refused : attempt s call = .error e) : settle attempt s call = (s, .error e) := by
  rw [settle, refused]

theorem granted_cons_of_ok {attempt : σ → κ → Except ε σ} {s next : σ} {call : κ}
    (made : attempt s call = .ok next) (calls : List κ) :
    granted (settle attempt) s (call :: calls) = call :: granted (settle attempt) next calls := by
  rw [granted, settle_of_ok made]

theorem granted_cons_of_error {attempt : σ → κ → Except ε σ} {s : σ} {call : κ} {e : ε}
    (refused : attempt s call = .error e) (calls : List κ) :
    granted (settle attempt) s (call :: calls) = granted (settle attempt) s calls := by
  rw [granted, settle_of_error refused]

/-- What each granted call keeps, a row of calls keeps, granted or refused. -/
theorem replay_settle_induction {attempt : σ → κ → Except ε σ} {P : σ → Prop}
    (grant : ∀ s call next, attempt s call = .ok next → P s → P next) {s : σ} (start : P s)
    (calls : List κ) : P (replay (settle attempt) s calls) := by
  refine replay_induction ?_ start calls
  intro s call kept
  cases made : attempt s call with
  | ok next =>
    rw [settle_of_ok made]
    exact grant s call next made kept
  | error e =>
    rw [settle_of_error made]
    exact kept

/-- The same with the granted calls beside the state. -/
theorem granted_settle_induction {attempt : σ → κ → Except ε σ} {P : σ → List κ → Prop}
    (grant : ∀ s done call next, attempt s call = .ok next → P s done → P next (done ++ [call]))
    {s : σ} (start : P s []) (calls : List κ) :
    P (replay (settle attempt) s calls) (granted (settle attempt) s calls) := by
  refine granted_induction ?_ ?_ start calls
  · intro s done call a answer kept
    cases made : attempt s call with
    | ok next =>
      rw [settle_of_ok made]
      exact grant s done call next made kept
    | error e =>
      rw [settle_of_error made] at answer
      contradiction
  · intro s done call e answer kept
    cases made : attempt s call with
    | ok next =>
      rw [settle_of_ok made] at answer
      contradiction
    | error e =>
      rw [settle_of_error made]
      exact kept

end

end ScanLexer.Calls
