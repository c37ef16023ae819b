import ScanLexer.Fault

/-!
# Methods

A method changes what it runs on as it goes along. If it ends in a fault, what it has changed before
stays changed.
-/
namespace ScanLexer

/-- Steps that run on a state and may end in a fault. -/
abbrev Method (σ α : Type) := EStateM Fault σ α

namespace Method

variable {σ α β : Type}

/-- The state that a method leaves, and its answer. -/
def outcome (m : Method σ α) (s : σ) : σ × Except Fault α :=
  match m.run s with
  | .ok a s => (s, .ok a)
  | .error fault s => (s, .error fault)

/-- A step that changes nothing. -/
def demand (x : Except Fault α) : Method σ α :=
  match x with
  | .ok a => pure a
  | .error fault => throw fault

/-- The state as it is now. -/
def now : Method σ σ := get

@[simp] theorem outcome_pure (a : α) (s : σ) : outcome (pure a) s = (s, .ok a) := rfl

@[simp] theorem outcome_throw (fault : Fault) (s : σ) :
    outcome (throw fault : Method σ α) s = (s, .error fault) := rfl

@[simp] theorem outcome_now (s : σ) : outcome now s = (s, .ok s) := rfl

@[simp] theorem outcome_modify (f : σ → σ) (s : σ) :
    outcome (modify f : Method σ PUnit) s = (f s, .ok ()) := rfl

@[simp] theorem outcome_demand (x : Except Fault α) (s : σ) : outcome (demand x) s = (s, x) := by
  cases x <;> rfl

theorem outcome_bind_of_ok {m : Method σ α} {s s' : σ} {a : α} (h : outcome m s = (s', .ok a))
    (next : α → Method σ β) : outcome (m >>= next) s = outcome (next a) s' := by
  unfold outcome EStateM.run at h ⊢
  simp only [bind, EStateM.bind]
  cases step : m s <;> simp_all

/-- What a step has left when it ends in a fault stays as it is. -/
theorem outcome_bind_of_error {m : Method σ α} {s s' : σ} {fault : Fault}
    (h : outcome m s = (s', .error fault)) (next : α → Method σ β) :
    outcome (m >>= next) s = (s', .error fault) := by
  unfold outcome EStateM.run at h ⊢
  simp only [bind, EStateM.bind]
  cases step : m s <;> simp_all

/-- A step that leaves the state as it is comes to its answer alone. -/
theorem outcome_bind_of_kept {m : Method σ α} {s : σ} {x : Except Fault α}
    (h : outcome m s = (s, x)) (next : α → Method σ β) :
    outcome (m >>= next) s = outcome (demand x >>= next) s := by
  cases x with
  | ok a => exact outcome_bind_of_ok h next
  | error fault => exact outcome_bind_of_error h next

@[simp] theorem outcome_now_bind (next : σ → Method σ β) (s : σ) :
    outcome (now >>= next) s = outcome (next s) s := outcome_bind_of_ok (outcome_now s) next

@[simp] theorem outcome_ok_bind (a : α) (next : α → Method σ β) (s : σ) :
    outcome (demand (.ok a) >>= next) s = outcome (next a) s := rfl

@[simp] theorem outcome_error_bind (fault : Fault) (next : α → Method σ β) (s : σ) :
    outcome (demand (.error fault) >>= next) s = (s, .error fault) := rfl

end Method

end ScanLexer
