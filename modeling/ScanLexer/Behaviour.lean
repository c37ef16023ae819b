import ScanLexer.Datum.Reading
import ScanLexer.Datum.Value
import ScanLexer.Position
import ScanLexer.Transition

/-!
# Behaviours

What a piece of input does to an automaton is a function from states to transitions. Reading one
piece after another composes their behaviours, and composition is associative, so a text can be cut
anywhere and its pieces read in parallel.

The entries of a behaviour are kept as they were handed over. Two behaviours are alike if their
entries have the same values. An entry is plain if its values are those of its transition; plain
behaviours are alike exactly if they have the same transitions.
-/
namespace ScanLexer

namespace Behaviour

structure Entry where
  target : Datum
  flag : Datum
deriving DecidableEq, Repr

namespace Entry

def reject : Entry := ⟨.int Target.rejected, .bool false⟩

def stay (state : Nat) : Entry := ⟨.int state, .bool false⟩

/-- The transition that an entry stands for. Any target that equals `-1` leads nowhere. -/
def transition (e : Entry) : Transition :=
  ⟨match e.target.whole? with
    | some i => .ofInt i
    | none => some e.target.truncated, e.flag.truth⟩

/-- What entries are told apart by. -/
structure Key where
  target : Value
  flag : Value
deriving DecidableEq, Repr

namespace Key

instance : Ord Key := ⟨compareLex (compareOn target) (compareOn flag)⟩

instance : Std.TransOrd Key :=
  inferInstanceAs (Std.TransCmp (compareLex (compareOn _) (compareOn _)))

instance : Std.LawfulEqOrd Key where
  eq_of_compare {s t} h := by
    obtain ⟨targets, flags⟩ := compareLex_eq_eq.mp h
    have same : s.target = t.target := Std.LawfulEqCmp.eq_of_compare targets
    have alike : s.flag = t.flag := Std.LawfulEqCmp.eq_of_compare flags
    cases s
    cases t
    simp_all

end Key

def key (e : Entry) : Key := ⟨.ofDatum e.target, .ofDatum e.flag⟩

/-- The target as a place to look up: nothing for `-1`, and else the whole number that it stands
for. -/
def place (e : Entry) : Except Fault Target :=
  if e.target.whole? = some Target.rejected then .ok none
  else orFault (.notAPlace e.target.typeName) (e.target.integer?.map some)

/-- An entry that leads somewhere leads to its place. -/
theorem place_of_integer? {e : Entry} {i : Int} (h : e.target.integer? = some i) :
    e.place = .ok e.transition.target := by
  have whole := Datum.whole?_of_integer? h
  simp only [place, transition, whole, Option.some.injEq, Target.ofInt]
  split
  · rfl
  · rw [h]
    rfl

theorem place_of_rejected {e : Entry} (h : e.target.whole? = some Target.rejected) :
    e.place = .ok e.transition.target := by
  simp only [place, transition, h, Target.ofInt, if_true]

def Plain (e : Entry) : Prop := (∃ i, e.target.integer? = some i) ∧ ∃ b, e.flag = .bool b

theorem Plain.place {e : Entry} (h : e.Plain) : e.place = .ok e.transition.target := by
  obtain ⟨⟨i, whole⟩, -⟩ := h
  exact place_of_integer? whole

theorem plain_reject : reject.Plain := ⟨⟨_, rfl⟩, ⟨_, rfl⟩⟩

theorem plain_stay (state : Nat) : (stay state).Plain := ⟨⟨_, rfl⟩, ⟨_, rfl⟩⟩

@[simp] theorem transition_reject : reject.transition = .reject := rfl

@[simp] theorem transition_stay (state : Nat) :
    (stay state).transition = .stay (some (state : Int)) := by
  simp [transition, stay, Datum.whole?, Datum.integer?, Datum.truth, Transition.stay]

theorem key_of_plain {e : Entry} (h : e.Plain) :
    e.key = ⟨.ofInt e.transition.target.toInt, .ofInt e.transition.emits.toInt⟩ := by
  obtain ⟨⟨i, state⟩, b, truth⟩ := h
  have whole := Datum.whole?_of_integer? state
  have target : (Target.ofInt i).toInt = i := by
    unfold Target.ofInt Target.toInt
    split <;> simp_all
  have first : Value.ofDatum e.target = .ofInt i := Value.ofDatum_of_whole? whole
  have second : Value.ofDatum (.bool b) = .ofInt b.toInt := rfl
  simp only [key, transition, first, second, whole, truth, target, Datum.truth]

/-- The target of a plain entry is no state `-1`. -/
theorem ofInt_toInt_of_plain {e : Entry} (h : e.Plain) :
    Target.ofInt e.transition.target.toInt = e.transition.target := by
  obtain ⟨⟨i, state⟩, -⟩ := h
  simp only [transition, Datum.whole?_of_integer? state]
  unfold Target.ofInt
  split <;> simp_all [Target.toInt]

/-- Plain entries are alike exactly if they stand for the same transition. -/
theorem key_eq_iff {e e' : Entry} (h : e.Plain) (h' : e'.Plain) :
    e.key = e'.key ↔ e.transition = e'.transition := by
  rw [key_of_plain h, key_of_plain h']
  constructor
  · intro same
    have targets : e.transition.target.toInt = e'.transition.target.toInt := by
      simpa [Value.ofInt] using congrArg Key.target same
    have flags : e.transition.emits = e'.transition.emits := by
      have := congrArg Key.flag same
      revert this
      cases e.transition.emits <;> cases e'.transition.emits <;> simp [Value.ofInt]
    have reached := ofInt_toInt_of_plain h
    rw [targets, ofInt_toInt_of_plain h'] at reached
    rcases step : e.transition with ⟨_, _⟩
    rcases step' : e'.transition with ⟨_, _⟩
    simp_all
  · intro same
    rw [same]

def number (e : Entry) : Except Fault Int := e.target.read

/-- The written form: the state or a cross-stroke for none, and a mark if a lexeme is closed. -/
def printed (e : Entry) : String :=
  (if e.transition.target = none then "⊥" else e.target.shown) ++
    (if e.transition.emits then "!" else "")

end Entry

end Behaviour

/-- A function from states to transitions: one entry per state, in state order. -/
structure Behaviour where
  entries : List Behaviour.Entry
deriving DecidableEq, Repr

namespace Behaviour

def transitions (f : Behaviour) : List Transition := f.entries.map Entry.transition

def key (f : Behaviour) : List Entry.Key := f.entries.map Entry.key

def Plain (f : Behaviour) : Prop := ∀ e ∈ f.entries, e.Plain

/-- Plain behaviours are alike exactly if they have the same transitions. -/
theorem key_eq_iff {f g : Behaviour} (hf : f.Plain) (hg : g.Plain) :
    f.key = g.key ↔ f.transitions = g.transitions := by
  rcases f with ⟨left⟩
  rcases g with ⟨right⟩
  unfold key transitions
  simp only
  induction left generalizing right with
  | nil => cases right <;> simp
  | cons e rest ih =>
    cases right with
    | nil => simp
    | cons e' rest' =>
      have first := Entry.key_eq_iff (hf e (by simp)) (hg e' (by simp))
      have others := ih (fun d hd => hf d (List.mem_cons_of_mem e hd)) rest'
        (fun d hd => hg d (List.mem_cons_of_mem e' hd))
      simp only [List.map_cons, List.cons.injEq, first, others]

def reject (n : Nat) : Behaviour := ⟨List.replicate n .reject⟩

def identity (n : Nat) : Behaviour := ⟨(List.range n).map .stay⟩

@[simp] theorem transitions_reject (n : Nat) :
    (reject n).transitions = List.replicate n .reject := by
  simp [reject, transitions]

@[simp] theorem transitions_identity (n : Nat) :
    (identity n).transitions = (List.range n).map fun s : Nat => .stay (some (s : Int)) := by
  simp [identity, transitions, Function.comp_def]

theorem plain_reject (n : Nat) : (reject n).Plain := by
  intro e h
  obtain ⟨-, rfl⟩ := List.mem_replicate.mp h
  exact Entry.plain_reject

theorem plain_identity (n : Nat) : (identity n).Plain := by
  intro e h
  obtain ⟨s, -, rfl⟩ := List.mem_map.mp h
  exact Entry.plain_stay s

/-- The behaviour that rejects from each of `n` states, if there is room for it. -/
def rejecting [Memory] (n : Int) : Except Fault Behaviour :=
  (Memory.list n).map fun _ => reject n.toNat

def size (f : Behaviour) : Nat := f.entries.length

/-- The entry of a state. A state that counts back from the end is looked up as such. -/
def entry (f : Behaviour) (state : Int) : Except Fault Entry :=
  orFault (.ofPosition .noBehaviourEntry state) (entryAt f.entries state)

/-- The entry of a state that is not negative. -/
def lookup (f : Behaviour) (state : Int) : Except Fault Entry :=
  if state < 0 then .error .negativeState else f.entry state

/-- The entry that is taken from a target. Nothing is looked up once the input has been rejected. -/
def apply (f : Behaviour) : Target → Except Fault Entry
  | none => .ok .reject
  | some state => f.entry state

/-- The entry that comes after another one. -/
def follow (f : Behaviour) (e : Entry) : Except Fault Entry := do f.apply (← e.place)

/-- First `f`, then `g`. Where each step leads is up to both; whether a lexeme is closed is up to
the last one. -/
def compose (f g : Behaviour) : Except Fault Behaviour :=
  if f.size = g.size then
    return ⟨← f.entries.mapM g.follow⟩
  else .error (.lengthsDiffer f.size g.size)

/-- The written form: each state with its transition, in brackets. A target of any size is written
out. -/
def printed (f : Behaviour) : String :=
  "[" ++ ", ".intercalate (f.entries.zipIdx.map fun (e, s) => toString s ++ "→" ++ e.printed) ++ "]"

end Behaviour

end ScanLexer
