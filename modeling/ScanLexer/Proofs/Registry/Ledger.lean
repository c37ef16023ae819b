import ScanLexer.Proofs.Registry.Firsts

/-!
# A registry kept in two places

The ids of keys may be kept apart from the behaviours: one place numbers the keys, whatever its
means, and the other is a list of behaviours in the order of their ids. Whether a key is new is then
told by comparing its id with the length of the list. Looking up asks for a number too, which would
give one to a key that has none; it does so only after it has asked whether the key is known.

The two places stay in step (`Ledger.Mirrors`), so a ledger answers every call as a registry does.
-/
namespace ScanLexer

/-- A key that has a number keeps it, and a key that has none gets the next one. The keys are in the
order of their numbers. -/
structure Numbering.Faithful {κ : Type} (N : Numbering κ) (keys : N.State → List κ) : Prop where
  start : keys N.start = []
  has (s : N.State) (k : κ) : N.has s k = true ↔ k ∈ keys s
  known (s : N.State) (k : κ) : k ∈ keys s →
    keys (N.number s k).1 = keys s ∧ (keys s)[(N.number s k).2]? = some k
  new (s : N.State) (k : κ) : k ∉ keys s →
    keys (N.number s k).1 = keys s ++ [k] ∧ (N.number s k).2 = (keys s).length

/-- Keys that are told apart by themselves are numbered themselves. -/
theorem Numbering.FaithfulBy.faithful {κ : Type} {N : Numbering κ} {keys : N.State → List κ}
    (h : N.FaithfulBy id keys) : N.Faithful keys where
  start := h.start
  has s k := by simpa using h.has s k
  known s k := by simpa using h.known s k
  new s k := by simpa using h.new s k

namespace Interner

variable (κ : Type) [Ord κ] [Std.TransOrd κ] [Std.LawfulEqOrd κ]

/-- An interner of keys is a means to number them. -/
def numbering : Numbering κ where
  State := Interner (id : κ → κ)
  start := .empty
  has s k := (s.id? k).isSome
  number := intern

theorem faithful_numbering : (numbering κ).Faithful Interner.toList :=
  (faithful_numberingBy id).faithful

end Interner

/-- The numbers of keys, and apart from them the behaviours in the order of their ids. -/
structure Ledger (N : Numbering Registry.Key) where
  ids : N.State
  functions : List Behaviour

namespace Ledger

variable {N : Numbering Registry.Key}

def new (N : Numbering Registry.Key) : Ledger N := ⟨N.start, []⟩

def intern (l : Ledger N) (f : Behaviour) (tag : Option Value) : Ledger N × Nat × Bool :=
  let next := l.functions.length
  let (ids, id) := N.number l.ids ⟨tag, f.key⟩
  if id = next then (⟨ids, l.functions ++ [f]⟩, id, true) else (⟨ids, l.functions⟩, id, false)

def contains (l : Ledger N) (f : Behaviour) : Bool := N.has l.ids ⟨none, f.key⟩

def lookup (l : Ledger N) (f : Behaviour) : Ledger N × Option Nat :=
  if l.contains f then
    let (ids, id) := N.number l.ids ⟨none, f.key⟩
    (⟨ids, l.functions⟩, some id)
  else (l, none)

def behaviour (l : Ledger N) (i : Int) : Except Fault Behaviour :=
  orFault (.ofPosition .noListEntry i) (entryAt l.functions i)

def perform (l : Ledger N) : Registry.Call → Ledger N × Registry.Answer
  | .intern f tag =>
    let (l, id, fresh) := l.intern f (Registry.tagOf tag)
    (l, .interned id fresh)
  | .lookup f =>
    let (l, found) := l.lookup f
    (l, .found found)
  | .contains f => (l, .contained (l.contains f))
  | .behaviour i => (l, .behaviour (l.behaviour i))

/-- The two places hold what a registry holds. -/
structure Mirrors (keys : N.State → List Registry.Key) (l : Ledger N) (r : Registry) : Prop where
  ids : keys l.ids = r.keys
  functions : l.functions = r.behaviours

section
variable {keys : N.State → List Registry.Key} {l : Ledger N} {r : Registry}

theorem Mirrors.new (faithful : N.Faithful keys) : (new N).Mirrors keys .empty :=
  ⟨faithful.start, rfl⟩

/-- As many behaviours are listed as keys are numbered. -/
theorem Mirrors.length (h : l.Mirrors keys r) : l.functions.length = r.size := by
  rw [h.functions, Registry.behaviours_length]

/-- The number of a known key is below the length of the list, and a new key gets that length. So
the comparison tells the one from the other. -/
theorem Mirrors.intern (faithful : N.Faithful keys) (h : l.Mirrors keys r) (f : Behaviour)
    (tag : Option Value) :
    (l.intern f tag).2 = (r.intern f tag).2 ∧
      (l.intern f tag).1.Mirrors keys (r.intern f tag).1 := by
  obtain ⟨r', id, interned, place, outcome⟩ := r.intern_keys f tag
  rw [interned]
  obtain ⟨known, rfl⟩ | ⟨unknown, last, grown, listed⟩ := outcome
  · obtain ⟨kept, found⟩ := faithful.known l.ids _ (h.ids ▸ known)
    rw [h.ids] at kept found
    have same := Registry.keys_unique found place
    have below : id ≠ l.functions.length := by
      obtain ⟨bound, -⟩ := List.getElem?_eq_some_iff.mp place
      rw [Registry.length_keys] at bound
      rw [h.length]
      exact Nat.ne_of_lt bound
    simp only [Ledger.intern, same, if_neg below]
    exact ⟨by simp [known], kept, h.functions⟩
  · obtain ⟨kept, next⟩ := faithful.new l.ids _ (h.ids ▸ unknown)
    rw [h.ids] at kept next
    have here : (N.number l.ids ⟨tag, f.key⟩).2 = l.functions.length := by
      rw [next, Registry.length_keys, h.length]
    simp only [Ledger.intern, if_pos here]
    refine ⟨?_, ?_, ?_⟩
    · rw [here, last, h.length]
      simp [unknown]
    · rw [kept, grown]
    · rw [h.functions, listed]

theorem Mirrors.contains (faithful : N.Faithful keys) (h : l.Mirrors keys r) (f : Behaviour) :
    l.contains f = r.contains f := by
  rw [Bool.eq_iff_iff, Ledger.contains, faithful.has, h.ids, Registry.contains,
    Option.isSome_iff_exists, List.mem_iff_getElem?]
  simp only [Registry.lookup_eq_some_iff, Registry.knows_iff_keys]

/-- A number is asked for only if the key has one, so nothing is added. -/
theorem Mirrors.lookup (faithful : N.Faithful keys) (h : l.Mirrors keys r) (f : Behaviour) :
    (l.lookup f).2 = r.lookup f ∧ (l.lookup f).1.Mirrors keys r := by
  unfold Ledger.lookup
  split
  next guarded =>
    obtain ⟨kept, found⟩ := faithful.known l.ids _ ((faithful.has _ _).mp guarded)
    rw [h.ids] at kept found
    have id := Registry.lookup_eq_some_iff.mpr (Registry.knows_iff_keys.mpr found)
    exact ⟨id.symm, kept, h.functions⟩
  next unknown =>
    rw [h.contains faithful f, Registry.contains, Bool.not_eq_true, Option.isSome_eq_false_iff,
      Option.isNone_iff_eq_none] at unknown
    exact ⟨unknown.symm, h⟩

theorem Mirrors.behaviour (h : l.Mirrors keys r) (i : Int) : l.behaviour i = r.behaviour i := by
  rw [Ledger.behaviour, Registry.behaviour, Registry.behaviour?, entryAt, h.length, h.functions]
  congr 1
  apply Option.bind_congr
  intro id _
  simp [Registry.behaviours, Interner.toList, Interner.value?]

/-- Each call is answered as by the registry, and leaves the two places in step with it. -/
theorem Mirrors.perform (faithful : N.Faithful keys) (h : l.Mirrors keys r) (call : Registry.Call) :
    (l.perform call).2 = (r.perform call).2 ∧
      (l.perform call).1.Mirrors keys (r.perform call).1 := by
  cases call with
  | intern f tag =>
    obtain ⟨answer, next⟩ := h.intern faithful f (Registry.tagOf tag)
    rw [Prod.ext_iff] at answer
    exact ⟨congrArg₂ _ answer.1 answer.2, next⟩
  | lookup f =>
    obtain ⟨answer, next⟩ := h.lookup faithful f
    exact ⟨congrArg _ answer, next⟩
  | contains f => exact ⟨congrArg _ (h.contains faithful f), h⟩
  | behaviour i => exact ⟨congrArg _ (h.behaviour i), h⟩

/-- Whatever is called, a ledger answers as a registry does and stays in step with it. -/
theorem Mirrors.run (faithful : N.Faithful keys) (h : l.Mirrors keys r)
    (calls : List Registry.Call) :
    Calls.answers Ledger.perform l calls = Calls.answers Registry.perform r calls ∧
      (Calls.replay Ledger.perform l calls).Mirrors keys (Calls.replay Registry.perform r calls) :=
  Calls.answers_inStep (R := Mirrors keys) (fun _ _ call h => h.perform faithful call) h calls

end

end Ledger

namespace Registry

/-- Only registering changes a registry. -/
theorem perform_of_key?_eq_none {call : Call} (h : call.key? = none) (r : Registry) :
    (r.perform call).1 = r := by
  cases call with
  | intern f tag => contradiction
  | lookup f | contains f | behaviour i => rfl

/-- A registry, and likewise a ledger over any faithful numbering, answers every call from the calls
before it: equal keys have one id, in the order in which they first came, and an id gives back its
behaviour. What does not register, whether it is answered or refused, changes nothing. -/
theorem registry_numbers_keys (calls : List Call) :
    Numbered calls (Calls.replay perform empty calls).size (Calls.answers perform empty calls) ∧
      (∀ call : Call, call.key? = none →
        (perform (Calls.replay perform empty calls) call).1 = Calls.replay perform empty calls) ∧
      ∀ (N : Numbering Key) (keys : N.State → List Key), N.Faithful keys →
        let l := Calls.replay Ledger.perform (.new N) calls
        Numbered calls l.functions.length (Calls.answers Ledger.perform (.new N) calls) ∧
          keys l.ids = Call.numbering calls ∧
          ∀ call : Call, call.key? = none →
            keys (l.perform call).1.ids = keys l.ids ∧
              (l.perform call).1.functions = l.functions := by
  refine ⟨numbered_replay calls, ?_, ?_⟩
  · intro call asks
    exact perform_of_key?_eq_none asks _
  · intro N keys faithful l
    obtain ⟨answers, mirrors⟩ := (Ledger.Mirrors.new faithful).run faithful calls
    refine ⟨?_, ?_, ?_⟩
    · rw [mirrors.length, answers]
      exact numbered_replay calls
    · rw [mirrors.ids, keys_replay]
    · intro call asks
      obtain ⟨-, next⟩ := mirrors.perform faithful call
      rw [perform_of_key?_eq_none asks] at next
      exact ⟨next.ids.trans mirrors.ids.symm, next.functions.trans mirrors.functions.symm⟩

/-- A behaviour that was registered under a tag only is not found. Looking it up gives it no id, so
it is new when it is registered untagged. -/
theorem registry_numbers_keys_tagged :
    let f := Behaviour.identity 1
    let calls := [.intern f (.text "identity"), .lookup f, .intern f .null, .lookup f]
    let N := Interner.numbering Key
    let l := Calls.replay Ledger.perform (.new N) calls
    N.Faithful Interner.toList ∧
      Calls.answers Ledger.perform (.new N) calls =
        [.interned 0 true, .found none, .interned 1 true, .found (some 1)] ∧
      Numbered calls 2 (Calls.answers Ledger.perform (.new N) calls) ∧
      (l.perform (.lookup (Behaviour.reject 1))).1.functions = l.functions := by
  intro f calls N l
  have faithful := Interner.faithful_numbering Key
  obtain ⟨-, -, kept⟩ := registry_numbers_keys calls
  obtain ⟨numbered, -, still⟩ := kept N Interner.toList faithful
  have two : l.functions.length = 2 := by decide +kernel
  refine ⟨faithful, by decide +kernel, two ▸ numbered, ?_⟩
  unfold l
  exact (still (.lookup (Behaviour.reject 1)) rfl).2

end Registry

end ScanLexer
