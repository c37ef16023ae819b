import ScanLexer.Proofs.Calls
import ScanLexer.Proofs.Distinct
import ScanLexer.Proofs.Registry.Interning

/-!
# What a registry answers

A registry is asked to register behaviours, to look them up and to give back those that it knows.
Its ids are the places of the keys in the order in which each first came (`keys_replay`), so every
answer is known from the calls that were made before, and is the same for ever (`numbered_replay`).
Only registering a new key changes a registry.
-/
namespace ScanLexer

theorem mem_take_iff {α : Type} {xs : List α} {k : Nat} {a : α} :
    a ∈ xs.take k ↔ ∃ j < k, xs[j]? = some a := by
  rw [List.mem_iff_getElem?]
  simp only [List.getElem?_take]
  constructor
  · rintro ⟨j, found⟩
    split at found
    next earlier => exact ⟨j, earlier, found⟩
    next => contradiction
  · rintro ⟨j, earlier, found⟩
    exact ⟨j, by rwa [if_pos earlier]⟩

namespace Registry

/-- A call to a registry. The absent value is no tag. -/
inductive Call where
  | intern (f : Behaviour) (tag : Datum)
  | lookup (f : Behaviour)
  | contains (f : Behaviour)
  | behaviour (i : Int)

/-- What a call answers. -/
inductive Answer where
  | interned (id : Nat) (fresh : Bool)
  | found (id : Option Nat)
  | contained (known : Bool)
  | behaviour (f : Except Fault Behaviour)
deriving DecidableEq

def perform (r : Registry) : Call → Registry × Answer
  | .intern f tag =>
    let (r, id, fresh) := r.intern f (tagOf tag)
    (r, .interned id fresh)
  | .lookup f => (r, .found (r.lookup f))
  | .contains f => (r, .contained (r.contains f))
  | .behaviour i => (r, .behaviour (r.behaviour i))

/-- Both tags are absent, or both are there and have one value. -/
def SameTag (s t : Datum) : Prop :=
  s = .null ∧ t = .null ∨ s ≠ .null ∧ t ≠ .null ∧ Value.ofDatum s = Value.ofDatum t

theorem tagOf_eq_iff {s t : Datum} : tagOf s = tagOf t ↔ SameTag s t := by
  unfold tagOf SameTag
  by_cases hs : s = .null <;> by_cases ht : t = .null <;> simp [hs, ht]

@[simp] theorem tagOf_eq_none_iff {t : Datum} : tagOf t = none ↔ t = .null := by
  simp [tagOf]

namespace Call

/-- The key that a call registers a behaviour under. -/
def key? : Call → Option Key
  | intern f tag => some ⟨tagOf tag, f.key⟩
  | _ => none

theorem key?_eq_some_iff {call : Call} {k : Key} :
    call.key? = some k ↔ ∃ f tag, call = intern f tag ∧ ⟨tagOf tag, f.key⟩ = k := by
  cases call <;> simp [key?]

/-- The keys that calls register, in the order in which each first came. -/
def numbering (calls : List Call) : List Key := (calls.filterMap key?).eraseDups

theorem numbering_concat (calls : List Call) (call : Call) : numbering (calls ++ [call]) =
    match call.key? with
    | some k => if k ∈ numbering calls then numbering calls else numbering calls ++ [k]
    | none => numbering calls := by
  unfold numbering
  rw [List.filterMap_append]
  cases registers : call.key? with
  | none => simp [registers]
  | some k =>
    have single : List.filterMap key? [call] = [k] := by simp [registers]
    simp only [single, eraseDups_concat, List.mem_eraseDups]

/-- Later calls leave the ids of earlier keys as they are. -/
theorem numbering_prefix (calls more : List Call) :
    numbering calls <+: numbering (calls ++ more) := by
  unfold numbering
  rw [List.filterMap_append, List.eraseDups_append]
  exact List.prefix_append _ _

theorem mem_numbering {calls : List Call} {k : Key} :
    k ∈ numbering calls ↔ ∃ f tag, intern f tag ∈ calls ∧ ⟨tagOf tag, f.key⟩ = k := by
  simp only [numbering, List.mem_eraseDups, List.mem_filterMap, key?_eq_some_iff]
  constructor
  · rintro ⟨call, made, f, tag, rfl, key⟩
    exact ⟨f, tag, made, key⟩
  · rintro ⟨f, tag, made, key⟩
    exact ⟨_, made, f, tag, rfl, key⟩

end Call

/-- The keys of a registry in the order of their ids. -/
def keys (r : Registry) : List Key := r.known.toList.map Item.key

section
variable {r : Registry} {f : Behaviour} {tag : Option Value}

theorem keys_getElem? (r : Registry) (i : Nat) : r.keys[i]? = (r.item? i).map Item.key := by
  simp [keys, Interner.toList, item?, Interner.value?]

theorem length_keys (r : Registry) : r.keys.length = r.size := by
  simp [keys, Interner.toList, size, Interner.size]

theorem knows_iff_keys {id : Nat} : r.Knows f tag id ↔ r.keys[id]? = some ⟨tag, f.key⟩ := by
  rw [keys_getElem?, Option.map_eq_some_iff]
  rfl

/-- No key has two ids. -/
theorem keys_unique {i j : Nat} {k : Key} (hi : r.keys[i]? = some k) (hj : r.keys[j]? = some k) :
    i = j := by
  rw [keys_getElem?, Option.map_eq_some_iff] at hi hj
  obtain ⟨a, ha, rfl⟩ := hi
  obtain ⟨b, hb, same⟩ := hj
  exact id_eq_of_key_eq ha hb same.symm

/-- A registry that has one item more has it behind the others. -/
theorem toList_concat {r' : Registry} {item : Item}
    (items : ∀ i, r'.item? i = if i = r.size then some item else r.item? i) :
    r'.known.toList = r.known.toList ++ [item] := by
  have listed (s : Registry) (i : Nat) : s.known.toList[i]? = s.item? i := by
    simp [Interner.toList, item?, Interner.value?]
  have length : r.known.toList.length = r.size := by
    simp [Interner.toList, size, Interner.size]
  apply List.ext_getElem?
  intro i
  rw [listed, items, List.getElem?_append, length, listed]
  by_cases old : i < r.size
  · rw [if_neg (Nat.ne_of_lt old), if_pos old]
  · by_cases here : i = r.size
    · simp [here]
    · have beyond : r.item? i = none := by
        rw [Option.eq_none_iff_forall_ne_some]
        intro item found
        exact old (lt_size_of_item? found)
      have later : i - r.size ≠ 0 := by omega
      simp [old, here, beyond, later]

/-- Registering answers the place of the key, and whether the key is new. A new key is put behind
the others, and so is its behaviour. -/
theorem intern_keys (r : Registry) (f : Behaviour) (tag : Option Value) :
    ∃ r' id, r.intern f tag = (r', id, decide (⟨tag, f.key⟩ ∉ r.keys)) ∧
      r'.keys[id]? = some ⟨tag, f.key⟩ ∧
      ((⟨tag, f.key⟩ ∈ r.keys ∧ r' = r) ∨
        (⟨tag, f.key⟩ ∉ r.keys ∧ id = r.size ∧ r'.keys = r.keys ++ [⟨tag, f.key⟩] ∧
          r'.behaviours = r.behaviours ++ [f])) := by
  obtain ⟨id, item, interned, found, key⟩ | ⟨r', interned, size, items, new⟩ := r.intern_cases f tag
  · have place := knows_iff_keys.mp ⟨item, found, key⟩
    have known := List.mem_of_getElem? place
    exact ⟨r, id, by simp [interned, known], place, .inl ⟨known, rfl⟩⟩
  · have unknown : ⟨tag, f.key⟩ ∉ r.keys := by
      intro known
      obtain ⟨i, place⟩ := List.getElem?_of_mem known
      obtain ⟨item, found, key⟩ := knows_iff_keys.mpr place
      exact new i item found key
    have keys : r'.keys = r.keys ++ [⟨tag, f.key⟩] := by
      rw [Registry.keys, toList_concat items, List.map_append]
      rfl
    have behaviours : r'.behaviours = r.behaviours ++ [f] := by
      rw [Registry.behaviours, toList_concat items, List.map_append]
      rfl
    refine ⟨r', r.size, by simp [interned, unknown], ?_, .inr ⟨unknown, rfl, keys, behaviours⟩⟩
    rw [keys, ← length_keys, List.getElem?_concat_length]

/-- What is given back at a position has the key of that place. -/
theorem behaviour_keys (r : Registry) (i : Int) :
    (∃ f k, r.behaviour i = .ok f ∧ entryAt r.keys i = some k ∧ f.key = k.content) ∨
      entryAt r.keys i = none ∧ r.behaviour i = .error (.ofPosition .noListEntry i) := by
  unfold behaviour behaviour? entryAt
  rw [length_keys]
  cases place : position r.size i with
  | none => exact .inr ⟨rfl, rfl⟩
  | some id =>
    left
    obtain ⟨item, found⟩ := exists_item? (position_lt place)
    have value : r.known.value? id = some item := found
    refine ⟨item.behaviour, item.key, ?_, ?_, rfl⟩
    · simp only [Option.bind_some, value, Option.map_some]
      rfl
    · rw [Option.bind_some, keys_getElem?, found, Option.map_some]

end

/-- A registry knows the keys of the calls made so far, in the order in which each first came. -/
theorem keys_replay (calls : List Call) :
    (Calls.replay perform empty calls).keys = Call.numbering calls := by
  induction calls using List.reverseRecOn with
  | nil => rfl
  | append_singleton calls call ih =>
    rw [Calls.replay_concat, Call.numbering_concat, ← ih]
    generalize Calls.replay perform empty calls = r
    cases call with
    | intern f tag =>
      obtain ⟨r', id, interned, -, outcome⟩ := r.intern_keys f (tagOf tag)
      simp only [perform, interned, Call.key?]
      obtain ⟨known, rfl⟩ | ⟨unknown, -, keys, -⟩ := outcome
      · rw [if_pos known]
      · rw [if_neg unknown, keys]
    | lookup f | contains f | behaviour i => rfl

/-- What the calls to a registry answer. Each of them is told by its place in the row. -/
structure Numbered (calls : List Call) (size : Nat) (answers : List Answer) : Prop where
  /-- The ids are the places of the keys, and keep to them whatever is called next. -/
  size : size = (Call.numbering calls).length
  interned (k : Nat) (f : Behaviour) (tag : Datum) : calls[k]? = some (.intern f tag) →
    ∃ id fresh, answers[k]? = some (.interned id fresh) ∧
      (Call.numbering calls)[id]? = some ⟨tagOf tag, f.key⟩ ∧
      (fresh = true ↔ ∀ j < k, ∀ g t, calls[j]? = some (.intern g t) →
        ¬ (SameTag t tag ∧ g.key = f.key))
  same (j k : Nat) (f g : Behaviour) (s t : Datum) (i i' : Nat) (b b' : Bool) :
    calls[j]? = some (.intern f s) → calls[k]? = some (.intern g t) →
    answers[j]? = some (.interned i b) → answers[k]? = some (.interned i' b') →
      (i = i' ↔ SameTag s t ∧ f.key = g.key)
  found (k : Nat) (f : Behaviour) : calls[k]? = some (.lookup f) →
    ∃ found, answers[k]? = some (.found found) ∧ ∀ id, found = some id ↔
      ∃ j < k, ∃ g b, calls[j]? = some (.intern g .null) ∧ g.key = f.key ∧
        answers[j]? = some (.interned id b)
  contained (k : Nat) (f : Behaviour) : calls[k]? = some (.contains f) →
    ∃ known, answers[k]? = some (.contained known) ∧ (known = true ↔
      ∃ j < k, ∃ g, calls[j]? = some (.intern g .null) ∧ g.key = f.key)
  behaviour (k : Nat) (i : Int) : calls[k]? = some (.behaviour i) →
    ∃ result, answers[k]? = some (.behaviour result) ∧
      (∀ j < k, ∀ f tag b, ∀ id : Nat, calls[j]? = some (.intern f tag) →
        answers[j]? = some (.interned id b) → i = id → ∃ g, result = .ok g ∧ g.key = f.key) ∧
      (entryAt (Call.numbering (calls.take k)) i = none →
        result = .error (.ofPosition .noListEntry i))

/-- Before a place in the row a key was registered if some call before it did so. -/
theorem mem_numbering_take {calls : List Call} {k : Nat} {key : Key} :
    key ∈ Call.numbering (calls.take k) ↔
      ∃ j < k, ∃ f tag, calls[j]? = some (.intern f tag) ∧ ⟨tagOf tag, f.key⟩ = key := by
  rw [Call.mem_numbering]
  simp only [mem_take_iff]
  constructor
  · rintro ⟨f, tag, ⟨j, earlier, place⟩, same⟩
    exact ⟨j, earlier, f, tag, place, same⟩
  · rintro ⟨j, earlier, f, tag, place, same⟩
    exact ⟨f, tag, ⟨j, earlier, place⟩, same⟩

theorem numbering_unique {calls : List Call} {i j : Nat} {key : Key}
    (hi : (Call.numbering calls)[i]? = some key) (hj : (Call.numbering calls)[j]? = some key) :
    i = j := by
  rw [← keys_replay] at hi hj
  exact keys_unique hi hj

/-- A key that was registered before a place in the row has its place in the numbering already. -/
theorem numbering_take_eq_some_iff {calls : List Call} {k id : Nat} {key : Key} :
    (Call.numbering (calls.take k))[id]? = some key ↔
      key ∈ Call.numbering (calls.take k) ∧ (Call.numbering calls)[id]? = some key := by
  have earlier : Call.numbering (calls.take k) <+: Call.numbering calls := by
    have more := Call.numbering_prefix (calls.take k) (calls.drop k)
    rwa [List.take_append_drop] at more
  have kept (i : Nat) (found : (Call.numbering (calls.take k))[i]? = some key) :
      (Call.numbering calls)[i]? = some key := by
    obtain ⟨bound, rfl⟩ := List.getElem?_eq_some_iff.mp found
    exact List.prefix_iff_getElem?.mp earlier i bound
  constructor
  · intro found
    exact ⟨List.mem_of_getElem? found, kept id found⟩
  · rintro ⟨known, place⟩
    obtain ⟨i, found⟩ := List.getElem?_of_mem known
    rwa [numbering_unique place (kept i found)]

theorem key_eq_iff {f g : Behaviour} {s t : Datum} :
    (⟨tagOf s, f.key⟩ : Key) = ⟨tagOf t, g.key⟩ ↔ SameTag s t ∧ f.key = g.key := by
  rw [Key.mk.injEq, tagOf_eq_iff]

section
variable {calls : List Call} {k : Nat} {f : Behaviour} {tag : Datum}

/-- Registering answers the place of the key in the numbering by all calls, and whether no call
before this one has registered the key. -/
theorem interned_at (made : calls[k]? = some (.intern f tag)) :
    ∃ id, (Calls.answers perform empty calls)[k]? = some (.interned id
        (decide (⟨tagOf tag, f.key⟩ ∉ Call.numbering (calls.take k)))) ∧
      (Call.numbering calls)[id]? = some ⟨tagOf tag, f.key⟩ := by
  have answer := Calls.answers_getElem? perform (s := empty) made
  have next := keys_replay (calls.take (k + 1))
  rw [List.take_add_one, made, Option.toList_some, Calls.replay_concat] at next
  have before := keys_replay (calls.take k)
  generalize Calls.replay perform empty (calls.take k) = r at answer next before
  obtain ⟨r', id, interned, place, -⟩ := r.intern_keys f (tagOf tag)
  simp only [perform, interned] at answer next
  refine ⟨id, before ▸ answer, ?_⟩
  have taken : calls.take (k + 1) = calls.take k ++ [.intern f tag] := by
    rw [List.take_add_one, made, Option.toList_some]
  rw [next, ← taken] at place
  exact (numbering_take_eq_some_iff.mp place).2

/-- Looking up answers the id that an untagged registration before it was given. -/
theorem found_at (made : calls[k]? = some (.lookup f)) :
    ∃ found, (Calls.answers perform empty calls)[k]? = some (.found found) ∧ ∀ id,
      found = some id ↔ ∃ j < k, ∃ g b, calls[j]? = some (.intern g .null) ∧ g.key = f.key ∧
        (Calls.answers perform empty calls)[j]? = some (.interned id b) := by
  refine ⟨_, Calls.answers_getElem? perform made, ?_⟩
  intro id
  rw [lookup_eq_some_iff, knows_iff_keys, keys_replay, numbering_take_eq_some_iff,
    mem_numbering_take]
  constructor
  · rintro ⟨⟨j, earlier, g, tag, registered, same⟩, place⟩
    rw [Key.mk.injEq, tagOf_eq_none_iff] at same
    obtain ⟨rfl, alike⟩ := same
    obtain ⟨id', answer, place'⟩ := interned_at registered
    rw [alike] at place'
    obtain rfl := numbering_unique place place'
    exact ⟨j, earlier, g, _, registered, alike, answer⟩
  · rintro ⟨j, earlier, g, b, registered, alike, answer⟩
    obtain ⟨id', answer', place⟩ := interned_at registered
    cases answer.symm.trans answer'
    have untagged : (⟨tagOf .null, g.key⟩ : Key) = ⟨none, f.key⟩ := by rw [alike]; rfl
    exact ⟨⟨j, earlier, g, .null, registered, untagged⟩, untagged ▸ place⟩

theorem contained_at (made : calls[k]? = some (.contains f)) :
    ∃ known, (Calls.answers perform empty calls)[k]? = some (.contained known) ∧ (known = true ↔
      ∃ j < k, ∃ g, calls[j]? = some (.intern g .null) ∧ g.key = f.key) := by
  refine ⟨_, Calls.answers_getElem? perform made, ?_⟩
  have known (id : Nat) : (Calls.replay perform empty (calls.take k)).lookup f = some id ↔
      (Call.numbering (calls.take k))[id]? = some ⟨none, f.key⟩ := by
    rw [lookup_eq_some_iff, knows_iff_keys, keys_replay]
  simp only [contains, Option.isSome_iff_exists, known]
  rw [← List.mem_iff_getElem?, mem_numbering_take]
  simp only [Key.mk.injEq, tagOf_eq_none_iff]
  constructor
  · rintro ⟨j, earlier, g, tag, registered, rfl, alike⟩
    exact ⟨j, earlier, g, registered, alike⟩
  · rintro ⟨j, earlier, g, registered, alike⟩
    exact ⟨j, earlier, g, .null, registered, rfl, alike⟩

/-- An id gives back a behaviour that is like each of those registered under it. -/
theorem behaviour_at {i : Int} (made : calls[k]? = some (.behaviour i)) :
    ∃ result, (Calls.answers perform empty calls)[k]? = some (.behaviour result) ∧
      (∀ j < k, ∀ f tag b, ∀ id : Nat, calls[j]? = some (.intern f tag) →
        (Calls.answers perform empty calls)[j]? = some (.interned id b) → i = id →
          ∃ g, result = .ok g ∧ g.key = f.key) ∧
      (entryAt (Call.numbering (calls.take k)) i = none →
        result = .error (.ofPosition .noListEntry i)) := by
  have given := (Calls.replay perform empty (calls.take k)).behaviour_keys i
  rw [keys_replay] at given
  refine ⟨_, Calls.answers_getElem? perform made, ?_, ?_⟩
  · intro j earlier f tag b id registered answer named
    obtain ⟨id', answer', place⟩ := interned_at registered
    cases answer.symm.trans answer'
    have known : (Call.numbering (calls.take k))[id]? = some ⟨tagOf tag, f.key⟩ :=
      numbering_take_eq_some_iff.mpr
        ⟨mem_numbering_take.mpr ⟨j, earlier, f, tag, registered, rfl⟩, place⟩
    rw [named, entryAt_natCast, known] at given
    obtain ⟨g, key, found, same, alike⟩ | ⟨none, -⟩ := given
    · cases same
      exact ⟨g, named ▸ found, alike⟩
    · contradiction
  · intro none
    obtain ⟨g, key, -, some, -⟩ | ⟨-, refused⟩ := given
    · cases none.symm.trans some
    · exact refused

end

/-- **A registry numbers keys.** Whatever is called, each answer is known from the calls before
it. -/
theorem numbered_replay (calls : List Call) :
    Numbered calls (Calls.replay perform empty calls).size (Calls.answers perform empty calls) where
  size := by rw [← length_keys, keys_replay]
  interned k f tag made := by
    obtain ⟨id, answer, place⟩ := interned_at made
    refine ⟨id, _, answer, place, ?_⟩
    rw [decide_eq_true_eq, mem_numbering_take]
    simp only [not_exists, not_and, key_eq_iff]
  same j k f g s t i i' b b' first second answer answer' := by
    obtain ⟨_, left, place⟩ := interned_at first
    obtain ⟨_, right, place'⟩ := interned_at second
    cases answer.symm.trans left
    cases answer'.symm.trans right
    rw [← key_eq_iff]
    constructor
    · rintro rfl
      exact Option.some.inj (place.symm.trans place')
    · intro same
      rw [same] at place
      exact numbering_unique place place'
  found _ _ made := found_at made
  contained _ _ made := contained_at made
  behaviour _ _ made := behaviour_at made

end Registry

end ScanLexer
