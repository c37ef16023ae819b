import Mathlib.Algebra.Group.Nat.Defs
import Mathlib.Order.Bounds.Defs
import ScanLexer.Proofs.Registry.Firsts
import ScanLexer.Token.Mapping

/-!
# What a mapping of tokens answers

A mapping hands out ids to the tokens that are inserted, and lists the first token of each id. It is
asked for ids of tokens that may have none. Looking one up may well go through the call that gives
an id to a new token, as long as that call is made for known tokens alone: over any means that
numbers tokens faithfully, the tokens listed are then the first ones among those inserted
(`listed_replay`), and only inserting changes them. So every answer is told by the calls before it
(`mapping_numbers_tokens`).
-/
namespace ScanLexer

namespace Token

/-- A call to a mapping. -/
inductive Call where
  | insert (t : Token)
  | contains (t : Token)
  | tokenId (t : Token)
  | list

/-- What a call answers. -/
inductive Answer where
  | id (id : Nat)
  | contained (known : Bool)
  | found (id : Except Fault Nat)
  | listed (tokens : List Token)
deriving DecidableEq

namespace Mapping

def perform (m : Mapping) : Call → Mapping × Answer
  | .insert t =>
    let (m, id) := m.intern t
    (m, .id id)
  | .contains t => (m, .contained (m.id? t.key).isSome)
  | .tokenId t => (m, .found (m.tokenId t))
  | .list => (m, .listed m.toList)

/-- The same over any means to number tokens. An id is looked up by the call that gives ids, after
it was asked whether the token is known. -/
def performBy (N : Numbering Token) (listed : N.State → List Token) (s : N.State) :
    Call → N.State × Answer
  | .insert t =>
    let (s, id) := N.number s t
    (s, .id id)
  | .contains t => (s, .contained (N.has s t))
  | .tokenId t =>
    if N.has s t then
      let (s, id) := N.number s t
      (s, .found (.ok id))
    else (s, .found (.error (.unknownToken t.printed)))
  | .list => (s, .listed (listed s))

/-- A mapping looks ids up as if it gave them, for known tokens alone. -/
theorem perform_eq_performBy (m : Mapping) (call : Call) :
    m.perform call = performBy (Interner.numberingBy key) Interner.toList m call := by
  cases call with
  | insert t | contains t | list => rfl
  | tokenId t =>
    cases found : m.id? t.key with
    | none => simp [perform, performBy, Interner.numberingBy, tokenId, found, orFault]
    | some id =>
      simp [perform, performBy, Interner.numberingBy, tokenId, found, orFault,
        Interner.intern_of_known found]

end Mapping

namespace Call

/-- The tokens that calls insert. -/
def inserted (calls : List Call) : List Token :=
  calls.filterMap fun
    | insert t => some t
    | _ => none

/-- The tokens that calls insert first under their keys. -/
def firstInserted (calls : List Call) : List Token := firsts key (inserted calls)

theorem mem_inserted {calls : List Call} {t : Token} : t ∈ inserted calls ↔ insert t ∈ calls := by
  rw [inserted, List.mem_filterMap]
  constructor
  · rintro ⟨call, made, some⟩
    cases call with
    | insert s =>
      cases some
      exact made
    | contains s | tokenId s | list => contradiction
  · intro made
    exact ⟨_, made, rfl⟩

/-- Before a place in the row a token was inserted if some call before it did so. -/
theorem mem_firstInserted_take {calls : List Call} {k : Nat} {K : Key} :
    K ∈ (firstInserted (calls.take k)).map key ↔
      ∃ j < k, ∃ s, calls[j]? = some (insert s) ∧ s.key = K := by
  rw [firstInserted, mem_map_firsts, List.mem_map]
  simp only [mem_inserted, mem_take_iff]
  constructor
  · rintro ⟨s, ⟨j, earlier, made⟩, same⟩
    exact ⟨j, earlier, s, made, same⟩
  · rintro ⟨j, earlier, s, made, same⟩
    exact ⟨s, ⟨j, earlier, made⟩, same⟩

theorem firstInserted_take_prefix (calls : List Call) (k : Nat) :
    firstInserted (calls.take k) <+: firstInserted calls := by
  have whole : inserted calls = inserted (calls.take k) ++ inserted (calls.drop k) := by
    rw [inserted, inserted, inserted, ← List.filterMap_append, List.take_append_drop]
  rw [firstInserted, firstInserted, whole]
  exact firsts_prefix _ _ _

end Call

/-- What the calls to a mapping lead to and what they answer. -/
structure Numbered (calls : List Call) (listing : List Token) (answer : Nat → Option Answer) :
    Prop where
  /-- The keys are numbered in the order in which each was first inserted. -/
  keys : listing.map key = ((Call.inserted calls).map key).eraseDups
  /-- Each key is listed as the token that was inserted first under it. -/
  first (t : Token) : t ∈ listing →
    ∃ before after, Call.inserted calls = before ++ t :: after ∧ t.key ∉ before.map key
  /-- An inserted token has the id of its place. -/
  inserted (k : Nat) (t : Token) : calls[k]? = some (.insert t) →
    ∃ id, answer k = some (.id id) ∧ (listing.map key)[id]? = some t.key
  same (j k : Nat) (s t : Token) (i i' : Nat) :
    calls[j]? = some (.insert s) → calls[k]? = some (.insert t) →
    answer j = some (.id i) → answer k = some (.id i') →
      (i = i' ↔ s.kind = t.kind ∧ Value.ofDatum s.name = Value.ofDatum t.name)
  /-- No id is left out. -/
  reached (i : Nat) :
    i < listing.length → ∃ k t, calls[k]? = some (.insert t) ∧ answer k = some (.id i)
  contained (k : Nat) (t : Token) : calls[k]? = some (.contains t) →
    ∃ known, answer k = some (.contained known) ∧ (known = true ↔
      ∃ j < k, ∃ s, calls[j]? = some (.insert s) ∧ s.key = t.key)
  found (k : Nat) (t : Token) : calls[k]? = some (.tokenId t) →
    ∃ result, answer k = some (.found result) ∧
      (∀ id, result = .ok id ↔ ∃ j < k, ∃ s, calls[j]? = some (.insert s) ∧ s.key = t.key ∧
        answer j = some (.id id)) ∧
      (result = .error (.unknownToken t.printed) ↔
        ∀ j < k, ∀ s, calls[j]? = some (.insert s) → s.key ≠ t.key)
  /-- What is listed at a place of the row are the tokens inserted so far, each at the place of its
  id. -/
  listed (k : Nat) : calls[k]? = some .list → ∃ tokens, answer k = some (.listed tokens) ∧
    (∀ i t, tokens[i]? = some t → ∃ j < k, calls[j]? = some (.insert t) ∧ answer j = some (.id i)) ∧
    ∀ j < k, ∀ s id, calls[j]? = some (.insert s) → answer j = some (.id id) →
      (tokens.map key)[id]? = some s.key

section
variable {N : Numbering Token} {listed : N.State → List Token}

/-- Only inserting changes what is listed. -/
theorem listed_performBy (faithful : N.FaithfulBy key listed) (s : N.State) {call : Call}
    (asks : ∀ t, call ≠ .insert t) : listed (Mapping.performBy N listed s call).1 = listed s := by
  cases call with
  | insert t => exact absurd rfl (asks t)
  | contains t | list => rfl
  | tokenId t =>
    rw [Mapping.performBy]
    split
    next known => exact (faithful.known s t ((faithful.has s t).mp known)).1
    next => rfl

/-- **The tokens listed are the first ones inserted.** -/
theorem listed_replay (faithful : N.FaithfulBy key listed) (calls : List Call) :
    listed (Calls.replay (Mapping.performBy N listed) N.start calls) =
      Call.firstInserted calls := by
  induction calls using List.reverseRecOn with
  | nil => exact faithful.start
  | append_singleton calls call ih =>
    rw [Calls.replay_append]
    generalize Calls.replay (Mapping.performBy N listed) N.start calls = s at ih
    have step : listed (Calls.replay (Mapping.performBy N listed) s [call]) =
      listed (Mapping.performBy N listed s call).1 := rfl
    rw [step, Call.firstInserted, Call.inserted, List.filterMap_append]
    by_cases inserts : ∃ t, call = .insert t
    · obtain ⟨t, rfl⟩ := inserts
      have last : firsts key (Call.inserted calls ++ [t]) = _ := firsts_concat key _ t
      refine Eq.trans ?_ last.symm
      rw [← Call.firstInserted, ← ih]
      by_cases known : t.key ∈ (listed s).map key
      · rw [if_pos known]
        exact (faithful.known s t known).1
      · rw [if_neg known]
        exact (faithful.new s t known).1
    · rw [not_exists] at inserts
      have none :
          List.filterMap (fun | .insert t => some t | _ => none) [call] = ([] : List Token) := by
        cases call with
        | insert t => exact absurd rfl (inserts t)
        | contains t | tokenId t | list => rfl
      rw [listed_performBy faithful s inserts, ih, none, List.append_nil]
      rfl

/-- Behind an insertion, the key of the token is at the place that was answered. -/
theorem place_number (faithful : N.FaithfulBy key listed) (s : N.State) (t : Token) :
    ((listed (N.number s t).1).map key)[(N.number s t).2]? = some t.key := by
  by_cases known : t.key ∈ (listed s).map key
  · obtain ⟨kept, place⟩ := faithful.known s t known
    rwa [kept]
  · obtain ⟨grown, last⟩ := faithful.new s t known
    rw [grown, last, List.map_append, ← List.length_map (f := key), List.map_singleton,
      List.getElem?_concat_length]

theorem getElem?_map_mono {xs ys : List Token} (h : xs <+: ys) {i : Nat} {K : Key}
    (found : (xs.map key)[i]? = some K) : (ys.map key)[i]? = some K := by
  obtain ⟨rest, rfl⟩ := h
  obtain ⟨bound, -⟩ := List.getElem?_eq_some_iff.mp found
  rw [List.map_append, List.getElem?_append_left bound, found]

section
variable {calls : List Call} {k : Nat} {t : Token}

/-- Inserting answers the place of the key, which stays the same whatever is called next. -/
theorem inserted_at (faithful : N.FaithfulBy key listed) (made : calls[k]? = some (.insert t)) :
    ∃ id, Calls.answerAt (Mapping.performBy N listed) N.start calls k = some (.id id) ∧
      ((Call.firstInserted calls).map key)[id]? = some t.key := by
  have next := listed_replay faithful (calls.take (k + 1))
  rw [List.take_add_one, made, Option.toList_some, Calls.replay_append] at next
  have place := place_number faithful
    (Calls.replay (Mapping.performBy N listed) N.start (calls.take k)) t
  refine ⟨_, Calls.answerAt_eq _ made, ?_⟩
  apply getElem?_map_mono (Call.firstInserted_take_prefix calls (k + 1))
  rw [List.take_add_one, made, Option.toList_some, ← next]
  exact place

theorem answerAt_insert_iff (faithful : N.FaithfulBy key listed)
    (made : calls[k]? = some (.insert t)) {i : Nat} :
    Calls.answerAt (Mapping.performBy N listed) N.start calls k = some (.id i) ↔
      ((Call.firstInserted calls).map key)[i]? = some t.key := by
  obtain ⟨id, answer, place⟩ := inserted_at faithful made
  rw [answer]
  constructor
  · rintro ⟨⟩
    exact place
  · intro other
    rw [firsts_unique key place other]

/-- Before a place in the row, a key has an id if it was inserted, and it is the id answered
then. -/
theorem place_take_iff (faithful : N.FaithfulBy key listed) {i : Nat} {K : Key} :
    ((Call.firstInserted (calls.take k)).map key)[i]? = some K ↔
      ∃ j < k, ∃ s, calls[j]? = some (.insert s) ∧ s.key = K ∧
        Calls.answerAt (Mapping.performBy N listed) N.start calls j = some (.id i) := by
  have kept := Call.firstInserted_take_prefix calls k
  constructor
  · intro place
    obtain ⟨j, earlier, s, made, rfl⟩ := Call.mem_firstInserted_take.mp (List.mem_of_getElem? place)
    have answer := (answerAt_insert_iff faithful made).mpr (getElem?_map_mono kept place)
    exact ⟨j, earlier, s, made, rfl, answer⟩
  · rintro ⟨j, earlier, s, made, rfl, answer⟩
    have known := Call.mem_firstInserted_take.mpr ⟨j, earlier, s, made, rfl⟩
    obtain ⟨i', place⟩ := List.getElem?_of_mem known
    have last := (answerAt_insert_iff faithful made).mp answer
    rwa [firsts_unique key last (getElem?_map_mono kept place)]

/-- A token that is listed was inserted itself, and its place was the answer. -/
theorem inserted_of_listed (faithful : N.FaithfulBy key listed) {i : Nat}
    (h : (Call.firstInserted (calls.take k))[i]? = some t) :
    ∃ j < k, calls[j]? = some (.insert t) ∧
      Calls.answerAt (Mapping.performBy N listed) N.start calls j = some (.id i) := by
  obtain ⟨before, after, whole, -⟩ := exists_of_mem_firsts key (List.mem_of_getElem? h)
  have inserted : t ∈ Call.inserted (calls.take k) := by simp [whole]
  obtain ⟨j, earlier, made⟩ := mem_take_iff.mp (Call.mem_inserted.mp inserted)
  have place : ((Call.firstInserted (calls.take k)).map key)[i]? = some t.key := by
    rw [List.getElem?_map, h, Option.map_some]
  have kept := getElem?_map_mono (Call.firstInserted_take_prefix calls k) place
  exact ⟨j, earlier, made, (answerAt_insert_iff faithful made).mpr kept⟩

/-- A known token is found under its id, and any other token is not found. -/
theorem tokenId_cases (faithful : N.FaithfulBy key listed) (s : N.State) (t : Token) :
    (∃ id, (Mapping.performBy N listed s (.tokenId t)).2 = .found (.ok id) ∧
      ((listed s).map key)[id]? = some t.key) ∨
    t.key ∉ (listed s).map key ∧
      (Mapping.performBy N listed s (.tokenId t)).2 =
        .found (.error (.unknownToken t.printed)) := by
  rw [Mapping.performBy]
  by_cases known : t.key ∈ (listed s).map key
  · left
    rw [if_pos ((faithful.has s t).mpr known)]
    exact ⟨_, rfl, (faithful.known s t known).2⟩
  · right
    rw [if_neg fun has => known ((faithful.has s t).mp has)]
    exact ⟨known, rfl⟩

theorem found_at (faithful : N.FaithfulBy key listed) (made : calls[k]? = some (.tokenId t)) :
    ∃ result, Calls.answerAt (Mapping.performBy N listed) N.start calls k = some (.found result) ∧
      (∀ id, result = .ok id ↔ ∃ j < k, ∃ s, calls[j]? = some (.insert s) ∧ s.key = t.key ∧
        Calls.answerAt (Mapping.performBy N listed) N.start calls j = some (.id id)) ∧
      (result = .error (.unknownToken t.printed) ↔
        ∀ j < k, ∀ s, calls[j]? = some (.insert s) → s.key ≠ t.key) := by
  have answer : Calls.answerAt (Mapping.performBy N listed) N.start calls k = some
      (Mapping.performBy N listed (Calls.replay (Mapping.performBy N listed) N.start (calls.take k))
        (.tokenId t)).2 := Calls.answerAt_eq _ made
  obtain ⟨id, found, place⟩ | ⟨unknown, missing⟩ := tokenId_cases faithful
    (Calls.replay (Mapping.performBy N listed) N.start (calls.take k)) t
  · rw [listed_replay faithful] at place
    refine ⟨.ok id, answer.trans (congrArg some found), ?_, iff_of_false nofun ?_⟩
    · intro id'
      rw [← place_take_iff faithful]
      constructor
      · rintro ⟨⟩
        exact place
      · intro other
        rw [firsts_unique key place other]
    · intro never
      obtain ⟨j, earlier, s, inserts, same⟩ :=
        Call.mem_firstInserted_take.mp (List.mem_of_getElem? place)
      exact never j earlier s inserts same
  · rw [listed_replay faithful, Call.mem_firstInserted_take] at unknown
    refine ⟨_, answer.trans (congrArg some missing), ?_, iff_of_true rfl ?_⟩
    · intro id
      refine iff_of_false nofun ?_
      rintro ⟨j, earlier, s, inserts, same, -⟩
      exact unknown ⟨j, earlier, s, inserts, same⟩
    · intro j earlier s inserts same
      exact unknown ⟨j, earlier, s, inserts, same⟩

end

theorem key_eq_iff_kind_name {s t : Token} :
    s.key = t.key ↔ s.kind = t.kind ∧ Value.ofDatum s.name = Value.ofDatum t.name := by
  rw [key, key, Key.mk.injEq]

/-- **Each call is answered from the calls before it.** -/
theorem numbered_firstInserted (faithful : N.FaithfulBy key listed) (calls : List Call) :
    Numbered calls (Call.firstInserted calls)
      (Calls.answerAt (Mapping.performBy N listed) N.start calls) where
  keys := map_firsts key _
  first _ := exists_of_mem_firsts key
  inserted _ _ := inserted_at faithful
  same j k s t i i' first second answer answer' := by
    have place := (answerAt_insert_iff faithful first).mp answer
    have place' := (answerAt_insert_iff faithful second).mp answer'
    rw [← key_eq_iff_kind_name]
    constructor
    · rintro rfl
      exact Option.some.inj (place.symm.trans place')
    · intro same
      exact firsts_unique key place (same ▸ place')
  reached i bound := by
    obtain ⟨t, found⟩ : ∃ t, (Call.firstInserted (calls.take calls.length))[i]? = some t := by
      rw [List.take_length]
      exact ⟨_, List.getElem?_eq_getElem bound⟩
    obtain ⟨j, -, made, answer⟩ := inserted_of_listed faithful found
    exact ⟨j, _, made, answer⟩
  contained k t made := by
    refine ⟨_, Calls.answerAt_eq _ made, ?_⟩
    rw [faithful.has, listed_replay faithful, Call.mem_firstInserted_take]
  found _ _ := found_at faithful
  listed k made := by
    refine ⟨_, Calls.answerAt_eq _ made, ?_⟩
    rw [listed_replay faithful]
    refine ⟨fun i t place => inserted_of_listed faithful place, ?_⟩
    intro j earlier s id inserts answer
    exact (place_take_iff faithful).mpr ⟨j, earlier, s, inserts, rfl, answer⟩

end

/-! ## Widths -/

/-- The first number of an increasing list that has a property is the least one that has it. -/
theorem find?_eq_some_iff_isLeast {l : List Nat} (increasing : l.Pairwise (· < ·)) {p : Nat → Bool}
    {a : Nat} : l.find? p = some a ↔ IsLeast {x | x ∈ l ∧ p x = true} a := by
  rw [List.find?_eq_some_iff_append]
  constructor
  · rintro ⟨holds, before, after, rfl, fails⟩
    refine ⟨⟨by simp, holds⟩, ?_⟩
    rintro x ⟨hx, px⟩
    obtain ⟨-, later, -⟩ := List.pairwise_append.mp increasing
    obtain early | rfl | late := by simpa using hx
    · have none := fails x early
      rw [px] at none
      contradiction
    · exact Nat.le_refl _
    · exact Nat.le_of_lt (List.rel_of_pairwise_cons later late)
  · rintro ⟨⟨ha, pa⟩, least⟩
    obtain ⟨before, after, rfl⟩ := List.append_of_mem ha
    refine ⟨pa, before, after, rfl, ?_⟩
    intro x hx
    rw [Bool.not_eq_true']
    by_contra holds
    rw [Bool.not_eq_false] at holds
    have above := least ⟨List.mem_append_left _ hx, holds⟩
    have below := (List.pairwise_append.mp increasing).2.2 x hx a List.mem_cons_self
    omega

/-- The answer is the least of the usual widths in which each of so many ids fits. It is refused
exactly if there are too many of them for every width. -/
structure Fits (count : Nat) (answer : Except Fault Nat) : Prop where
  least (bits : Nat) : answer = .ok bits ↔
    IsLeast {w | w ∈ [8, 16, 32, 64] ∧ ∀ id < count, id < 2 ^ w} bits
  refused (fault : Fault) : answer = .error fault ↔
    2 ^ 64 < count ∧ fault = .tooManyIds (Datum.int count).printed

theorem fits_backingBits (count : Nat) : Fits count (backingBits (.int count)) := by
  have bound (w : Nat) : (Datum.int count).atMost (.int (Nat.pow 2 w)) = true ↔ count ≤ 2 ^ w := by
    rw [Datum.atMost_int, decide_eq_true_eq]
    exact Int.ofNat_le
  have ids (w : Nat) : (∀ id < count, id < 2 ^ w) ↔ count ≤ 2 ^ w := by
    constructor
    · intro small
      by_contra more
      exact Nat.lt_irrefl _ (small _ (Nat.lt_of_not_le more))
    · intro enough id small
      exact Nat.lt_of_lt_of_le small enough
  constructor
  · intro bits
    rw [backingBits, orFault_eq_ok, find?_eq_some_iff_isLeast (by decide)]
    simp only [bound, ids]
  · intro fault
    rw [backingBits, orFault_eq_error, List.find?_eq_none]
    simp only [bound, List.mem_cons, List.not_mem_nil, or_false, forall_eq_or_imp, forall_eq,
      eq_comm]
    refine and_congr_left fun _ => ?_
    omega

/-! ## Every row of calls -/

/-- What is known of a mapping after a row of calls: what the calls answered, that other calls than
insertions change nothing that is listed, and the width of the ids. -/
structure Told {σ : Type} (listed : σ → List Token) (perform : σ → Call → σ × Answer)
    (width : σ → Except Fault Nat) (start : σ) (calls : List Call) : Prop where
  numbered :
    Numbered calls (listed (Calls.replay perform start calls)) (Calls.answerAt perform start calls)
  kept (call : Call) : (∀ t, call ≠ .insert t) →
    listed (perform (Calls.replay perform start calls) call).1 =
      listed (Calls.replay perform start calls)
  fits :
    Fits (listed (Calls.replay perform start calls)).length
      (width (Calls.replay perform start calls))

theorem told_performBy {N : Numbering Token} {listed : N.State → List Token}
    (faithful : N.FaithfulBy key listed) (calls : List Call) :
    Told listed (Mapping.performBy N listed) (fun s => backingBits (.int (listed s).length)) N.start
      calls where
  numbered := by
    rw [listed_replay faithful]
    exact numbered_firstInserted faithful calls
  kept _ asks := listed_performBy faithful _ asks
  fits := fits_backingBits _

/-- **A mapping numbers tokens.** Whatever is called, ids are the places of the tokens in the order
in which each was first inserted, and every answer is known from the calls before it. A mapping that
is made with tokens is one into which they were inserted. The same holds over any faithful means to
number tokens, even if ids are looked up by the call that gives them. -/
theorem mapping_numbers_tokens (calls : List Call) :
    Told Interner.toList Mapping.perform Mapping.backingTypeBits .empty calls ∧
      (∀ tokens, Calls.replay Mapping.perform (Interner.empty.internAll tokens) calls =
        Calls.replay Mapping.perform .empty (tokens.map .insert ++ calls)) ∧
      ∀ (N : Numbering Token) (listed : N.State → List Token), N.FaithfulBy key listed →
        Told listed (Mapping.performBy N listed)
          (fun s => backingBits (.int (listed s).length)) N.start
          calls := by
  refine ⟨?_, ?_, fun N listed faithful => told_performBy faithful calls⟩
  · have told := told_performBy (Interner.faithful_numberingBy key) calls
    have same : Mapping.perform = Mapping.performBy (Interner.numberingBy key) Interner.toList := by
      funext m call
      exact m.perform_eq_performBy call
    have width (m : Mapping) : m.backingTypeBits = backingBits (.int m.toList.length) := by
      rw [Mapping.backingTypeBits, Interner.size, Interner.toList, Array.length_toList]
    refine ⟨?_, ?_, ?_⟩
    · rw [same]
      exact told.numbered
    · rw [same]
      exact told.kept
    · rw [width, same]
      exact told.fits
  · intro tokens
    rw [Calls.replay_append]
    congr 1
    rw [Calls.replay, List.foldl_map]
    rfl

/-- Looking up a token that was never inserted fails, and gives it no id. -/
theorem mapping_numbers_tokens_failing :
    let calls := [.insert (user "a"), .tokenId (user "b"), .contains (user "b"), .insert invalid,
      .insert (user "a"), .tokenId invalid]
    let N := Interner.numberingBy key
    let answer := Calls.answerAt (Mapping.performBy N Interner.toList) N.start calls
    N.FaithfulBy key Interner.toList ∧
      answer 1 = some (.found (.error (.unknownToken (user "b").printed))) ∧
      answer 5 = some (.found (.ok 1)) := by
  intro calls N answer
  have faithful := Interner.faithful_numberingBy key
  obtain ⟨-, -, told⟩ := mapping_numbers_tokens calls
  obtain ⟨numbered, -, -⟩ := told N Interner.toList faithful
  refine ⟨faithful, ?_, ?_⟩
  · obtain ⟨result, found, -, missing⟩ := numbered.found 1 (user "b") rfl
    have unknown : result = .error (.unknownToken (user "b").printed) := by
      rw [missing]
      rintro j earlier s made
      obtain rfl : j = 0 := by omega
      cases made
      decide
    exact unknown ▸ found
  · obtain ⟨result, found, known, -⟩ := numbered.found 5 invalid rfl
    have second : result = .ok 1 := by
      rw [known]
      exact ⟨3, by decide, invalid, rfl, rfl, by decide +kernel⟩
    exact second ▸ found

end Token

end ScanLexer
