import Mathlib.Data.List.Nodup
import ScanLexer.Proofs.Registry.Numbering

/-!
# Numbering values by a key

Values may be told apart by a key alone. The first value of each key then stands for all of its key,
and its place among such values is its number (`FaithfulBy`). An interner numbers values by any key
(`faithful_numberingBy`).
-/
namespace ScanLexer

section
variable {α κ : Type} [DecidableEq κ] (key : α → κ)

/-- The first value of each key. -/
def firsts (values : List α) : List α :=
  values.foldl (fun kept a => if key a ∈ kept.map key then kept else kept ++ [a]) []

theorem firsts_concat (values : List α) (a : α) : firsts key (values ++ [a]) =
    if key a ∈ (firsts key values).map key then firsts key values
    else firsts key values ++ [a] := by
  rw [firsts, List.foldl_append]
  rfl

theorem map_firsts (values : List α) :
    (firsts key values).map key = (values.map key).eraseDups := by
  induction values using List.reverseRecOn with
  | nil => rfl
  | append_singleton values a ih =>
    rw [firsts_concat, List.map_append, List.map_singleton, eraseDups_concat, ih]
    simp only [List.mem_eraseDups]
    by_cases known : key a ∈ values.map key
    · rw [if_pos known, if_pos known, ih]
    · rw [if_neg known, if_neg known, List.map_append, ih, List.map_singleton]

theorem mem_map_firsts {values : List α} {k : κ} :
    k ∈ (firsts key values).map key ↔ k ∈ values.map key := by
  rw [map_firsts, List.mem_eraseDups]

/-- More values leave the first ones where they are. -/
theorem firsts_prefix (values more : List α) :
    firsts key values <+: firsts key (values ++ more) := by
  induction more using List.reverseRecOn with
  | nil => simp only [List.append_nil, List.prefix_rfl]
  | append_singleton more a ih =>
    rw [← List.append_assoc, firsts_concat]
    split
    · exact ih
    · exact ih.trans (List.prefix_append _ _)

/-- A first value has no value of its key before it. -/
theorem exists_of_mem_firsts {values : List α} {a : α} (h : a ∈ firsts key values) :
    ∃ before after, values = before ++ a :: after ∧ key a ∉ before.map key := by
  induction values using List.reverseRecOn with
  | nil => contradiction
  | append_singleton values b ih =>
    have earlier (old : a ∈ firsts key values) :
        ∃ before after, values ++ [b] = before ++ a :: after ∧ key a ∉ before.map key := by
      obtain ⟨before, after, whole, new⟩ := ih old
      exact ⟨before, after ++ [b], by simp [whole], new⟩
    rw [firsts_concat] at h
    split at h
    · exact earlier h
    next unknown =>
      obtain old | last := List.mem_append.mp h
      · exact earlier old
      · obtain rfl := List.mem_singleton.mp last
        exact ⟨values, [], rfl, fun known => unknown ((mem_map_firsts key).mpr known)⟩

/-- No key has two places among the first values. -/
theorem firsts_unique {values : List α} {i j : Nat} {k : κ}
    (hi : ((firsts key values).map key)[i]? = some k)
    (hj : ((firsts key values).map key)[j]? = some k) : i = j := by
  obtain ⟨bound, found⟩ := List.getElem?_eq_some_iff.mp hi
  obtain ⟨bound', found'⟩ := List.getElem?_eq_some_iff.mp hj
  have distinct : ((firsts key values).map key).Nodup := map_firsts key values ▸ nodup_eraseDups _
  exact (List.Nodup.getElem_inj_iff distinct).mp (found.trans found'.symm)

end

/-! ## Numbering by a key -/

/-- A means to number keys: whether a key has a number, and the number of a key, given to it if it
had none. -/
structure Numbering (κ : Type) where
  State : Type
  start : State
  has : State → κ → Bool
  number : State → κ → State × Nat

/-- A value with the key of a known one has its number, and any other value gets the next number.
The first values of the keys are listed in the order of their numbers. -/
structure Numbering.FaithfulBy {α κ : Type} (N : Numbering α) (key : α → κ)
    (listed : N.State → List α) : Prop where
  start : listed N.start = []
  has (s : N.State) (a : α) : N.has s a = true ↔ key a ∈ (listed s).map key
  known (s : N.State) (a : α) : key a ∈ (listed s).map key →
    listed (N.number s a).1 = listed s ∧ ((listed s).map key)[(N.number s a).2]? = some (key a)
  new (s : N.State) (a : α) : key a ∉ (listed s).map key →
    listed (N.number s a).1 = listed s ++ [a] ∧ (N.number s a).2 = (listed s).length

namespace Interner

variable {α κ : Type} [Ord κ] {key : α → κ} {s : Interner key}

theorem id?_eq_some_iff_map {k : κ} {i : Nat} :
    s.id? k = some i ↔ (s.toList.map key)[i]? = some k := by
  rw [s.id?_eq_some_iff, List.getElem?_map, toList, Array.getElem?_toList]
  rfl

theorem isSome_id?_iff_map {k : κ} : (s.id? k).isSome = true ↔ k ∈ s.toList.map key := by
  simp only [Option.isSome_iff_exists, id?_eq_some_iff_map, List.mem_iff_getElem?]

theorem id?_eq_none_iff_map {k : κ} : s.id? k = none ↔ k ∉ s.toList.map key := by
  rw [← isSome_id?_iff_map, Option.not_isSome_iff_eq_none]

variable (key) [Std.TransOrd κ] [Std.LawfulEqOrd κ]

/-- An interner numbers values by a key. -/
def numberingBy : Numbering α where
  State := Interner key
  start := .empty
  has s a := (s.id? (key a)).isSome
  number := intern

theorem faithful_numberingBy : (numberingBy key).FaithfulBy key toList where
  start := rfl
  has _ _ := isSome_id?_iff_map
  known s a known := by
    obtain ⟨i, place⟩ := List.getElem?_of_mem known
    have found : s.id? (key a) = some i := id?_eq_some_iff_map.mpr place
    simp only [numberingBy, intern_of_known found]
    exact ⟨trivial, place⟩
  new s a unknown := by
    have absent : s.id? (key a) = none := id?_eq_none_iff_map.mpr unknown
    obtain ⟨last, items⟩ := intern_of_new absent
    simp [numberingBy, toList, last, items, size]

end Interner

end ScanLexer
