import Mathlib.Data.List.Induction
import Mathlib.Data.List.Perm.Basic

/-!
# Distinct items of a list

Dropping repetitions keeps each item where it stands first. The distinct keys of a list take it
apart: each item is under exactly one of them.
-/
namespace ScanLexer

variable {α β : Type} [DecidableEq α]

/-- One more item is the last of the distinct ones, unless it is among those before it. -/
theorem eraseDups_concat (xs : List α) (a : α) :
    (xs ++ [a]).eraseDups = if a ∈ xs then xs.eraseDups else xs.eraseDups ++ [a] := by
  rw [List.eraseDups_append, List.removeAll]
  by_cases known : a ∈ xs <;> simp [known, List.eraseDups_cons]

/-- Distinct items come in the order of their first places. -/
theorem pairwise_idxOf_eraseDups (xs : List α) :
    xs.eraseDups.Pairwise fun a b => xs.idxOf a < xs.idxOf b := by
  induction xs using List.reverseRecOn with
  | nil => exact List.Pairwise.nil
  | append_singleton xs c ih =>
    have earlier : ∀ a ∈ xs.eraseDups, (xs ++ [c]).idxOf a = xs.idxOf a := by
      intro a ha
      exact List.idxOf_append_of_mem (List.mem_eraseDups.mp ha)
    have kept : xs.eraseDups.Pairwise fun a b => (xs ++ [c]).idxOf a < (xs ++ [c]).idxOf b := by
      apply ih.imp_of_mem
      intro a b ha hb before
      rwa [earlier a ha, earlier b hb]
    rw [eraseDups_concat]
    split
    · exact kept
    next new =>
      refine List.pairwise_append.mpr ⟨kept, List.pairwise_singleton _ _, ?_⟩
      intro a ha b hb
      obtain rfl := List.mem_singleton.mp hb
      rw [earlier a ha, List.idxOf_append_of_notMem new, List.idxOf_cons_self]
      exact List.idxOf_lt_length_of_mem (List.mem_eraseDups.mp ha)

theorem nodup_eraseDups (xs : List α) : xs.eraseDups.Nodup := by
  apply (pairwise_idxOf_eraseDups xs).imp
  rintro a b before rfl
  exact Nat.lt_irrefl _ before

/-- A list is taken apart by what its items have in common. -/
theorem flatMap_filter_perm {f : β → α} {keys : List α} (distinct : keys.Nodup) {xs : List β}
    (covered : ∀ x ∈ xs, f x ∈ keys) : (keys.flatMap fun k => xs.filter (f · = k)).Perm xs := by
  induction keys generalizing xs with
  | nil =>
    have none : xs = [] :=
      List.eq_nil_iff_forall_not_mem.mpr fun x hx => List.not_mem_nil (covered x hx)
    rw [none]
    exact List.Perm.nil
  | cons k keys ih =>
    obtain ⟨new, distinct⟩ := List.nodup_cons.mp distinct
    have covered' : ∀ x ∈ xs.filter (f · ≠ k), f x ∈ keys := by
      intro x hx
      obtain ⟨inside, other⟩ := List.mem_filter.mp hx
      exact (List.mem_cons.mp (covered x inside)).resolve_left (of_decide_eq_true other)
    have rest : (keys.flatMap fun k' => xs.filter (f · = k')) =
        keys.flatMap fun k' => (xs.filter (f · ≠ k)).filter (f · = k') := by
      apply List.flatMap_congr
      intro k' hk'
      have apart : k' ≠ k := fun same => new (same ▸ hk')
      rw [List.filter_filter]
      apply List.filter_congr
      intro x _
      by_cases here : f x = k' <;> simp [here, apart]
    rw [List.flatMap_cons, rest]
    refine ((ih distinct covered').append_left _).trans ?_
    have split := List.filter_append_perm (f · = k) xs
    simpa only [decide_not] using split

end ScanLexer
