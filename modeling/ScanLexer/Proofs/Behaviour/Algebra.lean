import ScanLexer.Behaviour
import ScanLexer.Proofs.Outcome

/-!
# The algebra of behaviours

A behaviour over `n` states has a plain entry for each of them, and every entry leads to one of them
or nowhere. Such a behaviour acts on targets: `compose_over` says that composing two of them
succeeds and acts as one after the other, and `key_eq_iff_act` that two of them are alike exactly if
they act alike.
-/
namespace ScanLexer

/-- A target within an automaton of `n` states: one of the states, or none. -/
def Target.Within (n : Nat) : Target → Prop
  | none => True
  | some i => 0 ≤ i ∧ i < n

theorem Target.within_natCast {n k : Nat} : Target.Within n (some (k : Int)) ↔ k < n := by
  simp only [Target.Within]
  omega

theorem Target.Within.cases {n : Nat} {t : Target} (h : t.Within n) :
    t = none ∨ ∃ k : Nat, k < n ∧ t = some (k : Int) := by
  cases t with
  | none => exact .inl rfl
  | some i =>
    obtain ⟨lo, hi⟩ := h
    exact .inr ⟨i.toNat, by omega, by rw [Int.toNat_of_nonneg lo]⟩

namespace Behaviour

/-- A behaviour over `n` states. -/
structure Over (n : Nat) (f : Behaviour) : Prop where
  size : f.size = n
  plain : f.Plain
  within : ∀ e ∈ f.entries, e.transition.target.Within n

/-- The transition that is taken from a target; outside the behaviour's states, rejection. -/
def act (f : Behaviour) (t : Target) : Transition :=
  match f.apply t with
  | .ok e => e.transition
  | .error _ => .reject

@[simp] theorem act_none (f : Behaviour) : f.act none = .reject := rfl

theorem entry_natCast {f : Behaviour} {k : Nat} {e : Entry} :
    f.entry (k : Int) = .ok e ↔ f.entries[k]? = some e := by
  rw [entry, orFault_eq_ok, entryAt_natCast]

theorem act_of_entry {f : Behaviour} {k : Nat} {e : Entry} (h : f.entries[k]? = some e) :
    f.act (some (k : Int)) = e.transition := by
  have found : f.apply (some (k : Int)) = .ok e := entry_natCast.mpr h
  rw [act, found]

variable {n : Nat} {f g h : Behaviour}

/-- Behind an entry that leads to its place comes what is taken from there. -/
theorem follow_eq_apply {e : Entry} (placed : e.place = .ok e.transition.target) :
    f.follow e = f.apply e.transition.target := by
  rw [follow, placed, ok_bind]

theorem Over.entry_of_lt (hf : f.Over n) {k : Nat} (hk : k < n) :
    ∃ e ∈ f.entries, f.entries[k]? = some e := by
  have bound : k < f.entries.length := by
    have := hf.size
    unfold Behaviour.size at this
    omega
  exact ⟨f.entries[k], List.getElem_mem bound, List.getElem?_eq_getElem bound⟩

/-- From every target within the automaton there is an entry, which stands for what the behaviour
does. -/
theorem Over.apply_eq_ok (hf : f.Over n) {t : Target} (ht : t.Within n) :
    ∃ e, f.apply t = .ok e ∧ e.Plain ∧ e.transition = f.act t := by
  obtain rfl | ⟨k, hk, rfl⟩ := ht.cases
  · exact ⟨.reject, rfl, Entry.plain_reject, rfl⟩
  · obtain ⟨e, he, found⟩ := hf.entry_of_lt hk
    exact ⟨e, entry_natCast.mpr found, hf.plain e he, (act_of_entry found).symm⟩

theorem Over.within_act (hf : f.Over n) {t : Target} (ht : t.Within n) :
    (f.act t).target.Within n := by
  obtain rfl | ⟨k, hk, rfl⟩ := ht.cases
  · trivial
  · obtain ⟨e, he, found⟩ := hf.entry_of_lt hk
    rw [act_of_entry found]
    exact hf.within e he

theorem over_identity (n : Nat) : (identity n).Over n := by
  refine ⟨by simp [identity, Behaviour.size], plain_identity n, ?_⟩
  intro e he
  obtain ⟨s, hs, rfl⟩ := List.mem_map.mp he
  rw [Entry.transition_stay]
  exact Target.within_natCast.mpr (List.mem_range.mp hs)

theorem act_identity {t : Target} (ht : t.Within n) : (identity n).act t = .stay t := by
  obtain rfl | ⟨k, hk, rfl⟩ := ht.cases
  · rfl
  · have found : (identity n).entries[k]? = some (.stay k) := by simp [identity, hk]
    rw [act_of_entry found, Entry.transition_stay]

/-- Over the same states, behaviours with the same transitions are those that act alike. -/
theorem transitions_eq_iff_act (hf : f.Over n) (hg : g.Over n) :
    f.transitions = g.transitions ↔ ∀ t : Target, t.Within n → f.act t = g.act t := by
  constructor
  · intro same t ht
    obtain rfl | ⟨k, hk, rfl⟩ := ht.cases
    · rfl
    · obtain ⟨d, -, hd⟩ := hf.entry_of_lt hk
      obtain ⟨e, -, he⟩ := hg.entry_of_lt hk
      have steps := congrArg (·[k]?) same
      simp only [transitions, List.getElem?_map, hd, he, Option.map_some,
        Option.some.injEq] at steps
      rw [act_of_entry hd, act_of_entry he, steps]
  · intro alike
    have lengths : f.entries.length = g.entries.length := hf.size.trans hg.size.symm
    apply List.ext_getElem (by simpa only [transitions, List.length_map] using lengths)
    intro k hk hk'
    simp only [transitions, List.length_map] at hk hk'
    have within : k < n := hf.size ▸ hk
    have steps := alike (some (k : Int)) (Target.within_natCast.mpr within)
    rw [act_of_entry (List.getElem?_eq_getElem hk),
      act_of_entry (List.getElem?_eq_getElem hk')] at steps
    simpa only [transitions, List.getElem_map] using steps

/-- Over the same states, behaviours are alike exactly if they act alike. -/
theorem key_eq_iff_act (hf : f.Over n) (hg : g.Over n) :
    f.key = g.key ↔ ∀ t : Target, t.Within n → f.act t = g.act t :=
  (key_eq_iff hf.plain hg.plain).trans (transitions_eq_iff_act hf hg)

theorem compose_eq_ok {k : Behaviour} : f.compose g = .ok k ↔ f.size = g.size ∧
    List.Forall₂ (fun e e' => g.follow e = .ok e') f.entries k.entries := by
  rcases k with ⟨entries⟩
  unfold compose
  split
  next same => simp [bind_eq_ok, mapM_eq_ok, same]
  next differ => simp [differ]

/-- Behaviours of one length are composed if the second one has an entry wherever the first one
leads. -/
theorem exists_compose (same : f.size = g.size)
    (steps : ∀ e ∈ f.entries, ∃ e', g.follow e = .ok e') :
    ∃ k, f.compose g = .ok k := by
  obtain ⟨entries, mapped⟩ := exists_mapM_eq_ok steps
  exact ⟨⟨entries⟩, compose_eq_ok.mpr ⟨same, mapM_eq_ok.mp mapped⟩⟩

/-- Composing behaviours over the same states succeeds. -/
theorem Over.exists_compose (hf : f.Over n) (hg : g.Over n) : ∃ k, f.compose g = .ok k := by
  apply Behaviour.exists_compose (hf.size.trans hg.size.symm)
  intro e he
  obtain ⟨e', found, -⟩ := hg.apply_eq_ok (hf.within e he)
  exact ⟨e', (follow_eq_apply (hf.plain e he).place).trans found⟩

/-- Each entry of a composition is taken from the second behaviour, or is a rejection. -/
theorem exists_of_mem_compose {k : Behaviour} (hk : f.compose g = .ok k) {e : Entry}
    (he : e ∈ k.entries) : ∃ d ∈ f.entries, g.follow d = .ok e := by
  have steps := (compose_eq_ok.mp hk).2
  obtain ⟨s, bound, rfl⟩ := List.getElem_of_mem he
  have bound' : s < f.entries.length := steps.length_eq ▸ bound
  exact ⟨f.entries[s], List.getElem_mem bound', steps.get bound' bound⟩

theorem entry_of_compose {k : Behaviour} (hk : f.compose g = .ok k) {s : Nat} {e : Entry}
    (he : f.entries[s]? = some e) :
    ∃ e', k.entries[s]? = some e' ∧ g.follow e = .ok e' := by
  obtain ⟨bound, rfl⟩ := List.getElem?_eq_some_iff.mp he
  have steps := (compose_eq_ok.mp hk).2
  have bound' : s < k.entries.length := steps.length_eq ▸ bound
  exact ⟨k.entries[s], List.getElem?_eq_getElem bound', steps.get bound bound'⟩

/-- A composition acts as its two parts, one after the other, and is again over the same states. -/
theorem compose_over (hf : f.Over n) (hg : g.Over n) {k : Behaviour} (hk : f.compose g = .ok k) :
    k.Over n ∧ ∀ t : Target, t.Within n → k.act t = g.act (f.act t).target := by
  have taken (d e : Entry) (hd : d ∈ f.entries) (he : g.follow d = .ok e) :
      e.Plain ∧ e.transition = g.act d.transition.target := by
    rw [follow_eq_apply (hf.plain d hd).place] at he
    obtain ⟨e', found, plain, acts⟩ := hg.apply_eq_ok (hf.within d hd)
    cases he.symm.trans found
    exact ⟨plain, acts⟩
  refine ⟨⟨?_, ?_, ?_⟩, ?_⟩
  · exact (compose_eq_ok.mp hk).2.length_eq.symm.trans hf.size
  · intro e he
    obtain ⟨d, hd, found⟩ := exists_of_mem_compose hk he
    exact (taken d e hd found).1
  · intro e he
    obtain ⟨d, hd, found⟩ := exists_of_mem_compose hk he
    rw [(taken d e hd found).2]
    exact hg.within_act (hf.within d hd)
  · intro t ht
    obtain rfl | ⟨s, hs, rfl⟩ := ht.cases
    · rfl
    · obtain ⟨d, hd, at_s⟩ := hf.entry_of_lt hs
      obtain ⟨e, he, found⟩ := entry_of_compose hk at_s
      rw [act_of_entry he, act_of_entry at_s, (taken d e hd found).2]

end Behaviour

end ScanLexer
