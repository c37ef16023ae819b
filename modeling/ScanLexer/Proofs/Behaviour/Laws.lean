import ScanLexer.Proofs.Behaviour.Algebra

/-!
# The laws of composition

What a composition does from a target is what its parts do one after the other (`apply_compose`), so
it does not matter how three behaviours are bracketed (`compose_assoc`). The identity is a unit on
the left only: on the right it clears the flags (`On.compose_identity`), since the flags of a
composition are those of its second part. A behaviour that rejects everywhere absorbs what stands on
either side of it.

Flags may be any values here; that they are truth values is asked for where it is used.
-/
namespace ScanLexer

namespace Behaviour

/-- An entry leads nowhere, or to one of `n` states. -/
def Entry.Leads (n : Nat) (e : Entry) : Prop :=
  e.target.whole? = some Target.rejected ∨ ∃ k : Nat, k < n ∧ e.target.integer? = some (k : Int)

/-- A behaviour has an entry for each of `n` states, and each entry leads nowhere or to one of
them. -/
structure On (n : Nat) (f : Behaviour) : Prop where
  size : f.size = n
  leads : ∀ e ∈ f.entries, e.Leads n

/-- The entry with its flag cleared. -/
def Entry.cleared (e : Entry) : Entry := { e with flag := .bool false }

def cleared (f : Behaviour) : Behaviour := ⟨f.entries.map Entry.cleared⟩

/-- A flag is not set if it equals `false`. -/
def Entry.Unflagged (e : Entry) : Prop := Value.ofDatum e.flag = .ofDatum (.bool false)

/-- An entry that leads nowhere has the target `-1`, and one that leads to a state has that
state. -/
theorem Entry.Leads.cases {n : Nat} {e : Entry} (h : e.Leads n) :
    e.transition.target = none ∧ e.target.whole? = some Target.rejected ∨
      ∃ k : Nat, k < n ∧ e.transition.target = some (k : Int) ∧
        e.target.whole? = some (k : Int) := by
  obtain nowhere | ⟨k, hk, state⟩ := h
  · left
    refine ⟨?_, nowhere⟩
    simp [transition, nowhere, Target.ofInt]
  · right
    have whole := Datum.whole?_of_integer? state
    refine ⟨k, hk, ?_, whole⟩
    simp [transition, whole]

theorem Entry.Leads.place {n : Nat} {e : Entry} (h : e.Leads n) :
    e.place = .ok e.transition.target := by
  obtain nowhere | ⟨k, -, state⟩ := h
  · exact place_of_rejected nowhere
  · exact place_of_integer? state

theorem Entry.leads_reject (n : Nat) : Entry.reject.Leads n := .inl rfl

section
variable {n : Nat} {f g h : Behaviour}

/-- A target within the states of a behaviour has an entry, which leads within them again. -/
theorem On.exists_follow (hg : g.On n) {d : Entry} (hd : d.Leads n) :
    ∃ e, g.follow d = .ok e ∧ e.Leads n := by
  rw [follow_eq_apply hd.place]
  obtain ⟨nowhere, -⟩ | ⟨k, hk, state, -⟩ := hd.cases
  · rw [nowhere]
    exact ⟨.reject, rfl, Entry.leads_reject n⟩
  · have bound : k < g.entries.length := Nat.lt_of_lt_of_eq hk hg.size.symm
    rw [state]
    refine ⟨g.entries[k], ?_, hg.leads _ (List.getElem_mem bound)⟩
    exact entry_natCast.mpr (List.getElem?_eq_getElem bound)

/-- Behaviours of the same states can be composed, and their composition is one of these states. -/
theorem On.exists_compose (hf : f.On n) (hg : g.On n) : ∃ k, f.compose g = .ok k ∧ k.On n := by
  have composed : ∃ k, f.compose g = .ok k := by
    apply Behaviour.exists_compose (hf.size.trans hg.size.symm)
    intro e he
    obtain ⟨e', found, -⟩ := hg.exists_follow (hf.leads e he)
    exact ⟨e', found⟩
  obtain ⟨k, hk⟩ := composed
  refine ⟨k, hk, (compose_eq_ok.mp hk).2.length_eq.symm.trans hf.size, ?_⟩
  intro e he
  obtain ⟨d, hd, taken⟩ := exists_of_mem_compose hk he
  obtain ⟨e', found, leads⟩ := hg.exists_follow (hf.leads d hd)
  cases taken.symm.trans found
  exact leads

/-- What a composition does from a target: first the one, then the other. -/
theorem apply_compose {k : Behaviour} (hk : f.compose g = .ok k) (t : Target) :
    k.apply t = f.apply t >>= g.follow := by
  cases t with
  | none => rfl
  | some i =>
    have lengths : f.entries.length = k.entries.length := (compose_eq_ok.mp hk).2.length_eq
    unfold apply entry entryAt
    simp only
    rw [← lengths]
    cases place : position f.entries.length i with
    | none => rfl
    | some s =>
      have found := List.getElem?_eq_getElem (position_lt place)
      obtain ⟨e, composed, taken⟩ := entry_of_compose hk found
      simp only [Option.bind_some, found, composed, orFault, ok_bind]
      exact taken.symm

/-- **Composition is associative**: either way of bracketing gives the same entries. -/
theorem compose_assoc {fg gh : Behaviour} (hfg : f.compose g = .ok fg)
    (hgh : g.compose h = .ok gh) :
    fg.compose h = f.compose gh := by
  have first := compose_eq_ok.mp hfg
  have second := compose_eq_ok.mp hgh
  have left : fg.size = h.size := first.2.length_eq.symm.trans (first.1.trans second.1)
  have right : f.size = gh.size := first.1.trans second.2.length_eq
  have entries : fg.entries.mapM h.follow = f.entries.mapM gh.follow := by
    rw [mapM_of_mapM_eq_ok (mapM_eq_ok.mpr first.2)]
    congr 1
    funext e
    simp only [follow, apply_compose hgh, bind_assoc]
  rw [compose, if_pos left, compose, if_pos right, entries]

/-- The composition of behaviours of one length is known from its entries. -/
theorem compose_eq_ok_of_entries (same : f.size = g.size) {entries : List Entry}
    (length : f.size = entries.length)
    (steps : ∀ (s : Nat) (d e : Entry), f.entries[s]? = some d → entries[s]? = some e →
      g.follow d = .ok e) : f.compose g = .ok ⟨entries⟩ := by
  refine compose_eq_ok.mpr ⟨same, List.forall₂_iff_get.mpr ⟨length, ?_⟩⟩
  intro s hs hs'
  exact steps s _ _ (List.getElem?_eq_getElem hs) (List.getElem?_eq_getElem hs')

/-- The identity changes nothing that follows it. -/
theorem identity_compose (size : f.size = n) : (identity n).compose f = .ok f := by
  have length : (identity n).size = n := by simp [identity, Behaviour.size]
  apply compose_eq_ok_of_entries (length.trans size.symm) (length.trans size.symm)
  intro s d e hd he
  have bound : s < n := size ▸ (List.getElem?_eq_some_iff.mp he).1
  have stays : d = .stay s := by
    simp only [identity, List.getElem?_map, List.getElem?_range bound, Option.map_some,
      Option.some.injEq] at hd
    exact hd.symm
  rw [stays, follow_eq_apply (Entry.plain_stay s).place, Entry.transition_stay]
  exact entry_natCast.mpr he

/-- What the identity makes of an entry that leads somewhere: that it stays there. -/
def Entry.settled (e : Entry) : Entry :=
  match e.transition.target with
  | none => .reject
  | some i => .stay i.toNat

/-- Behind a behaviour the identity clears the flags. -/
theorem On.compose_identity (hf : f.On n) :
    f.compose (identity n) = .ok ⟨f.entries.map Entry.settled⟩ ∧
      (Behaviour.mk (f.entries.map Entry.settled)).key = f.cleared.key := by
  have length : (identity n).size = n := by simp [identity, Behaviour.size]
  constructor
  · apply compose_eq_ok_of_entries (hf.size.trans length.symm) (by simp [Behaviour.size])
    intro s d e hd he
    have same : d.settled = e := by simpa [hd] using he
    subst same
    have leads := hf.leads d (List.mem_of_getElem? hd)
    rw [follow_eq_apply leads.place]
    obtain ⟨nowhere, -⟩ | ⟨k, hk, state, -⟩ := leads.cases
    · rw [Entry.settled, nowhere]
      rfl
    · rw [Entry.settled, state]
      exact entry_natCast.mpr (by simp [identity, hk])
  · simp only [key, cleared, List.map_map]
    apply List.map_congr_left
    intro e he
    -- The target keeps its value, and the flag is that of staying.
    obtain ⟨nowhere, whole⟩ | ⟨k, -, state, whole⟩ := (hf.leads e he).cases
    · simp only [Function.comp_apply, Entry.settled, nowhere, Entry.cleared, Entry.key,
        Value.ofDatum_of_whole? whole]
      rfl
    · simp only [Function.comp_apply, Entry.settled, state, Entry.cleared, Entry.key,
        Value.ofDatum_of_whole? whole]
      rfl

/-- Clearing its flags changes a behaviour unless none of them is set. -/
theorem key_cleared_eq_iff : f.cleared.key = f.key ↔ ∀ e ∈ f.entries, e.Unflagged := by
  simp only [key, cleared, List.map_map, List.map_inj_left, Function.comp_apply]
  refine forall₂_congr fun e _ => ?_
  simp only [Entry.key, Entry.cleared, Entry.Key.mk.injEq, true_and, Entry.Unflagged]
  exact eq_comm

/-- Nothing follows a rejection. -/
theorem reject_compose (size : f.size = n) : (reject n).compose f = .ok (reject n) := by
  have length : (reject n).size = n := by simp [reject, Behaviour.size]
  apply compose_eq_ok_of_entries (length.trans size.symm) rfl
  intro s d e hd he
  cases hd.symm.trans he
  obtain ⟨-, rfl⟩ := List.mem_replicate.mp (List.mem_of_getElem? hd)
  rfl

theorem On.compose_reject (hf : f.On n) : f.compose (reject n) = .ok (reject n) := by
  have length : (reject n).size = n := by simp [reject, Behaviour.size]
  apply compose_eq_ok_of_entries (hf.size.trans length.symm) (hf.size.trans length.symm)
  intro s d e hd he
  obtain ⟨-, rfl⟩ := List.mem_replicate.mp (List.mem_of_getElem? he)
  have leads := hf.leads d (List.mem_of_getElem? hd)
  rw [follow_eq_apply leads.place]
  obtain ⟨nowhere, -⟩ | ⟨k, hk, state, -⟩ := leads.cases
  · rw [nowhere]
    rfl
  · rw [state]
    exact entry_natCast.mpr (by simp [reject, hk])

end

/-- **The laws of composition.** Behaviours of the same states compose to one of these states, in
either bracketing the same. The identity is a unit on the left; on the right it clears the flags,
and so changes nothing exactly if no flag is set. Rejecting everywhere absorbs both ways. Behaviours
of different lengths are refused. -/
theorem composition_laws {n : Nat} {f g h : Behaviour} (hf : f.On n) (hg : g.On n) (hh : h.On n) :
    (∃ fg gh k, f.compose g = .ok fg ∧ fg.On n ∧ g.compose h = .ok gh ∧
      fg.compose h = .ok k ∧ f.compose gh = .ok k) ∧
    (identity n).compose f = .ok f ∧
    (∃ k, f.compose (identity n) = .ok k ∧ k.key = f.cleared.key ∧
      (k.key = f.key ↔ ∀ e ∈ f.entries, e.Unflagged) ∧
      ((∀ e ∈ f.entries, ∃ b, e.flag = .bool b) →
        (k.key = f.key ↔ ∀ e ∈ f.entries, e.flag = .bool false))) ∧
    (reject n).compose f = .ok (reject n) ∧ f.compose (reject n) = .ok (reject n) ∧
    ∀ p q : Behaviour, p.size ≠ q.size →
      ∃ fault, p.compose q = .error fault ∧ fault.kind = .assertion := by
  refine ⟨?_, identity_compose hf.size, ?_, reject_compose hf.size, hf.compose_reject, ?_⟩
  · obtain ⟨fg, hfg, left⟩ := hf.exists_compose hg
    obtain ⟨gh, hgh, -⟩ := hg.exists_compose hh
    obtain ⟨k, hk, -⟩ := left.exists_compose hh
    exact ⟨fg, gh, k, hfg, left, hgh, hk, compose_assoc hfg hgh ▸ hk⟩
  · obtain ⟨composed, same⟩ := hf.compose_identity
    have unflagged := key_cleared_eq_iff (f := f)
    rw [← same] at unflagged
    refine ⟨_, composed, same, unflagged, ?_⟩
    intro truths
    rw [unflagged]
    refine forall₂_congr fun e he => ?_
    obtain ⟨b, flag⟩ := truths e he
    rw [Entry.Unflagged, flag]
    cases b <;> decide
  · intro p q differ
    exact ⟨.lengthsDiffer p.size q.size, by rw [compose, if_neg differ], rfl⟩

/-- From the first of two states to the second, which closes a lexeme, and from there nowhere. -/
def leaving : Behaviour := ⟨[⟨.int 1, .bool true⟩, .reject]⟩

def swapping : Behaviour := ⟨[⟨.bool true, .bool false⟩, ⟨.int 0, .bool true⟩]⟩

theorem composition_laws_leaving : leaving.On 2 ∧ swapping.On 2 ∧
    (∃ k, leaving.compose (identity 2) = .ok k ∧ k.key ≠ leaving.key) ∧
    ∃ ls sl k, leaving.compose swapping = .ok ls ∧ swapping.compose leaving = .ok sl ∧
      ls.compose leaving = .ok k ∧ leaving.compose sl = .ok k := by
  have first : leaving.On 2 := by
    refine ⟨rfl, ?_⟩
    simp only [leaving, List.forall_mem_cons, List.not_mem_nil, false_implies, implies_true,
      and_true]
    exact ⟨.inr ⟨1, by decide, rfl⟩, .inl rfl⟩
  have second : swapping.On 2 := by
    refine ⟨rfl, ?_⟩
    simp only [swapping, List.forall_mem_cons, List.not_mem_nil, false_implies, implies_true,
      and_true]
    exact ⟨.inr ⟨1, by decide, rfl⟩, .inr ⟨0, by decide, rfl⟩⟩
  obtain ⟨⟨ls, sl, k, hls, -, hsl, left, right⟩, -, ⟨c, cleared, -, -, flags⟩, -⟩ :=
    composition_laws first second first
  refine ⟨first, second, ⟨c, cleared, ?_⟩, ls, sl, k, hls, hsl, left, right⟩
  intro same
  have truths : ∀ e ∈ leaving.entries, ∃ b, e.flag = .bool b := by simp [leaving, Entry.reject]
  have unset := (flags truths).mp same ⟨.int 1, .bool true⟩ (by simp [leaving])
  contradiction

end Behaviour

end ScanLexer
