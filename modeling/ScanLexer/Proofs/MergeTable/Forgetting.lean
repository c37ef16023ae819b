import Mathlib.Algebra.Group.Nat.Defs
import ScanLexer.Memory.Ordinary
import ScanLexer.Proofs.MergeTable.History

/-!
# Growth has no memory

Each time a table grows, its capacity is multiplied anew, from where it stands. Whatever was asked
for on the way, it is the least product of the least capacity and a power of the factor that covers
the ids (`Grown.leastCover`), and whether a request is granted depends on the request alone
(`Grown.ensure_iff`). So the calls to a table leave nothing behind but the largest request that
could be granted and what was stored (`growth_forgets_history`).
-/
namespace ScanLexer

namespace Growth

/-- The least capacity of the form `least * factor ^ k` that covers a need. -/
structure LeastCover (least factor need capacity : Nat) : Prop where
  power : ∃ k, capacity = least * factor ^ k
  covers : need ≤ capacity
  smallest : ∀ k, need ≤ least * factor ^ k → capacity ≤ least * factor ^ k

/-- A larger need has no smaller cover. -/
theorem LeastCover.mono {least factor need need' capacity capacity' : Nat}
    (h : LeastCover least factor need capacity) (h' : LeastCover least factor need' capacity')
    (le : need ≤ need') : capacity ≤ capacity' := by
  obtain ⟨k, rfl⟩ := h'.power
  exact h.smallest k (Nat.le_trans le h'.covers)

variable (g : Growth)

/-- Growing ends: after some rounds the need is covered, and before each of them it was not. -/
theorem reach_rounds {need capacity : Nat} (positive : 0 < capacity) :
    ∃ rounds, g.reach need capacity positive = capacity * g.factor ^ rounds ∧
      ∀ m < rounds, capacity * g.factor ^ m < need := by
  fun_induction g.reach need capacity positive with
  | case1 capacity positive less ih =>
    obtain ⟨rounds, reached, short⟩ := ih
    refine ⟨rounds + 1, ?_, ?_⟩
    · rw [reached, Nat.pow_succ', Nat.mul_assoc]
    · intro m hm
      cases m with
      | zero => rwa [Nat.pow_zero, Nat.mul_one]
      | succ m =>
        rw [Nat.pow_succ', ← Nat.mul_assoc]
        exact short m (Nat.lt_of_succ_lt_succ hm)
  | case2 capacity positive enough =>
    exact ⟨0, by rw [Nat.pow_zero, Nat.mul_one], fun m hm => absurd hm (Nat.not_lt_zero m)⟩

theorem next_rounds (need capacity : Nat) :
    ∃ rounds, g.next need capacity = max g.least capacity * g.factor ^ rounds ∧
      ∀ m < rounds, max g.least capacity * g.factor ^ m < need :=
  g.reach_rounds _

/-- Growing from nothing stops at the first power that covers the need. -/
theorem leastCover_next (need : Nat) : LeastCover g.least g.factor need (g.next need 0) := by
  obtain ⟨rounds, reached, short⟩ := g.next_rounds need 0
  rw [Nat.max_zero] at reached short
  refine ⟨⟨rounds, reached⟩, (g.next_covers need 0).1, ?_⟩
  intro k covers
  have enough : rounds ≤ k := by
    by_contra less
    exact absurd covers (Nat.not_le.mpr (short k (Nat.not_le.mp less)))
  rw [reached]
  have positive : 0 < g.factor := Nat.lt_of_lt_of_le Nat.zero_lt_two g.two_le_factor
  exact Nat.mul_le_mul_left _ (Nat.pow_le_pow_right positive enough)

theorem leastCover_iff {need capacity : Nat} :
    LeastCover g.least g.factor need capacity ↔ capacity = g.next need 0 := by
  have next := g.leastCover_next need
  constructor
  · intro h
    exact Nat.le_antisymm (h.mono next (Nat.le_refl _)) (next.mono h (Nat.le_refl _))
  · rintro rfl
    exact next

end Growth

namespace MergeTable

/-- A table that has grown as its growth says, with room for its cells. -/
structure Grown [Memory] (t : MergeTable) : Prop where
  sound : t.Sound
  fitted : t.Fitted
  granted : t.Granted

variable {t t' : MergeTable}

theorem grown_empty [Memory] (growth : Growth) : (empty growth).Grown :=
  ⟨sound_empty growth, fitted_empty growth, granted_empty growth⟩

theorem Grown.leastCover [Memory] (ht : t.Grown) (some : t.states ≠ 0) :
    Growth.LeastCover t.growth.least t.growth.factor t.states t.capacity := by
  have fitted := ht.fitted
  rw [Fitted, if_neg some] at fitted
  rw [fitted]
  exact t.growth.leastCover_next t.states

/-- **Whether more ids are granted depends on their number alone.** -/
theorem Grown.ensure_iff [Memory] (ht : t.Grown) {n : Int} :
    (∃ t', t.ensure (.int n) = .ok t') ↔ n ≤ 0 ∨ t.growth.room n.toNat = .ok () := by
  have fits := ht.sound.fits
  have near := t.extent.floor_le_ceil
  have states : t.states = t.extent.ceil.toNat := rfl
  -- from a capacity that does not cover it, a request leads where it leads at once
  have next (more : t.capacity < n.toNat) :
      t.growth.room n.toNat = Memory.row (t.growth.next n.toNat t.capacity *
        t.growth.next n.toNat t.capacity) := by
    rw [Growth.room, ht.fitted.next (by omega)]
  constructor
  · rintro ⟨t', ensured⟩
    by_cases none : n ≤ 0
    · exact .inl none
    right
    by_cases more : t.capacity < n.toNat
    · cases room : t.growth.room n.toNat with
      | ok _ => rfl
      | error fault =>
        have refused := ensure_eq_error.mpr ⟨by omega, more, (next more).symm.trans room⟩
        cases refused.symm.trans ensured
    · have some : t.states ≠ 0 := by
        intro empty
        have fitted := ht.fitted
        rw [Fitted, if_pos empty] at fitted
        omega
      have smaller : t.growth.next n.toNat 0 ≤ t.capacity := by
        obtain ⟨k, power⟩ := (ht.leastCover some).power
        rw [power]
        exact (t.growth.leastCover_next n.toNat).smallest k (by omega)
      exact Memory.row_mono (Nat.mul_le_mul smaller smaller) ht.granted
  · intro affordable
    cases ensured : t.ensure (.int n) with
    | ok t' => exact ⟨t', rfl⟩
    | error fault =>
      obtain ⟨-, more, refused⟩ := ensure_eq_error.mp ensured
      obtain none | room := affordable
      · omega
      · cases room.symm.trans ((next more).trans refused)

theorem Grown.perform [Memory] (ht : t.Grown) {call : Call} (done : t.perform call = .ok t') :
    t'.Grown ∧ t'.growth = t.growth := by
  cases call with
  | ensure n =>
    exact ⟨⟨sound_ensure ht.sound done, ht.fitted.ensure done, ht.granted.ensure done⟩,
      growth_ensure done⟩
  | set i j parts =>
    obtain ⟨i, j, id, emits, r, rfl, rfl, hi, hj, -, -, rfl⟩ := set_eq_ok.mp done
    exact ⟨⟨sound_write ht.sound hi hj _, ht.fitted, ht.granted⟩, rfl⟩
  | get i j | index i j =>
    obtain ⟨-, -, rfl⟩ := map_eq_ok.mp done
    exact ⟨ht, rfl⟩
  | rows =>
    cases done
    exact ⟨ht, rfl⟩

theorem Grown.replay [Memory] (ht : t.Grown) (calls : List Call) :
    (t.replay calls).Grown ∧ (t.replay calls).growth = t.growth := by
  refine Calls.replay_settle_induction
    (P := fun s : MergeTable => s.Grown ∧ s.growth = t.growth) ?_ ⟨ht, rfl⟩ calls
  intro s call next done kept
  obtain ⟨grown, same⟩ := kept.1.perform done
  exact ⟨grown, same.trans kept.2⟩

deriving instance DecidableEq for Call

namespace Call

/-- Whether there is room for what a call asks for, on its own. -/
def affordable [Memory] (g : Growth) : Call → Bool
  | ensure n => n ≤ 0 || (g.room n.toNat).isOk
  | _ => true

/-- Whether a call stores a summary. -/
def stores : Call → Bool
  | set .. => true
  | _ => false

theorem largest_cons (call : Call) (calls : List Call) :
    largest (call :: calls) = max call.requested (largest calls) := by
  rw [largest, List.map_cons, List.foldl_cons, Nat.max_comm, List.foldl_assoc]
  rfl

/-- What was last stored depends on the calls that store alone. -/
theorem last_filter_stores (calls : List Call) (i j : Nat) :
    last (calls.filter stores) i j = last calls i j := by
  rw [last, last, List.filterMap_filter]
  congr 3
  funext call
  cases call <;> rfl

end Call

theorem isOk_iff {x : Except Fault Unit} : x.isOk = true ↔ x = .ok () := by
  rcases x with fault | ⟨⟩
  · exact ⟨nofun, nofun⟩
  · exact ⟨fun _ => rfl, fun _ => rfl⟩

/-- The requests that are granted are those for which there is room, whatever else is called. -/
theorem Grown.largest_granted [Memory] (ht : t.Grown) (calls : List Call) :
    Call.largest (t.granted calls) = Call.largest (calls.filter (Call.affordable t.growth)) := by
  induction calls generalizing t with
  | nil => rfl
  | cons call calls ih =>
    cases made : t.perform call with
    | ok next =>
      obtain ⟨grown, same⟩ := ht.perform made
      have kept : call.affordable t.growth = true := by
        cases call with
        | ensure n =>
          have room := ht.ensure_iff.mp ⟨next, made⟩
          rwa [Call.affordable, Bool.or_eq_true, decide_eq_true_eq, isOk_iff]
        | _ => rfl
      rw [MergeTable.granted, Calls.granted_cons_of_ok made, List.filter_cons_of_pos kept,
        Call.largest_cons, Call.largest_cons, ← MergeTable.granted, ih grown, same]
    | error fault =>
      have skipped : Call.largest ((call :: calls).filter (Call.affordable t.growth)) =
          Call.largest (calls.filter (Call.affordable t.growth)) := by
        cases kept : call.affordable t.growth with
        | false => rw [List.filter_cons_of_neg (by rw [kept]; decide)]
        | true =>
          -- a refused call that could be afforded asked for no ids
          have none : call.requested = 0 := by
            cases call with
            | ensure n =>
              rw [Call.affordable, Bool.or_eq_true, decide_eq_true_eq, isOk_iff] at kept
              obtain ⟨next, ensured⟩ := ht.ensure_iff.mpr kept
              cases ensured.symm.trans made
            | _ => rfl
          rw [List.filter_cons_of_pos kept, Call.largest_cons, none, Nat.zero_max]
      rw [MergeTable.granted, Calls.granted_cons_of_error made, skipped]
      exact ih ht

/-- Tables with the same ids, the same capacity and the same cells of ids are the same. -/
theorem Sound.ext (ht : t.Sound) (ht' : t'.Sound) (growth : t.growth = t'.growth)
    (extent : t.extent = t'.extent) (capacity : t.capacity = t'.capacity)
    (cells : ∀ i j, i < t.states → j < t.states → t.view i j = t'.view i j) : t = t' := by
  have states : t.states = t'.states := by rw [MergeTable.states, MergeTable.states, extent]
  have row : t.cells = t'.cells := by
    apply Array.ext
    · rw [ht.area, ht'.area, capacity]
    · intro k hk hk'
      have area := ht.area
      have positive : 0 < t.capacity := by
        by_contra none
        rw [Nat.eq_zero_of_not_pos none] at area
        omega
      have column : k / t.capacity < t.capacity := by
        rw [Nat.div_lt_iff_lt_mul positive]
        omega
      have first : k % t.capacity < t.capacity := Nat.mod_lt k positive
      have place : t.offset (k % t.capacity) (k / t.capacity) = k := Nat.mod_add_div' k t.capacity
      have place' : t'.offset (k % t.capacity) (k / t.capacity) = k := by
        rw [MergeTable.offset, ← capacity]
        exact place
      have same : t.view (k % t.capacity) (k / t.capacity) =
          t'.view (k % t.capacity) (k / t.capacity) := by
        by_cases inside : k % t.capacity < t.states ∧ k / t.capacity < t.states
        · exact cells _ _ inside.1 inside.2
        · rw [ht.spare _ _ first column inside,
            ht'.spare _ _ (capacity ▸ first) (capacity ▸ column) (states ▸ inside)]
      rwa [view, view, place, place', cell, cell, Array.getElem?_eq_getElem hk,
        Array.getElem?_eq_getElem hk'] at same
  cases t
  cases t'
  simp_all

/-- What the calls to a table have led to, as far as its growth is concerned. -/
structure Reached [Memory] (least factor : Nat) (calls : List Call) (t : MergeTable) : Prop where
  /-- There are as many ids as the largest request asks for that there is room for. -/
  extent : t.extent = .int (Call.largest (calls.filter (Call.affordable t.growth)))
  none : t.states = 0 → t.capacity = 0
  some : t.states ≠ 0 → Growth.LeastCover least factor t.states t.capacity
  /-- The next request is granted if there is room for what covers it. -/
  granted (n : Int) : (∃ t', t.ensure (.int n) = .ok t') ↔
    n ≤ 0 ∨ ∃ capacity, Growth.LeastCover least factor n.toNat capacity ∧
      Memory.row (capacity * capacity) = .ok ()
  /-- The next request is met by multiplying the capacity so many times, each time because the
  capacity is too small. -/
  rounds (n : Int) : ∃ rounds,
    t.growth.next n.toNat t.capacity = max least t.capacity * factor ^ rounds ∧
      n.toNat ≤ max least t.capacity * factor ^ rounds ∧
      ∀ m < rounds, max least t.capacity * factor ^ m < n.toNat

theorem Grown.reached [Memory] (ht : t.Grown) (calls : List Call)
    (extent : t.extent = .int (Call.largest (calls.filter (Call.affordable t.growth)))) :
    t.Reached t.growth.least t.growth.factor calls where
  extent := extent
  none empty := by rw [ht.fitted, if_pos empty]
  some := ht.leastCover
  granted n := by
    rw [ht.ensure_iff, Growth.room]
    simp only [Growth.leastCover_iff, exists_eq_left]
  rounds n := by
    obtain ⟨rounds, reached, short⟩ := t.growth.next_rounds n.toNat t.capacity
    exact ⟨rounds, reached, reached ▸ (t.growth.next_covers n.toNat t.capacity).1, short⟩

/-- Tables that have grown alike and stand for calls with the same largest request have the same ids
and capacity. They are the same if these calls store the same as well. -/
theorem Grown.alike [Memory] (ht : t.Grown) (ht' : t'.Grown) (growth : t.growth = t'.growth)
    {calls calls' : List Call} (h : t.Shows calls) (h' : t'.Shows calls')
    (largest : Call.largest calls = Call.largest calls') :
    t.extent = t'.extent ∧ t.capacity = t'.capacity ∧
      (calls.filter Call.stores = calls'.filter Call.stores → t = t') := by
  have extent : t.extent = t'.extent := by rw [h.extent, h'.extent, largest]
  have states : t.states = t'.states := by rw [h.states, h'.states, largest]
  have capacity : t.capacity = t'.capacity := by rw [ht.fitted, ht'.fitted, states, growth]
  refine ⟨extent, capacity, ?_⟩
  intro stored
  apply ht.sound.ext ht'.sound growth extent capacity
  intro i j hi hj
  rw [h.states] at hi hj
  rw [h.cells i j hi hj, h'.cells i j (largest ▸ hi) (largest ▸ hj), ← Call.last_filter_stores,
    stored, Call.last_filter_stores]

theorem make_int {least factor : Nat} (hl : 1 ≤ least) (hf : 2 ≤ factor) :
    make (.int least) (.int factor) = .ok (empty ⟨least, factor, .digits, hl, hf⟩) := by
  have large : 1 ≤ Datum.floor (.int least) ∧ 2 ≤ Datum.floor (.int factor) := by
    simp only [Datum.floor, Datum.integer?, Option.getD_some]
    omega
  rw [make, Growth.ofChoices?, dif_pos large]
  rfl

/-- **Growth forgets its history.** After any calls the capacity is zero if there are no ids, and
else the least of the least capacity times a power of the factor that covers them; there are as many
ids as were asked for at most, requests apart that there is no room for at any time. Rows of calls
with the same largest request of this kind lead to the same ids and capacity, and to the same table
altogether if the same summaries are stored in it. -/
theorem growth_forgets_history [Memory] {least factor : Nat} (hl : 1 ≤ least) (hf : 2 ≤ factor) :
    ∃ t, make (.int least) (.int factor) = .ok t ∧
      (∀ calls, (t.replay calls).Reached least factor calls) ∧
      ∀ calls calls', Call.largest (calls.filter (Call.affordable t.growth)) =
          Call.largest (calls'.filter (Call.affordable t.growth)) →
        (t.replay calls).extent = (t.replay calls').extent ∧
        (t.replay calls).capacity = (t.replay calls').capacity ∧
        ((t.granted calls).filter Call.stores = (t.granted calls').filter Call.stores →
          t.replay calls = t.replay calls') := by
  refine ⟨_, make_int hl hf, ?_⟩
  generalize growth : Growth.mk least factor .digits hl hf = g
  have start := grown_empty g
  have largest := start.largest_granted
  have shows (calls : List Call) : ((empty g).replay calls).Shows ((empty g).granted calls) :=
    (shows_empty g).replay calls
  constructor
  · intro calls
    obtain ⟨grown, same⟩ := start.replay calls
    have extent := (shows calls).extent
    rw [largest, ← same] at extent
    have reached := grown.reached calls extent
    rw [same] at reached
    subst growth
    exact reached
  · intro calls calls' alike
    obtain ⟨grown, same⟩ := start.replay calls
    obtain ⟨grown', same'⟩ := start.replay calls'
    apply grown.alike grown' (same.trans same'.symm) (shows calls) (shows calls')
    rw [largest, largest]
    exact alike

/-- A table that was asked for four ids, then for two, then for twenty is the one that was asked for
twenty at once. -/
theorem growth_forgets_history_thirds : 1 ≤ 3 ∧ 2 ≤ 5 ∧ ∃ t, make (.int 3) (.int 5) = .ok t ∧
    (t.replay [.ensure 4, .set 0 3 [.int 7, .bool true], .ensure 2, .ensure 20]).capacity = 75 ∧
    t.replay [.ensure 4, .set 0 3 [.int 7, .bool true], .ensure 2, .ensure 20] =
      t.replay [.ensure 20, .set 0 3 [.int 7, .bool true]] := by
  have least : 1 ≤ 3 := by decide
  have factor : 2 ≤ 5 := by decide
  obtain ⟨t, made, -, alike⟩ := growth_forgets_history least factor
  cases made
  refine ⟨least, factor, _, rfl, by decide +kernel, ?_⟩
  exact (alike _ _ (by decide +kernel)).2.2 (by decide +kernel)

/-- Of two rows of calls with the same largest request, one that is refused for want of room leaves
a table without ids, the other one with two. -/
theorem history_shows_without_room : ∃ t, make (.int 2) (.int 1099511627776) = .ok t ∧
    Call.largest [.ensure 3] = Call.largest [.ensure 2, .ensure 3] ∧
    (t.replay [.ensure 3]).extent = .int 0 ∧ (t.replay [.ensure 2, .ensure 3]).extent = .int 2 :=
  ⟨_, rfl, rfl, by decide +kernel, by decide +kernel⟩

end MergeTable

end ScanLexer
