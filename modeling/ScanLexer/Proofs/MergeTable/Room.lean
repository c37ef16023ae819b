import ScanLexer.Proofs.MergeTable.Cells

/-!
# Room for a merge table

A table that was grown step by step has the capacity that growing at once gives it (`Fitted`), so
what it asks for depends on the number of its ids alone (`Fitted.ensure_succ`). A request is refused
only if the row of cells that it leads to cannot be had (`ensure_eq_error`).
-/
namespace ScanLexer

theorem fitsWord_64 {r : Int} :
    fitsWord 64 r = true ↔ -9223372036854775808 ≤ r ∧ r < 9223372036854775808 := by
  have half : (Nat.pow 2 (64 - 1) : Int) = 9223372036854775808 := rfl
  simp only [fitsWord, half, Bool.and_eq_true, decide_eq_true_eq]
  exact and_comm

namespace Memory

/-- Room for a row of cells is refused by its size or for want of memory. -/
theorem kind_of_cells [Memory] {width count : Nat} {fault : Fault}
    (h : cells width count = .error fault) : fault.kind = .value ∨ fault.kind = .memory := by
  unfold cells at h
  split at h
  · cases h
    exact .inl rfl
  · split at h
    · cases h
      exact .inl rfl
    · split at h
      · cases h
        exact .inr rfl
      · cases h

theorem kind_of_row [Memory] {count : Nat} {fault : Fault} (h : row count = .error fault) :
    fault.kind = .value ∨ fault.kind = .memory := kind_of_cells h

/-- There is room for cells if their size can be counted and can be had. -/
theorem cells_eq_ok_iff [Memory] {width count : Nat} (positive : 0 < width) :
    cells width count = .ok () ↔
      width * count < 9223372036854775808 ∧ has (width * count) = true := by
  have less : count ≤ width * count := Nat.le_mul_of_pos_left count positive
  by_cases counted : width * count < 9223372036854775808
  · have fits : fitsWord 64 count = true ∧ fitsWord 64 (width * count) = true := by
      rw [fitsWord_64, fitsWord_64]
      omega
    simp [cells, fits.1, fits.2, counted]
  · have large : fitsWord 64 (width * count) = false := by
      rw [← Bool.not_eq_true, fitsWord_64]
      omega
    refine iff_of_false ?_ fun room => counted room.1
    rw [cells, large]
    split <;> nofun

theorem row_eq_ok_iff [Memory] {count : Nat} :
    row count = .ok () ↔ 4 * count < 9223372036854775808 ∧ has (4 * count) = true :=
  cells_eq_ok_iff (by decide)

/-- Where there is room for a row, there is room for a shorter one. -/
theorem row_mono [Memory] {count more : Nat} (le : count ≤ more) (h : row more = .ok ()) :
    row count = .ok () := by
  obtain ⟨counted, had⟩ := row_eq_ok_iff.mp h
  exact row_eq_ok_iff.mpr ⟨by omega, has_of_le (Nat.mul_le_mul_left 4 le) had⟩

end Memory

namespace Growth

variable (g : Growth)

/-- Growing in two goes ends where growing at once does. -/
theorem reach_reach {first need capacity : Nat} (positive : 0 < capacity) (le : first ≤ need)
    (positive' : 0 < g.reach first capacity positive) :
    g.reach need (g.reach first capacity positive) positive' = g.reach need capacity positive := by
  fun_induction g.reach first capacity positive with
  | case1 capacity positive less ih =>
    rw [ih]
    conv_rhs => rw [reach, if_pos (Nat.lt_of_lt_of_le less le)]
  | case2 capacity positive enough => rfl

theorem next_next {first need : Nat} (le : first ≤ need) :
    g.next need (g.next first 0) = g.next need 0 := by
  have same {capacity capacity' : Nat} (eq : capacity = capacity') (positive : 0 < capacity)
      (positive' : 0 < capacity') :
      g.reach need capacity positive = g.reach need capacity' positive' := by
    subst eq
    rfl
  have least := g.one_le_least
  have covers := (g.reach_covers first (max g.least 0) (by omega)).2
  have larger : max g.least (g.next first 0) = g.next first 0 := by unfold next; omega
  unfold next at larger ⊢
  rw [same larger _ (by omega)]
  exact g.reach_reach (by omega) le (by omega)

/-- A need that the capacity of a smaller one covers leads to that capacity. -/
theorem next_eq_of_le {first need : Nat} (le : first ≤ need) (covered : need ≤ g.next first 0) :
    g.next need 0 = g.next first 0 := by
  have least := g.one_le_least
  have larger : g.least ≤ g.next first 0 := by
    have := (g.reach_covers first (max g.least 0) (by omega)).2
    unfold next
    omega
  rw [← g.next_next le]
  conv_lhs => rw [next, reach, if_neg (by omega)]
  omega

/-- Room for the cells of the capacity that a number of ids leads to. -/
def room [Memory] (ids : Nat) : Except Fault Unit := Memory.row (g.next ids 0 * g.next ids 0)

end Growth

namespace MergeTable

/-- The capacity is what the growth gives for the number of ids. -/
def Fitted (t : MergeTable) : Prop :=
  t.capacity = if t.states = 0 then 0 else t.growth.next t.states 0

variable {t t' : MergeTable}

theorem fitted_empty (growth : Growth) : (empty growth).Fitted := rfl

/-- From a fitted capacity, more ids lead to the capacity that they lead to at once. -/
theorem Fitted.next (ht : t.Fitted) {need : Nat} (more : t.states ≤ need) :
    t.growth.next need t.capacity = t.growth.next need 0 := by
  rw [ht]
  split
  next => rfl
  next => exact t.growth.next_next more

theorem growth_ensure [Memory] {n : Int} (h : t.ensure (.int n) = .ok t') :
    t'.growth = t.growth := by
  obtain ⟨-, rfl⟩ | ⟨-, -, rfl⟩ | ⟨-, -, capacity, -, -, -, rfl⟩ := ensure_cases h <;> rfl

theorem Fitted.ensure [Memory] (ht : t.Fitted) {n : Int} (h : t.ensure (.int n) = .ok t') :
    t'.Fitted := by
  have grown := states_ensure h
  have near := t.extent.floor_le_ceil
  obtain ⟨-, rfl⟩ | ⟨less, fits, rfl⟩ | ⟨less, more, capacity, reached, -, -, rfl⟩ := ensure_cases h
  · exact ht
  · unfold Fitted at ht ⊢
    have more : t.states ≤ n.toNat := by unfold states at grown ⊢; omega
    rw [Nat.max_eq_right more] at grown
    rw [grown]
    simp only at fits ⊢
    by_cases none : t.states = 0
    · rw [if_pos none] at ht
      rw [ht, if_pos (by omega)]
    · rw [if_neg none] at ht
      rw [ht] at fits
      rw [if_neg (by omega), ht, t.growth.next_eq_of_le more fits]
  · have more : t.states ≤ n.toNat := by unfold states at grown ⊢; omega
    rw [Nat.max_eq_right more] at grown
    unfold Fitted
    rw [grown, if_neg (by omega)]
    simp only
    rw [reached, ht.next more]

/-- A request is refused exactly if its capacity has to grow to one whose cells cannot be had. -/
theorem ensure_eq_error [Memory] {n : Int} {fault : Fault} : t.ensure (.int n) = .error fault ↔
    t.extent.floor < n ∧ t.capacity < n.toNat ∧
      Memory.row (t.growth.next n.toNat t.capacity * t.growth.next n.toNat t.capacity) =
        .error fault := by
  rw [ensure_int]
  by_cases enough : n ≤ t.extent.floor
  · simp only [enough, if_true, reduceCtorEq, false_iff]
    omega
  · by_cases fits : n.toNat ≤ t.capacity
    · simp only [enough, fits, if_false, if_true, reduceCtorEq, false_iff]
      omega
    · have less : t.extent.floor < n ∧ t.capacity < n.toNat := by omega
      simp only [enough, fits, if_false, less.1, less.2, true_and]
      generalize Memory.row _ = room
      cases room <;> simp [Except.map]

/-- There is room for the cells. -/
def Granted [Memory] (t : MergeTable) : Prop := Memory.row (t.capacity * t.capacity) = .ok ()

theorem granted_empty [Memory] (growth : Growth) : (empty growth).Granted := by
  exact Memory.row_eq_ok_iff.mpr ⟨Nat.zero_lt_succ _, Memory.has_zero⟩

theorem Granted.ensure [Memory] (ht : t.Granted) {n : Int} (h : t.ensure (.int n) = .ok t') :
    t'.Granted := by
  obtain ⟨-, rfl⟩ | ⟨-, -, rfl⟩ | ⟨less, more, capacity, rfl, -, -, rfl⟩ := ensure_cases h
  · exact ht
  · exact ht
  · simp only [Granted]
    generalize asked : Memory.row _ = room
    cases room with
    | error fault => exact nomatch (ensure_eq_error.mpr ⟨less, more, asked⟩).symm.trans h
    | ok _ => rfl

/-- Whether there is one more id depends on the room for so many ids alone. -/
theorem Fitted.ensure_succ [Memory] (ht : t.Fitted) (granted : t.Granted) :
    (∃ t', t.ensure (.int (t.states + 1)) = .ok t' ∧ t.growth.room (t.states + 1) = .ok ()) ∨
      ∃ fault, t.ensure (.int (t.states + 1)) = .error fault ∧
        t.growth.room (t.states + 1) = .error fault := by
  have need : ((t.states : Int) + 1).toNat = t.states + 1 := rfl
  cases asked : t.ensure (.int (t.states + 1)) with
  | ok t' =>
    have states := states_ensure asked
    have fitted := ht.ensure asked
    have room := granted.ensure asked
    rw [need, Nat.max_eq_right (Nat.le_succ t.states)] at states
    rw [Fitted, states, if_neg (Nat.succ_ne_zero t.states), growth_ensure asked] at fitted
    rw [Granted, fitted] at room
    exact .inl ⟨t', rfl, room⟩
  | error fault =>
    obtain ⟨-, -, refused⟩ := ensure_eq_error.mp asked
    rw [need, ht.next (Nat.le_succ t.states)] at refused
    exact .inr ⟨fault, rfl, refused⟩

/-- Storing a summary changes cells alone. -/
theorem store_frame {i j : Nat} {s : Summary} (h : t.store i j s = .ok t') :
    t'.growth = t.growth ∧ t'.extent = t.extent ∧ t'.capacity = t.capacity := by
  unfold store at h
  split at h
  next =>
    cases h
    exact ⟨rfl, rfl, rfl⟩
  next => contradiction

theorem Fitted.store (ht : t.Fitted) {i j : Nat} {s : Summary} (h : t.store i j s = .ok t') :
    t'.Fitted := by
  obtain ⟨growth, extent, capacity⟩ := store_frame h
  unfold Fitted states at ht ⊢
  rw [capacity, extent, growth]
  exact ht

theorem Granted.store [Memory] (ht : t.Granted) {i j : Nat} {s : Summary}
    (h : t.store i j s = .ok t') :
    t'.Granted := by
  obtain ⟨-, -, capacity⟩ := store_frame h
  unfold Granted at ht ⊢
  rw [capacity]
  exact ht

/-- A summary whose id fits 32 bits can be stored in the cell of any two ids. -/
theorem exists_store {i j : Nat} (hi : i < t.states) (hj : j < t.states) {s : Summary}
    (fits : fitsWord 32 s.id = true) : ∃ t', t.store i j s = .ok t' := by
  have stored : Summary.storedId (.int s.id) = .ok s.id := Summary.storedId_eq_ok.mpr ⟨rfl, fits⟩
  rw [store_eq hi hj, stored]
  exact ⟨_, rfl⟩

end MergeTable

end ScanLexer
