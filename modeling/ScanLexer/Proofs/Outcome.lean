import Mathlib.Data.List.Forall2
import ScanLexer.Fault

/-!
# Steps that may fail

A chain of steps succeeds exactly if each of its steps does, a list is mapped exactly if each of its
entries is, and a test of a list comes out good exactly if that of each entry does. Two chains match
if their steps do (`Matched.bind`), and the one gives what the other gives if its steps do so
(`Repeated.bind`).
-/
namespace ScanLexer

section
variable {ε α β : Type}

@[simp] theorem ok_bind (a : α) (f : α → Except ε β) : (Except.ok a >>= f) = f a := rfl

@[simp] theorem error_bind (e : ε) (f : α → Except ε β) : (Except.error e >>= f) = .error e := rfl

@[simp] theorem pure_eq_ok (a : α) : (pure a : Except ε α) = .ok a := rfl

@[simp] theorem throw_eq_error (e : ε) : (throw e : Except ε α) = .error e := rfl

theorem bind_eq_ok {x : Except ε α} {f : α → Except ε β} {b : β} :
    (x >>= f) = .ok b ↔ ∃ a, x = .ok a ∧ f a = .ok b := by
  cases x <;> simp

theorem bind_eq_error {x : Except ε α} {f : α → Except ε β} {e : ε} :
    (x >>= f) = .error e ↔ x = .error e ∨ ∃ a, x = .ok a ∧ f a = .error e := by
  cases x <;> simp

theorem exists_eq_ok_of_isOk {x : Except ε α} (h : x.isOk = true) : ∃ a, x = .ok a := by
  cases x with
  | error e => contradiction
  | ok a => exact ⟨a, rfl⟩

theorem map_eq_ok {x : Except ε α} {f : α → β} {b : β} :
    x.map f = .ok b ↔ ∃ a, x = .ok a ∧ f a = b := by
  cases x <;> simp [Except.map]

theorem map_map {γ : Type} (x : Except ε α) (f : α → β) (g : β → γ) :
    (x.map f).map g = x.map fun a => g (f a) := by
  cases x <;> rfl

theorem map_eq_error {x : Except ε α} {f : α → β} {e : ε} : x.map f = .error e ↔ x = .error e := by
  cases x <;> simp [Except.map]

theorem mapError_eq_ok {ε' : Type} {x : Except ε α} {f : ε → ε'} {a : α} :
    x.mapError f = .ok a ↔ x = .ok a := by
  cases x <;> simp [Except.mapError]

theorem mapM_eq_ok {f : α → Except ε β} {xs : List α} {ys : List β} :
    xs.mapM f = .ok ys ↔ List.Forall₂ (fun x y => f x = .ok y) xs ys := by
  induction xs generalizing ys with
  | nil => cases ys <;> simp
  | cons x xs ih =>
    rw [List.mapM_cons]
    cases ys with
    | nil => simp [bind_eq_ok]
    | cons y ys => simp [bind_eq_ok, ih]

/-- What comes of mapping a list is mapped as the list is by both steps at once. -/
theorem mapM_of_mapM_eq_ok {γ : Type} {f : α → Except ε β} {xs : List α} {ys : List β}
    (mapped : xs.mapM f = .ok ys) (g : β → Except ε γ) :
    ys.mapM g = xs.mapM fun x => f x >>= g := by
  induction mapM_eq_ok.mp mapped with
  | nil => rfl
  | cons first others ih =>
    rw [List.mapM_cons, List.mapM_cons, first, ok_bind, ih (mapM_eq_ok.mpr others)]

/-- If a list is not mapped, this is for one of its entries. -/
theorem exists_of_mapM_eq_error {f : α → Except ε β} {xs : List α} {e : ε}
    (h : xs.mapM f = .error e) : ∃ x ∈ xs, f x = .error e := by
  induction xs with
  | nil => contradiction
  | cons x xs ih =>
    rw [List.mapM_cons] at h
    obtain failed | ⟨y, -, h⟩ := bind_eq_error.mp h
    · exact ⟨x, List.mem_cons_self, failed⟩
    obtain failed | ⟨ys, -, h⟩ := bind_eq_error.mp h
    · obtain ⟨z, hz, failed⟩ := ih failed
      exact ⟨z, List.mem_cons_of_mem x hz, failed⟩
    · contradiction

/-- A list is mapped as soon as each entry is. -/
theorem exists_mapM_eq_ok {f : α → Except ε β} {xs : List α} (h : ∀ x ∈ xs, ∃ y, f x = .ok y) :
    ∃ ys, xs.mapM f = .ok ys := by
  induction xs with
  | nil => exact ⟨[], rfl⟩
  | cons x xs ih =>
    obtain ⟨y, hy⟩ := h x (by simp)
    obtain ⟨ys, hys⟩ := ih fun z hz => h z (List.mem_cons_of_mem x hz)
    exact ⟨y :: ys, by simp [List.mapM_cons, hy, hys]⟩

/-- All entries pass a test that may fail exactly if it finds each of them good. -/
theorem allM_eq_ok_true {f : α → Except ε Bool} {xs : List α} :
    xs.allM f = .ok true ↔ ∀ x ∈ xs, f x = .ok true := by
  induction xs with
  | nil => simp
  | cons x xs ih =>
    rw [List.allM_cons, bind_eq_ok, List.forall_mem_cons]
    constructor
    · rintro ⟨b, tested, rest⟩
      cases b with
      | true => exact ⟨tested, ih.mp rest⟩
      | false => simp at rest
    · rintro ⟨tested, rest⟩
      exact ⟨true, tested, ih.mpr rest⟩

theorem filterAuxM_eq_ok_nil {f : α → Except ε Bool} {xs kept : List α} :
    xs.filterAuxM f kept = .ok [] ↔ kept = [] ∧ ∀ x ∈ xs, f x = .ok false := by
  induction xs generalizing kept with
  | nil => simp [List.filterAuxM]
  | cons x xs ih =>
    rw [List.filterAuxM, bind_eq_ok, List.forall_mem_cons]
    constructor
    · rintro ⟨b, tested, rest⟩
      cases b with
      | true => exact absurd (ih.mp rest).1 (List.cons_ne_nil x kept)
      | false => exact ⟨(ih.mp rest).1, tested, (ih.mp rest).2⟩
    · rintro ⟨empty, tested, rest⟩
      exact ⟨false, tested, ih.mpr ⟨empty, rest⟩⟩

/-- Nothing is kept exactly if each entry is found to be left out. -/
theorem filterM_eq_ok_nil {f : α → Except ε Bool} {xs : List α} :
    xs.filterM f = .ok [] ↔ ∀ x ∈ xs, f x = .ok false := by
  rw [List.filterM, bind_eq_ok]
  constructor
  · rintro ⟨kept, filtered, empty⟩
    have none : kept = [] := List.reverse_eq_nil_iff.mp (Except.ok.inj empty)
    exact (filterAuxM_eq_ok_nil.mp (none ▸ filtered)).2
  · intro out
    exact ⟨[], filterAuxM_eq_ok_nil.mpr ⟨rfl, out⟩, rfl⟩

/-- A test of a list ends if that of no entry fails. -/
theorem exists_allM_eq_ok {f : α → Except ε Bool} {xs : List α} (h : ∀ x ∈ xs, ∃ b, f x = .ok b) :
    ∃ b, xs.allM f = .ok b := by
  induction xs with
  | nil => exact ⟨true, rfl⟩
  | cons x xs ih =>
    obtain ⟨b, tested⟩ := h x List.mem_cons_self
    rw [List.allM_cons, tested, ok_bind]
    cases b with
    | false => exact ⟨false, rfl⟩
    | true => exact ih fun y hy => h y (List.mem_cons_of_mem x hy)

/-- A list is filtered if no test of an entry fails; else the filter fails as one of them does. -/
theorem filterAuxM_cases (f : α → Except ε Bool) (xs kept : List α) :
    ((∀ x ∈ xs, ∃ b, f x = .ok b) ∧ ∃ ys, xs.filterAuxM f kept = .ok ys) ∨
      ∃ x ∈ xs, ∃ e, f x = .error e ∧ xs.filterAuxM f kept = .error e := by
  induction xs generalizing kept with
  | nil => exact .inl ⟨nofun, kept, rfl⟩
  | cons x xs ih =>
    cases tested : f x with
    | error e =>
      right
      refine ⟨x, List.mem_cons_self, e, tested, ?_⟩
      rw [List.filterAuxM, tested, error_bind]
    | ok b =>
      rw [List.filterAuxM, tested, ok_bind]
      obtain ⟨all, ys, filtered⟩ | ⟨y, hy, e, failed, refused⟩ := ih (cond b (x :: kept) kept)
      · left
        exact ⟨List.forall_mem_cons.mpr ⟨⟨b, tested⟩, all⟩, ys, filtered⟩
      · right
        exact ⟨y, List.mem_cons_of_mem x hy, e, failed, refused⟩

theorem filterM_cases (f : α → Except ε Bool) (xs : List α) :
    ((∀ x ∈ xs, ∃ b, f x = .ok b) ∧ ∃ ys, xs.filterM f = .ok ys) ∨
      ∃ x ∈ xs, ∃ e, f x = .error e ∧ xs.filterM f = .error e := by
  rw [List.filterM]
  obtain ⟨all, ys, filtered⟩ | ⟨x, hx, e, failed, refused⟩ := filterAuxM_cases f xs []
  · left
    rw [filtered]
    exact ⟨all, _, rfl⟩
  · right
    rw [refused]
    exact ⟨x, hx, e, failed, rfl⟩

/-- How two steps compare: both succeed with related results, or fail with one fault, unless one of
them fails with a fault that is excused on its side. -/
inductive Matched (first second : ε → Prop) (rel : α → β → Prop) :
    Except ε α → Except ε β → Prop where
  | ok {a : α} {b : β} : rel a b → Matched first second rel (.ok a) (.ok b)
  | fault (e : ε) : Matched first second rel (.error e) (.error e)
  | first {e : ε} (y : Except ε β) : first e → Matched first second rel (.error e) y
  | second (x : Except ε α) {e : ε} : second e → Matched first second rel x (.error e)

namespace Matched

variable {γ δ : Type} {first second : ε → Prop} {rel : α → β → Prop} {rel' : γ → δ → Prop}
variable {x : Except ε α} {y : Except ε β}

/-- Two chains match if their first steps do, and the rest does after related results. -/
theorem bind (h : Matched first second rel x y) {f : α → Except ε γ} {g : β → Except ε δ}
    (next : ∀ a b, x = .ok a → y = .ok b → rel a b → Matched first second rel' (f a) (g b)) :
    Matched first second rel' (x >>= f) (y >>= g) := by
  cases h with
  | ok related => exact next _ _ rfl rfl related
  | fault e => exact .fault e
  | first y excused => exact .first _ excused
  | second x excused => exact .second _ excused

/-- What matches a success, and is not excused, succeeds. -/
theorem of_ok {a : α} (h : Matched first second rel (.ok a) y) (strict : ∀ e, ¬ second e) :
    ∃ b, y = .ok b ∧ rel a b := by
  cases h with
  | ok related => exact ⟨_, rfl, related⟩
  | second _ excused => exact absurd excused (strict _)

theorem imp {rel' : α → β → Prop} (h : Matched first second rel x y)
    (weaker : ∀ a b, x = .ok a → y = .ok b → rel a b → rel' a b) :
    Matched first second rel' x y := by
  cases h with
  | ok related => exact .ok (weaker _ _ rfl rfl related)
  | fault e => exact .fault e
  | first y excused => exact .first y excused
  | second x excused => exact .second x excused

end Matched

/-- What the first of two steps gives, the second one gives as well. -/
def Repeated (x y : Except ε α) : Prop := ∀ a, x = .ok a → y = .ok a

namespace Repeated

variable {x y : Except ε α}

theorem refl (x : Except ε α) : Repeated x x := fun _ given => given

theorem bind (h : Repeated x y) {f g : α → Except ε β} (next : ∀ a, Repeated (f a) (g a)) :
    Repeated (x >>= f) (y >>= g) := by
  intro b given
  obtain ⟨a, first, rest⟩ := bind_eq_ok.mp given
  exact bind_eq_ok.mpr ⟨a, h a first, next a b rest⟩

theorem map (h : Repeated x y) (f : α → β) : Repeated (x.map f) (y.map f) := by
  intro b given
  obtain ⟨a, first, same⟩ := map_eq_ok.mp given
  exact map_eq_ok.mpr ⟨a, h a first, same⟩

theorem foldlM {f g : β → α → Except ε β} (step : ∀ b a, Repeated (f b a) (g b a)) (xs : List α)
    (b : β) : Repeated (xs.foldlM f b) (xs.foldlM g b) := by
  induction xs generalizing b with
  | nil => exact refl _
  | cons a xs ih =>
    rw [List.foldlM_cons, List.foldlM_cons]
    exact (step b a).bind ih

end Repeated

end

theorem orFault_eq_ok {α : Type} {fault : Fault} {x : Option α} {a : α} :
    orFault fault x = .ok a ↔ x = some a := by
  cases x <;> simp [orFault]

theorem orFault_eq_error {α : Type} {fault fault' : Fault} {x : Option α} :
    orFault fault x = .error fault' ↔ x = none ∧ fault = fault' := by
  cases x <;> simp [orFault]

end ScanLexer
