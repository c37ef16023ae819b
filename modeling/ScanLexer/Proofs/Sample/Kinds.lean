import ScanLexer.Proofs.Automaton.Alphabet
import ScanLexer.Proofs.Automaton.Shuffling
import ScanLexer.Sample.Basic

/-!
# Making the lexer of identifiers and blanks

The lexer of identifiers between blanks is made by calls, two for each letter and two for each
blank. All of them are granted exactly if the letters and the blanks are an alphabet
(`grown_or_refused`). What the calls lead to is known one listed byte at a time (`Grown.concat`):
every byte is listed under at most one kind, the start state has an arc on it to the state of that
kind, and that state has one too, on bytes of its own kind alone.
-/
namespace ScanLexer.Sample

open ScanLexer.Symbol Automaton

/-- The two kinds of bytes, those that identifiers are made of and those between them. -/
inductive Kind where
  | letter
  | blank
deriving DecidableEq

/-- The state in which a byte of a kind was just read, or the start. -/
def place : Option Kind → Nat
  | none => 0
  | some .letter => 1
  | some .blank => 2

theorem place_inj {s t : Option Kind} : place s = place t ↔ s = t := by
  constructor
  · intro same
    rcases s with _ | _ | _ <;> rcases t with _ | _ | _ <;> first | rfl | contradiction
  · rintro rfl
    rfl

/-- The token for bytes of a kind. -/
def Kind.lexeme : Kind → Option Lexeme
  | .letter => token "ident"
  | .blank => token "ws"

/-- The step to a kind. -/
def Kind.step (c : Kind) (emits : Bool) : Transition := ⟨some (place (some c) : Int), emits⟩

/-- The values listed, each with its kind, in the order of the calls. -/
def listing (letters blanks : List Datum) : List (Datum × Kind) :=
  letters.map (·, .letter) ++ blanks.map (·, .blank)

/-- A byte is listed under a kind. -/
def Kind.Lists (ps : List (Datum × Kind)) (c : Kind) (a : Symbol) : Prop :=
  ∃ d, (d, c) ∈ ps ∧ Spells d a

theorem listed_fst_iff {ps : List (Datum × Kind)} {a : Symbol} :
    Listed (ps.map Prod.fst) a ↔ ∃ c, Kind.Lists ps c a := by
  simp only [Listed, List.mem_map, Kind.Lists]
  constructor
  · rintro ⟨_, ⟨⟨d, c⟩, hp, rfl⟩, ha⟩
    exact ⟨c, d, hp, ha⟩
  · rintro ⟨c, d, hp, ha⟩
    exact ⟨d, ⟨(d, c), hp, rfl⟩, ha⟩

theorem map_fst_listing (letters blanks : List Datum) :
    (listing letters blanks).map Prod.fst = letters ++ blanks := by
  simp [listing, Function.comp_def]

theorem lists_letter_iff (letters blanks : List Datum) {a : Symbol} :
    Kind.letter.Lists (listing letters blanks) a ↔ Listed letters a := by
  simp [Kind.Lists, listing, Listed]

theorem lists_blank_iff (letters blanks : List Datum) {a : Symbol} :
    Kind.blank.Lists (listing letters blanks) a ↔ Listed blanks a := by
  simp [Kind.Lists, listing, Listed]

theorem lists_concat {ps : List (Datum × Kind)} {d : Datum} {c k : Kind} {a b : Symbol}
    (ha : Spells d a) :
    k.Lists (ps ++ [(d, c)]) b ↔ k.Lists ps b ∨ k = c ∧ b = a := by
  simp only [Kind.Lists, List.mem_append, List.mem_singleton, Prod.mk.injEq]
  constructor
  · rintro ⟨e, old | ⟨rfl, rfl⟩, hb⟩
    · exact .inl ⟨e, old, hb⟩
    · exact .inr ⟨rfl, hb.unique ha⟩
  · rintro (⟨e, old, hb⟩ | ⟨rfl, rfl⟩)
    · exact ⟨e, .inl old, hb⟩
    · exact ⟨d, .inr ⟨rfl, rfl⟩, ha⟩

/-- The three states with no arcs. -/
def bareKinds : Automaton := ⟨[.bare none, .bare (token "ident"), .bare (token "ws")]⟩

/-- What the calls for listed values lead to. -/
def gather (ps : List (Datum × Kind)) : Except Fault Automaton :=
  ps.foldlM (fun A p => identBlank.grow (place (some p.2)) A p.1) bareKinds

theorem identBlank_eq (letters blanks : List Datum) :
    identBlank letters blanks = (gather (listing letters blanks)).map Automaton.restart := by
  have folds : gather (listing letters blanks) =
      letters.foldlM (identBlank.grow 1) bareKinds >>= blanks.foldlM (identBlank.grow 2) := by
    simp only [gather, listing, List.foldlM_append, List.foldlM_map]
    rfl
  have whole : identBlank letters blanks =
      letters.foldlM (identBlank.grow 1) bareKinds >>= fun A =>
        blanks.foldlM (identBlank.grow 2) A >>= fun B => .ok B.restart := rfl
  rw [folds, whole]
  cases letters.foldlM (identBlank.grow 1) bareKinds with
  | error fault => rfl
  | ok A =>
    rw [ok_bind, ok_bind]
    cases blanks.foldlM (identBlank.grow 2) A <;> rfl

theorem place_lt (s : Option Kind) : place s < 3 := by
  rcases s with _ | _ | _ <;> decide

/-- The automaton with an arc to the state of a kind, both from the start and from that state. -/
def lead (A : Automaton) (c : Kind) (a : Symbol) (style : Numeral.Style) : Automaton :=
  let arc : Arc := ⟨a, place (some c), false, style, .digits⟩
  (A.extend 0 arc).extend (place (some c)) arc

section
variable {A : Automaton} {c : Kind} {d : Datum} {a : Symbol} {style : Numeral.Style}

theorem size_lead (A : Automaton) (c : Kind) (a : Symbol) (style : Numeral.Style) :
    (lead A c a style).size = A.size := by
  rw [lead, size_extend, size_extend]

theorem lexeme_lead (size : A.size = 3) (k : Nat) :
    ((lead A c a style).node k).lexeme = (A.node k).lexeme := by
  have own : place (some c) < A.size := size ▸ place_lt (some c)
  have start : 0 < A.size := size ▸ place_lt none
  rw [lead, lexeme_extend (by rwa [size_extend]), lexeme_extend start]

/-- The first arc does not stand in the way of the second. -/
theorem arc?_extend_start (size : A.size = 3) (arc : Arc)
    (lacks : (A.node (place (some c))).arc? a = none) :
    ((A.extend 0 arc).node (place (some c))).arc? a = none := by
  have other : place (some c) ≠ 0 := fun same => by cases (place_inj (t := none)).mp same
  have start : 0 < A.size := size ▸ place_lt none
  rw [A.node_extend start, if_neg other, lacks]

theorem step?_lead (size : A.size = 3) (lacks : ∀ s, (A.node (place s)).arc? a = none)
    (s : Option Kind) (b : Symbol) :
    ((lead A c a style).node (place s)).step? b =
      if (s = none ∨ s = some c) ∧ b = a then some (c.step false)
      else (A.node (place s)).step? b := by
  have own : place (some c) < A.size := size ▸ place_lt (some c)
  have start : 0 < A.size := size ▸ place_lt none
  have begins : (A.node 0).arc? a = none := lacks none
  have here : place s = place (some c) ↔ s = some c := place_inj
  have first : place s = 0 ↔ s = none := place_inj (t := none)
  let arc : Arc := ⟨a, place (some c), false, style, .digits⟩
  have goesOn := arc?_extend_start size arc (lacks (some c))
  rw [lead, step?_extend (by rwa [size_extend]) goesOn, step?_extend start begins]
  simp only [here, first]
  by_cases last : s = some c ∧ b = a
  · rw [if_pos last, if_pos ⟨.inr last.1, last.2⟩]
    rfl
  · rw [if_neg last]
    by_cases starts : s = none ∧ b = a
    · rw [if_pos starts, if_pos ⟨.inl starts.1, starts.2⟩]
      rfl
    · rw [if_neg starts, if_neg]
      rintro ⟨none | some, same⟩
      · exact starts ⟨none, same⟩
      · exact last ⟨some, same⟩

/-- The two calls for a byte are granted if no state has an arc on it. -/
theorem grow_eq (size : A.size = 3) (lacks : ∀ s, (A.node (place s)).arc? a = none)
    (ha : Spells d a) (c : Kind) :
    identBlank.grow (place (some c)) A d = .ok (lead A c a d.style) := by
  have own : place (some c) < A.size := size ▸ place_lt (some c)
  have start : 0 < A.size := size ▸ place_lt none
  have begins : (A.node 0).arc? a = none := lacks none
  let arc : Arc := ⟨a, place (some c), false, d.style, .digits⟩
  have goesOn := arc?_extend_start size arc (lacks (some c))
  have first : A.add (.int (0 : Nat)) d (.int (place (some c))) false = .ok (A.extend 0 arc) := by
    rw [add_spelled start own ha, if_pos (Option.isNone_iff_eq_none.mpr begins)]
  have second : (A.extend 0 arc).add (.int (place (some c))) d (.int (place (some c))) false =
      .ok (lead A c a d.style) := by
    rw [add_spelled (by rwa [size_extend]) (by rwa [size_extend]) ha,
      if_pos (Option.isNone_iff_eq_none.mpr goesOn)]
    rfl
  exact bind_eq_ok.mpr ⟨_, first, second⟩

theorem built_of_grow {B : Automaton} (hA : A.Built)
    (grown : identBlank.grow (place (some c)) A d = .ok B) : B.Built := by
  obtain ⟨C, first, second⟩ := bind_eq_ok.mp grown
  exact (hA.add first).add second

theorem kind_of_grow {fault : Fault}
    (refused : identBlank.grow (place (some c)) A d = .error fault) :
    fault.kind = .value := by
  obtain first | ⟨B, -, second⟩ := bind_eq_error.mp refused
  · exact kind_of_add first
  · exact kind_of_add second

end

/-- The automaton after the calls for listed values. Each byte leads from the start, and from bytes
of its own kind, to the state of its kind. -/
structure Grown (ps : List (Datum × Kind)) (A : Automaton) : Prop where
  built : A.Built
  size : A.size = 3
  labels (s : Option Kind) : (A.node (place s)).lexeme = s.bind Kind.lexeme
  offers (s : Option Kind) (c : Kind) (a : Symbol) : c.Lists ps a →
    (A.node (place s)).step? a = if s = none ∨ s = some c then some (c.step false) else none
  lacks (s : Option Kind) (a : Symbol) : (∀ c : Kind, ¬ c.Lists ps a) →
    (A.node (place s)).step? a = none

theorem grown_bareKinds : Grown [] bareKinds where
  built := by
    have new : Built ⟨[.bare none]⟩ := .new (n := 1) rfl
    exact (new.call (.addState (token "ident"))).call (.addState (token "ws"))
  size := rfl
  labels s := by rcases s with _ | _ | _ <;> rfl
  offers := by rintro s c a ⟨d, hd, -⟩; contradiction
  lacks s a _ := by rcases s with _ | _ | _ <;> rfl

section
variable {ps : List (Datum × Kind)} {A : Automaton} {d : Datum} {c : Kind} {a : Symbol}

/-- A byte is listed under one kind only. -/
theorem Grown.unique (h : Grown ps A) {k : Kind} (hc : c.Lists ps a) (hk : k.Lists ps a) :
    c = k := by
  have same := (h.offers none c a hc).symm.trans (h.offers none k a hk)
  simp only [true_or, if_true, Option.some.injEq, Kind.step, Transition.mk.injEq, Int.ofNat_inj,
    and_true, place_inj] at same
  exact same

theorem Grown.concat (h : Grown ps A) (ha : Spells d a) (new : ¬ Listed (ps.map Prod.fst) a) :
    ∃ B, identBlank.grow (place (some c)) A d = .ok B ∧ Grown (ps ++ [(d, c)]) B := by
  rw [listed_fst_iff, not_exists] at new
  have lacks (s : Option Kind) : (A.node (place s)).arc? a = none :=
    Option.map_eq_none_iff.mp (h.lacks s a new)
  have granted := grow_eq h.size lacks ha c
  refine ⟨_, granted, built_of_grow h.built granted, ?_, ?_, ?_, ?_⟩
  · rw [size_lead, h.size]
  · intro s
    rw [lexeme_lead h.size, h.labels]
  · intro s k b listed
    rw [step?_lead h.size lacks]
    obtain old | ⟨rfl, rfl⟩ := (lists_concat ha).mp listed
    · have apart : b ≠ a := fun same => new k (same ▸ old)
      rw [if_neg fun both => apart both.2, h.offers s k b old]
    · rw [h.lacks s b new]
      simp
  · intro s b unlisted
    have apart : b ≠ a := fun same => unlisted c ((lists_concat ha).mpr (.inr ⟨rfl, same⟩))
    rw [step?_lead h.size lacks, if_neg fun both => apart both.2]
    exact h.lacks s b fun k listed => unlisted k ((lists_concat ha).mpr (.inl listed))

/-- The first call for a value is refused if the value spells no byte or a byte that is listed. -/
theorem Grown.refused (h : Grown ps A) (bad : ¬ ∃ a, Spells d a ∧ ¬ Listed (ps.map Prod.fst) a) :
    ∃ fault, identBlank.grow (place (some c)) A d = .error fault := by
  have own : place (some c) < A.size := h.size ▸ place_lt (some c)
  have start : 0 < A.size := h.size ▸ place_lt none
  have first : ∃ fault, A.add (.int (0 : Nat)) d (.int (place (some c))) false = .error fault := by
    by_cases spelled : ∃ a, Spells d a
    · obtain ⟨a, ha⟩ := spelled
      have listed : Listed (ps.map Prod.fst) a := by
        by_contra new
        exact bad ⟨a, ha, new⟩
      obtain ⟨k, hk⟩ := listed_fst_iff.mp listed
      have taken := h.offers none k a hk
      rw [if_pos (.inl rfl), Node.step?, Option.map_eq_some_iff] at taken
      obtain ⟨arc, present, -⟩ := taken
      have present' : (A.node 0).arc? a = some arc := present
      rw [add_spelled start own ha, present']
      exact ⟨_, rfl⟩
    · exact ⟨_, add_unspelled start own (fun a ha => spelled ⟨a, ha⟩) false⟩
  obtain ⟨fault, refused⟩ := first
  exact ⟨fault, bind_eq_error.mpr (.inl refused)⟩

end

/-- **The calls are granted exactly for an alphabet.** -/
theorem grown_or_refused (ps : List (Datum × Kind)) :
    (∃ A, gather ps = .ok A ∧ Grown ps A ∧ Alphabet (ps.map Prod.fst)) ∨
      ∃ fault, gather ps = .error fault ∧ fault.kind = .value ∧ ¬ Alphabet (ps.map Prod.fst) := by
  induction ps using List.reverseRecOn with
  | nil => exact .inl ⟨_, rfl, grown_bareKinds, alphabet_nil⟩
  | append_singleton ps p ih =>
    have longer : gather (ps ++ [p]) =
        gather ps >>= fun A => identBlank.grow (place (some p.2)) A p.1 := by
      rw [gather, List.foldlM_append]
      congr 1
      funext A
      exact bind_pure _
    rw [longer, List.map_append, List.map_singleton, alphabet_concat]
    obtain ⟨A, gathered, grown, alphabet⟩ | ⟨fault, failed, kind, none⟩ := ih
    · rw [gathered, ok_bind]
      by_cases good : ∃ a, Spells p.1 a ∧ ¬ Listed (ps.map Prod.fst) a
      · left
        obtain ⟨a, ha, new⟩ := good
        obtain ⟨B, granted, grown'⟩ := grown.concat (c := p.2) ha new
        exact ⟨B, granted, grown', alphabet, a, ha, new⟩
      · right
        obtain ⟨fault, refused⟩ := grown.refused (c := p.2) good
        exact ⟨fault, refused, kind_of_grow refused, fun both => good both.2⟩
    · right
      rw [failed, error_bind]
      exact ⟨fault, rfl, kind, fun both => none both.1⟩

end ScanLexer.Sample
