import ScanLexer.Memory.Ordinary
import ScanLexer.Proofs.Catalogue.Progress
import ScanLexer.Proofs.Lexer.Compiled

/-!
# Building a lexer comes to an end

A lexer is built in two parts: ids are gathered for the bytes and the identity (`gather`), and the
catalogue is closed (`compile_eq`). There is a bound on the number of ids at every point, closing
ends by itself, and as long as that bound fits 32 bits nothing but want of room for the table can
keep a lexer from being built (`building_ends`). It can: a least capacity may be too large for any
table (`large_least_capacity_refused`). In the usual configuration it cannot for automata of at most
three states (`exists_lexer_of_size_le`).
-/
namespace ScanLexer

namespace Catalogue

variable [Memory]
variable {A : Automaton} {growth : Growth} {c c' : Catalogue}

theorem underway_enqueueAll {symbols : List Symbol} {summaries : List Summary}
    (hu : Underway A growth c)
    (run : c.enqueueAll (symbols.map A.behaviour) = .ok (c', summaries)) :
    Underway A growth c' := by
  induction symbols generalizing c summaries with
  | nil =>
    cases run
    exact hu
  | cons a symbols ih =>
    rw [List.map_cons, enqueueAll_cons] at run
    obtain ⟨⟨first, id⟩, asked, run⟩ := bind_eq_ok.mp run
    obtain ⟨start, -, run⟩ := bind_eq_ok.mp run
    obtain ⟨⟨last, rest⟩, others, run⟩ := bind_eq_ok.mp run
    cases run
    have next := hu.byte a
    rw [grant_eq_ok.mp asked] at next
    exact ih next others

theorem settles_enqueueAll (hA : A.Closed) (symbols : List Symbol) (h : Gathering A c)
    (hu : Underway A growth c) : Settles A growth (c.enqueueAll (symbols.map A.behaviour)) := by
  induction symbols generalizing c with
  | nil => exact settles_ok (c, [])
  | cons a symbols ih =>
    rw [List.map_cons, enqueueAll_cons]
    have next := hu.byte a
    refine (settles_grant h.counted hu next).bind fun ⟨first, id⟩ asked => ?_
    have granted := grant_eq_ok.mp asked
    rw [granted] at next
    obtain ⟨e, -, found⟩ := (hA.over_behaviour a).entry_of_lt hA.start
    have start : (A.behaviour a).entry 0 = .ok e := Behaviour.entry_natCast.mpr found
    simp only [start, ok_bind]
    refine (ih (h.enqueue (.byte a) granted).1 next).bind fun others _ => ?_
    exact settles_ok (others.1, _)

end Catalogue

namespace Lexer

open Catalogue

variable {A : Automaton} {growth : Growth} {c : Catalogue} {initial : List Summary} {e : Nat}

/-- The catalogue before it is closed, with the summaries of the bytes and the id of the
identity. -/
def gather [Memory] (A : Automaton) (growth : Growth) :
    Except Fault (Catalogue × List Summary × Nat) := do
  let (c, initial) ← (Catalogue.empty growth).enqueueAll (Symbol.all.map A.behaviour)
  let (c, identity) := c.enqueue (.identity A.size) (some identityTag)
  return (c, initial, ← identity)

theorem gather_eq [Memory] (A : Automaton) (growth : Growth) : gather A growth = do
    let (c, initial) ← (Catalogue.empty growth).enqueueAll (Symbol.all.map A.behaviour)
    let (c, e) ← c.grant (.identity A.size) (some identityTag)
    return (c, initial, e) := by
  unfold gather grant
  congr 1
  funext ⟨c, initial⟩
  rcases named : c.enqueue (.identity A.size) (some identityTag) with ⟨ready, fault | e⟩ <;>
    simp only [named] <;> rfl

/-- A lexer is compiled by gathering ids and closing what was gathered. -/
theorem compile_eq [Memory] (A : Automaton) (growth : Growth) : compile A growth = do
    let (c, initial, e) ← gather A growth
    let c ← c.close e A.size
    return ⟨.ofNat A.size, initial, e, c.registry.behaviours.map A.accepted, c⟩ := by
  simp only [compile, gather, bind_assoc, pure_bind]

/-- What was gathered is ready to be closed. -/
theorem closing_of_gather [Memory] (hA : A.Closed) (h : gather A growth = .ok (c, initial, e)) :
    Closing A e c [] (fun _ _ => False) ∧ Underway A growth c := by
  rw [gather_eq] at h
  obtain ⟨⟨first, summaries⟩, gathered, h⟩ := bind_eq_ok.mp h
  obtain ⟨⟨ready, id⟩, named, h⟩ := bind_eq_ok.mp h
  cases h
  obtain ⟨gathering, -⟩ := (gathering_empty A growth).enqueueAll hA gathered
  have next := (underway_enqueueAll .empty gathered).identity
  rw [grant_eq_ok.mp named] at next
  exact ⟨(gathering.closing (grant_eq_ok.mp named)).1, next⟩

theorem settles_gather [Memory] (hA : A.Closed) : Settles A growth (gather A growth) := by
  rw [gather_eq]
  have start := gathering_empty A growth
  refine (settles_enqueueAll hA Symbol.all start .empty).bind fun ⟨first, summaries⟩ gathered => ?_
  have gathering := (start.enqueueAll hA gathered).1
  have hu := underway_enqueueAll .empty gathered
  refine (settles_grant gathering.counted hu hu.identity).bind fun ⟨ready, id⟩ _ => ?_
  exact settles_ok _

theorem settles_compile [Memory] (hA : A.Closed) (few : most A.size ≤ 2 ^ 31) :
    Settles A growth (compile A growth) := by
  rw [compile_eq]
  refine (settles_gather hA).bind fun ⟨c, initial, e⟩ gathered => ?_
  obtain ⟨closing, hu⟩ := closing_of_gather hA gathered
  exact (settles_close hA few closing hu).bind fun _ _ => settles_ok _

/-- The lexer of an automaton of at most three states is built where a megabyte can be had: no more
room is asked for than for as few ids as it may come to have. -/
theorem exists_lexer_of_size_le [Memory] (enough : Memory.has 1048576 = true) (hA : A.Built)
    (few : A.size ≤ 3) : ∃ L, build A.contract .usual = .ok L := by
  have accepted : A.contract.automaton = .ok A := by
    have room : Memory.ask A.size (8 * 256 * A.size) = .ok () := by
      have counted : fitsWord 64 A.size = true := fitsWord_64.mpr (by omega)
      have had : Memory.has (8 * 256 * (A.size : Int)).toNat = true :=
        Memory.has_of_le (by omega) enough
      simp only [Memory.ask, counted, had, Bool.not_true, Bool.false_eq_true, if_false]
    rw [Automaton.automaton_contract hA.valid, room]
    rfl
  have small : most A.size ≤ 344 := by
    have least : ∀ n ≤ 3, most n ≤ 344 := by decide +kernel
    exact least _ few
  have room (k : Nat) (hk : k ≤ 344) : Memory.row
      (BuildConfig.usual.growth.next k 0 * BuildConfig.usual.growth.next k 0) = .ok () := by
    have cells : ∀ k ≤ 344, 4 * (BuildConfig.usual.growth.next k 0 *
        BuildConfig.usual.growth.next k 0) ≤ 1048576 := by decide +kernel
    exact Memory.row_eq_ok_iff.mpr
      ⟨Nat.lt_of_le_of_lt (cells k hk) (by decide), Memory.has_of_le (cells k hk) enough⟩
  have closed := hA.valid.closed
  have settles : Settles A BuildConfig.usual.growth (compile A _) :=
    settles_compile closed (small.trans (by decide))
  obtain ⟨L, compiled⟩ | ⟨fault, ⟨c, underway, refused⟩, -⟩ := settles
  · exact ⟨_, bind_eq_ok.mpr ⟨A, accepted, bind_eq_ok.mpr ⟨L, compiled, rfl⟩⟩⟩
  · cases (room _ ((underway.size_le closed).trans small)).symm.trans refused

/-- **Building ends.** At no point are there more than `(2 * n + 1) ^ n + 1` ids over `n` states.
After so many rounds of closing no id waits, unless a round failed, and further rounds change
nothing. If so many ids fit 32 bits, the lexer is built, unless room is refused for the ids that
there are at some point: no other fault can come up. -/
theorem building_ends [Memory] {C : Contract} (config : BuildConfig)
    (accepted : C.automaton = .ok A) :
    (∀ c, Underway A config.growth c → c.registry.size ≤ (2 * A.size + 1) ^ A.size + 1) ∧
    (∀ c initial e, gather A config.growth = .ok (c, initial, e) →
      Underway A config.growth c ∧
      ∀ rounds, (2 * A.size + 1) ^ A.size + 1 ≤ rounds →
        drain e rounds c [] = drain e ((2 * A.size + 1) ^ A.size + 1) c [] ∧
        ∀ last done, drain e rounds c [] = .ok (last, done) →
          Underway A config.growth last ∧ last.pending = []) ∧
    ((2 * A.size + 1) ^ A.size + 1 ≤ 2 ^ 31 →
      (∃ L, build C config = .ok L) ∨
      ∃ c fault, Underway A config.growth c ∧
        Memory.row (config.growth.next c.registry.size 0 * config.growth.next c.registry.size 0) =
          .error fault ∧
        (fault.kind = .value ∨ fault.kind = .memory) ∧ build C config = .error fault) := by
  have hA := (Contract.closed_of_automaton accepted).1
  refine ⟨fun c hu => hu.size_le hA, ?_, ?_⟩
  · intro c initial e gathered
    obtain ⟨closing, hu⟩ := closing_of_gather hA gathered
    refine ⟨hu, fun rounds enough => ⟨drain_of_most_le hA enough closing hu, ?_⟩⟩
    intro last done run
    exact ⟨underway_drain hu closing.untaken run, pending_eq_nil_of_drain hA enough closing hu run⟩
  · intro few
    have settles : Settles A config.growth (compile A config.growth) := settles_compile hA few
    obtain ⟨L, compiled⟩ | ⟨fault, ⟨c, hu, refused⟩, failed⟩ := settles
    · left
      exact ⟨_, bind_eq_ok.mpr ⟨A, accepted, bind_eq_ok.mpr ⟨L, compiled, rfl⟩⟩⟩
    · right
      refine ⟨c, fault, hu, refused, Memory.kind_of_row refused, ?_⟩
      rw [build, accepted, ok_bind, failed, error_bind]

/-- Over two states there are at most 26 ids, and room for them is never refused. -/
theorem building_ends_singleA :
    (Sample.singleA true).contract.automaton = .ok (Sample.singleA true) ∧
      (∀ c, Underway (Sample.singleA true) BuildConfig.usual.growth c → c.registry.size ≤ 26) ∧
      ∃ L, build (Sample.singleA true).contract .usual = .ok L := by
  have accepted : (Sample.singleA true).contract.automaton = .ok (Sample.singleA true) := by
    decide +kernel
  have room : ∀ k ≤ 26, Memory.row
      (BuildConfig.usual.growth.next k 0 * BuildConfig.usual.growth.next k 0) = .ok () := by
    decide +kernel
  obtain ⟨few, -, ends⟩ := building_ends .usual accepted
  obtain built | ⟨c, fault, hu, refused, -⟩ := ends (by decide)
  · exact ⟨accepted, few, built⟩
  · cases (room _ (few c hu)).symm.trans refused

/-- One state has at most four ids, but no lexer of it is built from a least capacity of 2 ^ 32: the
table would have 2 ^ 64 cells. -/
theorem large_least_capacity_refused :
    ∃ config A, BuildConfig.ofChoices (.int 4294967296) (.int 2) (.bool false) = .ok config ∧
      (Automaton.mk [.bare none]).contract.automaton = .ok A ∧
      (2 * A.size + 1) ^ A.size + 1 ≤ 2 ^ 31 ∧
      build (Automaton.mk [.bare none]).contract config = .error .tooManyCells := by
  have failed : (build (Automaton.mk [.bare none]).contract
      ⟨.int 4294967296, .int 2, .bool false, ⟨4294967296, 2, .digits, by decide, by decide⟩⟩).map
        (fun _ => ()) = .error .tooManyCells := by decide +kernel
  exact ⟨_, ⟨[.bare none]⟩, rfl, by decide +kernel, by decide, map_eq_error.mp failed⟩

end Lexer

end ScanLexer
