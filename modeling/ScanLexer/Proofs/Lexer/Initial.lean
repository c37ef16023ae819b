import ScanLexer.Memory.Ordinary
import ScanLexer.Proofs.Contract.Checks
import ScanLexer.Proofs.Lexer.Building

/-!
# The behaviours of single bytes

The first ids go to the behaviours of single bytes (`initials`). They are handed out exactly if the
arcs that an automaton tells are sound, unless room is refused to its states or to the table of at
most 256 ids. The behaviour of a byte then has the arc of each state on that byte as its entry, or
rejects where there is none (`initials_of_arcs`).
-/
namespace ScanLexer

namespace Contract

/-- The steps that a state offers on a byte by its arcs. -/
inductive Offers (arcs : List Arc) (a : Symbol) : Transition → Prop where
  | arc {arc : Arc} {target : Int} : arc ∈ arcs → arc.symbol.integer? = some (a.val : Int) →
      arc.target.integer? = some target → Offers arcs a ⟨some target, arc.emits.truth⟩
  | none : (∀ arc ∈ arcs, arc.symbol.integer? ≠ some (a.val : Int)) → Offers arcs a .reject

/-- The step of a state that came out of the checks is one that it offered. -/
theorem offers_transition {n : Nat} {arcs : List Arc} (sound : Sound n arcs)
    (lexeme : Option Lexeme) (a : Symbol) :
    Offers arcs a (Node.transition ⟨arcs.filterMap Arc.checked?, lexeme⟩ a) := by
  unfold Node.transition
  cases found : Node.arc? ⟨arcs.filterMap Arc.checked?, lexeme⟩ a with
  | none =>
    apply Offers.none
    intro arc harc read
    obtain ⟨made, checked⟩ := Arc.exists_checked?_iff.mpr (sound.symbols arc harc)
    have on : made.symbol = a := by
      have same := (Arc.integer?_of_checked? checked).symm.trans read
      exact Fin.ext (Int.ofNat.inj (Option.some.inj same))
    apply Node.arc?_eq_none_iff.mp found
    exact List.mem_map.mpr ⟨made, List.mem_filterMap.mpr ⟨arc, harc, checked⟩, on⟩
  | some made =>
    obtain ⟨hmade, rfl⟩ := (Node.arc?_eq_some_iff_of_nodup sound.nodup).mp found
    obtain ⟨arc, harc, checked⟩ := List.mem_filterMap.mp hmade
    obtain ⟨target, led, positive, -⟩ := sound.targets arc harc
    obtain ⟨a, read, rfl⟩ := Arc.checked?_eq_some_iff.mp checked
    have step : Transition.mk (some target) arc.emits.truth =
        ScanLexer.Arc.transition ⟨a, arc.target.floor.toNat, arc.emits.truth, arc.symbol.style,
          arc.target.style⟩ := by
      simp only [ScanLexer.Arc.transition, Datum.floor_of_integer? led,
        Int.toNat_of_nonneg positive]
    rw [Option.map_some, Option.getD_some, ← step]
    exact .arc harc read led

end Contract

namespace Catalogue

variable {A : Automaton} {growth : Growth} {c : Catalogue}

/-- Bytes are given ids, unless room is refused to a table of no more ids than they could have. -/
theorem enqueueAll_cases [Memory] (hA : A.Closed) (symbols : List Symbol) (h : Gathering A c)
    (hu : Underway A growth c) :
    (∃ last, c.enqueueAll (symbols.map A.behaviour) = .ok last) ∨
    ∃ k fault, k ≤ c.registry.size + symbols.length ∧ growth.room k = .error fault ∧
      c.enqueueAll (symbols.map A.behaviour) = .error fault := by
  induction symbols generalizing c with
  | nil => exact .inl ⟨(c, []), rfl⟩
  | cons a symbols ih =>
    obtain ⟨e, -, first⟩ := (hA.over_behaviour a).entry_of_lt hA.start
    have start : (A.behaviour a).entry 0 = .ok e := Behaviour.entry_natCast.mpr first
    -- the other bytes, once this one has its id
    have others {d : Catalogue} {id : Nat} (granted : c.grant (A.behaviour a) none = .ok (d, id))
        (size : d.registry.size ≤ c.registry.size + 1) :
        (∃ last, c.enqueueAll ((a :: symbols).map A.behaviour) = .ok last) ∨
        ∃ k fault, k ≤ c.registry.size + (a :: symbols).length ∧ growth.room k = .error fault ∧
          c.enqueueAll ((a :: symbols).map A.behaviour) = .error fault := by
      have asked := grant_eq_ok.mp granted
      have next := hu.byte a
      rw [asked] at next
      rw [List.map_cons, enqueueAll_cons, granted, ok_bind]
      simp only [start, ok_bind]
      obtain ⟨last, run⟩ | ⟨k, fault, few, refused, run⟩ := ih (h.enqueue (.byte a) asked).1 next
      · left
        rw [run]
        exact ⟨_, rfl⟩
      · right
        refine ⟨k, fault, ?_, refused, ?_⟩
        · rw [List.length_cons]
          omega
        · rw [run]
          rfl
    obtain ⟨id, -, granted⟩ | ⟨-, size, ⟨larger, granted, -⟩ | ⟨fault, granted, refused⟩⟩ :=
      grant_cases h.counted hu (A.behaviour a) none
    · exact others granted (by omega)
    · rw [grant_eq_ok.mp granted] at size
      exact others granted (Nat.le_of_eq size)
    · right
      refine ⟨_, fault, ?_, refused, ?_⟩
      · rw [List.length_cons]
        omega
      · rw [List.map_cons, enqueueAll_cons, granted]
        rfl

end Catalogue

namespace Lexer

open Contract Catalogue

/-- The summaries of the bytes, with the catalogue in which they were given ids. -/
def initials [Memory] (C : Contract) (growth : Growth) :
    Except Fault (Catalogue × List Summary) := do
  (Catalogue.empty growth).enqueueAll (Symbol.all.map (← C.automaton).behaviour)

/-- The behaviour of a byte has the step of each state as the entry of the state, and its summary
has the flag of the start state's entry. -/
def Tabulates (n : Nat) (arcs : Nat → List Contract.Arc) (registry : Registry) (a : Symbol)
    (s : Summary) : Prop :=
  ∃ f, registry.behaviour s.id = .ok f ∧ f.size = n ∧
    (∀ i < n, ∃ e, f.entry (i : Int) = .ok e ∧ e.Plain ∧ Offers (arcs i) a e.transition) ∧
    ∃ e, f.entry 0 = .ok e ∧ s.emits = e.transition.emits

theorem initials_eq [Memory] {C : Contract} {A : Automaton} (accepted : C.automaton = .ok A)
    (growth : Growth) :
    initials C growth = (Catalogue.empty growth).enqueueAll (Symbol.all.map A.behaviour) := by
  rw [initials, accepted, ok_bind]

/-- Building a lexer begins with the bytes. -/
theorem build_of_initials_eq_error [Memory] {C : Contract} {config : BuildConfig} {fault : Fault}
    (failed : initials C config.growth = .error fault) : build C config = .error fault := by
  obtain refused | ⟨A, accepted, failed⟩ := bind_eq_error.mp failed
  · exact build_of_automaton_eq_error refused
  · rw [build, accepted, ok_bind, compile, failed]
    rfl

/-- A lexer keeps the summaries of the bytes and the behaviours that they had. -/
theorem initial_of_build [Memory] {C : Contract} {config : BuildConfig} {L : Lexer} {c : Catalogue}
    {initial : List Summary} (gathered : initials C config.growth = .ok (c, initial))
    (built : build C config = .ok L) : L.initial = initial := by
  obtain ⟨A, accepted, built⟩ := bind_eq_ok.mp built
  obtain ⟨M, compiled, made⟩ := bind_eq_ok.mp built
  cases made
  rw [initials_eq accepted] at gathered
  rw [compile, gathered, ok_bind] at compiled
  rcases named : c.enqueue (.identity A.size) (some identityTag) with ⟨ready, fault | e⟩
  · simp [named] at compiled
  · simp only [named, ok_bind] at compiled
    obtain ⟨last, -, made⟩ := bind_eq_ok.mp compiled
    cases made
    rfl

section
variable {n : Nat} {arcs : Nat → List Contract.Arc} {lexeme : Nat → Option Lexeme} {c : Catalogue}

/-- A summary that stands for a byte tells what the arcs on that byte do. -/
theorem tabulates_of_stands (positive : 0 < n) (sound : ∀ i < n, Sound n (arcs i)) {a : Symbol}
    {s : Summary} (stands : ∃ id item, c.Stands (described n arcs lexeme) [a] s id item) :
    Tabulates n arcs c.registry a s := by
  obtain ⟨id, item, stands⟩ := stands
  have fits := stands.reads.fits
  rw [size_described] at fits
  have entry (i : Nat) (hi : i < n) : ∃ e, item.behaviour.entry (i : Int) = .ok e ∧ e.Plain ∧
      e.transition = item.behaviour.act (some (i : Int)) :=
    fits.apply_eq_ok (Target.within_natCast.mpr hi)
  refine ⟨item.behaviour, ?_, fits.size, ?_, ?_⟩
  · rw [stands.id_eq]
    exact Registry.behaviour_of_item? stands.found
  · intro i hi
    obtain ⟨e, looked, plain, step⟩ := entry i hi
    have inside : i < (described n arcs lexeme).size := by rwa [size_described]
    have agrees := stands.reads.agrees (some (i : Int)) (Target.within_natCast.mpr inside)
    rw [Automaton.read_singleton, Automaton.step_natCast inside, node_described hi] at agrees
    refine ⟨e, looked, plain, ?_⟩
    rw [step, ← Except.ok.inj agrees]
    exact offers_transition (sound i hi) (lexeme i) a
  · obtain ⟨e, looked, -, step⟩ := entry 0 positive
    exact ⟨e, looked, stands.emits.trans (congrArg Transition.emits step.symm)⟩

end

/-- The bytes of sound arcs have their ids, and keep them, unless room is refused to a table of at
most 256 ids. -/
theorem initials_of_sound [Memory] (config : BuildConfig) {states : Numeral}
    {arcs : Nat → List Contract.Arc} {lexeme : Nat → Option Lexeme} (positive : 1 ≤ states.value)
    (accepted : (ofArcs states arcs lexeme).automaton =
      .ok (described states.value.toNat arcs lexeme))
    (sound : ∀ i < states.value.toNat, Sound states.value.toNat (arcs i)) :
    let C := ofArcs states arcs lexeme
    let n := states.value.toNat
    (∃ c initial, initials C config.growth = .ok (c, initial) ∧
      List.Forall₂ (Tabulates n arcs c.registry) Symbol.all initial ∧
      ∀ L, build C config = .ok L → L.initial = initial ∧
        List.Forall₂ (Tabulates n arcs L.registry) Symbol.all initial) ∨
    ∃ k fault, k ≤ 256 ∧ config.growth.room k = .error fault ∧
      (fault.kind = .value ∨ fault.kind = .memory) ∧
      initials C config.growth = .error fault ∧ build C config = .error fault := by
  intro C n
  have hA := (closed_of_automaton accepted).1
  have nonempty : 0 < n := by omega
  have start := gathering_empty (described n arcs lexeme) config.growth
  rw [initials_eq accepted]
  obtain ⟨⟨c, initial⟩, run⟩ | ⟨k, fault, few, refused, failed⟩ :=
    enqueueAll_cases hA Symbol.all start .empty
  · left
    obtain ⟨-, -, stand⟩ := start.enqueueAll hA run
    refine ⟨c, initial, run, ?_, ?_⟩
    · exact stand.imp fun a s => tabulates_of_stands nonempty sound
    · intro L built
      have same : L.initial = initial :=
        initial_of_build (by rw [initials_eq accepted, run]) built
      obtain ⟨A, told, -, compiled⟩ := compiled_of_build built
      cases accepted.symm.trans told
      refine ⟨same, ?_⟩
      rw [← same]
      exact compiled.initial.imp fun a s => tabulates_of_stands nonempty sound
  · right
    refine ⟨k, fault, ?_, refused, Memory.kind_of_row refused, failed, ?_⟩
    · have bytes : Symbol.all.length = 256 := List.length_finRange
      have none : (Catalogue.empty config.growth).registry.size = 0 := rfl
      omega
    · apply build_of_initials_eq_error
      rw [initials_eq accepted, failed]

/-- **Exactly sound arcs are tabulated.** The first four cases are those in which no lexer is built:
there is no start state, the number of states is a decimal, there is no room for the states, or a
check fails. In the last one the bytes have their ids, and keep them, unless room is refused to a
table of at most 256 ids. -/
theorem initials_of_arcs [Memory] (config : BuildConfig) (states : Numeral)
    {arcs : Nat → List Contract.Arc} (lexeme : Nat → Option Lexeme)
    (whole : ∀ i < states.value.toNat, ∀ arc ∈ arcs i, ∃ j, arc.target.integer? = some j) :
    let C := ofArcs states arcs lexeme
    let n := states.value.toNat
    (states.value < 1 → build C config = .error .emptyAutomaton) ∧
    (1 ≤ states.value → states.isDecimal = true →
      ∃ fault, fault.kind = .type ∧ build C config = .error fault) ∧
    (1 ≤ states.value → states.isDecimal = false →
      ∀ fault, Memory.ask states.value (8 * 256 * states.value) = .error fault →
        build C config = .error fault ∧ (fault.kind = .overflow ∨ fault.kind = .memory)) ∧
    (1 ≤ states.value → states.isDecimal = false →
      Memory.ask states.value (8 * 256 * states.value) = .ok () →
      (¬ ∀ i < n, Sound n (arcs i)) → ∃ fault, fault.kind = .assertion ∧
        initials C config.growth = .error fault ∧ build C config = .error fault) ∧
    (1 ≤ states.value → states.isDecimal = false →
      Memory.ask states.value (8 * 256 * states.value) = .ok () →
      (∀ i < n, Sound n (arcs i)) →
        (∃ c initial, initials C config.growth = .ok (c, initial) ∧
          List.Forall₂ (Tabulates n arcs c.registry) Symbol.all initial ∧
          ∀ L, build C config = .ok L → L.initial = initial ∧
            List.Forall₂ (Tabulates n arcs L.registry) Symbol.all initial) ∨
        ∃ k fault, k ≤ 256 ∧ config.growth.room k = .error fault ∧
          (fault.kind = .value ∨ fault.kind = .memory) ∧
          initials C config.growth = .error fault ∧ build C config = .error fault) := by
  intro C n
  refine ⟨?_, ?_, ?_, ?_, ?_⟩
  · intro empty
    exact build_of_automaton_eq_error (automaton_of_empty arcs lexeme empty)
  · intro positive decimal
    refine ⟨.notALength "float", rfl, ?_⟩
    exact build_of_automaton_eq_error (automaton_of_decimal arcs lexeme positive decimal)
  · intro positive digits fault full
    refine ⟨?_, Memory.kind_of_ask full⟩
    exact build_of_automaton_eq_error (automaton_of_no_room arcs lexeme positive digits full)
  · intro positive digits room unsound
    obtain ⟨fault, failed, kind⟩ := exists_failed_check lexeme digits room unsound
    have refused : initials C config.growth = .error fault := by rw [initials, failed, error_bind]
    exact ⟨fault, kind whole, refused, build_of_initials_eq_error refused⟩
  · intro positive digits room sound
    have accepted : C.automaton = .ok (described n arcs lexeme) :=
      automaton_ofArcs.mpr ⟨positive, digits, room, sound, rfl⟩
    exact initials_of_sound config positive accepted sound

/-- An arc may be told with truth values for numbers. A second arc on the same byte, spelled in
another way, is found out. -/
theorem initials_of_arcs_truth :
    let arc : Contract.Arc := ⟨.bool true, .bool true, .int 5⟩
    let other : Contract.Arc := ⟨.int 1, .int 0, .null⟩
    let one : Nat → List Contract.Arc := fun i => if i = 0 then [arc] else []
    let two : Nat → List Contract.Arc := fun i => if i = 0 then [arc, other] else []
    (∀ i < 2, ∀ arc ∈ two i, ∃ j, arc.target.integer? = some j) ∧
    (∃ c initial, initials (ofArcs (.ofNat 2) one fun _ => none) BuildConfig.usual.growth =
        .ok (c, initial) ∧
      List.Forall₂ (Tabulates 2 one c.registry) Symbol.all initial) ∧
    ∃ fault, fault.kind = .assertion ∧
      build (ofArcs (.ofNat 2) two fun _ => none) .usual = .error fault := by
  intro arc other one two
  have first {i : Nat} {told : Contract.Arc} (htold : told ∈ two i) :
      told = arc ∨ told = other := by
    by_cases start : i = 0
    · simpa [two, start] using htold
    · simp [two, start] at htold
  have whole : ∀ i < 2, ∀ told ∈ two i, ∃ j, told.target.integer? = some j := by
    intro i _ told htold
    obtain rfl | rfl := first htold
    · exact ⟨1, rfl⟩
    · exact ⟨0, rfl⟩
  have whole' : ∀ i < 2, ∀ told ∈ one i, ∃ j, told.target.integer? = some j := by
    intro i hi told htold
    apply whole i hi
    by_cases start : i = 0 <;> simp_all [one, two]
  have sound : ∀ i < 2, Sound 2 (one i) := by
    intro i _
    by_cases start : i = 0
    · simp only [one, start, if_true]
      exact ⟨List.forall_mem_singleton.mpr ⟨1, rfl, by decide⟩,
        List.forall_mem_singleton.mpr ⟨1, rfl, by decide⟩, List.pairwise_singleton _ _⟩
    · simp only [one, start, if_false]
      exact ⟨nofun, nofun, .nil⟩
  have unsound : ¬ ∀ i < 2, Sound 2 (two i) := by
    intro sound
    exact (List.pairwise_cons.mp (sound 0 (by decide)).distinct).1 other
      (List.mem_singleton_self _) rfl
  have enough : ∀ k ≤ 256, BuildConfig.usual.growth.room k = .ok () := by decide +kernel
  refine ⟨whole, ?_, ?_⟩
  · obtain ⟨-, -, -, -, tabulated⟩ :=
      initials_of_arcs .usual (.ofNat 2) (fun _ => none) whole'
    obtain ⟨c, initial, run, stand, -⟩ | ⟨k, fault, few, refused, -⟩ :=
      tabulated (by decide) rfl (by decide) sound
    · exact ⟨c, initial, run, stand⟩
    · cases (enough k few).symm.trans refused
  · obtain ⟨-, -, -, refused, -⟩ := initials_of_arcs .usual (.ofNat 2) (fun _ => none) whole
    obtain ⟨fault, kind, -, failed⟩ := refused (by decide) rfl (by decide) unsound
    exact ⟨fault, kind, failed⟩

/-- Without arcs there is nothing to object to, but 2 ^ 63 states are more than can be counted. -/
theorem sound_arcs_without_room :
    (1 : Int) ≤ 9223372036854775808 ∧
      (∀ i < 9223372036854775808,
        Sound 9223372036854775808 ((fun _ => [] : Nat → List Contract.Arc) i)) ∧
      build (ofArcs (.ofNat 9223372036854775808) (fun _ => []) fun _ => none) .usual =
        .error .sizeTooLarge ∧ Fault.sizeTooLarge.kind ≠ .assertion := by
  have positive : 1 ≤ (Numeral.ofNat 9223372036854775808).value := by decide
  have full : Memory.ask (Numeral.ofNat 9223372036854775808).value
      (8 * 256 * (Numeral.ofNat 9223372036854775808).value) = .error .sizeTooLarge := by decide
  refine ⟨positive, fun i _ => ⟨nofun, nofun, .nil⟩, ?_, by decide⟩
  exact build_of_automaton_eq_error (automaton_of_no_room _ _ positive rfl full)

end Lexer

end ScanLexer
