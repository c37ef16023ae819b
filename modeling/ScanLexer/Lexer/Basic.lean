import ScanLexer.Contract
import ScanLexer.Lexer.Catalogue

/-!
# Compiled lexers

A lexer is an automaton compiled for a parallel scan. Each byte has the id of its behaviour, the
merge table says which id two adjacent stretches have together, and each id has the lexeme that is
accepted after it.
-/
namespace ScanLexer

/-- The step of a state on a symbol as an entry of a behaviour. -/
def Node.entry (node : Node) (a : Symbol) : Behaviour.Entry :=
  match node.arc? a with
  | some arc => ⟨.ofNumeral arc.destination, .bool arc.emits⟩
  | none => .reject

theorem Node.transition_entry (node : Node) (a : Symbol) :
    (node.entry a).transition = node.transition a := by
  unfold Node.entry Node.transition
  cases node.arc? a with
  | none => rfl
  | some arc =>
    simp [Behaviour.Entry.transition, Arc.destination, Arc.transition, Datum.truth]

theorem Node.plain_entry {node : Node}
    (whole : ∀ arc ∈ node.arcs, arc.destination.isDecimal = false)
    (a : Symbol) : (node.entry a).Plain := by
  unfold Node.entry
  cases found : node.arc? a with
  | none => exact Behaviour.Entry.plain_reject
  | some arc =>
    exact ⟨⟨_, Datum.integer?_ofNumeral (whole arc (List.mem_of_find?_eq_some found))⟩, ⟨_, rfl⟩⟩

/-- What a byte does to each state. -/
def Automaton.behaviour (A : Automaton) (a : Symbol) : Behaviour :=
  ⟨A.nodes.map fun node => node.entry a⟩

/-- What is accepted after a behaviour, from the start state. -/
def Automaton.accepted (A : Automaton) (f : Behaviour) : Option Lexeme :=
  match f.transitions.head? with
  | some ⟨some i, _⟩ => (A.node i.toNat).lexeme
  | _ => none

/-- The tables of a lexer: the summary of each byte, the lexeme of each id, the id that changes
nothing, and the catalogue of compositions. -/
structure Lexer where
  states : Numeral
  initial : List Summary
  identity : Nat
  finals : List (Option Lexeme)
  catalogue : Catalogue

namespace Lexer

/-- The tag that keeps the identity apart from a byte that changes nothing. Such a byte still closes
no lexeme of its own, so the two compose differently. -/
def identityTag : Value := .text "identity"

/-- The lexer of an automaton. Ids are handed out to the bytes in order, then to the identity, then
to compositions as they are found. -/
def compile [Memory] (A : Automaton) (growth : Growth) : Except Fault Lexer := do
  let (c, initial) ← (Catalogue.empty growth).enqueueAll (Symbol.all.map A.behaviour)
  let (c, identity) := c.enqueue (.identity A.size) (some identityTag)
  let identity ← identity
  let c ← c.close identity A.size
  return {
    states := .ofNat A.size
    initial := initial
    identity := identity
    finals := c.registry.behaviours.map A.accepted
    catalogue := c }

def build [Memory] (A : Contract) (config : BuildConfig) : Except Fault Lexer := do
  return { ← compile (← A.automaton) config.growth with states := A.states }

/-- No lexer is built where there is no automaton to be compiled. -/
theorem build_of_automaton_eq_error [Memory] {C : Contract} {config : BuildConfig} {fault : Fault}
    (refused : C.automaton = .error fault) : build C config = .error fault := by
  rw [build, refused]
  rfl

def registry (L : Lexer) : Registry := L.catalogue.registry

def table (L : Lexer) : MergeTable := L.catalogue.table

/-- The summary of the byte at a signed position. -/
def initialAt (L : Lexer) (i : Int) : Except Fault Summary :=
  orFault (.ofPosition .noListEntry i) (entryAt L.initial i)

def finalAt (L : Lexer) (i : Int) : Except Fault (Option Lexeme) :=
  orFault (.ofPosition .noListEntry i) (entryAt L.finals i)

/-- The summary of first `i`, then `j`, worked out anew. -/
def merge [Memory] (L : Lexer) (i j : Int) : Lexer × Except Fault Summary :=
  let (c, s) := L.catalogue.merge L.identity i j
  ({ L with catalogue := c }, s)

def sizes (L : Lexer) : String :=
  let k := L.table.extent
  "Initial states table: " ++ toString L.initial.length ++ " elements\n" ++
    "Merge table: " ++ k.printed ++ "² elements = " ++ (k.times k).printed ++ " elements\n" ++
    "Final states table: " ++ toString L.finals.length ++ " elements\n"

def printed (L : Lexer) : String :=
  "<ParallelLexer dfa_states=" ++ L.states.printed ++ " functions=" ++ toString L.registry.size ++
    " identity=" ++ toString L.identity ++ ">"

end Lexer

end ScanLexer
