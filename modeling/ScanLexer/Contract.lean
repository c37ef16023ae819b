import ScanLexer.Automaton.Basic
import ScanLexer.Datum.Number
import ScanLexer.Memory

/-!
# What a lexer asks of an automaton

Any automaton can be compiled that tells how many states it has, which arcs leave each of them and
what each accepts. Its arcs are loosely typed and are checked before anything is built from them.
-/
namespace ScanLexer

structure Contract.Arc where
  symbol : Datum
  target : Datum
  emits : Datum
deriving Repr

/-- An arc from its parts. There are three of them. -/
def Contract.Arc.ofParts : List Datum → Except Fault Contract.Arc
  | [symbol, target, emits] => .ok ⟨symbol, target, emits⟩
  | parts =>
    .error (if parts.length < 3 then .tooFewParts parts.length 3 else .tooManyParts 3)

/-- An unchecked automaton. Each arc is told by its parts. -/
structure Contract where
  states : Numeral
  arcs : Nat → List (List Datum)
  lexeme : Nat → Option Lexeme

namespace Contract

/-- A destination has to be a number from zero on that is below the number of states. -/
def checkTarget (states source : Nat) (target : Datum) : Except Fault Unit :=
  if !target.isNumber then .error (.unordered "int" target.typeName)
  else if target.within (.int states) then .ok ()
  else .error (.arcTarget source target.printed)

/-- The arcs seen so far with one more, if that one reads a byte, stays within the automaton and
reads no symbol twice. -/
def accept (states source : Nat) (seen : List ScanLexer.Arc) (parts : List Datum) :
    Except Fault (List ScanLexer.Arc) := do
  let arc ← Arc.ofParts parts
  let a ← orFault (.arcSymbol arc.symbol.printed) (arc.symbol.integer?.bind Symbol.ofInt?)
  checkTarget states source arc.target
  if seen.any (·.symbol = a) then throw (.arcsConflict source arc.symbol.printed)
  return seen ++ [⟨a, arc.target.floor.toNat, arc.emits.truth, arc.symbol.style, arc.target.style⟩]

/-- A state with its arcs, once each of them has been accepted in turn. -/
def node (A : Contract) (source : Nat) : Except Fault Node :=
  return ⟨← (A.arcs source).foldlM (accept A.states.value.toNat source) [], A.lexeme source⟩

/-- The automaton of states that passed the checks. A decimal may pass as a destination, but no
state can be looked up by it. -/
def ofNodes (nodes : List Node) : Except Fault Automaton :=
  if nodes.any Node.hasDecimal then .error (.notAPlace "float") else .ok ⟨nodes⟩

/-- The automaton that was described. There has to be room for its states once for each symbol. -/
def automaton [Memory] (A : Contract) : Except Fault Automaton :=
  if A.states.value < 1 then .error .emptyAutomaton
  else if A.states.isDecimal then .error (.notALength "float")
  else do
    Memory.ask A.states.value (8 * 256 * A.states.value)
    ofNodes (← (List.range A.states.value.toNat).mapM A.node)

end Contract

/-- An automaton as it describes itself. -/
def Automaton.contract (A : Automaton) : Contract where
  states := .ofNat A.size
  arcs i := (A.node i).arcs.map fun arc =>
    [.ofNumeral arc.label, .ofNumeral arc.destination, .bool arc.emits]
  lexeme i := (A.node i).lexeme

end ScanLexer
