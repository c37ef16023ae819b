import ScanLexer.Lexeme
import ScanLexer.Position
import ScanLexer.Symbol.Spelling
import ScanLexer.Transition

/-!
# Automata

A lexer automaton reads bytes. Its states are numbered from the start state, zero. An arc that emits
says that the lexeme read so far is complete and that a new one begins with the arc's symbol. A
state may be labelled with the lexeme that it accepts.
-/
namespace ScanLexer

/-- A step that a state offers, and how its symbol and its target are written. -/
structure Arc where
  symbol : Symbol
  target : Nat
  emits : Bool
  symbolStyle : Numeral.Style := .digits
  targetStyle : Numeral.Style := .digits
deriving DecidableEq, Repr

def Arc.transition (arc : Arc) : Transition := ⟨some (arc.target : Int), arc.emits⟩

def Arc.label (arc : Arc) : Numeral := ⟨arc.symbol.val, arc.symbolStyle⟩

def Arc.destination (arc : Arc) : Numeral := ⟨arc.target, arc.targetStyle⟩

/-- What an automaton knows about a state: its arcs in the order in which they were added, and the
lexeme it accepts. -/
structure Node where
  arcs : List Arc
  lexeme : Option Lexeme
deriving DecidableEq, Repr

namespace Node

def bare (lexeme : Option Lexeme) : Node := ⟨[], lexeme⟩

def arc? (node : Node) (a : Symbol) : Option Arc := node.arcs.find? (·.symbol = a)

/-- The step on a symbol. A state without an arc on it rejects. -/
def transition (node : Node) (a : Symbol) : Transition :=
  ((node.arc? a).map Arc.transition).getD .reject

/-- Whether some arc of the state leads to a decimal. -/
def hasDecimal (node : Node) : Bool := node.arcs.any fun arc => arc.destination.isDecimal

end Node

/-- An automaton is its states in order. -/
structure Automaton where
  nodes : List Node
deriving DecidableEq, Repr

namespace Automaton

def size (A : Automaton) : Nat := A.nodes.length

/-- An automaton of `n` states without arcs and lexemes. -/
def ofSize (n : Int) : Except Fault Automaton :=
  if n < 1 then .error .noStartState else .ok ⟨List.replicate n.toNat (.bare none)⟩

def addState (A : Automaton) (lexeme : Option Lexeme) : Automaton :=
  ⟨A.nodes ++ [.bare lexeme]⟩

/-- The one of so many states that a value names. -/
def stateAmong (states : Nat) (d : Datum) : Except Fault Nat :=
  match d.integer? with
  | some i =>
    if 0 ≤ i ∧ i < states then .ok i.toNat else .error (.unknownState d.printed)
  | none => .error (.unknownState d.printed)

def state (A : Automaton) (d : Datum) : Except Fault Nat := stateAmong A.size d

def node (A : Automaton) (i : Nat) : Node := A.nodes[i]?.getD (.bare none)

/-- The automaton with one more arc at the end of a state's arcs. -/
def extend (A : Automaton) (i : Nat) (arc : Arc) : Automaton :=
  ⟨A.nodes.modify i fun node => { node with arcs := node.arcs ++ [arc] }⟩

/-- The automaton with one more arc. Both states are checked first, then the symbol, and at last
that the state has no arc on it. -/
def add (A : Automaton) (source symbol target : Datum) (emits : Bool) : Except Fault Automaton := do
  let i ← A.state source
  let j ← A.state target
  let a ← Symbol.read symbol
  let arc : Arc := ⟨a, j, emits, symbol.style, target.style⟩
  match (A.node i).arc? a with
  | some _ => .error (.arcExists source.printed arc.label.printed)
  | none => return A.extend i arc

def setLexeme (A : Automaton) (source : Datum) (lexeme : Option Lexeme) :
    Except Fault Automaton := do
  let i ← A.state source
  return ⟨A.nodes.modify i fun node => { node with lexeme := lexeme }⟩

def nodeAt (A : Automaton) (i : Int) : Except Fault Node :=
  orFault (.ofPosition .noListEntry i) (entryAt A.nodes i)

/-- The label of a state. Nothing is accepted once the input has been rejected. -/
def lexeme (A : Automaton) : Target → Except Fault (Option Lexeme)
  | none => .ok none
  | some i => return (← A.nodeAt i).lexeme

def isFinal (A : Automaton) (target : Target) : Except Fault Bool :=
  return (← A.lexeme target).isSome

def arcsAt (A : Automaton) (i : Int) : Except Fault (List Arc) :=
  return (← A.nodeAt i).arcs

def arcs (A : Automaton) : List (Nat × Arc) :=
  A.nodes.zipIdx.flatMap fun (node, i) => node.arcs.map fun arc => (i, arc)

/-- The symbols that some arc reads, in increasing order. -/
def symbols (A : Automaton) : List Symbol :=
  Symbol.all.filter fun a => A.nodes.any fun node => (node.arc? a).isSome

end Automaton

end ScanLexer
