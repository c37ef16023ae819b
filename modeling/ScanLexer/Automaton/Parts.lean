import ScanLexer.Automaton.Basic
import ScanLexer.Method

/-!
# An automaton as it is stored

The arcs of the states, their lexemes and the symbols on arcs are kept in three places. A call looks
things up in one of them and changes another, so nothing but the order of its steps keeps a refused
call from having changed some of them.
-/
namespace ScanLexer.Automaton

/-- An automaton in three parts: a row of arcs and a lexeme for each state, and the symbols that
arcs were added on. -/
structure Parts where
  arcs : List (List Arc)
  lexemes : List (Option Lexeme)
  known : List Symbol
deriving DecidableEq, Repr

namespace Parts

open Method

def ofSize (n : Int) : Except Fault Parts :=
  if n < 1 then .error .noStartState
  else .ok ⟨List.replicate n.toNat [], List.replicate n.toNat none, []⟩

def addState (lexeme : Option Lexeme) : Method Parts Unit := do
  modify fun p => { p with arcs := p.arcs ++ [[]] }
  modify fun p => { p with lexemes := p.lexemes ++ [lexeme] }

def state (d : Datum) : Method Parts Nat := do
  let p ← now
  demand (stateAmong p.arcs.length d)

def arcsOf (i : Nat) : Method Parts (List Arc) := do
  let p ← now
  demand (orFault (.ofPosition .noListEntry i) p.arcs[i]?)

def lexemeOf (i : Nat) : Method Parts (Option Lexeme) := do
  let p ← now
  demand (orFault (.ofPosition .noListEntry i) p.lexemes[i]?)

/-- Whether some arc of a row is on a symbol. -/
def offers (row : List Arc) (a : Symbol) : Bool := (row.find? (·.symbol = a)).isSome

/-- An arc goes behind the others of its state, and then its symbol is known. -/
def put (i : Nat) (arc : Arc) : Method Parts Unit := do
  modify fun p => { p with arcs := p.arcs.modify i fun row => row ++ [arc] }
  modify fun p => { p with known := p.known.insert arc.symbol }

/-- One more arc. Both states are checked first, then the symbol, and at last that the state has no
arc on it. -/
def add (source symbol target : Datum) (emits : Bool) : Method Parts Unit := do
  let i ← state source
  let j ← state target
  let a ← demand (Symbol.read symbol)
  let row ← arcsOf i
  if offers row a then
    throw (.arcExists source.printed (Numeral.mk a.val symbol.style).printed)
  else put i ⟨a, j, emits, symbol.style, target.style⟩

def setLexeme (source : Datum) (lexeme : Option Lexeme) : Method Parts Unit := do
  let i ← state source
  let p ← now
  if i < p.lexemes.length then
    modify fun p => { p with lexemes := p.lexemes.modify i fun _ => lexeme }
  else throw (.ofPosition .noListPlace i)

/-- An arc of the start state is added at another state too, unless that state has one on its
symbol. -/
def restartArc (i : Nat) (arc : Arc) : Method Parts Unit := do
  let row ← arcsOf i
  if offers row arc.symbol then return
  else add (.int i) (.ofNumeral arc.label) (.ofNumeral arc.destination) true

def restartState (start : List Arc) (i : Nat) : Method Parts Unit := do
  let lexeme ← lexemeOf i
  if lexeme.isSome then start.forM (restartArc i) else return

/-- What arcs are lacking at accepting states is added state by state. The arcs of the start state
are those that it has at first. -/
def restart : Method Parts Unit := do
  let start ← arcsOf 0
  let p ← now
  (List.range p.arcs.length).forM (restartState start)

end Parts

end ScanLexer.Automaton
