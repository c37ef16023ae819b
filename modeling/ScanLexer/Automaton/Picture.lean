import ScanLexer.Automaton.Printed
import ScanLexer.Text.Markup

/-!
# Pictures of automata

A picture has a node per state and an edge per pair of states and flag. The arcs that share an edge
stack their labels.
-/
namespace ScanLexer

/-- A state as it is drawn. An accepting one has a double border. -/
structure Picture.Node where
  state : Nat
  label : String
  accepting : Bool
deriving DecidableEq, Repr

/-- What the arcs drawn as one edge have in common. -/
structure Picture.Ends where
  source : Nat
  target : Nat
  emits : Bool
deriving DecidableEq, Repr

/-- An edge as it is drawn, with the labels of its arcs. An emitting one is dashed. The target is
written as in the first of the arcs. -/
structure Picture.Edge where
  ends : Picture.Ends
  style : Numeral.Style
  labels : List String
deriving DecidableEq, Repr

def Picture.Edge.destination (edge : Picture.Edge) : Numeral := ⟨edge.ends.target, edge.style⟩

structure Picture where
  nodes : List Picture.Node
  edges : List Picture.Edge
deriving DecidableEq, Repr

namespace Automaton

def ends (arc : Nat × Arc) : Picture.Ends := ⟨arc.1, arc.2.target, arc.2.emits⟩

/-- How states and symbols are named in a picture. What a symbol is called may hang on how it is
written. -/
structure Naming where
  state : Nat → String
  symbol : Symbol → Numeral.Style → String

/-- States by their number, symbols by their quoted character. -/
def Naming.usual : Naming := ⟨toString, fun a _ => symbolText a⟩

def arcLabel (naming : Naming) (arc : Arc) : String :=
  Text.markup (naming.symbol arc.symbol arc.symbolStyle)

/-- The label of a state: its name, and under it the lexeme it accepts. -/
def stateLabel (naming : Naming) (i : Nat) (node : Node) : String :=
  let name := Text.markup (naming.state i)
  match node.lexeme with
  | none => name
  | some lexeme => name ++ "\n" ++ Text.markup lexeme.shown

/-- The edge that draws the arcs with given ends. Labels are sorted by code point. -/
def edge (naming : Naming) (arcs : List (Nat × Arc)) (e : Picture.Ends) : Picture.Edge :=
  let alike := arcs.filter fun arc => ends arc = e
  ⟨e, (alike.head?.map fun arc => arc.2.targetStyle).getD .digits,
    (alike.map fun arc => arcLabel naming arc.2).mergeSort⟩

/-- The picture of an automaton. Edges come in the order of their first arcs. -/
def picture (A : Automaton) (naming : Naming) : Picture where
  nodes := A.nodes.zipIdx.map fun (node, i) => ⟨i, stateLabel naming i node, node.lexeme.isSome⟩
  edges := (A.arcs.map ends).eraseDups.map (edge naming A.arcs)

end Automaton

end ScanLexer
