import ScanLexer.Automaton.Basic

/-!
# Restart arcs

An accepting state that has no arc on a symbol may close its lexeme there and begin a new one, if
the start state can begin with that symbol.
-/
namespace ScanLexer.Automaton

/-- The arcs that an accepting state lacks and the start state has, made to emit. -/
def restartArcs (start node : Node) : List Arc :=
  (start.arcs.filter fun arc => (node.arc? arc.symbol).isNone).map fun arc =>
    { arc with emits := true }

/-- The automaton in which every accepting state begins a new lexeme wherever it cannot go on. -/
def restart (A : Automaton) : Automaton :=
  let start := A.node 0
  ⟨A.nodes.map fun node =>
    if node.lexeme.isSome then { node with arcs := node.arcs ++ restartArcs start node } else node⟩

end ScanLexer.Automaton
